import Mathlib.Data.List.Nodup
import Mathlib.Data.List.Perm.Basic
import TableTypes.Dictionary

/-!
# Dictionaries as maps

What is found in a dictionary after a value has been put into it, and which entries it then holds.
Looking up needs no order; that keys ascend matters only where the value put under a key is made
from the one found there.
-/

namespace TableTypes.Dictionary

variable {α : Type}

/-- A key is sought in the first entry and then in the rest. -/
theorem get?_cons (k : String) (v : α) (d : Dictionary α) (key : String) :
    get? ((k, v) :: d) key = if key = k then some v else d.get? key := by
  unfold get?
  by_cases h : key = k
  · simp [h]
  · have hbeq : (key == k) = false := by simpa using h
    simp [List.lookup_cons, h, hbeq]

/-- Putting a value under a key changes what is found under that key only. -/
theorem get?_put (d : Dictionary α) (key other : String) (value : α) :
    (d.put key value).get? other = if other = key then some value else d.get? other := by
  induction d with
  | nil => rw [put, get?_cons]
  | cons entry rest ih =>
    obtain ⟨k, v⟩ := entry
    unfold put
    split
    · next h =>
      subst h
      simp only [get?_cons]
      split <;> rfl
    · next hne =>
      split
      · rw [get?_cons]
      · simp only [get?_cons, ih]
        by_cases h : other = k
        · subst h
          rw [if_pos rfl, if_neg (Ne.symm hne), if_pos rfl]
        · rw [if_neg h, if_neg h]

/-- A value that is found under a key stands there with it. -/
theorem mem_of_get? {d : Dictionary α} {key : String} {value : α}
    (hvalue : d.get? key = some value) : (key, value) ∈ d := by
  obtain ⟨before, after, rfl, -⟩ := List.lookup_eq_some_iff.mp hvalue
  simp

/-- A key is a key of the dictionary when a value is found under it. -/
theorem mem_keys_iff {d : Dictionary α} {key : String} :
    key ∈ d.keys ↔ (d.get? key).isSome = true := by
  induction d with
  | nil => simp [keys, get?]
  | cons entry rest ih =>
    obtain ⟨k, v⟩ := entry
    unfold keys at ih
    rw [get?_cons, keys, List.map_cons, List.mem_cons, ih]
    by_cases h : key = k <;> simp [h]

/-- Two dictionaries have their keys together. -/
theorem has_override {d : Dictionary α} {key : String} (e : Dictionary α) :
    (d.override e).has key = true ↔ d.has key = true ∨ e.has key = true := by
  unfold override
  induction e generalizing d with
  | nil => simp [has, get?]
  | cons entry rest ih =>
    obtain ⟨k, v⟩ := entry
    rw [List.foldl_cons, ih, has, has, has, has, get?_put, get?_cons]
    by_cases h : key = k <;> simp [h]

/-- Changing values keeps the keys. -/
theorem keys_map {β : Type} (d : Dictionary α) (f : String → α → β) :
    keys (d.map fun (k, v) => (k, f k v)) = d.keys := by
  rw [keys, keys, List.map_map]
  rfl

/-- Changing the values keeps the keys that have one. -/
theorem has_map {β : Type} (d : Dictionary α) (f : String → α → β) (key : String) :
    Dictionary.has (d.map fun (k, v) => (k, f k v)) key = d.has key := by
  rw [Bool.eq_iff_iff, has, has, ← mem_keys_iff, ← mem_keys_iff, keys_map]

/-- A value is found under its key after all values have been changed. -/
theorem get?_map {β : Type} (d : Dictionary α) (f : String → α → β) (key : String) :
    get? (d.map fun (k, v) => (k, f k v)) key = (d.get? key).map (f key) := by
  induction d with
  | nil => rfl
  | cons entry rest ih =>
    obtain ⟨k, v⟩ := entry
    rw [List.map_cons, get?_cons, get?_cons, ih]
    split
    · next h => rw [h, Option.map_some]
    · rfl

/-- Entries are dropped by their keys. -/
theorem get?_filter (d : Dictionary α) (keep : String → Bool) (key : String) :
    get? (d.filter fun p => keep p.1) key = if keep key then d.get? key else none := by
  induction d with
  | nil => simp [get?]
  | cons entry rest ih =>
    obtain ⟨k, v⟩ := entry
    rw [List.filter_cons, get?_cons]
    by_cases h : key = k
    · subst h
      cases hkeep : keep key <;> simp [hkeep, ih, get?_cons]
    · cases hkeep : keep k <;> simp [ih, get?_cons, h]

/-- Of two dictionaries the second one is asked first. Its keys must be distinct, as the last of
several values under one key would count. -/
theorem get?_override {d e : Dictionary α} (he : e.keys.Nodup) (key : String) :
    (d.override e).get? key = (e.get? key).or (d.get? key) := by
  unfold override
  induction e generalizing d with
  | nil => rfl
  | cons entry rest ih =>
    obtain ⟨k, v⟩ := entry
    obtain ⟨hk, hrest⟩ := List.nodup_cons.mp he
    rw [List.foldl_cons, ih hrest, get?_put, get?_cons]
    by_cases h : key = k
    · have hnone : get? rest key = none := by
        rw [← Option.not_isSome_iff_eq_none, ← mem_keys_iff, h]
        exact hk
      rw [if_pos h, if_pos h, hnone]
      rfl
    · rw [if_neg h, if_neg h]

/-- Entries under other keys do not change what is found. -/
theorem get?_override_of_notMem {d e : Dictionary α} {key : String} (hkey : key ∉ e.keys) :
    (d.override e).get? key = d.get? key := by
  unfold override
  induction e generalizing d with
  | nil => rfl
  | cons entry rest ih =>
    obtain ⟨hk, hrest⟩ := List.ne_and_not_mem_of_not_mem_cons hkey
    rw [List.foldl_cons, ih hrest, get?_put, if_neg hk]

/-- A value that is found in a dictionary with another one over it is an entry of the upper one or
was found before. -/
theorem mem_or_get?_of_override {d e : Dictionary α} {key : String} {value : α}
    (h : (d.override e).get? key = some value) : (key, value) ∈ e ∨ d.get? key = some value := by
  unfold override at h
  induction e generalizing d with
  | nil => exact .inr h
  | cons entry rest ih =>
    obtain ⟨k, v⟩ := entry
    rcases ih h with hmem | hfound
    · exact .inl (List.mem_cons_of_mem _ hmem)
    · rw [get?_put] at hfound
      split at hfound
      · next hkey =>
        rw [hkey, ← Option.some.inj hfound]
        exact .inl List.mem_cons_self
      · exact .inr hfound

/-- Of several values under one key the last one is found. -/
theorem get?_override_append_cons {d before after : Dictionary α} {key : String} {value : α}
    (hlast : key ∉ after.keys) :
    (d.override (before ++ (key, value) :: after)).get? key = some value := by
  have hsplit : d.override (before ++ (key, value) :: after) =
      ((d.override before).put key value).override after := by
    rw [override, List.foldl_append, List.foldl_cons]
    rfl
  rw [hsplit, get?_override_of_notMem hlast, get?_put, if_pos rfl]

/-- A value under a new key is one more entry. -/
theorem put_perm_of_notMem {d : Dictionary α} {key : String} (value : α) (hnew : key ∉ d.keys) :
    (d.put key value).Perm ((key, value) :: d) := by
  induction d with
  | nil => exact .refl _
  | cons entry rest ih =>
    obtain ⟨k, v⟩ := entry
    obtain ⟨hne, hrest⟩ : key ≠ k ∧ key ∉ keys rest := by simpa [keys] using hnew
    unfold put
    rw [if_neg hne]
    split
    · exact .refl _
    · exact ((ih hrest).cons _).trans (.swap ..)

/-- A new key is one more key. -/
theorem mem_keys_put {d : Dictionary α} {key other : String} {value : α} :
    other ∈ (d.put key value).keys ↔ other = key ∨ other ∈ d.keys := by
  rw [mem_keys_iff, mem_keys_iff, get?_put]
  by_cases h : other = key <;> simp [h]

/-- The keys of a dictionary ascend. -/
def Ascending (d : Dictionary α) : Prop :=
  d.Pairwise fun p q => p.1 < q.1

/-- A key before all others has no value. -/
theorem get?_eq_none_of_lt {d : Dictionary α} {key : String} (hlt : ∀ p ∈ d, key < p.1) :
    d.get? key = none := by
  refine List.lookup_eq_none_iff.mpr fun p hp => ?_
  have hne : key ≠ p.1 := by
    intro h
    exact String.lt_irrefl _ (h ▸ hlt p hp)
  simpa using hne

/-- The keys still ascend after a value has been put. -/
theorem Ascending.put {d : Dictionary α} (hd : d.Ascending) (key : String) (value : α) :
    (d.put key value).Ascending := by
  induction d with
  | nil => exact List.pairwise_singleton _ _
  | cons entry rest ih =>
    obtain ⟨k, v⟩ := entry
    obtain ⟨hfirst, hrest⟩ := List.pairwise_cons.mp hd
    unfold Dictionary.put
    split
    · next h =>
      subst h
      exact List.pairwise_cons.mpr ⟨hfirst, hrest⟩
    · next hne =>
      split
      · next hlt =>
        refine List.pairwise_cons.mpr ⟨fun p hp => ?_, hd⟩
        rcases List.mem_cons.mp hp with rfl | hp
        · exact hlt
        · exact String.lt_trans hlt (hfirst p hp)
      · next hle =>
        refine List.pairwise_cons.mpr ⟨fun p hp => ?_, ih hrest⟩
        have hp' : p.1 ∈ (Dictionary.put key value rest).keys := List.mem_map_of_mem hp
        rcases mem_keys_put.mp hp' with h | h
        · rw [h]
          exact Std.lt_of_le_of_ne (String.not_lt.mp hle) (Ne.symm hne)
        · obtain ⟨q, hq, hqp⟩ := List.mem_map.mp h
          rw [← hqp]
          exact hfirst q hq

/-- The keys still ascend after the entries of another dictionary have been put. -/
theorem Ascending.override {d : Dictionary α} (hd : d.Ascending) (e : Dictionary α) :
    (d.override e).Ascending := by
  unfold Dictionary.override
  induction e generalizing d with
  | nil => exact hd
  | cons entry rest ih => exact ih (hd.put entry.1 entry.2)

/-- The dictionary of some pairs is in order. -/
theorem ascending_ofPairs (pairs : List (String × α)) : (ofPairs pairs).Ascending :=
  Ascending.override .nil pairs

/-- Keys that ascend are distinct. -/
theorem Ascending.nodup_keys {d : Dictionary α} (hd : d.Ascending) : d.keys.Nodup := by
  refine List.pairwise_map.mpr (hd.imp fun {p q} hlt heq => ?_)
  exact String.lt_irrefl _ (heq ▸ hlt)

/-- In a dictionary with ascending keys an entry is what is found under its key. -/
theorem Ascending.get?_eq_some_iff {d : Dictionary α} (hd : d.Ascending) {key : String}
    {value : α} : d.get? key = some value ↔ (key, value) ∈ d := by
  refine ⟨mem_of_get?, fun hmem => ?_⟩
  obtain ⟨found, hfound⟩ := Option.isSome_iff_exists.mp
    (mem_keys_iff.mp (List.mem_map_of_mem (f := (·.1)) hmem))
  have heq := List.inj_on_of_nodup_map hd.nodup_keys (mem_of_get? hfound) hmem rfl
  rw [hfound, (Prod.mk.inj heq).2]

/-- The last entry of a dictionary with ascending keys is the one with the greatest key. -/
theorem Ascending.getLast?_eq_some_iff {d : Dictionary α} (hd : d.Ascending) {p : String × α} :
    List.getLast? d = some p ↔ p ∈ d ∧ ∀ q ∈ d, q.1 ≤ p.1 := by
  rcases List.eq_nil_or_concat d with rfl | ⟨before, last, rfl⟩
  · simp
  · rw [List.concat_eq_append] at hd ⊢
    obtain ⟨-, -, hlast⟩ := List.pairwise_append.mp hd
    have hless (q : String × α) (hq : q ∈ before) : q.1 < last.1 :=
      hlast q hq last (List.mem_singleton_self last)
    rw [List.getLast?_concat, Option.some_inj]
    constructor
    · rintro rfl
      refine ⟨by simp, fun q hq => ?_⟩
      rcases List.mem_append.mp hq with hq | hq
      · exact Std.le_of_lt (hless q hq)
      · obtain rfl := List.mem_singleton.mp hq
        exact String.le_refl _
    · rintro ⟨hp, hgreatest⟩
      rcases List.mem_append.mp hp with hp | hp
      · exact absurd (hless p hp) (Std.not_lt.mpr (hgreatest last (by simp)))
      · exact (List.mem_singleton.mp hp).symm

/-- The entries of a dictionary stay unless the one over it has their keys. -/
theorem Ascending.mem_override_iff {d e : Dictionary α} (hd : d.Ascending) (he : e.Ascending)
    {p : String × α} : p ∈ d.override e ↔ p ∈ e ∨ p ∈ d ∧ p.1 ∉ e.keys := by
  obtain ⟨k, v⟩ := p
  rw [← (hd.override e).get?_eq_some_iff, ← hd.get?_eq_some_iff, ← he.get?_eq_some_iff,
    get?_override he.nodup_keys, mem_keys_iff]
  cases e.get? k <;> simp

/-- Values under two keys, the lesser one first, can be put in either order. -/
theorem put_put_of_lt {key other : String} (hlt : key < other) (value value' : α)
    (d : Dictionary α) :
    (d.put key value).put other value' = (d.put other value').put key value := by
  induction d with
  | nil => grind [Dictionary.put]
  | cons entry rest ih =>
    obtain ⟨k, v⟩ := entry
    grind [Dictionary.put]

/-- Values under two keys can be put in either order. -/
theorem put_comm {key other : String} (hne : key ≠ other) (value value' : α) (d : Dictionary α) :
    (d.put key value).put other value' = (d.put other value').put key value := by
  rcases Std.lt_trichotomy key other with h | h | h
  · exact put_put_of_lt h value value' d
  · exact absurd h hne
  · exact (put_put_of_lt h value' value d).symm

/-- Pairs with distinct keys make one dictionary in whatever order they come. -/
theorem ofPairs_eq_of_perm {pairs others : List (String × α)} (hperm : pairs.Perm others)
    (hkeys : (pairs.map (·.1)).Nodup) : ofPairs pairs = ofPairs others := by
  refine hperm.foldl_eq' ?_ []
  intro p hp q hq d
  by_cases hpq : p = q
  · rw [hpq]
  · have hne : p.1 ≠ q.1 := fun h => hpq (List.inj_on_of_nodup_map hkeys hp hq h)
    exact put_comm hne p.2 q.2 d

/-- Adding a value to those under a key adds it to all values. -/
theorem flatMap_put_append {d : Dictionary (List α)} (hd : d.Ascending) (key : String) (value : α) :
    ((d.put key ((d.get? key).getD [] ++ [value])).flatMap (·.2)).Perm
      (d.flatMap (·.2) ++ [value]) := by
  induction d with
  | nil => simp [put, get?]
  | cons entry rest ih =>
    obtain ⟨k, vs⟩ := entry
    obtain ⟨hfirst, hrest⟩ := List.pairwise_cons.mp hd
    have happend (ws : List α) : ([value] ++ ws).Perm (ws ++ [value]) := List.perm_append_comm
    rw [get?_cons]
    unfold put
    split
    · next h =>
      simpa using (happend (rest.flatMap (·.2))).append_left vs
    · next hne =>
      split
      · next hlt =>
        have hnone : get? rest key = none :=
          get?_eq_none_of_lt fun p hp => String.lt_trans hlt (hfirst p hp)
        rw [hnone]
        exact happend (((k, vs) :: rest).flatMap (·.2))
      · rw [List.flatMap_cons, List.flatMap_cons, List.append_assoc]
        exact (ih hrest).append_left vs

end TableTypes.Dictionary
