import Mathlib.Data.List.Dedup
import TableTypes.Proofs.Symbol.Growth

/-!
# Names that are given out

Each call that registers a symbol gives a name. Main statement: for every history of calls on a new
table the first call for an id decides about its name and its symbol, later calls give this name
again, and a new name is the one asked for or the first numbered one that no call has given before.
The names that the table goes by, which it keeps apart from its entries, are thus at every moment the
names of the entries and the names that the calls have given.
-/

namespace TableTypes.SymbolTable

open Naming

variable {α : Type}

/-! ## The order of the entries -/

/-- An entry with a new id is put where the ids keep ascending. -/
theorem pairwise_insertEntry {e : Entry α} {es : List (Entry α)}
    (hes : es.Pairwise fun e f => e.id < f.id) (hnew : ∀ f ∈ es, f.id ≠ e.id) :
    (insertEntry e es).Pairwise fun e f => e.id < f.id := by
  induction es with
  | nil => exact List.pairwise_singleton _ _
  | cons f fs ih =>
    obtain ⟨hfirst, hrest⟩ := List.pairwise_cons.mp hes
    unfold insertEntry
    split
    · next hlt =>
      refine List.pairwise_cons.mpr ⟨fun g hg => ?_, hes⟩
      rcases List.mem_cons.mp hg with rfl | hg
      · exact hlt
      · exact String.lt_trans hlt (hfirst g hg)
    · next hle =>
      refine List.pairwise_cons.mpr
        ⟨fun g hg => ?_, ih hrest fun g hg => hnew g (List.mem_cons_of_mem _ hg)⟩
      rcases List.mem_cons.mp ((insertEntry_perm e fs).mem_iff.mp hg) with rfl | hg
      · exact Std.lt_of_le_of_ne (String.not_lt.mp hle) (hnew f (by simp))
      · exact hfirst g hg

/-- The entries of a table stand in ascending order of their ids. -/
theorem pairwise_registered (style : IdentifierStyle) (history : List (Registration α)) :
    (registered style history).entries.Pairwise fun e f => e.id < f.id := by
  induction history using List.reverseRecOn with
  | nil => exact .nil
  | append_singleton history r ih =>
    rw [registered_append_singleton]
    cases hfound : (registered style history).find? r.id with
    | some e => rwa [add_of_find? hfound]
    | none =>
      rw [add, registerAs_of_find?_none hfound]
      refine pairwise_insertEntry ih fun f hf => ?_
      simpa using List.find?_eq_none.mp hfound f hf

/-- The known ids are those that have been registered. -/
theorem contains_registered_iff {style : IdentifierStyle} {history : List (Registration α)}
    {id : String} :
    (registered style history).contains id = true ↔ id ∈ history.map (·.id) := by
  have hname : ((registered style history).name? id).isSome = true ↔ id ∈ history.map (·.id) :=
    name?_registered_isSome_iff
  rw [← hname, name?, Option.isSome_map]
  rfl

/-- An id that has not been registered has no entry. -/
theorem find?_registered_eq_none {style : IdentifierStyle} {history : List (Registration α)}
    {id : String} (hnew : id ∉ history.map (·.id)) :
    (registered style history).find? id = none := by
  rw [← contains_eq_false_iff, Bool.eq_false_iff]
  exact fun hcontains => hnew (contains_registered_iff.mp hcontains)

/-- A table has as many entries as different ids have been registered. -/
theorem size_registered (style : IdentifierStyle) (history : List (Registration α)) :
    (registered style history).size = (history.map (·.id)).dedup.length := by
  have hids : (registered style history).DistinctIds :=
    Grows.distinctIds (P := fun _ => True) ⟨history, fun _ _ => trivial, rfl⟩
  have hperm : ((registered style history).entries.map (·.id)).Perm
      (history.map (·.id)).dedup := by
    refine (List.perm_ext_iff_of_nodup hids (List.nodup_dedup _)).mpr fun id => ?_
    have hcontains : (registered style history).contains id = true ↔ id ∈ history.map (·.id) :=
      contains_registered_iff
    rw [List.mem_dedup, ← hcontains, SymbolTable.contains, find?, List.find?_isSome]
    simp
  rw [size, ← hperm.length_eq, List.length_map]

/-! ## Answers -/

/-- The name that a call gives. -/
def answer (t : SymbolTable α) (r : Registration α) : String :=
  (t.registerAs r.id r.source r.symbol).1

/-- The names that some calls give one after the other. -/
def answersFrom (t : SymbolTable α) : List (Registration α) → List String
  | [] => []
  | r :: history => t.answer r :: answersFrom (t.add r) history

/-- The names that the calls of a history give on a new table. -/
def answers (style : IdentifierStyle) (history : List (Registration α)) : List String :=
  answersFrom (empty style) history

/-- Calls are answered one after the other. -/
theorem answersFrom_append (t : SymbolTable α) (before after : List (Registration α)) :
    answersFrom t (before ++ after) =
      answersFrom t before ++ answersFrom (before.foldl add t) after := by
  induction before generalizing t with
  | nil => rfl
  | cons r before ih => rw [List.cons_append, answersFrom, answersFrom, ih]; rfl

/-- One more call is answered by the table that the calls before it have left. -/
theorem answers_append_singleton (style : IdentifierStyle) (history : List (Registration α))
    (r : Registration α) :
    answers style (history ++ [r]) =
      answers style history ++ [(registered style history).answer r] :=
  answersFrom_append _ _ _

/-- A call for a known id gives the display name of the id. -/
theorem answer_of_find? {t : SymbolTable α} {r : Registration α} {e : Entry α}
    (hfound : t.find? r.id = some e) : t.answer r = e.name := by
  rw [answer, registerAs_of_find? hfound]

/-- A call for a new id gives the display name made from its source. -/
theorem answer_of_find?_none {t : SymbolTable α} {r : Registration α}
    (hnew : t.find? r.id = none) : t.answer r = displayName t.style t.names r.source := by
  rw [answer, registerAs_of_find?_none hnew]

/-- The names in use are those that the calls have given. -/
theorem mem_names_registered_iff {style : IdentifierStyle} {history : List (Registration α)}
    {name : String} :
    name ∈ (registered style history).names ↔ name ∈ answers style history := by
  induction history using List.reverseRecOn with
  | nil => simp [empty, answers, answersFrom]
  | append_singleton history r ih =>
    rw [registered_append_singleton, answers_append_singleton, List.mem_append, List.mem_singleton,
      ← ih]
    cases hfound : (registered style history).find? r.id with
    | some e =>
      rw [add_of_find? hfound, answer_of_find? hfound]
      have he : e.name ∈ (registered style history).names :=
        (inStep_registered style history _).mpr ⟨e, List.mem_of_find?_eq_some hfound, rfl⟩
      exact ⟨.inl, fun h => h.elim id fun heq => heq ▸ he⟩
    | none =>
      rw [mem_names_add hfound, answer_of_find?_none hfound]
      exact Or.comm

/-! ## Free names -/

/-- The name for a base where some names are taken: the base itself if it is free, and otherwise the
base with the least number from two on behind it that makes a free name. -/
inductive FirstFree (taken : List String) (base : String) : String → Prop where
  | plain : base ∉ taken → FirstFree taken base base
  | numbered {k : ℕ} : base ∈ taken → 2 ≤ k → base ++ toString k ∉ taken →
      (∀ j, 2 ≤ j → j < k → base ++ toString j ∈ taken) →
      FirstFree taken base (base ++ toString k)

/-- The search for a free name finds the first one. -/
theorem firstFree_freeName (taken : List String) (base : String) :
    FirstFree taken base (freeName taken base) := by
  unfold freeName
  split
  · next htaken =>
    obtain ⟨k, htwo, hname, hfree, hleast⟩ := numbered_spec taken base
    rw [hname]
    exact .numbered (by simpa using htaken) htwo hfree hleast
  · next hfree => exact .plain (by simpa using hfree)

/-- Which name comes first depends only on which names are taken. -/
theorem FirstFree.congr {taken others : List String} {base name : String}
    (hsame : ∀ n, n ∈ taken ↔ n ∈ others) (h : FirstFree taken base name) :
    FirstFree others base name := by
  cases h with
  | plain hfree => exact .plain fun hmem => hfree ((hsame _).mpr hmem)
  | numbered htaken htwo hfree hleast =>
    exact .numbered ((hsame _).mp htaken) htwo (fun hmem => hfree ((hsame _).mpr hmem))
      fun j hj hlt => (hsame _).mp (hleast j hj hlt)

/-! ## Histories of calls -/

variable {style : IdentifierStyle} {before after : List (Registration α)} {r : Registration α}

/-- An entry stays through all later calls. -/
theorem find?_registered_append {id : String} {e : Entry α}
    (hfound : (registered style before).find? id = some e) (after : List (Registration α)) :
    (registered style (before ++ after)).find? id = some e := by
  have hgrows : Grows (fun _ => True) (registered style before)
      (registered style (before ++ after)) :=
    ⟨after, fun _ _ => trivial, by simp [registered]⟩
  exact hgrows.find? hfound

/-- The name that a call gives is the display name of its id from then on. -/
theorem name?_registered_append_cons (style : IdentifierStyle) (before : List (Registration α))
    (r : Registration α) (after : List (Registration α)) :
    (registered style (before ++ r :: after)).name? r.id =
      some ((registered style before).answer r) := by
  rw [registered, List.foldl_append, List.foldl_cons]
  exact name?_foldl_add_of_name? after (name?_add_self (registered style before) r)

/-- The first call for an id decides about its symbol. -/
theorem get?_registered_of_first (hfirst : r.id ∉ before.map (·.id)) :
    (registered style (before ++ r :: after)).get? r.id = some r.symbol := by
  have hnew : (registered style before).find? r.id = none := find?_registered_eq_none hfirst
  have hadded : (registered style (before ++ [r])).find? r.id =
      some ⟨r.id, displayName (registered style before).style (registered style before).names
        r.source, r.symbol⟩ := by
    rw [registered_append_singleton, find?_add, if_pos ⟨hnew, rfl⟩]
  have hkept := find?_registered_append hadded after
  rw [List.append_assoc, List.singleton_append] at hkept
  rw [get?, hkept, Option.map_some]

/-- The first call for an id gives the first name for its source that no call has given before, with
an underscore before a leading digit. -/
theorem exists_firstFree_answer (style : IdentifierStyle) {before : List (Registration α)}
    {r : Registration α} (hfirst : r.id ∉ before.map (·.id)) :
    ∃ name, FirstFree (answers style before) (baseName style r.source) name ∧
      (registered style before).answer r = guardDigit name := by
  refine ⟨freeName (registered style before).names (baseName style r.source), ?_, ?_⟩
  · exact (firstFree_freeName _ _).congr fun _ => mem_names_registered_iff
  · rw [answer_of_find?_none (find?_registered_eq_none hfirst), displayName, style_registered]

/-- For every history of calls on a new table: the first call for an id decides about its symbol,
and every call gives the name that the id has from then on, so the first one decides about the name,
too. The entries ascend by id, one for each registered id; the names that are taken are those of the
entries, and also the names that the calls have given; and a new name is the first one for its source
that no call has given before, the guard of a leading digit apart. -/
theorem registrations_canonical (style : IdentifierStyle) (history : List (Registration α)) :
    (∀ before r after, history = before ++ r :: after →
      (registered style history).name? r.id = some ((registered style before).answer r) ∧
      (r.id ∉ before.map (·.id) →
        (registered style history).get? r.id = some r.symbol ∧
        ∃ name, FirstFree (answers style before) (baseName style r.source) name ∧
          (registered style before).answer r = guardDigit name)) ∧
    (∀ id, (registered style history).contains id = true ↔ id ∈ history.map (·.id)) ∧
    (registered style history).entries.Pairwise (fun e f => e.id < f.id) ∧
    (registered style history).size = (history.map (·.id)).dedup.length ∧
    (∀ name, name ∈ (registered style history).names ↔
      ∃ e ∈ (registered style history).entries, e.name = name) ∧
    (∀ name, name ∈ (registered style history).names ↔ name ∈ answers style history) := by
  refine ⟨?_, fun _ => contains_registered_iff, pairwise_registered style history,
    size_registered style history, inStep_registered style history,
    fun _ => mem_names_registered_iff⟩
  rintro before r after rfl
  refine ⟨name?_registered_append_cons style before r after, fun hfirst => ?_⟩
  exact ⟨get?_registered_of_first hfirst, exists_firstFree_answer style hfirst⟩

/-- A numbered name that a source has asked for before is left out, and a later call for an id gives
its name again. -/
example : answers .pascal ([("a", "a_b"), ("b", "aB2"), ("c", "a-b"), ("a", "x"), ("d", "a.b")].map
    fun p => (⟨p.1, p.2, ()⟩ : Registration Unit)) = ["AB", "AB2", "AB3", "AB", "AB4"] := by
  decide +kernel

end TableTypes.SymbolTable
