import Mathlib.Data.List.Induction
import TableTypes.CommandLine.Arguments
import TableTypes.Proofs.Dictionary

/-!
# Maps of the command line

The entries of the maps that the command line gives are put over those of the settings. Overrides
and custom imports keep their keys, so that those of the command line win. The keys of the type
mapping are compared in small letters, but this is done only once the maps are one: among keys that
differ in their letter case the last one in the order of texts counts, whoever gave it. For each data
type the exact condition is given under which the command line wins.
-/

namespace TableTypes

/-! ## Keys in small letters -/

namespace Dictionary

variable {d e : Dictionary String} {key : String} {p : String × String}

/-- The entries with their keys in small letters; of several with one key the last one counts. -/
def lowered (d : Dictionary String) : Dictionary String :=
  ofPairs (d.map fun (key, value) => (Unicode.lowercase key, value))

/-- The last entry whose key is the given one in small letters. -/
def latest? (d : Dictionary String) (key : String) : Option (String × String) :=
  List.getLast? (d.filter fun p => Unicode.lowercase p.1 = key)

/-- With the keys in small letters, the latest of the values under one key is found. -/
theorem get?_lowered (d : Dictionary String) (key : String) :
    d.lowered.get? key = (d.latest? key).map (·.2) := by
  induction d using List.reverseRecOn with
  | nil => rfl
  | append_singleton d p ih =>
    have hput : lowered (d ++ [p]) = (lowered d).put (Unicode.lowercase p.1) p.2 := by
      rw [lowered, lowered, List.map_append, ofPairs, List.foldl_append]
      rfl
    rw [hput, get?_put, ih, latest?, latest?, List.filter_append]
    by_cases h : Unicode.lowercase p.1 = key
    · simp [h]
    · simp [h, Ne.symm h]

/-- A key has no latest entry exactly when no entry has it in small letters. -/
theorem latest?_eq_none_iff :
    d.latest? key = none ↔ ∀ q ∈ d, Unicode.lowercase q.1 ≠ key := by
  simp [latest?]

/-- The latest entry under a key is the one with the greatest spelling of it. -/
theorem Ascending.latest?_eq_some_iff (hd : d.Ascending) :
    d.latest? key = some p ↔
      (p ∈ d ∧ Unicode.lowercase p.1 = key) ∧
        ∀ q ∈ d, Unicode.lowercase q.1 = key → q.1 ≤ p.1 := by
  have hsorted : Ascending (d.filter fun q => Unicode.lowercase q.1 = key) :=
    List.Pairwise.filter _ hd
  rw [latest?, hsorted.getLast?_eq_some_iff]
  simp

/-- A key after the last entry for its small letters is not there. -/
theorem Ascending.notMem_keys_of_latest? (he : e.Ascending) {k : String}
    (hk : Unicode.lowercase k = key) (hlast : ∀ q ∈ e.latest? key, q.1 < k) : k ∉ e.keys := by
  intro hmem
  obtain ⟨r, hr, rfl⟩ := List.mem_map.mp hmem
  cases hlatest : e.latest? key with
  | none => exact latest?_eq_none_iff.mp hlatest r hr hk
  | some q =>
    have hle := (he.latest?_eq_some_iff.mp hlatest).2 r hr hk
    exact absurd (hlast q hlatest) (Std.not_lt.mpr hle)

/-- Of two dictionaries the one whose last entry has the greater key decides, and the second one if
the keys are the same. -/
theorem Ascending.latest?_override (hd : d.Ascending) (he : e.Ascending) (key : String) :
    (d.override e).latest? key =
      match d.latest? key, e.latest? key with
      | some p, some q => if q.1 < p.1 then some p else some q
      | found, none => found
      | none, found => found := by
  have hmem (p : String × String) := hd.mem_override_iff he (p := p)
  have hkey {p : String × String} (hp : p ∈ e) : p.1 ∈ e.keys := List.mem_map_of_mem hp
  have hover := hd.override e
  cases hfirst : d.latest? key with
  | none =>
    rw [latest?_eq_none_iff] at hfirst
    cases hsecond : e.latest? key with
    | none =>
      rw [latest?_eq_none_iff] at hsecond ⊢
      grind
    | some q =>
      rw [he.latest?_eq_some_iff] at hsecond
      rw [hover.latest?_eq_some_iff]
      grind
  | some p =>
    rw [hd.latest?_eq_some_iff] at hfirst
    cases hsecond : e.latest? key with
    | none =>
      have hnew : p.1 ∉ e.keys := he.notMem_keys_of_latest? hfirst.1.2 (by simp [hsecond])
      rw [latest?_eq_none_iff] at hsecond
      rw [hover.latest?_eq_some_iff]
      grind
    | some q =>
      dsimp only
      split
      · next hlt =>
        have hnew : p.1 ∉ e.keys := by
          refine he.notMem_keys_of_latest? hfirst.1.2 fun r hr => ?_
          rw [hsecond] at hr
          cases hr
          exact hlt
        rw [he.latest?_eq_some_iff] at hsecond
        rw [hover.latest?_eq_some_iff]
        grind
      · rw [he.latest?_eq_some_iff] at hsecond
        rw [hover.latest?_eq_some_iff]
        grind

/-- The last entry for a key in small letters does not come after that of the other dictionary, or
it says the same. -/
def YieldsTo (d e : Dictionary String) (key : String) : Prop :=
  ∀ p ∈ d.latest? key, ∀ q ∈ e.latest? key, q.1 < p.1 → p.2 = q.2

/-- With one dictionary over another the upper one has its say in small letters exactly where the
lower one yields to it. -/
theorem Ascending.get?_lowered_override_iff (hd : d.Ascending) (he : e.Ascending) :
    (d.override e).lowered.get? key = (e.lowered.get? key).or (d.lowered.get? key) ↔
      d.YieldsTo e key := by
  rw [YieldsTo, get?_lowered, get?_lowered, get?_lowered, hd.latest?_override he]
  cases d.latest? key with
  | none => cases e.latest? key <;> simp
  | some p =>
    cases e.latest? key with
    | none => simp
    | some q =>
      have hyields : (∀ p' ∈ some p, ∀ q' ∈ some q, q'.1 < p'.1 → p'.2 = q'.2) ↔
          (q.1 < p.1 → p.2 = q.2) := by
        simp only [Option.mem_def, Option.some.injEq, forall_eq']
      rw [hyields]
      change (if q.1 < p.1 then some p else some q).map (·.2) = some q.2 ↔ _
      by_cases h : q.1 < p.1
      · rw [if_pos h, forall_prop_of_true h]
        exact Option.some_inj
      · rw [if_neg h]
        exact iff_of_true rfl fun hlt => absurd hlt h

end Dictionary

/-! ## Maps that are read -/

open Dictionary

/-- The texts of an object stand in the order of their keys. -/
theorem Json.ascending_of_textMap? {json : Json} {map : Dictionary String}
    (h : json.textMap? = some map) : map.Ascending := by
  unfold Json.textMap? at h
  split at h
  · next members =>
    obtain ⟨pairs, -, hmap⟩ := Option.bind_eq_some_iff.mp h
    rw [← Option.some.inj hmap]
    exact ascending_ofPairs pairs
  · cases h

/-- Overrides stand in the order of their columns. -/
theorem Json.ascending_of_overrides? {json : Json} {map : Dictionary String}
    (h : json.overrides? = some map) : map.Ascending := by
  unfold Json.overrides? at h
  split at h
  · next members =>
    obtain ⟨keys, -, hmap⟩ := Option.bind_eq_some_iff.mp h
    split at hmap
    · rw [← Option.some.inj hmap]
      exact .nil
    · exact ascending_of_textMap? hmap
    · cases hmap
  · rw [← Option.some.inj h]
    exact .nil
  · exact ascending_of_textMap? h
  · cases h

/-- The texts that a flag takes stand in the order of their keys. -/
theorem ascending_of_parseTextMap {flag json : String} {map : Dictionary String}
    (h : parseTextMap flag json = .ok map) : map.Ascending := by
  unfold parseTextMap at h
  split at h
  · next found hread =>
    cases h
    obtain ⟨value, -, hvalue⟩ := Option.bind_eq_some_iff.mp hread
    exact Json.ascending_of_textMap? hvalue
  · cases h

/-- The overrides that a flag takes stand in the order of their columns. -/
theorem ascending_of_parseOverrides {json : String} {map : Dictionary String}
    (h : parseOverrides json = .ok map) : map.Ascending := by
  unfold parseOverrides at h
  split at h
  · next found hread =>
    cases h
    obtain ⟨value, -, hvalue⟩ := Option.bind_eq_some_iff.mp hread
    exact Json.ascending_of_overrides? hvalue
  · cases h

/-- The texts of a table in a source stand in the order of their keys. -/
theorem Source.ascending_of_textMap? {source : Source} {v : Value} {map : Dictionary String}
    (h : source.textMap? v = some map) : map.Ascending := by
  unfold Source.textMap? at h
  split at h
  · obtain ⟨pairs, -, rfl⟩ := Option.map_eq_some_iff.mp h
    exact ascending_ofPairs pairs
  · cases h

/-- The keys of the type mapping in settings that have been read ascend. -/
theorem Settings.ascending_of_read? {source : Source} {v : Value} {s : Settings}
    (h : Settings.read? source v = some s) : s.typeMapping.Ascending := by
  unfold Settings.read? at h
  -- One step for the record and each setting in it; the type mapping is the last but one.
  iterate 17 obtain ⟨_, -, h⟩ := Option.bind_eq_some_iff.mp h
  obtain ⟨typeMapping, hread, h⟩ := Option.bind_eq_some_iff.mp h
  obtain ⟨_, -, h⟩ := Option.bind_eq_some_iff.mp h
  obtain rfl := Option.some.inj h
  dsimp only at hread ⊢
  split at hread
  · exact Source.ascending_of_textMap? hread
  · rw [← Option.some.inj hread]
    exact .nil

/-- Where the singular rules can be read, settings have options with their maps. -/
theorem Settings.exists_options {s : Settings} {rules : Option (List Naming.SingularRule)}
    (hrules : s.rules = .ok rules) :
    ∃ o, s.options = .ok o ∧
      (∀ key, o.overrides.get? key = (s.overrides.get? key).map .text) ∧
      o.customImports = s.customImports ∧ o.typeMapping = s.typeMapping.lowered := by
  unfold options
  rw [hrules]
  exact ⟨_, rfl, fun key => Dictionary.get?_map _ (fun _ => Override.text) key, rfl, rfl⟩

namespace CommandLine.Arguments

/-- The keys of a map that is given by a flag ascend. -/
theorem ascending_of_mapOf {parse : String → Except SettingsFault (Dictionary String)}
    (hparse : ∀ json map, parse json = .ok map → map.Ascending) {json : Option String}
    {map : Dictionary String} (h : mapOf parse json = .ok map) : map.Ascending := by
  cases json with
  | none =>
    cases h
    exact .nil
  | some json => exact hparse json map h

/-! ## Maps over those of the settings -/

section

variable {a : Arguments} {overrides customImports typeMapping : Dictionary String}

/-- Where the maps can be read, there are settings with the arguments over them, and the entries of
the maps are put over those of the settings. -/
theorem exists_apply (hoverrides : mapOf parseOverrides a.overrides = .ok overrides)
    (himports : mapOf (parseTextMap "custom-imports") a.customImports = .ok customImports)
    (hmapping : mapOf (parseTextMap "type-mapping") a.typeMapping = .ok typeMapping)
    (s : Settings) :
    ∃ s', a.apply s = .ok s' ∧ s'.overrides = s.overrides.override overrides ∧
      s'.customImports = s.customImports.override customImports ∧
      s'.typeMapping = s.typeMapping.override typeMapping := by
  unfold apply
  rw [hoverrides, himports, hmapping]
  exact ⟨_, rfl, rfl, rfl, rfl⟩

/-- Overrides and custom imports of the command line win over those of the settings, and what the
command line does not name stays. A data type that the command line maps has that mapping exactly
where the settings yield: among their keys for it the last one does not come after the last one of
the command line. -/
theorem maps_win_iff {source : Source} {v : Value} {s : Settings}
    (hs : Settings.read? source v = some s)
    (hoverrides : mapOf parseOverrides a.overrides = .ok overrides)
    (himports : mapOf (parseTextMap "custom-imports") a.customImports = .ok customImports)
    (hmapping : mapOf (parseTextMap "type-mapping") a.typeMapping = .ok typeMapping) :
    ∃ s', a.apply s = .ok s' ∧ ∀ rules, s'.rules = .ok rules → ∃ o, s'.options = .ok o ∧
      (∀ key, o.overrides.get? key =
        ((overrides.get? key).or (s.overrides.get? key)).map .text) ∧
      (∀ name, o.customImports.get? name =
        (customImports.get? name).or (s.customImports.get? name)) ∧
      ∀ type, (o.typeMapping.get? type =
          (typeMapping.lowered.get? type).or (s.typeMapping.lowered.get? type) ↔
        s.typeMapping.YieldsTo typeMapping type) := by
  obtain ⟨s', happly, hcolumns, hnames, htypes⟩ := exists_apply hoverrides himports hmapping s
  refine ⟨s', happly, fun rules hrules => ?_⟩
  obtain ⟨o, hoptions, ho, hi, hm⟩ := Settings.exists_options hrules
  refine ⟨o, hoptions, fun key => ?_, fun name => ?_, fun type => ?_⟩
  · have hgiven := ascending_of_mapOf (fun _ _ => ascending_of_parseOverrides) hoverrides
    rw [ho, hcolumns, get?_override hgiven.nodup_keys]
  · have hgiven := ascending_of_mapOf (fun _ _ => ascending_of_parseTextMap) himports
    rw [hi, hnames, get?_override hgiven.nodup_keys]
  · have hgiven := ascending_of_mapOf (fun _ _ => ascending_of_parseTextMap) hmapping
    rw [hm, htypes]
    exact (Settings.ascending_of_read? hs).get?_lowered_override_iff hgiven

end

/-- A mapping of the command line for `uuid` wins over one in the settings for the same key. -/
theorem mapping_of_uuid :
    let file : Value := .table [("type_mapping", .table [("uuid", .text "Key")])]
    let a : Arguments := { typeMapping := some "\x7b\"uuid\": \"Id\"\x7d" }
    ∃ s s' o, Settings.read? .file file = some s ∧ a.apply s = .ok s' ∧ s'.options = .ok o ∧
      o.typeMapping.get? "uuid" = some "Id" := by
  intro file a
  let s : Settings := { typeMapping := [("uuid", "Key")] }
  have hs : Settings.read? .file file = some s := rfl
  have hmapping : mapOf (parseTextMap "type-mapping") a.typeMapping = .ok [("uuid", "Id")] := by
    decide +kernel
  obtain ⟨s', happly, h⟩ := maps_win_iff (a := a) hs rfl rfl hmapping
  have hrules : s'.rules = .ok none := by
    have hknown : a.apply s = .ok { typeMapping := [("uuid", "Id")] } := by decide +kernel
    rw [hknown] at happly
    cases happly
    rfl
  obtain ⟨o, hoptions, -, -, htypes⟩ := h none hrules
  have hyields : s.typeMapping.YieldsTo [("uuid", "Id")] "uuid" := by
    have hlast : s.typeMapping.latest? "uuid" = some ("uuid", "Key") := by decide +kernel
    have hgiven : latest? [("uuid", "Id")] "uuid" = some ("uuid", "Id") := by decide +kernel
    rw [YieldsTo, hlast, hgiven]
    rintro p ⟨⟩ q ⟨⟩ hlt
    exact absurd hlt (String.lt_irrefl _)
  refine ⟨s, s', o, hs, happly, hoptions, ?_⟩
  rw [(htypes "uuid").mpr hyields]
  decide +kernel

/-- A mapping of the command line for `UUID` does not win over one in the settings for `uuid`. -/
theorem not_mapping_of_uuid :
    let file : Value := .table [("type_mapping", .table [("uuid", .text "Key")])]
    let a : Arguments := { typeMapping := some "\x7b\"UUID\": \"Id\"\x7d" }
    ∃ s s' o, Settings.read? .file file = some s ∧ a.apply s = .ok s' ∧ s'.options = .ok o ∧
      mapOf (parseTextMap "type-mapping") a.typeMapping = .ok [("UUID", "Id")] ∧
      o.typeMapping.get? "uuid" = some "Key" ∧
      lowered [("UUID", "Id")] = [("uuid", "Id")] :=
  ⟨_, _, _, rfl, rfl, rfl, by decide +kernel, by decide +kernel, by decide +kernel⟩

end CommandLine.Arguments

end TableTypes
