import TableTypes.Proofs.TypeScript.UniqueReading

/-!
# Conditional types in unions

A union does not put its members in parentheses. What stands on the same line behind a conditional
type is therefore read as a part of the false branch of that type. Each type is given the type as
which it is read; two types have one text exactly if they are read as the same one.
-/

namespace TableTypes.TypeScript.TypeExpr

/-- Types that are made of all kinds of types, with any members next to each other. -/
abbrev Regular : TypeExpr → Prop := WellFormed True fun _ _ => True

/-! ## Texts without lines of their own -/

/-- A text without lines of its own is the same at every depth. -/
theorem chars_of_oneLine {e : TypeExpr} (h : e.oneLine = true) (d k : Nat) :
    e.chars d = e.chars k := by
  have hall {es : List TypeExpr} (ih : ∀ e ∈ es, e.oneLine = true → e.chars d = e.chars k)
      (h : oneLineAll es = true) : ∀ e ∈ es, e.print d = e.print k := fun e he =>
    String.toList_inj.mp (ih e he (oneLineAll_eq_true_iff.mp h e he))
  induction e using TypeExpr.induction with
  | array e ih => rw [chars_array, chars_array, operandChars, operandChars, ih h]
  | union ms ih =>
    rw [chars, chars, print, print, printAll_eq_map, printAll_eq_map, List.map_congr_left (hall ih h)]
  | object ps =>
    obtain rfl := List.isEmpty_iff.mp h
    rfl
  | generic head args ih =>
    rw [chars, chars, print, print, printAll_eq_map, printAll_eq_map, List.map_congr_left (hall ih h)]
  | conditional => cases h
  | _ => simp [chars, print]

/-! ## Putting a member behind a type -/

mutual

/-- Puts a member behind a type, into the false branch that the text of the type ends with, if there
is one. -/
def appendMember (x : TypeExpr) : TypeExpr → TypeExpr
  | conditional check e t f => conditional check e t (appendMember x f)
  | union ms => union (appendLast x ms)
  | e => union [e, x]

/-- Puts a member behind the last one of a union. -/
def appendLast (x : TypeExpr) : List TypeExpr → List TypeExpr
  | [] => [x]
  | [m] => if m.isConditional then [appendMember x m] else [m, x]
  | m :: n :: ms => m :: appendLast x (n :: ms)

end

/-- Adds the next member of a union. -/
def joinMember (e m : TypeExpr) : TypeExpr :=
  if m.oneLine then appendMember m e else union (e.members ++ [m])

mutual

/-- The type as which the text of a type is read. -/
def grouped : TypeExpr → TypeExpr
  | array e => array e.grouped
  | union ms =>
    match groupedAll ms with
    | [] => union []
    | m :: ms => ms.foldl joinMember m
  | object ps => object (groupedProperties ps)
  | generic head args => generic head (groupedAll args)
  | conditional check e t f => conditional check e.grouped t.grouped f.grouped
  | e => e

/-- The types as which the texts of some types are read. -/
def groupedAll : List TypeExpr → List TypeExpr
  | [] => []
  | e :: es => e.grouped :: groupedAll es

/-- The properties as which the texts of some properties are read. -/
def groupedProperties : List (Property TypeExpr) → List (Property TypeExpr)
  | [] => []
  | p :: ps => groupedProperty p :: groupedProperties ps

/-- The property as which the text of a property is read. -/
def groupedProperty : Property TypeExpr → Property TypeExpr
  | ⟨key, value, comment⟩ => ⟨key, value.grouped, comment⟩

end

/-- Types are grouped one by one. -/
theorem groupedAll_eq_map (es : List TypeExpr) : groupedAll es = es.map grouped := by
  induction es with
  | nil => rfl
  | cons e es ih => rw [groupedAll, ih, List.map_cons]

/-- The value of a property is grouped. -/
theorem groupedProperty_eq (p : Property TypeExpr) :
    groupedProperty p = { p with value := p.value.grouped } := by
  cases p
  rw [groupedProperty]

/-- Properties are grouped one by one. -/
theorem groupedProperties_eq_map (ps : List (Property TypeExpr)) :
    groupedProperties ps = ps.map groupedProperty := by
  induction ps with
  | nil => rfl
  | cons p ps ih => rw [groupedProperties, ih, List.map_cons]

/-- A member goes into a conditional type that stands last, and behind any other one. -/
theorem appendLast_concat (x l : TypeExpr) (ms : List TypeExpr) :
    appendLast x (ms ++ [l]) =
      if l.isConditional then ms ++ [appendMember x l] else ms ++ [l] ++ [x] := by
  induction ms with
  | nil => rw [List.nil_append, appendLast]; rfl
  | cons m ms ih =>
    have hcons : appendLast x (m :: (ms ++ [l])) = m :: appendLast x (ms ++ [l]) := by
      cases ms <;> rfl
    rw [List.cons_append, hcons, ih]
    split <;> rfl

/-- A conditional type stays one with a member put behind it. -/
theorem isConditional_appendMember {e : TypeExpr} (h : e.isConditional = true) (x : TypeExpr) :
    (appendMember x e).isConditional = true := by
  cases e with
  | conditional => rw [appendMember]; rfl
  | _ => cases h

/-- A conditional type has lines of its own. -/
theorem oneLine_of_isConditional {e : TypeExpr} (h : e.isConditional = true) : e.oneLine = false := by
  cases e <;> first | rfl | cases h

/-- A conditional type is no union. -/
theorem isUnion_of_isConditional {e : TypeExpr} (h : e.isConditional = true) : e.isUnion = false := by
  cases e <;> first | rfl | cases h

/-- A type that does not end with a false branch becomes a union. -/
theorem appendMember_eq_union {e : TypeExpr} (hunion : e.isUnion = false)
    (hconditional : e.isConditional = false) (x : TypeExpr) : appendMember x e = union [e, x] := by
  cases e with
  | union => cases hunion
  | conditional => cases hconditional
  | _ => rfl

/-- Of two members or more one is the last. -/
theorem exists_eq_concat {ms : List TypeExpr} (htwo : 2 ≤ ms.length) : ∃ ns l, ms = ns ++ [l] :=
  ms.eq_nil_or_concat'.resolve_left (List.ne_nil_of_length_pos (by omega))

/-- A member without lines of its own stands behind a bar in the text of what it is put behind. -/
theorem chars_appendMember {x e : TypeExpr} (hx : x.oneLine = true) (he : Regular e) (d : Nat) :
    (appendMember x e).chars d = e.chars d ++ (bar ++ x.chars d) := by
  have hsingle {e : TypeExpr} (hunion : e.isUnion = false) (hconditional : e.isConditional = false)
      (d : Nat) : (appendMember x e).chars d = e.chars d ++ (bar ++ x.chars d) := by
    rw [appendMember_eq_union hunion hconditional, chars_union]
    simp
  induction he generalizing d with
  | @union ms htwo _ _ _ ih =>
    obtain ⟨ns, l, rfl⟩ := exists_eq_concat htwo
    apply @List.append_cancel_left _ bar
    rw [← List.append_assoc, bar_append_chars_union (by simp), appendMember, appendLast_concat]
    split
    · rw [bar_append_chars_union (by simp)]
      simp [ih l (by simp)]
    · rw [bar_append_chars_union (by simp)]
      simp
  | conditional hallowed hcheck he ht hf ihe iht ihf =>
    rw [appendMember, chars_conditional, chars_conditional, ihf, chars_of_oneLine hx (d + 1) d]
    simp
  | _ => exact hsingle rfl rfl d

/-- The next member of a union stands behind a bar in the text of what it is added to. -/
theorem chars_joinMember {e : TypeExpr} (he : Regular e) (m : TypeExpr) (d : Nat) :
    (joinMember e m).chars d = e.chars d ++ (bar ++ m.chars d) := by
  unfold joinMember
  split
  next hm => exact chars_appendMember hm he d
  next =>
    apply @List.append_cancel_left _ bar
    rw [bar_append_chars_union (by simp), ← List.append_assoc, bar_append_chars he]
    simp

/-! ## The type as which a text is read -/

/-- Readable types are regular. -/
theorem regular_of_readable {e : TypeExpr} (h : Readable e) : Regular e :=
  h.mono id fun _ _ _ _ => trivial

/-- A readable type has a member. -/
theorem members_ne_nil {e : TypeExpr} (h : Readable e) : e.members ≠ [] := by
  cases h with
  | union htwo => exact List.ne_nil_of_length_pos (Nat.lt_of_lt_of_le Nat.two_pos htwo)
  | _ => exact List.cons_ne_nil _ _

namespace ReadableMembers

variable {m : TypeExpr} {ms ns : List TypeExpr}

/-- The first of some readable members are readable. -/
theorem left (h : ReadableMembers (ms ++ ns)) : ReadableMembers ms where
  readable m hm := h.readable m (List.mem_append_left _ hm)
  flat m hm := h.flat m (List.mem_append_left _ hm)
  apart := (List.isChain_append.mp h.apart).1

/-- A member can follow if it does not read as a part of the last one. -/
theorem concat (h : ReadableMembers ms) (hm : Readable m) (hunion : m.isUnion = false)
    (hnext : ∀ l ∈ ms.getLast?, Apart l m) : ReadableMembers (ms ++ [m]) where
  readable := by simpa [or_imp, forall_and] using ⟨h.readable, hm⟩
  flat := by simpa [or_imp, forall_and] using ⟨h.flat, hunion⟩
  apart := List.isChain_append.mpr ⟨h.apart, .singleton m, by simpa using hnext⟩

/-- Readable members with one more behind them make a readable union. -/
theorem union_concat (h : ReadableMembers (ms ++ [m])) (hne : ms ≠ []) : Readable (union (ms ++ [m])) := by
  have hlength := List.length_pos_of_ne_nil hne
  exact .union (by rw [List.length_append, List.length_singleton]; omega) h.readable h.flat h.apart

end ReadableMembers

/-- A readable type stays so with a member put behind it that is no union. -/
theorem readable_appendMember {x e : TypeExpr} (hx : Readable x) (hunion : x.isUnion = false)
    (he : Readable e) : Readable (appendMember x e) := by
  have hsingle {e : TypeExpr} (he : Readable e) (heunion : e.isUnion = false)
      (hconditional : e.isConditional = false) : Readable (appendMember x e) := by
    rw [appendMember_eq_union heunion hconditional]
    have hmembers : ReadableMembers [e] := ⟨by simp [he], by simp [heunion], .singleton e⟩
    exact (hmembers.concat hx hunion (by simp [Apart, hconditional])).union_concat (by simp)
  induction e using TypeExpr.induction with
  | union ms ih =>
    cases he with
    | union htwo hms hflat hnext =>
      have hmembers : ReadableMembers ms := ⟨hms, hflat, hnext⟩
      obtain ⟨ns, l, rfl⟩ := exists_eq_concat htwo
      have hne : ns ≠ [] := by
        rintro rfl
        simp at htwo
      rw [appendMember, appendLast_concat]
      split
      next hl =>
        -- the last member stays a conditional type, and with that apart from the one before it
        have hlast := isConditional_appendMember hl x
        have hextended := hmembers.left.concat (ih l (by simp) (hms l (by simp)))
          (isUnion_of_isConditional hlast) fun _ _ _ => oneLine_of_isConditional hlast
        exact hextended.union_concat hne
      next hl => exact (hmembers.concat hx hunion (by simp [Apart, hl])).union_concat (by simp)
  | conditional check e t f _ _ ihf =>
    cases he with
    | conditional hallowed hcheck he ht hf =>
      rw [appendMember]
      exact .conditional hallowed hcheck he ht (ihf hf)
  | _ => exact hsingle he rfl rfl

/-- A readable type stays so with a member added that is no union. -/
theorem readable_joinMember {e m : TypeExpr} (he : Readable e) (hm : Readable m)
    (hunion : m.isUnion = false) : Readable (joinMember e m) := by
  unfold joinMember
  split
  next => exact readable_appendMember hm hunion he
  next h =>
    have hmembers := (readableMembers_members he).concat hm hunion (by simp [Apart, h])
    exact hmembers.union_concat (members_ne_nil he)

/-- Adding members one after the other keeps the text and gives a type that can be read. -/
theorem foldl_joinMember {e : TypeExpr} {ms : List TypeExpr} (he : Readable e)
    (hms : ∀ m ∈ ms, Readable m) (hflat : ∀ m ∈ ms, m.isUnion = false) :
    Readable (ms.foldl joinMember e) ∧ ∀ d, (ms.foldl joinMember e).chars d =
      e.chars d ++ ms.flatMap fun m => bar ++ m.chars d := by
  induction ms generalizing e with
  | nil => exact ⟨he, fun d => (List.append_nil _).symm⟩
  | cons m ms ih =>
    rw [List.forall_mem_cons] at hms hflat
    obtain ⟨hread, htext⟩ := ih (readable_joinMember he hms.1 hflat.1) hms.2 hflat.2
    refine ⟨hread, fun d => ?_⟩
    rw [List.foldl_cons, htext, chars_joinMember (regular_of_readable he), List.append_assoc,
      List.flatMap_cons]

/-- A type with a member added needs parentheses as an element. -/
theorem needsParens_joinMember (e m : TypeExpr) : (joinMember e m).needsParens = true := by
  unfold joinMember
  split
  · cases e <;> rfl
  · rfl

/-- A type that needs parentheses still does with members added. -/
theorem needsParens_foldl_joinMember {e : TypeExpr} (he : e.needsParens = true) (ms : List TypeExpr) :
    (ms.foldl joinMember e).needsParens = true := by
  induction ms generalizing e with
  | nil => exact he
  | cons m ms ih => exact ih (needsParens_joinMember e m)

/-- Grouping makes no union of another type. -/
theorem isUnion_grouped {e : TypeExpr} (h : e.isUnion = false) : e.grouped.isUnion = false := by
  cases e <;> first | rfl | cases h

/-- What needs parentheses as the element of an array still needs them once it is grouped. -/
theorem needsParens_grouped {e : TypeExpr} (h : Regular e) : e.grouped.needsParens = e.needsParens := by
  cases h with
  | @union ms htwo =>
    match ms with
    | m :: n :: ms => exact needsParens_foldl_joinMember (needsParens_joinMember _ _) _
  | _ => rfl

/-- The grouped members of a union are added to the first of them one by one. -/
theorem grouped_union_cons (m : TypeExpr) (ms : List TypeExpr) :
    (union (m :: ms)).grouped = (ms.map grouped).foldl joinMember m.grouped := by
  rw [grouped, groupedAll, groupedAll_eq_map]

/-- A grouped type can be read. -/
theorem readable_grouped {e : TypeExpr} (h : Regular e) : Readable e.grouped := by
  induction h with
  | name hname => exact .name hname
  | text value => exact .text value
  | array _ ih => exact .array ih
  | @union ms htwo _ hflat _ ih =>
    match ms with
    | m :: ms =>
      rw [List.forall_mem_cons] at ih hflat
      rw [grouped_union_cons]
      exact (foldl_joinMember ih.1 (List.forall_mem_map.mpr ih.2)
        (List.forall_mem_map.mpr fun m hm => isUnion_grouped (hflat.2 m hm))).1
  | generic hhead hne _ ih =>
    rw [grouped, groupedAll_eq_map]
    exact .generic hhead (by simpa using hne) (List.forall_mem_map.mpr ih)
  | object _ hbare ih =>
    rw [grouped, groupedProperties_eq_map]
    exact .object (List.forall_mem_map.mpr fun p hp => by rw [groupedProperty_eq]; exact ih p hp)
      (List.forall_mem_map.mpr fun p hp => by rw [groupedProperty_eq]; exact hbare p hp)
  | conditional hallowed hcheck _ _ _ ihe iht ihf => exact .conditional hallowed hcheck ihe iht ihf

/-- A grouped type has the text of the type itself. -/
theorem chars_grouped {e : TypeExpr} (h : Regular e) (d : Nat) : e.grouped.chars d = e.chars d := by
  induction h generalizing d with
  | name => rfl
  | text => rfl
  | array he ih =>
    rw [grouped, chars_array, chars_array, operandChars, operandChars, needsParens_grouped he, ih]
  | @union ms htwo hms hflat _ ih =>
    cases ms with
    | nil => simp at htwo
    | cons m ms =>
      rw [List.forall_mem_cons] at hms ih hflat
      have hread := fun m hm => readable_grouped (hms.2 m hm)
      rw [grouped_union_cons, (foldl_joinMember (readable_grouped hms.1) (List.forall_mem_map.mpr hread)
        (List.forall_mem_map.mpr fun m hm => isUnion_grouped (hflat.2 m hm))).2, ih.1, chars_union,
        List.flatMap_map, List.flatMap_congr fun m hm => by rw [ih.2 m hm]]
  | @generic head args _ hne _ ih =>
    cases args with
    | nil => exact absurd rfl hne
    | cons a as =>
      rw [List.forall_mem_cons] at ih
      rw [grouped, groupedAll_eq_map, List.map_cons, chars_generic, chars_generic, ih.1,
        List.flatMap_map, List.flatMap_congr fun a ha => by rw [ih.2 a ha]]
  | @object ps _ hbare ih =>
    have hproperty : ∀ p ∈ ps, propertyChars (d + 1) (groupedProperty p) = propertyChars (d + 1) p := by
      intro p hp
      have hgrouped : { p with value := p.value.grouped }.comment = none := hbare p hp
      rw [groupedProperty_eq, propertyChars_bare _ hgrouped, propertyChars_bare _ (hbare p hp), ih p hp]
    cases ps with
    | nil => rfl
    | cons p ps =>
      rw [grouped, groupedProperties_eq_map, List.map_cons, chars_object_cons, chars_object_cons,
        ← List.map_cons, List.flatMap_map, List.flatMap_congr hproperty]
  | conditional _ _ _ _ _ ihe iht ihf =>
    rw [grouped, chars_conditional, chars_conditional, ihe, iht, ihf]

/-! ## Types that are read as they are -/

/-- What follows a member without being read as a part of it becomes another member. -/
theorem joinMember_of_apart {e m : TypeExpr} (hne : e.members ≠ [])
    (h : ∀ l ∈ e.members.getLast?, Apart l m) : joinMember e m = union (e.members ++ [m]) := by
  unfold joinMember
  split
  next hm =>
    have hlast : ∀ l ∈ e.members.getLast?, l.isConditional = false := fun l hl => by
      by_contra hconditional
      rw [h l hl (by simpa using hconditional)] at hm
      cases hm
    cases e with
    | union ms =>
      obtain ⟨ns, l, rfl⟩ := ms.eq_nil_or_concat'.resolve_left hne
      rw [appendMember, appendLast_concat, if_neg (by simp [hlast l (by simp [members])])]
      rfl
    | conditional => cases hlast _ rfl
    | _ => rfl
  next => rfl

/-- Members that can stand next to each other are added as they are. -/
theorem foldl_joinMember_of_isChain {e : TypeExpr} {ms : List TypeExpr} (hne : e.members ≠ [])
    (hms : ms ≠ []) (h : (e.members ++ ms).IsChain Apart) :
    ms.foldl joinMember e = union (e.members ++ ms) := by
  induction ms generalizing e with
  | nil => exact absurd rfl hms
  | cons m ms ih =>
    have hjoin : joinMember e m = union (e.members ++ [m]) := by
      refine joinMember_of_apart hne fun l hl => ?_
      exact (List.isChain_append.mp h).2.2 l hl m rfl
    rw [List.foldl_cons, hjoin]
    cases ms with
    | nil => rfl
    | cons n ns =>
      rw [ih (by simp [members]) (by simp) (by simpa [members] using h)]
      simp [members]

/-- A type that can be read is read as it is. -/
theorem grouped_of_readable {e : TypeExpr} (h : Readable e) : e.grouped = e := by
  have hmap {es : List TypeExpr} (ih : ∀ e ∈ es, e.grouped = e) : es.map grouped = es :=
    (List.map_congr_left ih).trans (List.map_id' es)
  induction h with
  | name => rfl
  | text => rfl
  | array _ ih => rw [grouped, ih]
  | @union ms htwo _ hflat hnext ih =>
    match ms with
    | m :: n :: ms =>
      rw [List.forall_mem_cons] at ih hflat
      have hmembers := members_of_isUnion hflat.1
      rw [grouped_union_cons, ih.1, hmap ih.2, foldl_joinMember_of_isChain (by simp [hmembers])
        (by simp) (by rwa [hmembers]), hmembers]
      rfl
  | generic _ _ _ ih => rw [grouped, groupedAll_eq_map, hmap ih]
  | @object ps _ _ ih =>
    have hproperty : ∀ p ∈ ps, groupedProperty p = p := fun p hp => by rw [groupedProperty_eq, ih p hp]
    rw [grouped, groupedProperties_eq_map, List.map_congr_left hproperty, List.map_id']
  | conditional _ _ _ _ _ ihe iht ihf => rw [grouped, ihe, iht, ihf]

/-! ## Types with one text -/

/-- Two types are printed alike exactly if they are read as the same type, and types that can be read
are read as they are. -/
theorem print_eq_print_iff_grouped {a b : TypeExpr} (ha : Regular a) (hb : Regular b) (depth : Nat) :
    (a.print depth = b.print depth ↔ a.grouped = b.grouped) ∧ (Readable a → a.grouped = a) := by
  have hprint {e : TypeExpr} (he : Regular e) : e.grouped.print depth = e.print depth :=
    String.toList_inj.mp (chars_grouped he depth)
  refine ⟨⟨fun h => ?_, fun h => ?_⟩, grouped_of_readable⟩
  · exact eq_of_print_eq (readable_grouped ha) (readable_grouped hb)
      (by rw [hprint ha, hprint hb, h])
  · rw [← hprint ha, ← hprint hb, h]

/-- The two types that the text of a conditional type and another member can stand for. -/
theorem regular_conditional_before_member :
    Regular (union [conditional "A" (named "B") (named "C") (named "D"), named "E"]) ∧
      Regular (conditional "A" (named "B") (named "C") (union [named "D", named "E"])) := by
  have hname {n : String} (hn : Naming.isIdentifier n.toList = true) : Regular (named n) := .name hn
  have hunion {e : TypeExpr} (he : Regular e) (hflat : e.isUnion = false) :
      Regular (union [e, named "E"]) :=
    .union (by simp) (by simpa using ⟨he, hname (by decide)⟩) (by simpa using ⟨hflat, rfl⟩) (by simp)
  have hconditional {f : TypeExpr} (hf : Regular f) :
      Regular (conditional "A" (named "B") (named "C") f) :=
    .conditional trivial (by decide) (hname (by decide)) (hname (by decide)) hf
  exact ⟨hunion (hconditional (hname (by decide))) rfl,
    hconditional (hunion (hname (by decide)) rfl)⟩

/-- A conditional type before another member is read as one with this member in its false branch. -/
theorem print_conditional_before_member :
    (union [conditional "A" (named "B") (named "C") (named "D"), named "E"]).print 0 =
      (conditional "A" (named "B") (named "C") (union [named "D", named "E"])).print 0 :=
  (print_eq_print_iff_grouped regular_conditional_before_member.1
    regular_conditional_before_member.2 0).1.mpr rfl

/-- Where a conditional type ends is not always known from the text. -/
theorem print_not_injective : ∃ a b : TypeExpr, (Regular a ∧ Regular b) ∧
    a = union [conditional "A" (named "B") (named "C") (named "D"), named "E"] ∧
    b = conditional "A" (named "B") (named "C") (union [named "D", named "E"]) ∧
    a.print 0 = "A extends B\n  ? C\n  : D | E" ∧ b.print 0 = a.print 0 ∧ a ≠ b :=
  ⟨_, _, regular_conditional_before_member, rfl, rfl, rfl, rfl, nofun⟩

end TableTypes.TypeScript.TypeExpr
