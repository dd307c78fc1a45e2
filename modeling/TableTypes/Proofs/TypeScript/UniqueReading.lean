import Mathlib.Data.List.Chain
import TableTypes.Proofs.TypeScript.PrintedText

/-!
# Printed types can be read in one way only

A type expression is known from any text that begins with its own, as long as what comes behind ends
it. The text of a union is the one place where this needs care: a member behind a conditional type
could belong to the false branch of that, unless it has lines of its own, whose margins tell the
depth at which it was printed. Main statement: without conditional types, no two types have one text.
-/

namespace TableTypes.TypeScript.TypeExpr

/-! ## Types that can be read -/

/-- Whether a type is a union. -/
def isUnion : TypeExpr → Bool
  | union _ => true
  | _ => false

/-- Whether a type is a conditional type. -/
def isConditional : TypeExpr → Bool
  | conditional .. => true
  | _ => false

/-- Types made of plain names that are no tables, string literals, arrays, unions of two or more
members that are no unions themselves, generic types with an argument, objects without comments and,
where they are allowed, conditional types. `neighbours` says which member may follow another one in a
union. -/
inductive WellFormed (conditionals : Prop) (neighbours : TypeExpr → TypeExpr → Prop) :
    TypeExpr → Prop
  | name {n : String} (hname : Naming.isIdentifier n.toList = true) :
      WellFormed conditionals neighbours (named n)
  | text (value : String) : WellFormed conditionals neighbours (text value)
  | array {e : TypeExpr} (he : WellFormed conditionals neighbours e) :
      WellFormed conditionals neighbours (.array e)
  | union {ms : List TypeExpr} (htwo : 2 ≤ ms.length)
      (hms : ∀ m ∈ ms, WellFormed conditionals neighbours m) (hflat : ∀ m ∈ ms, m.isUnion = false)
      (hnext : ms.IsChain neighbours) : WellFormed conditionals neighbours (.union ms)
  | generic {head : String} {args : List TypeExpr}
      (hhead : Naming.isIdentifier head.toList = true) (hne : args ≠ [])
      (hargs : ∀ a ∈ args, WellFormed conditionals neighbours a) :
      WellFormed conditionals neighbours (.generic head args)
  | object {ps : List (Property TypeExpr)}
      (hvalues : ∀ p ∈ ps, WellFormed conditionals neighbours p.value)
      (hbare : ∀ p ∈ ps, p.comment = none) : WellFormed conditionals neighbours (.object ps)
  | conditional {check : String} {e t f : TypeExpr} (hallowed : conditionals)
      (hcheck : Naming.isIdentifier check.toList = true)
      (he : WellFormed conditionals neighbours e) (ht : WellFormed conditionals neighbours t)
      (hf : WellFormed conditionals neighbours f) :
      WellFormed conditionals neighbours (.conditional check e t f)

mutual

/-- Whether the text of a type has no lines of its own, so that it is the same at every depth. -/
def oneLine : TypeExpr → Bool
  | array e => e.oneLine
  | union ms => oneLineAll ms
  | object ps => ps.isEmpty
  | generic _ args => oneLineAll args
  | conditional .. => false
  | _ => true

/-- Whether the texts of some types have no lines of their own. -/
def oneLineAll : List TypeExpr → Bool
  | [] => true
  | e :: es => e.oneLine && oneLineAll es

end

/-- Types have no lines of their own together exactly when none has them. -/
theorem oneLineAll_eq_true_iff {es : List TypeExpr} :
    oneLineAll es = true ↔ ∀ e ∈ es, e.oneLine = true := by
  induction es with
  | nil => simp [oneLineAll]
  | cons e es ih => simp [oneLineAll, ih]

/-- Two neighbours of a union of which the second one does not read as a part of the first one. -/
def Apart (m next : TypeExpr) : Prop :=
  m.isConditional = true → next.oneLine = false

/-- Types whose text is read as they are: behind a conditional type no member of a union stands on
the same line. -/
abbrev Readable : TypeExpr → Prop := WellFormed True Apart

/-- The members of a union; any other type is a single one. -/
def members : TypeExpr → List TypeExpr
  | union ms => ms
  | e => [e]

/-- A type that is no union is its own member. -/
theorem members_of_isUnion {e : TypeExpr} (h : e.isUnion = false) : e.members = [e] := by
  cases e <;> first | rfl | cases h

/-- Types with the same members are the same. -/
theorem eq_of_members {conditionals : Prop} {neighbours : TypeExpr → TypeExpr → Prop}
    {a b : TypeExpr} (ha : WellFormed conditionals neighbours a)
    (hb : WellFormed conditionals neighbours b) (h : a.members = b.members) : a = b := by
  have hsingle {ms : List TypeExpr} {e : TypeExpr} (htwo : 2 ≤ ms.length) : ms ≠ [e] := by
    rintro rfl
    simp at htwo
  cases hau : a.isUnion with
  | false =>
    cases hbu : b.isUnion with
    | false =>
      rw [members_of_isUnion hau, members_of_isUnion hbu] at h
      exact (List.cons.inj h).1
    | true =>
      cases hb with
      | union htwo => exact absurd (h.symm.trans (members_of_isUnion hau)) (hsingle htwo)
      | _ => cases hbu
  | true =>
    cases hbu : b.isUnion with
    | false =>
      cases ha with
      | union htwo => exact absurd (h.trans (members_of_isUnion hbu)) (hsingle htwo)
      | _ => cases hau
    | true =>
      cases a with
      | union ms =>
        cases b with
        | union ns => exact congrArg union h
        | _ => cases hbu
      | _ => cases hau

/-- Members of a union that can be read: they are no unions and do not read as parts of each other. -/
structure ReadableMembers (ms : List TypeExpr) : Prop where
  readable : ∀ m ∈ ms, Readable m
  flat : ∀ m ∈ ms, m.isUnion = false
  apart : ms.IsChain Apart

/-- The members behind the first one are readable with it. -/
theorem ReadableMembers.tail {m : TypeExpr} {ms : List TypeExpr} (h : ReadableMembers (m :: ms)) :
    ReadableMembers ms where
  readable m hm := h.readable m (List.mem_cons_of_mem _ hm)
  flat m hm := h.flat m (List.mem_cons_of_mem _ hm)
  apart := h.apart.tail

/-- The members of a readable type are readable. -/
theorem readableMembers_members {e : TypeExpr} (h : Readable e) : ReadableMembers e.members := by
  cases hu : e.isUnion with
  | false =>
    rw [members_of_isUnion hu]
    exact ⟨by simp [h], by simp [hu], .singleton e⟩
  | true =>
    cases h with
    | union htwo hms hflat hnext => exact ⟨hms, hflat, hnext⟩
    | _ => cases hu

/-- A type has no lines of its own exactly when its members have none. -/
theorem oneLineAll_members (e : TypeExpr) : oneLineAll e.members = e.oneLine := by
  cases e <;> simp [members, oneLine, oneLineAll]

/-- A union behind a bar is each of its members behind a bar. -/
theorem bar_append_chars_union {ms : List TypeExpr} (hne : ms ≠ []) (d : Nat) :
    bar ++ (union ms).chars d = ms.flatMap fun m => bar ++ m.chars d := by
  obtain ⟨m, ms, rfl⟩ := List.exists_cons_of_ne_nil hne
  rw [chars_union, List.flatMap_cons, List.append_assoc]

/-- A type behind a bar is each of its members behind a bar. -/
theorem bar_append_chars {conditionals : Prop} {neighbours : TypeExpr → TypeExpr → Prop}
    {e : TypeExpr} (h : WellFormed conditionals neighbours e) (d : Nat) :
    bar ++ e.chars d = e.members.flatMap fun m => bar ++ m.chars d := by
  cases hu : e.isUnion with
  | false => simp [members_of_isUnion hu]
  | true =>
    cases h with
    | union htwo => exact bar_append_chars_union (List.ne_nil_of_length_pos (by omega)) d
    | _ => cases hu

/-! ## What can follow -/

/-- Whether a text goes on in a way that ends a member of a union. -/
def endsMember : List Char → Bool
  | [] => true
  | ' ' :: '|' :: _ => true
  | c :: _ => [')', '>', ',', ';', '\n'].contains c

/-- A text that ends a member begins with one of a few marks, if it is not empty. -/
theorem mem_of_endsMember {c : Char} {r : List Char} (h : endsMember (c :: r) = true) :
    c ∈ [' ', ')', '>', ',', ';', '\n'] := by
  unfold endsMember at h
  split at h
  · simp_all
  · simp_all
  · simp_all

/-- Whether a text goes on in a way that ends a name or generic type, or closes a bracket. -/
def EndsOperand (r : List Char) : Prop :=
  EndsWord r ∧ r.head? ≠ some '<'

/-- What ends a member ends an operand. -/
theorem endsOperand_of_endsMember {r : List Char} (hr : endsMember r = true) : EndsOperand r := by
  cases r with
  | nil => simp [EndsOperand, EndsWord]
  | cons c r =>
    have hall : [' ', ')', '>', ',', ';', '\n'].all
        (fun c => !Naming.continuesIdentifier c && c != '<') = true := by decide
    have hmark := List.all_eq_true.mp hall c (mem_of_endsMember hr)
    simp only [Bool.and_eq_true, Bool.not_eq_true', bne_iff_ne] at hmark
    simp [EndsOperand, EndsWord, hmark]

/-- Brackets end an operand where a member ends behind them. -/
theorem endsOperand_brackets {r : List Char} (hr : endsMember r = true) (n : Nat) :
    EndsOperand (brackets n ++ r) := by
  cases n with
  | zero => exact endsOperand_of_endsMember hr
  | succ n => simp [EndsOperand, EndsWord, brackets, Naming.continuesIdentifier]

/-- How many brackets there are is known from what ends them. -/
theorem brackets_cancel {i j : Nat} {r s : List Char} (hr : endsMember r = true)
    (hs : endsMember s = true) (h : brackets i ++ r = brackets j ++ s) : i = j ∧ r = s := by
  have hbracket (tail : List Char) : endsMember ('[' :: tail) = false := rfl
  induction i generalizing j with
  | zero =>
    cases j with
    | zero => exact ⟨rfl, h⟩
    | succ j =>
      obtain rfl : r = '[' :: (']' :: brackets j ++ s) := h
      rw [hbracket] at hr
      cases hr
  | succ i ih =>
    cases j with
    | zero =>
      obtain rfl : s = '[' :: (']' :: brackets i ++ r) := h.symm
      rw [hbracket] at hs
      cases hs
    | succ j =>
      obtain ⟨rfl, hrest⟩ := ih (List.cons.inj (List.cons.inj h).2).2
      exact ⟨rfl, hrest⟩

/-- A text does not go on with a member that is printed at some depth or a greater one. -/
def Closed (d : Nat) (r : List Char) : Prop :=
  ∀ k, d ≤ k → ∀ m rest, Readable m → m.isUnion = false → endsMember rest = true →
    r ≠ bar ++ (m.chars k ++ rest)

/-- What is closed at some depth is so at each greater one. -/
theorem Closed.mono {d k : Nat} {r : List Char} (h : Closed d r) (hle : d ≤ k) : Closed k r :=
  fun n hn => h n (hle.trans hn)

/-- What ends a type that is printed at some depth. -/
structure EndsType (d : Nat) (r : List Char) : Prop where
  stops : endsMember r = true
  closed : Closed d r

/-- The end of the text ends a type. -/
theorem endsType_nil (d : Nat) : EndsType d [] :=
  ⟨rfl, fun _ _ _ _ _ _ _ h => by cases h⟩

/-- A closing sign, a comma or the end of a line ends a type. -/
theorem endsType_cons {c : Char} (hc : c ∈ [')', '>', ',', ';', '\n']) (d : Nat) (r : List Char) :
    EndsType d (c :: r) where
  stops := by
    have hne : c ≠ ' ' := by
      rintro rfl
      revert hc
      decide
    unfold endsMember
    split
    · rfl
    · rfl
    next heq => cases heq; simpa using hc
  closed k _ m rest _ _ _ h := by
    obtain rfl : c = ' ' := (List.cons.inj h).1
    revert hc
    decide

/-- Members that are printed at different depths have one text only if it has no lines of its own. -/
def Separated : Prop :=
  ∀ ⦃a b : TypeExpr⦄ ⦃d k : Nat⦄ ⦃r s : List Char⦄, Readable a → Readable b → a.isUnion = false →
    b.isUnion = false → endsMember r = true → endsMember s = true → d ≠ k →
    a.chars d ++ r = b.chars k ++ s → a.oneLine = true

/-- What ends a member that is printed at one depth and compared with one at another depth: behind
a conditional type that is compared at its own depth, no member may follow in its false branch. -/
structure EndsMember (d k : Nat) (m : TypeExpr) (r : List Char) : Prop where
  stops : endsMember r = true
  closed : d = k → m.isConditional = true → Closed (d + 1) r

/-! ## Reading operands -/

/-- What follows from two texts that are alike: the types are alike and so is the rest, and types
that are printed at different depths have no lines of their own. -/
structure Agree (d k : Nat) (a b : TypeExpr) (r s : List Char) : Prop where
  type : a = b
  rest : r = s
  depth : d = k ∨ a.oneLine = true

/-- The base of an array is known from its text. -/
def ReadsOperand (a : TypeExpr) : Prop :=
  ∀ ⦃b : TypeExpr⦄ ⦃d k : Nat⦄ ⦃r s : List Char⦄, (d = k → Separated) → Readable b →
    b.isArray = false → EndsOperand r → EndsOperand s →
    a.operandChars d ++ r = b.operandChars k ++ s → Agree d k a b r s

/-- A member of a union is known from its text. -/
def ReadsMember (a : TypeExpr) : Prop :=
  ∀ ⦃b : TypeExpr⦄ ⦃d k : Nat⦄ ⦃r s : List Char⦄, (d = k → Separated) → Readable b →
    b.isUnion = false → EndsMember d k a r → EndsMember d k b s →
    a.chars d ++ r = b.chars k ++ s → Agree d k a b r s

/-- A type is known from its text. -/
def ReadsType (a : TypeExpr) : Prop :=
  ∀ ⦃b : TypeExpr⦄ ⦃d k : Nat⦄ ⦃r s : List Char⦄, (d = k → Separated) → Readable b →
    EndsType k r → EndsType d s → a.chars d ++ r = b.chars k ++ s → Agree d k a b r s

/-- How an operand begins. -/
inductive Lead where
  | word
  | quote
  | brace
  | paren

/-- What the first character of an operand says. -/
def leadOf (c : Char) : Lead :=
  if c = '"' then .quote else if c = '\x7b' then .brace else if c = '(' then .paren else .word

/-- How the text of a type as an operand begins. -/
def lead : TypeExpr → Lead
  | literal _ => .quote
  | object _ => .brace
  | union _ => .paren
  | conditional .. => .paren
  | _ => .word

/-- An identifier begins like a word. -/
theorem leadOf_of_isIdentifier {cs : List Char} (h : Naming.isIdentifier cs = true) :
    ∃ c rest, cs = c :: rest ∧ leadOf c = .word := by
  cases cs with
  | nil => cases h
  | cons c rest =>
    simp only [Naming.isIdentifier, Bool.and_eq_true] at h
    have hmark (mark : Char) (hmark : Naming.startsIdentifier mark = false) : c ≠ mark := by
      rintro rfl
      rw [h.1] at hmark
      cases hmark
    refine ⟨c, rest, rfl, ?_⟩
    rw [leadOf, if_neg (hmark '"' (by decide)), if_neg (hmark '\x7b' (by decide)),
      if_neg (hmark '(' (by decide))]

/-- The first character of an operand says how it begins. -/
theorem exists_operandChars_eq_cons {a : TypeExpr} (ha : Readable a) (harray : a.isArray = false)
    (d : Nat) : ∃ c rest, a.operandChars d = c :: rest ∧ leadOf c = a.lead := by
  cases ha with
  | name hname =>
    obtain ⟨c, rest, hn, hc⟩ := leadOf_of_isIdentifier hname
    exact ⟨c, rest, hn ▸ chars_name d _ false, hc⟩
  | text value => exact ⟨'"', _, chars_text d value, rfl⟩
  | array => cases harray
  | union => exact ⟨'(', _, rfl, rfl⟩
  | generic hhead hne =>
    rename_i head args _
    obtain ⟨c, rest, hn, hc⟩ := leadOf_of_isIdentifier hhead
    obtain ⟨a, as, rfl⟩ := List.exists_cons_of_ne_nil hne
    exact ⟨c, rest ++ _, (chars_generic d head a as).trans (by rw [hn, List.cons_append]), hc⟩
  | object =>
    rename_i ps _ _
    cases ps with
    | nil => exact ⟨'\x7b', _, chars_object_nil d, rfl⟩
    | cons p ps => exact ⟨'\x7b', _, chars_object_cons d p ps, rfl⟩
  | conditional => exact ⟨'(', _, rfl, rfl⟩

/-- An operand begins with a parenthesis exactly when it needs parentheses. -/
theorem lead_eq_paren_iff {a : TypeExpr} (ha : Readable a) :
    a.lead = .paren ↔ a.needsParens = true := by
  cases ha <;> simp [lead, needsParens]

/-- Operands that begin a text in two ways begin alike. -/
theorem lead_eq {a b : TypeExpr} (ha : Readable a) (hb : Readable b) (haarray : a.isArray = false)
    (hbarray : b.isArray = false) {d k : Nat} {r s : List Char}
    (h : a.operandChars d ++ r = b.operandChars k ++ s) : a.lead = b.lead := by
  obtain ⟨c, cs, hac, hca⟩ := exists_operandChars_eq_cons ha haarray d
  obtain ⟨e, es, hbe, heb⟩ := exists_operandChars_eq_cons hb hbarray k
  rw [hac, hbe, List.cons_append, List.cons_append] at h
  rw [← hca, ← heb, (List.cons.inj h).1]

/-- Arguments are known from their text up to the angle bracket behind them. -/
theorem args_cancel {as bs : List TypeExpr} {d k : Nat} {r s : List Char} (hsep : d = k → Separated)
    (hread : ∀ a ∈ as, ReadsType a) (hbs : ∀ b ∈ bs, Readable b)
    (h : (as.flatMap fun a => comma ++ a.chars d) ++ '>' :: r =
      (bs.flatMap fun b => comma ++ b.chars k) ++ '>' :: s) :
    as = bs ∧ r = s ∧ (d = k ∨ oneLineAll as = true) := by
  have hnext (es : List TypeExpr) (n depth : Nat) (tail : List Char) :
      EndsType depth ((es.flatMap fun e => comma ++ e.chars n) ++ '>' :: tail) := by
    cases es with
    | nil => exact endsType_cons (by decide) _ _
    | cons e es => exact endsType_cons (by decide) _ _
  induction as generalizing bs with
  | nil =>
    cases bs with
    | nil => exact ⟨rfl, (List.cons.inj h).2, .inr rfl⟩
    | cons b bs => exact absurd (List.cons.inj h).1 (by decide)
  | cons a as ih =>
    cases bs with
    | nil => exact absurd (List.cons.inj h).1 (by decide)
    | cons b bs =>
      simp only [List.flatMap_cons, List.append_assoc] at h
      obtain ⟨rfl, htail, hfirst⟩ := hread a List.mem_cons_self hsep (hbs b List.mem_cons_self)
        (hnext as d k r) (hnext bs k d s) (List.append_cancel_left h)
      obtain ⟨rfl, hrest, hothers⟩ := ih (fun a ha => hread a (List.mem_cons_of_mem _ ha))
        (fun b hb => hbs b (List.mem_cons_of_mem _ hb)) htail
      refine ⟨rfl, hrest, ?_⟩
      rcases hfirst with hdepth | hfirst
      · exact .inl hdepth
      · exact hothers.imp_right fun hothers => by simp [oneLineAll, hfirst, hothers]

/-- The margin of a property ends at its key. -/
theorem exists_propertyChars_eq (d : Nat) {p : Property TypeExpr} (hp : p.comment = none) :
    ∃ c rest, propertyChars d p = margin d ++ c :: rest ∧ c ≠ ' ' ∧ c ≠ '\x7d' := by
  obtain ⟨c, key, hkey, hc⟩ := exists_printKey_eq_cons p.key
  refine ⟨c, key ++ _, by rw [propertyChars_bare d hp, hkey, List.cons_append], ?_, ?_⟩ <;>
  · rintro rfl
    exact absurd hc (by decide)

/-- A property is known from its text, and so is the depth at which it is printed. -/
theorem property_cancel {p q : Property TypeExpr} {d k : Nat} {r s : List Char}
    (hsep : d = k → Separated) (hread : ReadsType p.value) (hp : p.comment = none)
    (hq : q.comment = none) (hvalue : Readable q.value)
    (h : propertyChars d p ++ r = propertyChars k q ++ s) : p = q ∧ d = k ∧ r = s := by
  obtain ⟨b, bs, hb, hbne, -⟩ := exists_propertyChars_eq d hp
  obtain ⟨c, cs, hc, hcne, -⟩ := exists_propertyChars_eq k hq
  have hdepth := h
  rw [hb, hc, List.append_assoc, List.append_assoc] at hdepth
  obtain ⟨rfl, -⟩ := margin_cancel hbne hcne hdepth
  simp only [propertyChars_bare d hp, propertyChars_bare d hq, List.append_assoc,
    List.cons_append, List.nil_append] at h
  obtain ⟨hkey, hvalues⟩ := printKey_cancel (List.append_cancel_left h)
  obtain ⟨hsame, htail, -⟩ := hread hsep hvalue (endsType_cons (by decide) _ _)
    (endsType_cons (by decide) _ _) (List.cons.inj hvalues).2
  obtain ⟨key, value, comment⟩ := p
  obtain ⟨key', value', comment'⟩ := q
  obtain rfl : comment = none := hp
  obtain rfl : comment' = none := hq
  obtain rfl : key = key' := hkey
  obtain rfl : value = value' := hsame
  exact ⟨rfl, rfl, (List.cons.inj (List.cons.inj htail).2).2⟩

/-- Properties are known from their text up to the brace behind them, and so is the depth at which
this brace stands. -/
theorem properties_cancel {ps qs : List (Property TypeExpr)} {d k m n : Nat} {r s : List Char}
    (hsep : d = k → Separated) (hread : ∀ p ∈ ps, ReadsType p.value)
    (hps : ∀ p ∈ ps, p.comment = none) (hqs : ∀ q ∈ qs, q.comment = none)
    (hvalues : ∀ q ∈ qs, Readable q.value)
    (h : ps.flatMap (propertyChars d) ++ (margin m ++ '\x7d' :: r) =
      qs.flatMap (propertyChars k) ++ (margin n ++ '\x7d' :: s)) : ps = qs ∧ m = n ∧ r = s := by
  have hend {p : Property TypeExpr} {d m : Nat} {tail r : List Char} (hp : p.comment = none) :
      propertyChars d p ++ tail ≠ margin m ++ '\x7d' :: r := by
    intro h
    obtain ⟨c, rest, hc, hblank, hbrace⟩ := exists_propertyChars_eq d hp
    rw [hc, List.append_assoc] at h
    exact hbrace (margin_cancel hblank (by decide) h).2.1
  induction ps generalizing qs with
  | nil =>
    cases qs with
    | nil =>
      obtain ⟨hdepth, -, hrest⟩ := margin_cancel (by decide) (by decide) h
      exact ⟨rfl, hdepth, hrest⟩
    | cons q qs =>
      rw [List.flatMap_cons, List.append_assoc] at h
      exact (hend (hqs q List.mem_cons_self) h.symm).elim
  | cons p ps ih =>
    cases qs with
    | nil =>
      rw [List.flatMap_cons, List.append_assoc] at h
      exact (hend (hps p List.mem_cons_self) h).elim
    | cons q qs =>
      rw [List.flatMap_cons, List.flatMap_cons, List.append_assoc, List.append_assoc] at h
      obtain ⟨rfl, rfl, htail⟩ := property_cancel hsep (hread p List.mem_cons_self)
        (hps p List.mem_cons_self) (hqs q List.mem_cons_self) (hvalues q List.mem_cons_self) h
      obtain ⟨rfl, hdepth, hrest⟩ := ih (fun p hp => hread p (List.mem_cons_of_mem _ hp))
        (fun p hp => hps p (List.mem_cons_of_mem _ hp)) (fun q hq => hqs q (List.mem_cons_of_mem _ hq))
        (fun q hq => hvalues q (List.mem_cons_of_mem _ hq)) htail
      exact ⟨rfl, hdepth, hrest⟩

/-- A name is known from its text as an operand. -/
theorem readsOperand_name {n : String} (hn : Naming.isIdentifier n.toList = true) :
    ReadsOperand (named n) := by
  intro b d k r s _ hb hbarray hr hs h
  have hlead := lead_eq (.name hn) hb rfl hbarray h
  change (named n).chars d ++ r = _ at h
  rw [chars_name] at h
  cases hb with
  | name hm =>
    change _ = (named _).chars k ++ s at h
    rw [chars_name] at h
    obtain ⟨heq, hrest⟩ := word_cancel hn hm hr.1 hs.1 h
    exact ⟨congrArg named (String.toList_inj.mp heq), hrest, .inr rfl⟩
  | generic hm hne =>
    obtain ⟨a, as, rfl⟩ := List.exists_cons_of_ne_nil hne
    change _ = (generic _ _).chars k ++ s at h
    rw [chars_generic, List.append_assoc] at h
    obtain ⟨-, rfl⟩ := word_cancel hn hm hr.1 (by intro c hc; cases hc; decide) h
    exact (hr.2 rfl).elim
  | array => cases hbarray
  | _ => cases hlead

/-- A text literal is known from its text as an operand. -/
theorem readsOperand_text (v : String) : ReadsOperand (text v) := by
  intro b d k r s _ hb hbarray _ _ h
  have hlead := lead_eq (.text v) hb rfl hbarray h
  cases hb with
  | text w =>
    change (text v).chars d ++ r = (text w).chars k ++ s at h
    simp only [chars_text, List.cons_append, List.append_assoc, List.nil_append] at h
    obtain ⟨heq, hrest⟩ := Text.quoted_append_cancel (List.cons.inj h).2
    exact ⟨congrArg text (String.toList_inj.mp heq), hrest, .inr rfl⟩
  | array => cases hbarray
  | _ => cases hlead

/-- A generic type is known from its text as an operand if its arguments are known from theirs. -/
theorem readsOperand_generic {head : String} {args : List TypeExpr}
    (hhead : Naming.isIdentifier head.toList = true) (hne : args ≠ [])
    (hargs : ∀ a ∈ args, Readable a) (hread : ∀ a ∈ args, ReadsType a) :
    ReadsOperand (generic head args) := by
  intro b d k r s hsep hb hbarray hr hs h
  have hlead := lead_eq (.generic hhead hne hargs) hb rfl hbarray h
  have hword (r : List Char) : EndsWord ('<' :: r) := by intro c hc; cases hc; decide
  obtain ⟨a, as, rfl⟩ := List.exists_cons_of_ne_nil hne
  change (generic _ _).chars d ++ r = _ at h
  rw [chars_generic, List.append_assoc] at h
  cases hb with
  | name hm =>
    change _ = (named _).chars k ++ s at h
    rw [chars_name] at h
    obtain ⟨-, rfl⟩ := word_cancel hhead hm (hword _) hs.1 h
    exact (hs.2 rfl).elim
  | generic hm hne' hargs' =>
    obtain ⟨b, bs, rfl⟩ := List.exists_cons_of_ne_nil hne'
    change _ = (generic _ _).chars k ++ s at h
    rw [chars_generic, List.append_assoc] at h
    obtain ⟨heq, hrest⟩ := word_cancel hhead hm (hword _) (hword _) h
    have hjoined : ((a :: as).flatMap fun a => comma ++ a.chars d) ++ '>' :: r =
        ((b :: bs).flatMap fun b => comma ++ b.chars k) ++ '>' :: s := by
      simpa using (List.cons.inj hrest).2
    obtain ⟨hsame, hrest, hdepth⟩ := args_cancel hsep hread hargs' hjoined
    rw [String.toList_inj.mp heq, hsame]
    exact ⟨rfl, hrest, hdepth.imp_right fun h => by rwa [hsame] at h⟩
  | array => cases hbarray
  | _ => cases hlead

/-- An object is known from its text as an operand if its values are known from theirs. -/
theorem readsOperand_object {ps : List (Property TypeExpr)} (hvalues : ∀ p ∈ ps, Readable p.value)
    (hbare : ∀ p ∈ ps, p.comment = none) (hread : ∀ p ∈ ps, ReadsType p.value) :
    ReadsOperand (object ps) := by
  intro b d k r s hsep hb hbarray _ _ h
  have hlead := lead_eq (.object hvalues hbare) hb rfl hbarray h
  change (object ps).chars d ++ r = _ at h
  cases hb with
  | object hvalues' hbare' =>
    rename_i qs
    change _ = (object qs).chars k ++ s at h
    cases ps with
    | nil =>
      cases qs with
      | nil =>
        rw [chars_object_nil, chars_object_nil] at h
        exact ⟨rfl, List.append_cancel_left h, .inr rfl⟩
      | cons q qs =>
        rw [chars_object_nil, chars_object_cons] at h
        exact absurd (List.cons.inj (List.cons.inj h).2).1 (by decide)
    | cons p ps =>
      cases qs with
      | nil =>
        rw [chars_object_nil, chars_object_cons] at h
        exact absurd (List.cons.inj (List.cons.inj h).2).1 (by decide)
      | cons q qs =>
        rw [chars_object_cons, chars_object_cons] at h
        simp only [List.append_assoc, List.cons_append, List.nil_append] at h
        obtain ⟨hsame, hdepth, hrest⟩ := properties_cancel (fun h => hsep (Nat.succ.inj h)) hread hbare
          hbare' hvalues' (List.cons.inj (List.cons.inj h).2).2
        exact ⟨congrArg object hsame, hrest, .inl hdepth⟩
  | array => cases hbarray
  | _ => cases hlead

/-- Behind an opening parenthesis stands a type up to the closing one. -/
theorem readsOperand_of_needsParens {a : TypeExpr} (ha : Readable a) (hparens : a.needsParens = true)
    (hread : ReadsType a) : ReadsOperand a := by
  have hparen {b : TypeExpr} (hb : b.needsParens = true) (n : Nat) :
      b.operandChars n = '(' :: (b.chars n ++ [')']) := if_pos hb
  intro b d k r s hsep hb hbarray _ _ h
  have haarray : a.isArray = false := by
    cases a <;> first | rfl | cases hparens
  have hbparens : b.needsParens = true := by
    rw [← lead_eq_paren_iff hb, ← lead_eq ha hb haarray hbarray h, lead_eq_paren_iff ha, hparens]
  simp only [hparen hparens, hparen hbparens, List.append_assoc, List.cons_append,
    List.nil_append] at h
  obtain ⟨hsame, hrest, hdepth⟩ := hread hsep hb (endsType_cons (by decide) _ _)
    (endsType_cons (by decide) _ _) (List.cons.inj h).2
  exact ⟨hsame, (List.cons.inj hrest).2, hdepth⟩

/-! ## Reading members of unions -/

/-- A type that is neither a union nor a conditional type is its base and its brackets. -/
theorem chars_eq_base {a : TypeExpr} (ha : Readable a) (hunion : a.isUnion = false)
    (hconditional : a.isConditional = false) (d : Nat) :
    a.chars d = a.base.operandChars d ++ brackets a.rank := by
  cases ha with
  | array => exact chars_array_eq_base d _
  | union => cases hunion
  | conditional => cases hconditional
  | _ => exact (List.append_nil _).symm

/-- The base of a readable type is readable. -/
theorem readable_base {a : TypeExpr} (ha : Readable a) : Readable a.base := by
  induction ha with
  | array _ ih => exact ih
  | name hname => exact .name hname
  | text value => exact .text value
  | union htwo hms hflat hnext => exact .union htwo hms hflat hnext
  | generic hhead hne hargs => exact .generic hhead hne hargs
  | object hvalues hbare => exact .object hvalues hbare
  | conditional hallowed hcheck he ht hf => exact .conditional hallowed hcheck he ht hf

/-- A type has lines of its own exactly when its base has. -/
theorem oneLine_base (a : TypeExpr) : a.base.oneLine = a.oneLine := by
  induction a using TypeExpr.induction with
  | array e ih => exact ih
  | _ => rfl

/-- No member is the word before `extends`. -/
theorem brackets_ne_extends {n : Nat} {r x : List Char} (hr : endsMember r = true) :
    brackets n ++ r ≠ extendsWord ++ x := by
  intro h
  cases n with
  | zero =>
    obtain rfl : r = extendsWord ++ x := h
    cases hr
  | succ n => exact absurd (List.cons.inj h).1 (by decide)

/-- A conditional type does not begin with the text of another kind of member. -/
theorem conditional_chars_ne {check : String} {e t f b : TypeExpr} {d k : Nat} {r s : List Char}
    (hsep : d = k → Separated) (hcheck : Naming.isIdentifier check.toList = true) (hb : Readable b)
    (hunion : b.isUnion = false) (hconditional : b.isConditional = false)
    (hs : endsMember s = true) : (conditional check e t f).chars d ++ r ≠ b.chars k ++ s := by
  intro h
  have hextends (x : List Char) : EndsOperand (extendsWord ++ x) := by
    constructor
    · intro c hc
      obtain rfl : ' ' = c := Option.some.inj hc
      decide
    · intro hc
      cases Option.some.inj hc
  rw [chars_conditional, chars_eq_base hb hunion hconditional, ← chars_name d check false] at h
  simp only [List.append_assoc] at h
  obtain ⟨-, hrest, -⟩ := readsOperand_name hcheck hsep (readable_base hb) (isArray_base b) (hextends _)
    (endsOperand_brackets hs _) h
  exact brackets_ne_extends hs hrest.symm

/-- A member that is no conditional type is read from its base and its brackets. -/
theorem readsMember_of_base {a : TypeExpr} (ha : Readable a) (hunion : a.isUnion = false)
    (hconditional : a.isConditional = false) (hread : ReadsOperand a.base) : ReadsMember a := by
  intro b d k r s hsep hb hbunion hr hs h
  cases hbc : b.isConditional with
  | true =>
    cases hb with
    | conditional _ hcheck =>
      exact (conditional_chars_ne (fun h => hsep h.symm) hcheck ha hunion hconditional hr.stops h.symm).elim
    | _ => cases hbc
  | false =>
    rw [chars_eq_base ha hunion hconditional, chars_eq_base hb hbunion hbc, List.append_assoc,
      List.append_assoc] at h
    obtain ⟨hbase, hrest, hdepth⟩ := hread hsep (readable_base hb) (isArray_base b)
      (endsOperand_brackets hr.stops _) (endsOperand_brackets hs.stops _) h
    obtain ⟨hrank, hrest⟩ := brackets_cancel hr.stops hs.stops hrest
    exact ⟨eq_of_base_of_rank hbase hrank, hrest, by rwa [oneLine_base] at hdepth⟩

/-- The margins of a conditional type tell the depth at which it is printed, and with that its last
branch is compared as a type at one depth. -/
theorem readsMember_conditional {check : String} {e t f : TypeExpr}
    (hcheck : Naming.isIdentifier check.toList = true) (he : ReadsType e) (ht : ReadsType t)
    (hf : ReadsType f) : ReadsMember (conditional check e t f) := by
  intro b d k r s hsep hb hunion hr hs h
  cases hbc : b.isConditional with
  | false => exact (conditional_chars_ne hsep hcheck hb hunion hbc hs.stops h).elim
  | true =>
    cases hb with
    | conditional _ hcheck' he' ht' hf' =>
      have hword (x : List Char) : EndsWord (extendsWord ++ x) := by
        intro c hc
        obtain rfl : ' ' = c := Option.some.inj hc
        decide
      simp only [chars_conditional, List.append_assoc, List.cons_append] at h
      obtain ⟨hword, hextended⟩ := word_cancel hcheck hcheck' (hword _) (hword _) h
      obtain ⟨rfl, hwhenTrue, -⟩ := he hsep he' (endsType_cons (by decide) _ _)
        (endsType_cons (by decide) _ _) (List.append_cancel_left hextended)
      obtain ⟨hdepth, -, hwhenTrue⟩ := margin_cancel (by decide) (by decide)
        (List.cons.inj hwhenTrue).2
      obtain rfl : d = k := Nat.succ.inj hdepth
      obtain ⟨rfl, hwhenFalse, -⟩ := ht (fun _ => hsep rfl) ht' (endsType_cons (by decide) _ _)
        (endsType_cons (by decide) _ _) (List.cons.inj hwhenTrue).2
      obtain ⟨-, -, hwhenFalse⟩ := margin_cancel (by decide) (by decide)
        (List.cons.inj hwhenFalse).2
      obtain ⟨rfl, hrest, -⟩ := hf (fun _ => hsep rfl) hf' ⟨hr.stops, hr.closed rfl rfl⟩
        ⟨hs.stops, hs.closed rfl rfl⟩ (List.cons.inj hwhenFalse).2
      rw [String.toList_inj.mp hword]
      exact ⟨rfl, hrest, .inl rfl⟩
    | _ => cases hbc

/-! ## Reading types -/

/-- Members behind bars go on in a way that ends the member before them. -/
theorem endsMember_bars {ms : List TypeExpr} {d : Nat} {r : List Char} (hr : endsMember r = true) :
    endsMember ((ms.flatMap fun m => bar ++ m.chars d) ++ r) = true := by
  cases ms with
  | nil => exact hr
  | cons m ms => rfl

/-- No member behind a conditional type reads as one at a greater depth, so that none can stand in
its false branch. -/
theorem closed_bars (hsep : Separated) {m : TypeExpr} {ms : List TypeExpr} {d : Nat} {r : List Char}
    (hms : ReadableMembers (m :: ms)) (hconditional : m.isConditional = true) (hr : EndsType d r) :
    Closed (d + 1) ((ms.flatMap fun m => bar ++ m.chars d) ++ r) := by
  cases ms with
  | nil => exact hr.closed.mono (Nat.le_succ d)
  | cons n ns =>
    intro k hk o rest ho hounion hrest h
    rw [List.flatMap_cons, List.append_assoc, List.append_assoc] at h
    have honeLine := hsep (hms.tail.readable n List.mem_cons_self) ho
      (hms.tail.flat n List.mem_cons_self) hounion (endsMember_bars hr.stops) hrest (by omega)
      (List.append_cancel_left h)
    rw [(List.isChain_cons_cons.mp hms.apart).1 hconditional] at honeLine
    cases honeLine

/-- The members of a union are known from their text. -/
theorem members_cancel {ms ns : List TypeExpr} {d k : Nat} {r s : List Char}
    (hsep : d = k → Separated) (hread : ∀ m ∈ ms, ReadsMember m) (hms : ReadableMembers ms)
    (hns : ReadableMembers ns) (hr : EndsType k r) (hs : EndsType d s)
    (h : (ms.flatMap fun m => bar ++ m.chars d) ++ r = (ns.flatMap fun n => bar ++ n.chars k) ++ s) :
    ms = ns ∧ r = s ∧ (d = k ∨ oneLineAll ms = true) := by
  induction ms generalizing ns with
  | nil =>
    cases ns with
    | nil => exact ⟨rfl, h, .inr rfl⟩
    | cons n ns =>
      rw [List.flatMap_cons, List.append_assoc, List.append_assoc] at h
      exact (hr.closed k le_rfl n _ (hns.readable n List.mem_cons_self)
        (hns.flat n List.mem_cons_self) (endsMember_bars hs.stops) h).elim
  | cons m ms ih =>
    rw [List.flatMap_cons, List.append_assoc, List.append_assoc] at h
    cases ns with
    | nil =>
      exact (hs.closed d le_rfl m _ (hms.readable m List.mem_cons_self)
        (hms.flat m List.mem_cons_self) (endsMember_bars hr.stops) h.symm).elim
    | cons n ns =>
      rw [List.flatMap_cons, List.append_assoc, List.append_assoc] at h
      have hmends : EndsMember d k m ((ms.flatMap fun m => bar ++ m.chars d) ++ r) := by
        refine ⟨endsMember_bars hr.stops, fun heq hm => ?_⟩
        subst heq
        exact closed_bars (hsep rfl) hms hm hr
      have hnends : EndsMember d k n ((ns.flatMap fun n => bar ++ n.chars k) ++ s) := by
        refine ⟨endsMember_bars hs.stops, fun heq hn => ?_⟩
        subst heq
        exact closed_bars (hsep rfl) hns hn hs
      obtain ⟨rfl, htail, hfirst⟩ := hread m List.mem_cons_self hsep (hns.readable n List.mem_cons_self)
        (hns.flat n List.mem_cons_self) hmends hnends (List.append_cancel_left h)
      obtain ⟨rfl, hrest, hothers⟩ := ih (fun m hm => hread m (List.mem_cons_of_mem _ hm)) hms.tail
        hns.tail htail
      refine ⟨rfl, hrest, ?_⟩
      rcases hfirst with hdepth | hfirst
      · exact .inl hdepth
      · exact hothers.imp_right fun hothers => by simp [oneLineAll, hfirst, hothers]

/-- A type is read from its members. -/
theorem readsType_of_members {a : TypeExpr} (ha : Readable a) (hread : ∀ m ∈ a.members, ReadsMember m) :
    ReadsType a := by
  intro b d k r s hsep hb hr hs h
  have hbars := congrArg (bar ++ ·) h
  simp only [← List.append_assoc, bar_append_chars ha, bar_append_chars hb] at hbars
  obtain ⟨hmembers, hrest, hdepth⟩ := members_cancel hsep hread (readableMembers_members ha)
    (readableMembers_members hb) hr hs hbars
  exact ⟨eq_of_members ha hb hmembers, hrest, by rwa [oneLineAll_members] at hdepth⟩

/-- A type is known from its text wherever it stands: as the base of an array, as a member of a union
or by itself. -/
structure Reads (a : TypeExpr) : Prop where
  operand : ReadsOperand a.base
  member : a.isUnion = false → ReadsMember a
  type : ReadsType a

/-- What is read as a member is read as a type. -/
theorem readsType_of_member {a : TypeExpr} (ha : Readable a) (hunion : a.isUnion = false)
    (hread : ReadsMember a) : ReadsType a :=
  readsType_of_members ha (by simpa [members_of_isUnion hunion] using hread)

/-- A single type is known from its text if its base is known as an operand. -/
theorem reads_of_operand {a : TypeExpr} (ha : Readable a) (hunion : a.isUnion = false)
    (hconditional : a.isConditional = false) (hread : ReadsOperand a.base) : Reads a :=
  have hmember := readsMember_of_base ha hunion hconditional hread
  ⟨hread, fun _ => hmember, readsType_of_member ha hunion hmember⟩

/-- A readable type is known from its text, by induction on the type. -/
theorem reads {a : TypeExpr} (ha : Readable a) : Reads a := by
  induction ha with
  | name hname => exact reads_of_operand (.name hname) rfl rfl (readsOperand_name hname)
  | text value => exact reads_of_operand (.text value) rfl rfl (readsOperand_text value)
  | array he ih => exact reads_of_operand (.array he) rfl rfl ih.operand
  | union htwo hms hflat hnext ih =>
    have hread : Readable (union _) := .union htwo hms hflat hnext
    have htype := readsType_of_members hread fun m hm => (ih m hm).member (hflat m hm)
    exact ⟨readsOperand_of_needsParens hread rfl htype, nofun, htype⟩
  | generic hhead hne hargs ih =>
    exact reads_of_operand (.generic hhead hne hargs) rfl rfl
      (readsOperand_generic hhead hne hargs fun a ha => (ih a ha).type)
  | object hvalues hbare ih =>
    exact reads_of_operand (.object hvalues hbare) rfl rfl
      (readsOperand_object hvalues hbare fun p hp => (ih p hp).type)
  | conditional hallowed hcheck he ht hf ihe iht ihf =>
    have hread : Readable (conditional _ _ _ _) := .conditional hallowed hcheck he ht hf
    have hmember := readsMember_conditional hcheck ihe.type iht.type ihf.type
    have htype := readsType_of_member hread rfl hmember
    exact ⟨readsOperand_of_needsParens hread rfl htype, fun _ => hmember, htype⟩

/-- Reading at two depths needs no knowledge about members of other depths. -/
theorem separated : Separated := by
  intro a b d k r s ha hb haunion hbunion hr hs hne h
  have hagree := (reads ha).member haunion (fun heq => absurd heq hne) hb hbunion
    ⟨hr, fun heq => absurd heq hne⟩ ⟨hs, fun heq => absurd heq hne⟩ h
  exact hagree.depth.resolve_left hne

/-- Types that can be read are known from their text. -/
theorem eq_of_print_eq {a b : TypeExpr} {depth : Nat} (ha : Readable a) (hb : Readable b)
    (h : a.print depth = b.print depth) : a = b :=
  ((reads ha).type (fun _ => separated) hb (endsType_nil depth) (endsType_nil depth)
    (congrArg (fun text => text.toList ++ []) h)).type

/-! ## Types without conditional types -/

/-- A type that is well formed is so under weaker conditions. -/
theorem WellFormed.mono {conditionals conditionals' : Prop}
    {neighbours neighbours' : TypeExpr → TypeExpr → Prop} (hconditionals : conditionals → conditionals')
    (hneighbours : ∀ m n, WellFormed conditionals neighbours m → neighbours m n → neighbours' m n)
    {e : TypeExpr} (h : WellFormed conditionals neighbours e) :
    WellFormed conditionals' neighbours' e := by
  induction h with
  | name hname => exact .name hname
  | text value => exact .text value
  | array _ ih => exact .array ih
  | union htwo hms hflat hnext ih =>
    refine .union htwo ih hflat ?_
    exact hnext.imp_of_mem_imp fun m n hm _ h => hneighbours m n (hms m hm) h
  | generic hhead hne _ ih => exact .generic hhead hne ih
  | object _ hbare ih => exact .object ih hbare
  | conditional hallowed hcheck _ _ _ ihe iht ihf =>
    exact .conditional (hconditionals hallowed) hcheck ihe iht ihf

/-- Types without conditional types. -/
abbrev Unconditional : TypeExpr → Prop := WellFormed False fun _ _ => True

/-- Types without conditional ones are readable. -/
theorem readable_of_unconditional {e : TypeExpr} (h : Unconditional e) : Readable e := by
  refine h.mono False.elim fun m n hm _ hconditional => ?_
  cases hm with
  | conditional hallowed => exact hallowed.elim
  | _ => cases hconditional

/-- Types without conditional types are printed alike at some depth only if they are the same. -/
theorem print_eq_print_iff {a b : TypeExpr} (ha : Unconditional a) (hb : Unconditional b)
    (depth : Nat) : a.print depth = b.print depth ↔ a = b :=
  ⟨eq_of_print_eq (readable_of_unconditional ha) (readable_of_unconditional hb),
    congrArg (print depth)⟩

/-- An array of a union is not printed as a union with an array. -/
theorem print_array_union_ne : (array (union [named "A", text "B"])).print 0 ≠
    (union [named "A", array (text "B")]).print 0 := by
  have hA : Unconditional (named "A") := .name (by decide)
  have hB : Unconditional (text "B") := .text "B"
  have hunion : Unconditional (union [named "A", text "B"]) :=
    .union (by decide) (by simp [hA, hB]) (by decide) (by simp)
  have hlast : Unconditional (union [named "A", array (text "B")]) :=
    .union (by decide) (by simp [hA, hB.array]) (by decide) (by simp)
  exact fun h => nomatch (print_eq_print_iff hunion.array hlast 0).mp h

end TableTypes.TypeScript.TypeExpr
