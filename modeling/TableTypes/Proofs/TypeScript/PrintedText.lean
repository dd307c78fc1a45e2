import TableTypes.Proofs.Text.Quoted
import TableTypes.TypeScript.Printer

/-!
# The characters of printed types

What the text of each kind of type expression looks like, character by character. Words, quoted texts
and margins are known from what they are followed by: a word ends where no letter comes, and a margin
where the line begins.
-/

namespace TableTypes.TypeScript

/-! ## Words and margins -/

/-- A run of characters of one kind ends at the first character of another kind. -/
theorem append_cancel {p : Char → Bool} {cs ds r s : List Char} (hcs : ∀ c ∈ cs, p c = true)
    (hds : ∀ d ∈ ds, p d = true) (hr : ∀ c ∈ r.head?, p c = false)
    (hs : ∀ c ∈ s.head?, p c = false) (h : cs ++ r = ds ++ s) : cs = ds ∧ r = s := by
  have hrest {rest : List Char} (hrest : ∀ c ∈ rest.head?, p c = false) :
      rest.takeWhile p = [] := by
    cases rest with
    | nil => rfl
    | cons c rest => simp [hrest c rfl]
  have hrun := congrArg (List.takeWhile p) h
  rw [List.takeWhile_append_of_pos hcs, List.takeWhile_append_of_pos hds, hrest hr, hrest hs,
    List.append_nil, List.append_nil] at hrun
  subst hrun
  exact ⟨rfl, List.append_cancel_left h⟩

/-- The characters of a plain identifier. -/
theorem continuesIdentifier_of_isIdentifier {cs : List Char} (h : Naming.isIdentifier cs = true) :
    ∀ c ∈ cs, Naming.continuesIdentifier c = true := by
  cases cs with
  | nil => simp
  | cons first rest =>
    simp only [Naming.isIdentifier, Bool.and_eq_true, List.all_eq_true] at h
    intro c hc
    rcases List.mem_cons.mp hc with rfl | hc
    · have hstart := h.1
      simp only [Naming.startsIdentifier, Bool.or_eq_true] at hstart
      rcases hstart with (hletter | hmark) | hmark
      · simp [Naming.continuesIdentifier, Char.isAlphanum, hletter]
      · simp [Naming.continuesIdentifier, hmark]
      · simp [Naming.continuesIdentifier, hmark]
    · exact h.2 c hc

/-- Whether a text goes on behind a word with something that cannot belong to it. -/
def EndsWord (r : List Char) : Prop :=
  ∀ c ∈ r.head?, Naming.continuesIdentifier c = false

/-- A word is known from what it is followed by. -/
theorem word_cancel {cs ds r s : List Char} (hcs : Naming.isIdentifier cs = true)
    (hds : Naming.isIdentifier ds = true) (hr : EndsWord r) (hs : EndsWord s)
    (h : cs ++ r = ds ++ s) : cs = ds ∧ r = s :=
  append_cancel (continuesIdentifier_of_isIdentifier hcs)
    (continuesIdentifier_of_isIdentifier hds) hr hs h

/-- The blanks before a line at a nesting depth. -/
def margin (depth : Nat) : List Char :=
  List.replicate (2 * depth) ' '

/-- The blanks of an indent are its margin. -/
theorem toList_indent (depth : Nat) : (indent depth).toList = margin depth :=
  String.toList_ofList

/-- A margin is known from the first character behind it. -/
theorem margin_cancel {d k : Nat} {b c : Char} {r s : List Char} (hb : b ≠ ' ') (hc : c ≠ ' ')
    (h : margin d ++ b :: r = margin k ++ c :: s) : d = k ∧ b = c ∧ r = s := by
  have hblank (n : Nat) : ∀ c ∈ margin n, (c == ' ') = true := by
    intro c hc
    simp [List.eq_of_mem_replicate hc]
  have hcancel := append_cancel (p := (· == ' ')) (hblank d) (hblank k) (by simp [hb]) (by simp [hc]) h
  have hlength := congrArg List.length hcancel.1
  simp only [margin, List.length_replicate] at hlength
  exact ⟨by omega, List.cons.inj hcancel.2⟩

/-! ## Property keys -/

/-- A key is printed as it is, or between quotes. -/
theorem toList_printKey (key : String) :
    (printKey key).toList = if Naming.isIdentifier key.toList then key.toList
      else '"' :: (key.toList.flatMap Text.escapeChar ++ ['"']) := by
  unfold printKey
  split
  · rfl
  · simp [Text.quote]

/-- A key begins with a letter, a mark of identifiers or a quote. -/
theorem exists_printKey_eq_cons (key : String) :
    ∃ c rest, (printKey key).toList = c :: rest ∧ (Naming.startsIdentifier c = true ∨ c = '"') := by
  rw [toList_printKey]
  split
  next h =>
    cases hkey : key.toList with
    | nil => simp [hkey, Naming.isIdentifier] at h
    | cons c rest =>
      simp only [hkey, Naming.isIdentifier, Bool.and_eq_true] at h
      exact ⟨c, rest, rfl, .inl h.1⟩
  next => exact ⟨'"', _, rfl, .inr rfl⟩

/-- A key is known from the colon behind it, whether it is quoted or not. -/
theorem printKey_cancel {key other : String} {r s : List Char}
    (h : (printKey key).toList ++ ':' :: r = (printKey other).toList ++ ':' :: s) :
    key = other ∧ r = s := by
  have hcolon (r : List Char) : EndsWord (':' :: r) := by
    intro c hc
    cases hc
    decide
  have hquote {cs r s : List Char} (hcs : Naming.isIdentifier cs = true)
      (h : cs ++ r = '"' :: s) : False := by
    cases cs with
    | nil => cases hcs
    | cons c cs =>
      obtain rfl : c = '"' := (List.cons.inj h).1
      simp only [Naming.isIdentifier, Bool.and_eq_true] at hcs
      exact absurd hcs.1 (by decide)
  rw [toList_printKey, toList_printKey] at h
  by_cases hkey : Naming.isIdentifier key.toList = true
  · rw [if_pos hkey] at h
    by_cases hother : Naming.isIdentifier other.toList = true
    · rw [if_pos hother] at h
      obtain ⟨heq, hrest⟩ := word_cancel hkey hother (hcolon r) (hcolon s) h
      exact ⟨String.toList_inj.mp heq, (List.cons.inj hrest).2⟩
    · rw [if_neg hother] at h
      exact (hquote hkey h).elim
  · rw [if_neg hkey] at h
    by_cases hother : Naming.isIdentifier other.toList = true
    · rw [if_pos hother] at h
      exact (hquote hother h.symm).elim
    · rw [if_neg hother] at h
      simp only [List.cons_append, List.append_assoc, List.nil_append, List.cons.injEq,
        true_and] at h
      obtain ⟨heq, hrest⟩ := Text.quoted_append_cancel h
      exact ⟨String.toList_inj.mp heq, (List.cons.inj hrest).2⟩

/-! ## Type expressions -/

/-- What stands between two members of a union. -/
def bar : List Char := [' ', '|', ' ']

/-- What stands between two arguments of a generic type. -/
def comma : List Char := [',', ' ']

/-- What stands between the checked type of a conditional type and the type that it is compared with. -/
def extendsWord : List Char := [' ', 'e', 'x', 't', 'e', 'n', 'd', 's', ' ']

attribute [local simp] TypeExpr.print printAll printProperties printProperty

/-- Types are printed one by one. -/
theorem printAll_eq_map (depth : Nat) (es : List TypeExpr) :
    printAll depth es = es.map (TypeExpr.print depth) := by
  induction es with
  | nil => rfl
  | cons e es ih => rw [printAll, ih, List.map_cons]

/-- Joined texts are the first one and then each other one behind the separator. -/
theorem intercalate_cons {α : Type} (sep first : List α) (rest : List (List α)) :
    sep.intercalate (first :: rest) = first ++ rest.flatMap (sep ++ ·) := by
  induction rest generalizing first with
  | nil => simp
  | cons second rest ih => rw [List.intercalate_cons_cons, ih]; simp

namespace TypeExpr

/-- The characters of a type on a line of the given depth. -/
def chars (depth : Nat) (e : TypeExpr) : List Char :=
  (e.print depth).toList

/-- The characters of a property with its margin. -/
def propertyChars (depth : Nat) (p : Property TypeExpr) : List Char :=
  (printProperty depth p).toList

variable (d : Nat)

/-- A name is printed as it is. -/
theorem chars_name (n : String) (isTable : Bool) : (name n isTable).chars d = n.toList := by
  rw [chars, print]

/-- A text is printed between quotes with its signs escaped. -/
theorem chars_text (value : String) :
    (text value).chars d = '"' :: (value.toList.flatMap Text.escapeChar ++ ['"']) := by
  simp [chars, Literal.print, Text.quote]

/-- Members are printed with a bar before each but the first. -/
theorem chars_union (m : TypeExpr) (ms : List TypeExpr) :
    (union (m :: ms)).chars d = m.chars d ++ ms.flatMap fun m => bar ++ m.chars d := by
  rw [chars, print, printAll_eq_map, String.toList_intercalate, List.map_map, List.map_cons,
    intercalate_cons, List.flatMap_map]
  rfl

/-- Arguments are printed between angle brackets with commas. -/
theorem chars_generic (head : String) (a : TypeExpr) (as : List TypeExpr) :
    (generic head (a :: as)).chars d =
      head.toList ++ '<' :: (a.chars d ++ ((as.flatMap fun a => comma ++ a.chars d) ++ ['>'])) := by
  rw [chars, print, printAll_eq_map, String.toList_append, String.toList_append,
    String.toList_append, String.toList_intercalate, List.map_map, List.map_cons,
    intercalate_cons, List.flatMap_map]
  simp [chars, comma]

/-- The branches of a conditional type are printed on lines of their own, one step deeper. -/
theorem chars_conditional (check : String) (e t f : TypeExpr) :
    (conditional check e t f).chars d = check.toList ++ (extendsWord ++ (e.chars d ++
      '\n' :: (margin (d + 1) ++ '?' :: ' ' :: (t.chars (d + 1) ++
      '\n' :: (margin (d + 1) ++ ':' :: ' ' :: f.chars (d + 1)))))) := by
  simp [chars, toList_indent, extendsWord]

/-- An object without properties is a pair of braces. -/
theorem chars_object_nil : (object []).chars d = ['\x7b', '\x7d'] := by
  simp [chars]

/-- Properties are printed one by one. -/
theorem toList_printProperties (ps : List (Property TypeExpr)) :
    (printProperties d ps).toList = ps.flatMap (propertyChars d) := by
  induction ps with
  | nil => simp
  | cons p ps ih => rw [printProperties, String.toList_append, ih, List.flatMap_cons, propertyChars]

/-- The properties of an object are printed between its braces, one step deeper. -/
theorem chars_object_cons (p : Property TypeExpr) (ps : List (Property TypeExpr)) :
    (object (p :: ps)).chars d =
      '\x7b' :: '\n' :: ((p :: ps).flatMap (propertyChars (d + 1)) ++ (margin d ++ ['\x7d'])) := by
  rw [← toList_printProperties]
  simp [chars, toList_indent]

/-- A property without a comment stands on a line of its own. -/
theorem propertyChars_bare {p : Property TypeExpr} (h : p.comment = none) :
    propertyChars d p = margin d ++ ((printKey p.key).toList ++
      ':' :: ' ' :: (p.value.chars d ++ [';', '\n'])) := by
  obtain ⟨key, value, comment⟩ := p
  obtain rfl : comment = none := h
  simp [propertyChars, chars, toList_indent]

/-! ## Arrays -/

/-- The characters of a type as the element of an array, with the parentheses that it needs. -/
def operandChars (e : TypeExpr) : List Char :=
  if e.needsParens then '(' :: (e.chars d ++ [')']) else e.chars d

/-- Some pairs of brackets. -/
def brackets : Nat → List Char
  | 0 => []
  | n + 1 => '[' :: ']' :: brackets n

/-- One pair of brackets more stands behind the others. -/
theorem brackets_append (n : Nat) : brackets n ++ ['[', ']'] = brackets (n + 1) := by
  induction n with
  | zero => rfl
  | succ n ih =>
    rw [brackets, List.cons_append, List.cons_append, ih]
    rfl

/-- The type that is left of an array once all its brackets are taken away. -/
def base : TypeExpr → TypeExpr
  | array e => e.base
  | e => e

/-- How many pairs of brackets stand behind the base of a type. -/
def rank : TypeExpr → Nat
  | array e => e.rank + 1
  | _ => 0

/-- Whether a type is an array. -/
def isArray : TypeExpr → Bool
  | array _ => true
  | _ => false

/-- An array is printed as its element with brackets behind it. -/
theorem chars_array (e : TypeExpr) : (array e).chars d = e.operandChars d ++ ['[', ']'] := by
  rw [chars, print, operandChars]
  split <;> simp [chars]

/-- A type that is no array is its own base. -/
theorem base_of_isArray {e : TypeExpr} (h : e.isArray = false) : e.base = e := by
  cases e <;> first | rfl | cases h

/-- A type that is no array has no brackets. -/
theorem rank_of_isArray {e : TypeExpr} (h : e.isArray = false) : e.rank = 0 := by
  cases e <;> first | rfl | cases h

/-- The base of an array is none. -/
theorem isArray_base (e : TypeExpr) : e.base.isArray = false := by
  induction e using TypeExpr.induction with
  | array e ih => exact ih
  | _ => rfl

/-- An array is the text of its base, in parentheses if need be, and then its brackets. -/
theorem chars_array_eq_base (e : TypeExpr) :
    (array e).chars d = e.base.operandChars d ++ brackets (e.rank + 1) := by
  induction e using TypeExpr.induction with
  | array e ih =>
    have hoperand : (array e).operandChars d = (array e).chars d := if_neg (by simp [needsParens])
    rw [chars_array, hoperand, ih, List.append_assoc, brackets_append]
    rfl
  | _ => rw [chars_array]; rfl

/-- A type is known from its base and the number of its brackets. -/
theorem eq_of_base_of_rank {a b : TypeExpr} (hbase : a.base = b.base) (hrank : a.rank = b.rank) :
    a = b := by
  have hother {a b : TypeExpr} (ha : a.isArray = false) (hbase : a.base = b.base)
      (hrank : a.rank = b.rank) : a = b := by
    cases hb : b.isArray with
    | false => rwa [base_of_isArray ha, base_of_isArray hb] at hbase
    | true =>
      rw [rank_of_isArray ha] at hrank
      cases b <;> simp_all [isArray, rank]
  induction a using TypeExpr.induction generalizing b with
  | array e ih =>
    cases b with
    | array f =>
      have hbase' : e.base = f.base := hbase
      have hrank' : e.rank = f.rank := Nat.succ.inj hrank
      rw [ih hbase' hrank']
    | _ => exact absurd hrank (Nat.succ_ne_zero _)
  | _ => exact hother rfl hbase hrank

end TypeExpr

end TableTypes.TypeScript
