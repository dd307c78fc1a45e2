import Mathlib.Data.List.Infix
import TableTypes.Sql.Render
import TableTypes.Text.Lines
import TableTypes.Unicode.CaseMap

/-!
# Words that a text mentions

A text is searched for a word after it has been put in capitals. Where two texts meet at a sign that
is not part of the word, the word is mentioned by both of them together exactly when one of them
mentions it.
-/

namespace TableTypes

/-! ## Parts of a list -/

/-- A text is searched for a part of it. -/
theorem Text.contains_iff_infix {part cs : List Char} : contains part cs = true ↔ part <:+: cs := by
  induction cs with
  | nil => simp [contains]
  | cons c rest ih =>
    rw [contains, Bool.or_eq_true, ih, List.isPrefixOf_iff_prefix, List.infix_cons_iff]

/-- A part without a sign that begins a text ends before the sign. -/
theorem prefix_of_prefix_append_cons {part after : List Char} {sign : Char} (hsign : sign ∉ part)
    (before : List Char) (h : part <+: before ++ sign :: after) : part <+: before := by
  rcases List.prefix_or_prefix_of_prefix h (List.prefix_append before _) with hpart | ⟨rest, rfl⟩
  · exact hpart
  · rw [List.prefix_append_right_inj] at h
    cases rest with
    | nil => simp
    | cons c rest =>
      obtain ⟨rfl, -⟩ := List.cons_prefix_cons.mp h
      simp at hsign

/-- A part without a sign occurs on one side of it. -/
theorem infix_append_cons_iff {part : List Char} {sign : Char} (hsign : sign ∉ part)
    (before after : List Char) :
    part <:+: before ++ sign :: after ↔ part <:+: before ∨ part <:+: after := by
  induction before with
  | nil =>
    rw [List.nil_append, List.infix_cons_iff, List.infix_nil]
    refine or_congr_left' fun _ => ⟨fun h => ?_, fun h => h ▸ List.nil_prefix⟩
    exact List.prefix_nil.mp (prefix_of_prefix_append_cons hsign [] h)
  | cons c before ih =>
    rw [List.cons_append, List.infix_cons_iff, ih, List.infix_cons_iff, or_assoc]
    refine or_congr_left ⟨fun h => ?_, fun h => h.trans (List.prefix_append (c :: before) _)⟩
    exact prefix_of_prefix_append_cons hsign (c :: before) h

/-! ## Words in capitals -/

/-- Two texts are put in capitals one by one. -/
theorem Unicode.toList_uppercase_append (s t : String) :
    (uppercase (s ++ t)).toList = (uppercase s).toList ++ (uppercase t).toList := by
  simp [uppercase]

/-- A text has a word in it when it is put in capitals. -/
def HasWord (word s : String) : Prop :=
  word.toList <:+: (Unicode.uppercase s).toList

instance (word s : String) : Decidable (HasWord word s) :=
  inferInstanceAs (Decidable (_ <:+: _))

/-- A sign which is the same in capitals and not in a word. -/
def parts (word : String) (sign : Char) : Bool :=
  Unicode.toUpper sign = [sign] && !word.toList.contains sign

/-- Whether two texts meet at a sign that is not in a word: the last one of the first text or the
first one of the second text, unless one of the texts is empty. -/
def meetApart (word s t : String) : Bool :=
  s.toList.getLast?.all (parts word) || t.toList.head?.all (parts word)

section

variable {word s t : String}

/-- A text mentions a word exactly when the search in its capitals finds it. -/
theorem hasWord_iff_contains :
    Text.contains word.toList (Unicode.uppercase s).toList = true ↔ HasWord word s :=
  Text.contains_iff_infix

/-- A mention stays with more text before it. -/
theorem HasWord.append_left (h : HasWord word t) (s : String) : HasWord word (s ++ t) := by
  rw [HasWord, Unicode.toList_uppercase_append]
  exact h.trans (List.suffix_append _ _).isInfix

/-- A mention stays with more text behind it. -/
theorem HasWord.append_right (h : HasWord word s) (t : String) : HasWord word (s ++ t) := by
  rw [HasWord, Unicode.toList_uppercase_append]
  exact h.trans (List.prefix_append _ _).isInfix

/-- Around a sign outside of a word two texts mention it exactly when one of them does. -/
theorem hasWord_around_iff {sign : String} {c : Char} (hsign : sign.toList = [c])
    (hc : parts word c = true) (s t : String) :
    HasWord word (s ++ sign ++ t) ↔ HasWord word s ∨ HasWord word t := by
  obtain ⟨hupper, hword⟩ : Unicode.toUpper c = [c] ∧ c ∉ word.toList := by simpa [parts] using hc
  have hcapitals : (Unicode.uppercase (s ++ sign ++ t)).toList =
      (Unicode.uppercase s).toList ++ c :: (Unicode.uppercase t).toList := by
    simp [Unicode.uppercase, hsign, hupper]
  rw [HasWord, hcapitals]
  exact infix_append_cons_iff hword _ _

/-- Texts that meet at a sign outside of a word mention it exactly when one of them does. -/
theorem hasWord_append_iff (h : meetApart word s t = true) :
    HasWord word (s ++ t) ↔ HasWord word s ∨ HasWord word t := by
  refine ⟨fun hboth => ?_, fun h => h.elim (.append_right · t) (.append_left · s)⟩
  rcases Bool.or_eq_true_iff.mp h with hlast | hhead
  · rcases List.eq_nil_or_concat' s.toList with hs | ⟨front, c, hs⟩
    · obtain rfl := String.toList_eq_nil_iff.mp hs
      exact .inr (by simpa using hboth)
    · have hc : parts word c = true := by simpa [hs] using hlast
      have heq : s = String.ofList front ++ String.singleton c := by simp [← String.toList_inj, hs]
      rw [heq] at hboth ⊢
      refine ((hasWord_around_iff (String.toList_singleton c) hc _ t).mp hboth).imp_left ?_
      exact fun h => h.append_right _
  · cases ht : t.toList with
    | nil =>
      obtain rfl := String.toList_eq_nil_iff.mp ht
      exact .inl (by simpa using hboth)
    | cons c rest =>
      have hc : parts word c = true := by simpa [ht] using hhead
      have heq : t = String.singleton c ++ String.ofList rest := by simp [← String.toList_inj, ht]
      rw [heq] at hboth ⊢
      rw [← String.append_assoc] at hboth
      refine ((hasWord_around_iff (String.toList_singleton c) hc s _).mp hboth).imp_right ?_
      exact fun h => h.append_left _

/-- A text ends with a sign that is not in a word. -/
def endsApart (word s : String) : Bool :=
  s.toList.getLast?.any (parts word)

/-- A text begins with a sign that is not in a word. -/
def startsApart (word s : String) : Bool :=
  s.toList.head?.any (parts word)

/-- No mention goes across a meeting point behind a sign that is not in the word. -/
theorem hasWord_append_of_endsApart (h : endsApart word s = true) :
    HasWord word (s ++ t) ↔ HasWord word s ∨ HasWord word t := by
  refine hasWord_append_iff (Bool.or_eq_true_iff.mpr (.inl ?_))
  cases hlast : s.toList.getLast? with
  | none => rfl
  | some c => simpa [endsApart, hlast] using h

/-- No mention goes across a meeting point before a sign that is not in the word. -/
theorem hasWord_append_of_startsApart (h : startsApart word t = true) :
    HasWord word (s ++ t) ↔ HasWord word s ∨ HasWord word t := by
  refine hasWord_append_iff (Bool.or_eq_true_iff.mpr (.inr ?_))
  cases hhead : t.toList.head? with
  | none => rfl
  | some c => simpa [startsApart, hhead] using h

/-- What stands behind a text makes no difference to how it begins. -/
theorem startsApart_append (h : startsApart word s = true) (t : String) :
    startsApart word (s ++ t) = true := by
  cases hs : s.toList with
  | nil => simp [startsApart, hs] at h
  | cons c rest => simpa [startsApart, hs] using h

/-- The empty text mentions only the empty word. -/
theorem hasWord_empty_iff : HasWord word "" ↔ word = "" := by
  simp [HasWord, Unicode.uppercase]

/-- A word is not mentioned by keywords before a text that it is no part of. -/
theorem hasWord_keyword_append {keyword : String} (hends : endsApart word keyword = true)
    (hnone : ¬HasWord word keyword) (s : String) :
    HasWord word (keyword ++ s) ↔ HasWord word s := by
  rw [hasWord_append_of_endsApart hends, or_iff_right hnone]

/-- A word is not mentioned by keywords behind a text that it is no part of. -/
theorem hasWord_append_keyword {keyword : String} (hstarts : startsApart word keyword = true)
    (hnone : ¬HasWord word keyword) (s : String) :
    HasWord word (s ++ keyword) ↔ HasWord word s := by
  rw [hasWord_append_of_startsApart hstarts, or_iff_left hnone]

end

end TableTypes
