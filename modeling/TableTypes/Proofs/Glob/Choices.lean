import Mathlib.Data.List.Induction
import TableTypes.Glob.Match
import TableTypes.Glob.Parser

/-!
# Plain globs and choices between them

A plain glob has no signs but stars and question marks: it is read character by character, by itself
and as a branch of a choice. Two stars that stand alone are read as directories; they match every
text then as two single stars do. Main statements: plain globs and choices between them can be read,
and a choice matches what one of its branches matches.
-/

namespace TableTypes.Glob

/-- Whether a character is no sign of a glob, or a star or a question mark. -/
def IsPlain (c : Char) : Prop :=
  c ∉ ['[', '\x7b', '\x7d', ',', '\\', '/']

instance (c : Char) : Decidable (IsPlain c) :=
  inferInstanceAs (Decidable (_ ∉ _))

/-- What a plain character is read as. -/
def tokenOf (c : Char) : Token :=
  if c = '?' then .anyOne else if c = '*' then .anyMany else .literal c

/-- A character of a plain glob stands for no directories. -/
theorem tokenOf_ne_leadingDirs (c : Char) : tokenOf c ≠ .leadingDirs := by
  unfold tokenOf
  split
  · exact Token.noConfusion
  · split <;> exact Token.noConfusion

/-! ## Steps of the reader -/

/-- The reader after a plain character. -/
def Reader.read (r : Reader) (c : Char) : Reader :=
  { r.push (tokenOf c) with previous := some c }

/-- Plain characters go to the present branch. -/
@[simp] theorem Reader.top_foldl_read (r : Reader) (cs : List Char) :
    (cs.foldl read r).top =
      { r.top with present := (cs.map tokenOf).reverse ++ r.top.present } := by
  induction cs generalizing r with
  | nil => rfl
  | cons c cs ih => simp [ih, read, push]

/-- Plain characters leave the choices around the present one as they are. -/
@[simp] theorem Reader.outer_foldl_read (r : Reader) (cs : List Char) :
    (cs.foldl read r).outer = r.outer := by
  induction cs generalizing r with
  | nil => rfl
  | cons c cs ih => rw [List.foldl_cons, ih]; rfl

/-- The present branch has begun with a plain character, or it has not begun. -/
def Reader.Settled (r : Reader) : Prop :=
  r.top.present = [] ∨ ∀ c ∈ r.previous, IsPlain c

/-- After a plain character the present branch has begun with one. -/
theorem Reader.settled_read (r : Reader) {c : Char} (hc : IsPlain c) : (r.read c).Settled :=
  .inr fun d hd => by
    obtain rfl : c = d := Option.some.inj hd
    exact hc

/-- A plain character is read by itself unless it is the first of two stars. -/
theorem Reader.step_of_isPlain (r : Reader) {c : Char} (hc : IsPlain c) {rest : List Char}
    (hstars : c = '*' → rest.head? ≠ some '*') : r.step c rest = .ok (r.read c, rest) := by
  unfold step
  split
  case h_1 => rfl
  case h_2 =>
    split
    · simp at hstars
    · rfl
  case h_8 hquestion hstar _ _ _ _ _ =>
    rw [read, tokenOf, if_neg hquestion, if_neg hstar]
  -- The signs of brackets, choices and escapes are left, which are not plain.
  all_goals exact absurd hc (by decide)

/-- Two stars are read as two single ones in a branch that has begun, and before a character that is
no slash. -/
theorem Reader.step_stars {r : Reader} (hr : r.Settled) {rest : List Char}
    (hslash : rest.head? ≠ some '/') (hend : rest = [] → r.top.present ≠ []) :
    r.step '*' ('*' :: rest) = .ok ((r.read '*').read '*', rest) := by
  have hplain : r.twoStars rest = ((r.read '*').read '*', rest) := by
    unfold twoStars
    dsimp only
    split
    · next hempty =>
      have hempty : r.top.present = [] := List.isEmpty_iff.mp hempty
      split
      · exact absurd hempty (hend rfl)
      · simp at hslash
      · rfl
    · next hbegun =>
      have hprevious := hr.resolve_left (by simpa using hbegun)
      have hother (c : Char) (hc : ¬IsPlain c) : r.previous ≠ some c :=
        fun h => hc (hprevious c h)
      rw [if_pos (by simp [hother '/' (by decide), hother ',' (by decide),
        hother '\x7b' (by decide)])]
      rfl
  rw [step, hplain]

/-! ## Runs of the reader -/

/-- With fuel for all characters the reader comes from one state to another, with fuel for all that
is left. -/
def Reads (r : Reader) (cs : List Char) (s : Reader) (rest : List Char) : Prop :=
  ∀ fuel, cs.length < fuel → ∃ left, rest.length < left ∧ r.run fuel cs = s.run left rest

/-- Without a step the reader is where it was. -/
theorem Reads.refl (r : Reader) (cs : List Char) : Reads r cs r cs :=
  fun fuel hfuel => ⟨fuel, hfuel, rfl⟩

/-- What is read in two goes is read in one. -/
theorem Reads.trans {r s t : Reader} {cs ds es : List Char} (h : Reads r cs s ds)
    (h' : Reads s ds t es) : Reads r cs t es := by
  intro fuel hfuel
  obtain ⟨left, hleft, hrun⟩ := h fuel hfuel
  obtain ⟨left', hleft', hrun'⟩ := h' left hleft
  exact ⟨left', hleft', hrun.trans hrun'⟩

/-- A step takes one character at least, so one unit of fuel is enough for it. -/
theorem Reads.of_step {r s : Reader} {c : Char} {rest left : List Char}
    (hstep : r.step c rest = .ok (s, left)) (hleft : left.length ≤ rest.length) :
    Reads r (c :: rest) s left := by
  intro fuel hfuel
  cases fuel with
  | zero => exact absurd hfuel (Nat.not_lt_zero _)
  | succ fuel =>
    rw [List.length_cons] at hfuel
    exact ⟨fuel, by omega, by rw [Reader.run, hstep]⟩

/-- Plain characters are read one by one up to the end of the glob or of the branch, unless they are
nothing but two stars. -/
theorem reads_plain {cs rest : List Char} (hcs : ∀ c ∈ cs, IsPlain c)
    (hrest : ∀ c ∈ rest.head?, c = ',' ∨ c = '\x7d') {r : Reader} (hr : r.Settled)
    (hstars : rest = [] → cs = ['*', '*'] → r.top.present ≠ []) :
    Reads r (cs ++ rest) (cs.foldl Reader.read r) rest := by
  have hstar : rest.head? ≠ some '*' := fun h => by simpa using hrest '*' h
  have hslash : rest.head? ≠ some '/' := fun h => by simpa using hrest '/' h
  -- Two stars are read in one step, so the induction takes two characters at a time.
  induction cs using List.twoStepInduction generalizing r with
  | nil => exact .refl r rest
  | singleton c =>
    exact .of_step (r.step_of_isPlain (hcs c (by simp)) fun _ => hstar) (Nat.le_refl _)
  | cons_cons c d cs ih ih' =>
    obtain ⟨hc, hd, htail⟩ : IsPlain c ∧ IsPlain d ∧ ∀ c ∈ cs, IsPlain c := by
      simpa only [List.forall_mem_cons] using hcs
    by_cases hpair : c = '*' ∧ d = '*'
    · obtain ⟨rfl, rfl⟩ := hpair
      have hstep : r.step '*' ('*' :: (cs ++ rest)) = .ok ((r.read '*').read '*', cs ++ rest) := by
        refine Reader.step_stars hr ?_ fun hnil => ?_
        · cases cs with
          | nil => exact hslash
          | cons c cs =>
            rintro ⟨rfl⟩
            exact absurd (htail '/' (by simp)) (by decide)
        · obtain ⟨rfl, rfl⟩ := List.append_eq_nil_iff.mp hnil
          exact hstars rfl rfl
      refine (Reads.of_step hstep (by simp)).trans ?_
      exact ih htail (Reader.settled_read _ (by decide)) fun _ _ => List.cons_ne_nil _ _
    · have hstep : r.step c (d :: (cs ++ rest)) = .ok (r.read c, d :: (cs ++ rest)) := by
        refine r.step_of_isPlain hc ?_
        rintro rfl hhead
        exact hpair ⟨rfl, Option.some.inj hhead⟩
      refine (Reads.of_step hstep (Nat.le_refl _)).trans ?_
      exact ih' d (List.forall_mem_cons.mpr ⟨hd, htail⟩) (r.settled_read hc)
        fun _ _ => List.cons_ne_nil _ _

/-- The branches of a choice are read one after the other. -/
theorem reads_branches {first : List Char} {others : List (List Char)}
    (hplain : ∀ cs ∈ first :: others, ∀ c ∈ cs, IsPlain c) (rest : List Char) {r : Reader}
    (hpresent : r.top.present = []) (hopen : r.inChoice = true) :
    ∃ s, Reads r ([','].intercalate (first :: others) ++ '\x7d' :: rest) s ('\x7d' :: rest) ∧
      s.top.toList = r.top.finished.reverse ++ (first :: others).map (·.map tokenOf) ∧
      s.outer = r.outer := by
  induction others generalizing first r with
  | nil =>
    refine ⟨first.foldl Reader.read r, ?_, ?_, r.outer_foldl_read first⟩
    · rw [List.intercalate_singleton]
      exact reads_plain (hplain first (by simp)) (by simp) (.inl hpresent) (by simp)
    · simp [Branches.toList, hpresent]
  | cons second others ih =>
    obtain ⟨hfirst, hothers⟩ := List.forall_mem_cons.mp hplain
    have hinside : (first.foldl Reader.read r).inChoice = true := by
      rwa [Reader.inChoice, r.outer_foldl_read first]
    obtain ⟨s, hs, hbranches, houter⟩ := ih hothers
      (r := { (first.foldl Reader.read r).comma with previous := some ',' })
      (by rw [Reader.comma, if_pos hinside]) (by rw [Reader.comma, if_pos hinside]; exact hinside)
    refine ⟨s, ?_, ?_, ?_⟩
    · rw [List.intercalate_cons_cons, List.append_assoc, List.append_assoc]
      refine (reads_plain hfirst (by simp) (.inl hpresent) (by simp)).trans ?_
      exact (Reads.of_step rfl (Nat.le_refl _)).trans hs
    · rw [hbranches, Reader.comma, if_pos hinside]
      simp [hpresent]
    · rw [houter, Reader.comma, if_pos hinside]
      exact r.outer_foldl_read first

/-- A closing brace puts the choice behind what was read before it. -/
theorem reads_closing {s : Reader} {around : Branches} {outer : List Branches}
    (houter : s.outer = around :: outer) (rest : List Char) :
    ∃ t, Reads s ('\x7d' :: rest) t rest ∧
      t.top = { around with present := .choice s.top.toList :: around.present } ∧
      t.outer = outer := by
  refine ⟨⟨{ around with present := .choice s.top.toList :: around.present }, outer, some '\x7d'⟩,
    .of_step ?_ (Nat.le_refl _), rfl, rfl⟩
  rw [Reader.step, Reader.closeChoice, houter]
  rfl

/-! ## Reading -/

/-- The state of the reader before the first character. -/
def Reader.start : Reader :=
  { top := { present := [], finished := [] }, outer := [], previous := none }

/-- What the reader reads to the end outside all choices is the glob. -/
theorem parse_of_reads {pattern : String} {s : Reader}
    (h : Reads Reader.start pattern.toList s []) (houter : s.outer = []) :
    parse pattern = .ok s.top.present.reverse := by
  obtain ⟨left, hleft, hrun⟩ := h (pattern.toList.length + 1) (Nat.lt_succ_self _)
  have hend : s.run left [] = .ok s.top.present.reverse := by
    cases left with
    | zero => exact absurd hleft (Nat.not_lt_zero _)
    | succ left => simp [Reader.run, Reader.inChoice, houter]
  have hread : Reader.start.run (pattern.toList.length + 1) pattern.toList =
      .ok s.top.present.reverse := hrun.trans hend
  rw [Reader.start] at hread
  simp only [parse, hread]

/-- A plain glob other than two stars is read character by character. -/
theorem parse_plain {cs : List Char} (hcs : ∀ c ∈ cs, IsPlain c) (hstars : cs ≠ ['*', '*']) :
    parse (String.ofList cs) = .ok (cs.map tokenOf) := by
  have hreads : Reads Reader.start (cs ++ []) (cs.foldl Reader.read Reader.start) [] :=
    reads_plain hcs (by simp) (.inl rfl) fun _ h => absurd h hstars
  rw [List.append_nil] at hreads
  rw [parse_of_reads (by rwa [String.toList_ofList]) (Reader.start.outer_foldl_read cs)]
  simp [Reader.start]

/-- A choice between plain globs is read as one between what each of them is read as. -/
theorem parse_choice {first : List Char} {others : List (List Char)}
    (hplain : ∀ cs ∈ first :: others, ∀ c ∈ cs, IsPlain c) :
    parse (String.ofList ('\x7b' :: ([','].intercalate (first :: others) ++ ['\x7d']))) =
      .ok [.choice ((first :: others).map (·.map tokenOf))] := by
  obtain ⟨s, hs, hbranches, houter⟩ := reads_branches hplain []
    (r := { Reader.start.openChoice with previous := some '\x7b' }) rfl rfl
  obtain ⟨t, ht, htop, hend⟩ := reads_closing houter []
  have hbegin : Reader.start.step '\x7b' ([','].intercalate (first :: others) ++ ['\x7d']) =
      .ok ({ Reader.start.openChoice with previous := some '\x7b' },
        [','].intercalate (first :: others) ++ ['\x7d']) := rfl
  have hreads := (Reads.of_step hbegin (Nat.le_refl _)).trans (hs.trans ht)
  rw [parse_of_reads (by rw [String.toList_ofList]; exact hreads) hend, htop, hbranches]
  rfl

/-! ## Matching -/

/-- A glob that is not read as directories matches token by token. -/
theorem isMatch_of_ne {tokens : List Token} (h : tokens ≠ [.leadingDirs]) (text : String) :
    isMatch tokens text = allMatchThen List.isEmpty tokens (bytes text) := by
  unfold isMatch
  split
  · exact absurd rfl h
  · rfl

/-- A character of a plain glob says something. -/
theorem saysNothing_tokenOf (c : Char) : (tokenOf c).saysNothing = false := by
  unfold tokenOf
  split
  · rfl
  · split <;> rfl

/-- A branch of plain characters says nothing only if there are none. -/
theorem branchSaysNothing_map_tokenOf {cs : List Char} (hcs : cs ≠ []) :
    branchSaysNothing (cs.map tokenOf) = false := by
  obtain ⟨c, cs, rfl⟩ := List.exists_cons_of_ne_nil hcs
  rw [List.map_cons, branchSaysNothing, saysNothing_tokenOf, Bool.false_and]

/-- Of the branches of a choice one that says something has to match. -/
theorem someMatchThen_eq_any (k : List UInt8 → Bool) (branches : List (List Token))
    (bs : List UInt8) :
    someMatchThen k branches bs =
      branches.any fun branch => !branchSaysNothing branch && allMatchThen k branch bs := by
  induction branches with
  | nil => rfl
  | cons branch branches ih => rw [someMatchThen, List.any_cons, ih]

/-- A choice between branches that all say something matches what one of its branches matches. -/
theorem isMatch_choice {branches : List (List Token)} (hne : branches ≠ [])
    (hsay : ∀ branch ∈ branches, branchSaysNothing branch = false) (text : String) :
    isMatch [.choice branches] text =
      branches.any fun branch => allMatchThen List.isEmpty branch (bytes text) := by
  have hsome : allSayNothing branches = false := by
    obtain ⟨branch, rest, rfl⟩ := List.exists_cons_of_ne_nil hne
    rw [allSayNothing, hsay branch List.mem_cons_self, Bool.false_and]
  have hall : branches.any (fun branch =>
      !branchSaysNothing branch && allMatchThen List.isEmpty branch (bytes text)) =
      branches.any fun branch => allMatchThen List.isEmpty branch (bytes text) := by
    refine Bool.eq_iff_iff.mpr ?_
    rw [List.any_eq_true, List.any_eq_true]
    exact exists_congr fun branch => and_congr_right fun hbranch => by simp [hsay branch hbranch]
  rw [isMatch_of_ne (by simp), allMatchThen, Token.matchesThen, hsome, if_neg Bool.false_ne_true,
    ← hall]
  exact someMatchThen_eq_any _ _ _

/-- A branch without characters is no branch, and braces without branches stand for nothing. -/
example :
    (parse "user\x7b,s\x7d").toOption.map (isMatch · "user") = some false ∧
    (parse "user\x7b,s\x7d").toOption.map (isMatch · "users") = some true ∧
    (parse "user\x7b,\x7b\x7d\x7d").toOption.map (isMatch · "user") = some true := by
  decide +kernel

/-- Two stars match every text. -/
theorem allMatchThen_two_stars (bs : List UInt8) :
    allMatchThen List.isEmpty [.anyMany, .anyMany] bs = true := by
  have hone (bs : List UInt8) : someEnd (allMatchThen List.isEmpty []) bs = true := by
    induction bs with
    | nil => rfl
    | cons b bs ih => rw [someEnd, ih, Bool.or_true]
  cases bs with
  | nil => rfl
  | cons b bs =>
    rw [allMatchThen, Token.matchesThen, someEnd, allMatchThen, Token.matchesThen, hone,
      Bool.true_or]

/-- A plain glob can be read, and it matches as it does as a branch of a choice. -/
theorem exists_parse_plain {cs : List Char} (hcs : ∀ c ∈ cs, IsPlain c) :
    ∃ tokens, parse (String.ofList cs) = .ok tokens ∧ ∀ text,
      isMatch tokens text = allMatchThen List.isEmpty (cs.map tokenOf) (bytes text) := by
  by_cases hstars : cs = ['*', '*']
  · subst hstars
    exact ⟨[.leadingDirs], by rfl, fun text => (allMatchThen_two_stars _).symm⟩
  · refine ⟨cs.map tokenOf, parse_plain hcs hstars, isMatch_of_ne fun h => ?_⟩
    obtain ⟨c, -, hc⟩ := List.mem_map.mp (h ▸ List.mem_singleton_self Token.leadingDirs)
    exact tokenOf_ne_leadingDirs c hc

end TableTypes.Glob
