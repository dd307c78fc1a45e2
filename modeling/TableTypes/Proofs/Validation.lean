import TableTypes.Proofs.Generation

/-!
# Settings that are checked before a run

What is wrong with settings by themselves is found before the schema is read. Main statement: a run
with settings that pass the check fails only on account of what they name, which are the schema, the
files and the text that is compared, and settings with a pattern that cannot be read do not pass.
-/

namespace TableTypes

/-- Whether a failure lies in the settings themselves. -/
def Failure.ofSettings : Failure → Bool
  | .settings _ => true
  | .invalid _ => true
  | .pattern _ => true
  | _ => false

/-! ## Patterns and rules -/

/-- A pattern that is given and cannot be read fails where it is read. -/
theorem TablePattern.mapM_parse_eq_error {pattern : Option String} {text : String}
    (hpattern : pattern = some text) {cause : Glob.Error} (h : parse text = .error cause) :
    pattern.mapM parse = .error cause := by
  rw [hpattern, Option.mapM_some, h]
  rfl

/-- No selection is made of a pattern that cannot be read. -/
theorem Selection.exists_ofPatterns_eq_error {included excluded : Option String} {text : String}
    (htext : included = some text ∨ excluded = some text) {cause : Glob.Error}
    (h : TablePattern.parse text = .error cause) (partitions : Bool) :
    ∃ cause, ofPatterns included excluded partitions = .error cause := by
  unfold ofPatterns
  cases hincluded : included.mapM TablePattern.parse with
  | error first => exact ⟨first, rfl⟩
  | ok first =>
    rcases htext with htext | htext
    · rw [TablePattern.mapM_parse_eq_error htext h] at hincluded
      cases hincluded
    · exact ⟨cause, by rw [TablePattern.mapM_parse_eq_error htext h]; rfl⟩

/-- No rules are read if one of their patterns cannot be read. -/
theorem Naming.readRules?_eq_none {rules : List (String × String)} {rule : String × String}
    (hrule : rule ∈ rules) (h : Pattern.parse? rule.1 = none) : readRules? rules = none := by
  unfold readRules?
  induction rules with
  | nil => cases hrule
  | cons first rest ih =>
    obtain ⟨text, replacement⟩ := first
    rw [List.mapM_cons]
    rcases List.mem_cons.mp hrule with rfl | hrule
    · simp [h]
    · cases hparse : Pattern.parse? text with
      | none => simp [hparse]
      | some pattern => simp [hparse, ih hrule]

namespace Settings

variable {s : Settings}

/-! ## What is wrong with settings by themselves -/

/-- What is wrong with settings by themselves. -/
inductive Flaw (s : Settings) : Failure → Prop
  | twoModes (hprint : s.print = true) (hverify : s.verify = true) :
      Flaw s (.invalid .printAndVerify)
  | noTarget (hprint : s.print = false) (htarget : s.outFile = "") : Flaw s (.invalid .noOutFile)
  | badPattern {cause : Glob.Error}
      (h : Selection.ofPatterns s.includePattern s.excludePattern s.partitions = .error cause) :
      Flaw s (.pattern cause)
  | badImport {name spec : String} {fault : ImportFault} (hmem : (name, spec) ∈ s.customImports)
      (h : importFault? name spec = some fault) : Flaw s (.invalid (.badImport name spec fault))
  | badRule {cause : SettingsFault} (h : s.rules = .error cause) : Flaw s (.settings cause)

/-- A flaw fails for the settings and not for the schema. -/
theorem Flaw.ofSettings {failure : Failure} (h : s.Flaw failure) : failure.ofSettings = true := by
  cases h <;> rfl

/-- The parts of settings are checked one after another: the delivery, the patterns, the imports and
the rules. -/
theorem checkParts_eq (s : Settings) :
    s.checkParts =
      if s.print && s.verify then .error (.invalid .printAndVerify)
      else if !s.print && s.outFile.isEmpty then .error (.invalid .noOutFile)
      else
        ((Selection.ofPatterns s.includePattern s.excludePattern s.partitions).mapError
          Failure.pattern).bind fun _ =>
        (s.customImports.forM fun i => (checkImport i.1 i.2).mapError Failure.invalid).bind fun _ =>
        (s.rules.mapError Failure.settings).map fun _ => () := by
  unfold checkParts
  split
  · rfl
  · split <;> rfl

/-- A check of several things in turn ends with the first fault, if there is one. -/
theorem forM_ok_or_error {ε α : Type} (f : α → Except ε Unit) (as : List α) :
    (as.forM f = .ok () ∧ ∀ a ∈ as, f a = .ok ()) ∨
      ∃ a ∈ as, ∃ e, as.forM f = .error e ∧ f a = .error e := by
  induction as with
  | nil => exact .inl ⟨rfl, by simp⟩
  | cons a as ih =>
    have hstep : (a :: as).forM f = (f a).bind fun _ => as.forM f := rfl
    rw [hstep]
    cases ha : f a with
    | error e => exact .inr ⟨a, List.mem_cons_self, e, rfl, ha⟩
    | ok _ =>
      rcases ih with ⟨hall, hok⟩ | ⟨b, hb, e, hall, he⟩
      · exact .inl ⟨hall, by simpa [ha] using hok⟩
      · exact .inr ⟨b, List.mem_cons_of_mem _ hb, e, hall, he⟩

/-- The check finds a flaw exactly if there is one. -/
theorem checkParts_spec (s : Settings) :
    (s.checkParts = .ok () ∧ ∀ failure, ¬s.Flaw failure) ∨
      ∃ failure, s.checkParts = .error failure ∧ s.Flaw failure := by
  rw [checkParts_eq]
  split
  next hmodes =>
    rw [Bool.and_eq_true] at hmodes
    exact .inr ⟨_, rfl, .twoModes hmodes.1 hmodes.2⟩
  next hmodes =>
    split
    next htarget =>
      simp only [Bool.and_eq_true, Bool.not_eq_true', String.isEmpty_iff] at htarget
      exact .inr ⟨_, rfl, .noTarget htarget.1 htarget.2⟩
    next htarget =>
      cases hselection : Selection.ofPatterns s.includePattern s.excludePattern s.partitions with
      | error cause => exact .inr ⟨_, rfl, .badPattern hselection⟩
      | ok selection =>
        rcases forM_ok_or_error (fun i => (checkImport i.1 i.2).mapError Failure.invalid)
          s.customImports with ⟨himports, hall⟩ | ⟨⟨name, spec⟩, hi, failure, himports, hfault⟩
        · rw [himports]
          cases hrules : s.rules with
          | error cause => exact .inr ⟨_, rfl, .badRule hrules⟩
          | ok rules =>
            refine .inl ⟨rfl, fun failure hflaw => ?_⟩
            cases hflaw with
            | twoModes hprint hverify => simp [hprint, hverify] at hmodes
            | noTarget hprint htarget' => simp [hprint, htarget'] at htarget
            | badPattern h => simp [h] at hselection
            | badImport hmem h =>
              have hok := hall _ hmem
              simp [checkImport, h, Except.mapError] at hok
            | badRule h => simp [h] at hrules
        · rw [himports]
          refine .inr ⟨failure, rfl, ?_⟩
          cases hcheck : importFault? name spec with
          | none => simp [checkImport, hcheck, Except.mapError] at hfault
          | some fault =>
            simp only [checkImport, hcheck, Except.mapError, Except.error.injEq] at hfault
            exact hfault ▸ .badImport hi hcheck

/-- Settings with a pattern that cannot be read: one for tables, or one of a singular rule where names
are made singular. -/
def HasBadPattern (s : Settings) : Prop :=
  (∃ text, (s.includePattern = some text ∨ s.excludePattern = some text) ∧
    ∃ cause, TablePattern.parse text = .error cause) ∨
  (s.singularize = true ∧ ∃ rule ∈ s.singularRules, Pattern.parse? rule.1 = none)

/-- A pattern that cannot be read is a flaw. -/
theorem HasBadPattern.exists_flaw (h : s.HasBadPattern) : ∃ failure, s.Flaw failure := by
  rcases h with ⟨text, htext, cause, hparse⟩ | ⟨hsingularize, rule, hrule, hparse⟩
  · obtain ⟨cause, hcause⟩ := Selection.exists_ofPatterns_eq_error htext hparse s.partitions
    exact ⟨_, .badPattern hcause⟩
  · have hrules : s.rules = .error .badRule := by
      rw [rules, if_pos hsingularize, Naming.readRules?_eq_none hrule hparse]
    exact ⟨_, .badRule hrules⟩

/-! ## The check before a run -/

section Host

variable {m : Type → Type} [Monad m] [LawfulMonad m] [Host m] {α : Type}

/-- A run that ends before the schema is read: it only asks whether there is something at the path of
the schema. -/
def refuse {m : Type → Type} [Monad m] [Host m] {α : Type} (s : Settings) (failure : Failure) :
    ExceptT Failure m α :=
  if s.schemaFile.isEmpty then throw (.invalid .noSchemaFile)
  else do
    let found ← Host.hasEntry s.schemaFile
    throw (if found then failure else .invalid (.missingSchemaFile s.schemaFile))

/-- On every host, settings with a flaw end the check before the schema is read. -/
theorem validate_eq_refuse {failure : Failure} (h : s.checkParts = .error failure) :
    (s.validate : ExceptT Failure m Unit) = s.refuse failure := by
  unfold validate refuse
  by_cases hempty : s.schemaFile.isEmpty = true
  · simp [hempty]
  · simp only [hempty, h, Bool.false_eq_true, if_false]
    refine congrArg _ (funext fun found => ?_)
    cases found <;> simp [orFail]

/-- A refusal keeps what would come next from happening. -/
theorem refuse_bind {β : Type} (failure : Failure) (f : α → ExceptT Failure m β) :
    (s.refuse failure >>= f) = s.refuse failure := by
  unfold refuse
  split <;> simp

/-- On every host, a checked run with settings that have a flaw ends before the schema is read. -/
theorem generateChecked_eq_refuse {failure : Failure} (h : s.checkParts = .error failure) :
    (s.generateChecked : ExceptT Failure m String) = s.refuse failure := by
  rw [generateChecked, validate_eq_refuse h, refuse_bind]

end Host

/-! ## Runs on a machine -/

/-- What the check gives on a machine, and the machine after it. -/
def validateOn (s : Settings) (machine : Machine) : Except Failure Unit × Machine :=
  (s.validate : ExceptT Failure (StateM Machine) Unit).run.run machine

/-- What a checked run on a machine gives, and the machine after it. -/
def generateCheckedOn (s : Settings) (machine : Machine) : Except Failure String × Machine :=
  (s.generateChecked : ExceptT Failure (StateM Machine) String).run.run machine

/-- The failure of a refused run, given whether there is something at the path of the schema. -/
def refusal (s : Settings) (failure : Failure) (found : Bool) : Failure :=
  if s.schemaFile.isEmpty then .invalid .noSchemaFile
  else if found then failure
  else .invalid (.missingSchemaFile s.schemaFile)

/-- Settings with a flaw are refused for the settings, whether there is a schema file or not. -/
theorem ofSettings_refusal {failure : Failure} (h : failure.ofSettings = true) (found : Bool) :
    (s.refusal failure found).ofSettings = true := by
  unfold refusal
  split
  · rfl
  · split
    · exact h
    · rfl

/-- A refused run leaves the machine as it is. -/
theorem run_refuse {α : Type} (s : Settings) (failure : Failure) (machine : Machine) :
    (s.refuse failure : ExceptT Failure (StateM Machine) α).run.run machine =
      (.error (s.refusal failure (machine.files.hasEntry s.schemaFile)), machine) := by
  unfold refuse refusal
  split <;> rfl

/-- Settings that pass the check have no flaw. -/
theorem not_flaw_of_validateOn_ok {machine : Machine} (h : (s.validateOn machine).1 = .ok ())
    (failure : Failure) : ¬s.Flaw failure := by
  rcases s.checkParts_spec with ⟨-, hnone⟩ | ⟨cause, hcheck, hflaw⟩
  · exact hnone failure
  · rw [validateOn, validate_eq_refuse hcheck, run_refuse] at h
    cases h

/-- A file that cannot be written is no fault of the settings. -/
theorem ofSettings_of_run_writeOutput {path output : String} {machine : Machine} {failure : Failure}
    (h : ((writeOutput path output : ExceptT Failure (StateM Machine) Unit).run.run machine).1 =
      .error failure) : failure.ofSettings = false := by
  have hwrite : ∀ start : Machine,
      ((Host.writeText path output >>= orFail .storage :
        ExceptT Failure (StateM Machine) Unit).run.run start).1 = .error failure →
      failure.ofSettings = false := by
    intro start hrun
    rw [run_bind, run_writeText] at hrun
    cases hfiles : start.files.write path (.text output) with
    | error fault =>
      rw [hfiles] at hrun
      cases hrun
      rfl
    | ok files =>
      rw [hfiles] at hrun
      cases hrun
  unfold writeOutput at h
  split at h
  next directory hparent =>
    rw [run_bind, run_makeDirectories] at h
    revert h
    rcases machine.files.makeDirectories directory with ⟨files, fault | _⟩
    · rintro h
      cases h
      rfl
    · exact hwrite _
  next hparent => exact hwrite machine h

/-- A text that is there is never refused on account of the settings. -/
theorem ofSettings_of_deliverOn {output : String} {machine : Machine} {failure : Failure}
    (h : (s.deliverOn output machine).1 = .error failure) : failure.ofSettings = false := by
  cases hprint : s.print with
  | true =>
    rw [deliverOn_of_print hprint] at h
    cases h
  | false =>
    cases hverify : s.verify with
    | true =>
      rw [deliverOn_of_verify hprint hverify] at h
      cases hpresent : machine.files.presentText s.outFile with
      | error fault =>
        rw [hpresent] at h
        cases h
        rfl
      | ok content =>
        rw [hpresent] at h
        simp only [Except.mapError, Except.bind] at h
        split at h
        · cases h
        · cases h
          rfl
    | false =>
      rw [deliverOn_of_write hprint hverify] at h
      exact ofSettings_of_run_writeOutput h

/-- With settings that have no flaw a text is missing only because of the schema. -/
theorem ofSettings_of_noText (hflaw : ∀ failure, ¬s.Flaw failure) {files : FileSystem}
    {failure : Failure} (h : s.NoText files failure) : failure.ofSettings = false := by
  cases h with
  | unread => rfl
  | @unparsed sql _ hread hparse =>
    unfold introspectText at hparse
    cases hdatabase : Database.read s.dialect s.schemaOfNames sql with
    | error cause =>
      rw [hdatabase] at hparse
      cases hparse
      rfl
    | ok db =>
      rw [hdatabase] at hparse
      cases hparse
  | unselected hread hparse hselect =>
    unfold select at hselect
    cases hselection : Selection.ofPatterns s.includePattern s.excludePattern s.partitions with
    | error cause => exact (hflaw _ (.badPattern hselection)).elim
    | ok selection =>
      rw [hselection] at hselect
      cases hselect
  | noOptions hread hparse hselect hoptions =>
    unfold options at hoptions
    cases hrules : s.rules with
    | error cause => exact (hflaw _ (.badRule hrules)).elim
    | ok rules =>
      rw [hrules] at hoptions
      cases hoptions

/-- Settings without a flaw do not fail a run. -/
theorem ofSettings_of_generateOn (hflaw : ∀ failure, ¬s.Flaw failure) {machine : Machine}
    {failure : Failure} (h : (s.generateOn machine).1 = .error failure) :
    failure.ofSettings = false := by
  cases htext : s.textOf machine.files with
  | error cause =>
    rw [generateOn_eq, htext] at h
    cases h
    exact ofSettings_of_noText hflaw ((s.textOf_eq_error_iff machine.files failure).mp htext)
  | ok text =>
    rw [generateOn_of_textOf_ok s htext] at h
    cases hdeliver : (s.deliverOn text machine).1 with
    | error cause =>
      simp only [hdeliver, Except.map, Except.error.injEq] at h
      exact h ▸ ofSettings_of_deliverOn hdeliver
    | ok _ =>
      rw [hdeliver] at h
      cases h

/-- **Checked settings do not fail a run.** On every machine where the settings pass the check, a run
can fail only because the schema cannot be parsed, a file cannot be read or written, or the text
differs from the one that it is compared with. Settings with a pattern for tables or of a singular
rule that cannot be read never pass: on every host the check and a checked run end before the schema
is read, and on a machine they fail on account of the settings and change nothing. -/
theorem validate_spec (s : Settings) :
    (∀ machine failure, (s.validateOn machine).1 = .ok () →
      (s.generateOn machine).1 = .error failure → failure.ofSettings = false) ∧
    (s.HasBadPattern → ∃ failure : Failure, failure.ofSettings = true ∧
      (∀ (m : Type → Type) [Monad m] [LawfulMonad m] [Host m],
        (s.validate : ExceptT Failure m Unit) = s.refuse failure ∧
          (s.generateChecked : ExceptT Failure m String) = s.refuse failure) ∧
      ∀ machine, ∃ cause, cause.ofSettings = true ∧ s.validateOn machine = (.error cause, machine) ∧
        s.generateCheckedOn machine = (.error cause, machine)) := by
  refine ⟨fun machine failure hvalid hfailure => ?_, fun hbad => ?_⟩
  · exact ofSettings_of_generateOn (not_flaw_of_validateOn_ok hvalid) hfailure
  · obtain ⟨flaw, hflaw⟩ := hbad.exists_flaw
    rcases s.checkParts_spec with ⟨-, hnone⟩ | ⟨failure, hcheck, hfailure⟩
    · exact (hnone flaw hflaw).elim
    · refine ⟨failure, hfailure.ofSettings, fun m _ _ _ =>
        ⟨validate_eq_refuse hcheck, generateChecked_eq_refuse hcheck⟩, fun machine => ?_⟩
      refine ⟨s.refusal failure (machine.files.hasEntry s.schemaFile),
        ofSettings_refusal hfailure.ofSettings _, ?_, ?_⟩
      · rw [validateOn, validate_eq_refuse hcheck, run_refuse]
      · rw [generateCheckedOn, generateChecked_eq_refuse hcheck, run_refuse]

/-- Where the schema file, here one named from the root, holds no text, settings that pass the check
fail a run because of the file, and settings with an open brace in a pattern fail a checked run
because of the pattern. -/
theorem validate_spec_of_schema_without_text :
    let machine : Machine :=
      { files := (FileSystem.empty ["work"]).put ["work", "s.sql"] (.file .bytes) }
    let s : Settings := { schemaFile := "/work/s.sql" }
    let bad : Settings := { s with includePattern := some "\x7busers" }
    ((s.validateOn machine).1 = .ok () ∧ (s.generateOn machine).1 = .error (.storage .notText) ∧
      (Failure.storage .notText).ofSettings = false) ∧
    ∃ cause, cause.ofSettings = true ∧ bad.validateOn machine = (.error cause, machine) ∧
      bad.generateCheckedOn machine = (.error cause, machine) := by
  intro machine s bad
  have hvalid : (s.validateOn machine).1 = .ok () := by
    have hok : (s.validateOn machine).1.isOk = true := by decide +kernel
    cases hcheck : (s.validateOn machine).1 with
    | ok => rfl
    | error =>
      rw [hcheck] at hok
      cases hok
  have hread : machine.files.readText s.schemaFile = .error .notText := by decide +kernel
  have hfailure : (s.generateOn machine).1 = .error (.storage .notText) := by
    rw [generateOn_eq, (s.textOf_eq_error_iff machine.files _).mpr (.unread hread)]
  have hbad : bad.HasBadPattern := .inl ⟨"\x7busers", .inl rfl, _, rfl⟩
  obtain ⟨failure, -, -, hmachine⟩ := (validate_spec bad).2 hbad
  exact ⟨⟨hvalid, hfailure, (validate_spec s).1 machine _ hvalid hfailure⟩, hmachine machine⟩

end Settings

end TableTypes
