import TableTypes.Generation
import TableTypes.Host.Machine
import TableTypes.Proofs.Host.FileSystem

/-!
# What generating does to the files

A run on a machine first finds its text, which only reads the schema file, and then delivers it:
it prints the text, compares it or writes it. Only the last of these changes a file, and only the
one it writes to, so that a comparison right after it finds the text that was written.
-/

namespace TableTypes

/-! ## Programs on a machine -/

section Run

variable {α β ε : Type} (machine : Machine)

/-- A failure ends a program, and the machine stays as it is then. -/
theorem run_bind (x : ExceptT Failure (StateM Machine) α)
    (f : α → ExceptT Failure (StateM Machine) β) :
    (x >>= f).run.run machine =
      match x.run.run machine with
      | (.error failure, machine) => (.error failure, machine)
      | (.ok a, machine) => (f a).run.run machine := by
  change ExceptT.bind x f machine = _
  simp only [ExceptT.bind, ExceptT.mk, Bind.bind, StateT.bind, ExceptT.run, StateT.run]
  rcases x machine with ⟨_ | _, _⟩ <;> rfl

/-- An outcome is passed on and touches nothing. -/
theorem run_orFail (f : ε → Failure) (outcome : Except ε α) :
    (orFail f outcome : ExceptT Failure (StateM Machine) α).run.run machine =
      (outcome.mapError f, machine) := by
  cases outcome <;> rfl

/-- A text is read from the files and nothing is touched. -/
theorem run_readText (path : String) :
    (Host.readText path : ExceptT Failure (StateM Machine) _).run.run machine =
      (.ok (machine.files.readText path), machine) := rfl

/-- Directories are made among the files and nothing else is touched. -/
theorem run_makeDirectories (path : String) :
    (Host.makeDirectories path : ExceptT Failure (StateM Machine) _).run.run machine =
      (.ok (machine.files.makeDirectories path).2,
        { machine with files := (machine.files.makeDirectories path).1 }) := rfl

/-- A text is written among the files, or nothing is touched. -/
theorem run_writeText (path output : String) :
    (Host.writeText path output : ExceptT Failure (StateM Machine) _).run.run machine =
      match machine.files.write path (.text output) with
      | .ok files => (.ok (.ok ()), { machine with files })
      | .error fault => (.ok (.error fault), machine) := by
  change ((Except.ok (Prod.fst _) : Except Failure _), Prod.snd _) = _
  cases machine.files.write path (.text output) <;> rfl

/-- A file is read, or its fault is passed on as one of the storage. -/
theorem run_readFile (path : String) :
    (readFile path : ExceptT Failure (StateM Machine) String).run.run machine =
      ((machine.files.readText path).mapError .storage, machine) := by
  simp only [readFile, run_bind, run_readText, run_orFail]

/-- The text that a file is compared by: a file that is missing counts as empty. -/
def FileSystem.presentText (files : FileSystem) (path : String) : Except StorageFault String :=
  match files.readText path with
  | .error .notFound => .ok ""
  | outcome => outcome

/-- A comparison fails where the file cannot be read and where the texts differ. -/
theorem run_verifyOutput (path output : String) :
    (verifyOutput path output : ExceptT Failure (StateM Machine) Unit).run.run machine =
      (((machine.files.presentText path).mapError .storage).bind fun content =>
        match LineDiff.diff? content output with
        | none => .ok ()
        | some diff => .error (.outdated path diff), machine) := by
  unfold verifyOutput FileSystem.presentText
  simp only [run_bind, run_readText]
  rcases machine.files.readText path with fault | content
  · cases fault with
    | notFound =>
      simp only [pure_bind, Except.mapError, Except.bind]
      cases LineDiff.diff? "" output <;> rfl
    | _ => rfl
  · simp only [pure_bind, Except.mapError, Except.bind]
    cases LineDiff.diff? content output <;> rfl

/-- A write that succeeds leaves the text in its file, and changes no other file. -/
theorem frame_of_run_writeOutput {path output : String} {machine after : Machine}
    (h : (writeOutput path output : ExceptT Failure (StateM Machine) Unit).run.run machine =
      (.ok (), after)) :
    ∃ place, after.files.locate path = .ok place ∧
      FileSystem.Frame machine.files after.files {place} ∧
      after.files.readText path = .ok output := by
  have hwrite : ∀ start : Machine,
      (Host.writeText path output >>= orFail .storage :
        ExceptT Failure (StateM Machine) Unit).run.run start = (.ok (), after) →
      ∃ place, after.files.locate path = .ok place ∧
        FileSystem.Frame start.files after.files {place} ∧
        after.files.readText path = .ok output := by
    intro start hrun
    rw [run_bind, run_writeText] at hrun
    cases hfiles : start.files.write path (.text output) with
    | error fault =>
      rw [hfiles] at hrun
      cases hrun
    | ok files =>
      rw [hfiles] at hrun
      cases hrun
      exact FileSystem.frame_write hfiles
  unfold writeOutput at h
  split at h
  next directory hparent =>
    rw [run_bind, run_makeDirectories] at h
    have hdirectories := machine.files.frame_makeDirectories directory
    revert h hdirectories
    rcases machine.files.makeDirectories directory with ⟨files, fault | _⟩
    · rintro h
      cases h
    · intro h hdirectories
      obtain ⟨place, hplace, hframe, hread⟩ := hwrite _ h
      exact ⟨place, hplace, (hdirectories.mono (Set.empty_subset _)).trans hframe, hread⟩
  next hparent => exact hwrite machine h

end Run

namespace Settings

variable (s : Settings)

/-- What a run on a machine gives, and the machine after it. -/
def generateOn (machine : Machine) : Except Failure String × Machine :=
  (s.generate : ExceptT Failure (StateM Machine) String).run.run machine

/-- What delivering a text on a machine gives, and the machine after it. -/
def deliverOn (output : String) (machine : Machine) : Except Failure Unit × Machine :=
  (s.deliver output : ExceptT Failure (StateM Machine) Unit).run.run machine

/-- The text that is generated from the files of a machine. -/
def textOf (files : FileSystem) : Except Failure String :=
  ((files.readText s.schemaFile).mapError .storage).bind s.generateText

/-- Why the files of a machine give no text: the schema cannot be read or parsed, a pattern for
tables is none, or the options cannot be built. -/
inductive NoText (files : FileSystem) : Failure → Prop
  | unread {fault : StorageFault} (hread : files.readText s.schemaFile = .error fault) :
      NoText files (.storage fault)
  | unparsed {sql : String} {failure : Failure} (hread : files.readText s.schemaFile = .ok sql)
      (hparse : s.introspectText sql = .error failure) : NoText files failure
  | unselected {sql : String} {db : Database} {failure : Failure}
      (hread : files.readText s.schemaFile = .ok sql) (hparse : s.introspectText sql = .ok db)
      (hselect : s.select db = .error failure) : NoText files failure
  | noOptions {sql : String} {db selected : Database} {cause : SettingsFault}
      (hread : files.readText s.schemaFile = .ok sql) (hparse : s.introspectText sql = .ok db)
      (hselect : s.select db = .ok selected) (hoptions : s.options = .error cause) :
      NoText files (.settings cause)

/-- Every way to fail before the text is complete is one of these. -/
theorem textOf_eq_error_iff (files : FileSystem) (failure : Failure) :
    s.textOf files = .error failure ↔ s.NoText files failure := by
  constructor
  · intro h
    unfold textOf at h
    cases hread : files.readText s.schemaFile with
    | error fault =>
      rw [hread] at h
      cases h
      exact .unread hread
    | ok sql =>
      simp only [hread, Except.mapError, Except.bind, generateText, Bind.bind] at h
      cases hparse : s.introspectText sql with
      | error cause =>
        rw [hparse] at h
        cases h
        exact .unparsed hread hparse
      | ok db =>
        rw [hparse] at h
        cases hselect : s.select db with
        | error cause =>
          simp only [hselect] at h
          cases h
          exact .unselected hread hparse hselect
        | ok selected =>
          simp only [hselect, fileText] at h
          cases hoptions : s.options with
          | error cause =>
            rw [hoptions] at h
            cases h
            exact .noOptions hread hparse hselect hoptions
          | ok options =>
            rw [hoptions] at h
            cases h
  · intro h
    cases h with
    | unread hread => simp [textOf, hread, Except.mapError, Except.bind]
    | unparsed hread hparse =>
      simp [textOf, hread, Except.mapError, Except.bind, generateText, Bind.bind, hparse]
    | unselected hread hparse hselect =>
      simp [textOf, hread, Except.mapError, Except.bind, generateText, Bind.bind, hparse, hselect]
    | noOptions hread hparse hselect hoptions =>
      simp [textOf, hread, Except.mapError, Except.bind, generateText, Bind.bind, hparse, hselect,
        fileText, hoptions, Except.map]

/-! ## A run delivers its text -/

/-- Without a text a run fails and leaves the machine as it is; otherwise it delivers the text. -/
theorem generateOn_eq (machine : Machine) :
    s.generateOn machine =
      match s.textOf machine.files with
      | .error failure => (.error failure, machine)
      | .ok text =>
        ((s.deliverOn text machine).1.map fun _ => text, (s.deliverOn text machine).2) := by
  unfold generateOn generate textOf
  simp only [run_bind, run_readFile, run_orFail]
  cases machine.files.readText s.schemaFile with
  | error fault => rfl
  | ok sql =>
    cases hgen : s.generateText sql with
    | error failure => simp [Except.mapError, Except.bind, hgen]
    | ok text =>
      simp only [Except.mapError, Except.bind, hgen]
      change _ = (Except.map _ (s.deliverOn text machine).1, _)
      rw [← deliverOn]
      rcases s.deliverOn text machine with ⟨_ | _, _⟩ <;> rfl

/-- Once the text is complete, it is delivered and given. -/
theorem generateOn_of_textOf_ok {machine : Machine} {text : String}
    (h : s.textOf machine.files = .ok text) :
    s.generateOn machine =
      ((s.deliverOn text machine).1.map fun _ => text, (s.deliverOn text machine).2) := by
  rw [generateOn_eq, h]

/-- A run that gives a text has delivered it. -/
theorem deliverOn_of_generateOn_ok {machine after : Machine} {text : String}
    (h : s.generateOn machine = (.ok text, after)) :
    s.textOf machine.files = .ok text ∧ s.deliverOn text machine = (.ok (), after) := by
  cases htext : s.textOf machine.files with
  | error failure =>
    rw [generateOn_eq, htext] at h
    cases h
  | ok output =>
    rw [generateOn_of_textOf_ok s htext, Prod.mk.injEq] at h
    obtain ⟨hmap, rfl⟩ := h
    cases hdeliver : (s.deliverOn output machine).1 with
    | error failure =>
      rw [hdeliver] at hmap
      cases hmap
    | ok _ =>
      rw [hdeliver] at hmap
      cases hmap
      exact ⟨rfl, Prod.ext hdeliver rfl⟩

/-! ## The three ways to deliver a text -/

variable {s}

/-- Printing touches no file. -/
theorem deliverOn_of_print (hprint : s.print = true) (output : String) (machine : Machine) :
    s.deliverOn output machine =
      (.ok (), { machine with printed := machine.printed ++ output }) := by
  rw [deliverOn, deliver, if_pos hprint]
  rfl

/-- Comparing reads the file and touches nothing. -/
theorem deliverOn_of_verify (hprint : s.print = false) (hverify : s.verify = true)
    (output : String) (machine : Machine) :
    s.deliverOn output machine =
      (((machine.files.presentText s.outFile).mapError .storage).bind fun content =>
        match LineDiff.diff? content output with
        | none => .ok ()
        | some diff => .error (.outdated s.outFile diff), machine) := by
  rw [deliverOn, deliver, if_neg (by simp [hprint]), if_pos hverify]
  exact run_verifyOutput machine s.outFile output

/-- Otherwise the text is written to the file. -/
theorem deliverOn_of_write (hprint : s.print = false) (hverify : s.verify = false)
    (output : String) (machine : Machine) :
    s.deliverOn output machine =
      (writeOutput s.outFile output : ExceptT Failure (StateM Machine) Unit).run.run machine := by
  rw [deliverOn, deliver, if_neg (by simp [hprint]), if_neg (by simp [hverify])]

/-- Printing and comparing leave the files as they are. -/
theorem files_deliverOn (h : s.print = true ∨ s.verify = true) (output : String)
    (machine : Machine) : (s.deliverOn output machine).2.files = machine.files := by
  cases hprint : s.print with
  | true => rw [deliverOn_of_print hprint]
  | false =>
    have hverify : s.verify = true := h.resolve_left (by simp [hprint])
    rw [deliverOn_of_verify hprint hverify]

/-- A write that succeeds leaves the text in the output file and changes no other file. -/
theorem frame_of_generateOn {machine after : Machine} {text : String} (hprint : s.print = false)
    (hverify : s.verify = false) (h : s.generateOn machine = (.ok text, after)) :
    ∃ place, after.files.locate s.outFile = .ok place ∧
      FileSystem.Frame machine.files after.files {place} ∧
      after.files.readText s.outFile = .ok text := by
  have hdeliver := (deliverOn_of_generateOn_ok s h).2
  rw [deliverOn_of_write hprint hverify] at hdeliver
  exact frame_of_run_writeOutput hdeliver

/-! ## Comparing -/

/-- The same settings, but the file is compared and not written. -/
def verifying (s : Settings) : Settings :=
  { s with verify := true }

/-- The text of a file does not depend on what is done with it. -/
theorem textOf_verifying (s : Settings) (files : FileSystem) :
    s.verifying.textOf files = s.textOf files := rfl

/-- A comparison with a text that can be read tells whether the two texts differ. -/
theorem generateOn_of_present {machine : Machine} {content text : String} (hprint : s.print = false)
    (hverify : s.verify = true) (htext : s.textOf machine.files = .ok text)
    (hcontent : machine.files.presentText s.outFile = .ok content) :
    s.generateOn machine =
      match LineDiff.diff? content text with
      | none => (.ok text, machine)
      | some diff => (.error (.outdated s.outFile diff), machine) := by
  rw [generateOn_of_textOf_ok s htext, deliverOn_of_verify hprint hverify, hcontent]
  simp only [Except.mapError, Except.bind]
  cases LineDiff.diff? content text <;> rfl

/-- The schema still reads the same after a write to another file. -/
theorem textOf_of_frame {before after : FileSystem} {written : Set Place} {text : String}
    (hframe : FileSystem.Frame before after written) (htext : s.textOf before = .ok text)
    (hkept : ∀ place, after.locate s.schemaFile = .ok place → place ∉ written) :
    s.textOf after = .ok text := by
  unfold textOf at htext ⊢
  cases hread : before.readText s.schemaFile with
  | error fault =>
    rw [hread] at htext
    cases htext
  | ok sql => rwa [hframe.readText hread hkept, ← hread]

/-- What a write leaves is up to date by a comparison on the machine after it, unless it was the
schema file that was written. -/
theorem generateOn_verifying_of_write {machine after : Machine} {text : String}
    (hprint : s.print = false) (hverify : s.verify = false)
    (h : s.generateOn machine = (.ok text, after))
    (hschema : after.files.locate s.schemaFile ≠ after.files.locate s.outFile) :
    s.verifying.generateOn after = (.ok text, after) := by
  obtain ⟨place, hplace, hframe, hread⟩ := frame_of_generateOn hprint hverify h
  have htext : s.verifying.textOf after.files = .ok text := by
    rw [textOf_verifying]
    refine textOf_of_frame hframe (deliverOn_of_generateOn_ok s h).1 fun other hother hmem => ?_
    obtain rfl : other = place := hmem
    exact hschema (hother.trans hplace.symm)
  have hcontent : after.files.presentText s.verifying.outFile = .ok text := by
    rw [FileSystem.presentText, verifying, hread]
  rw [generateOn_of_present (s := s.verifying) hprint rfl htext hcontent]
  simp [LineDiff.diff?]

/-! ## The whole run -/

/-- **Writing and comparing agree, and only writing changes a file.** On every machine, and for all
settings: where the text is printed or compared, the files stay as they are, whatever comes of it. A
run that fails before its text is complete leaves the whole machine as it is. A run that writes and
gives a text leaves exactly this text in its file and every other file unchanged, and a comparison
right after it gives the text again unless the file is that of the schema. A comparison with a file
that is missing or holds a text fails, and shows the difference, exactly if the texts differ once
blanks around them are dropped. -/
theorem generate_write_then_verify (s : Settings) (machine : Machine) :
    (s.print = true ∨ s.verify = true → (s.generateOn machine).2.files = machine.files) ∧
    (∀ failure, s.NoText machine.files failure →
      s.generateOn machine = (.error failure, machine)) ∧
    (∀ text after, s.print = false → s.verify = false →
      s.generateOn machine = (.ok text, after) →
      after.files.readText s.outFile = .ok text ∧
      (∃ place, after.files.locate s.outFile = .ok place ∧
        ∀ other, other ≠ place → after.files.file? other = machine.files.file? other) ∧
      (after.files.locate s.schemaFile ≠ after.files.locate s.outFile →
        s.verifying.generateOn after = (.ok text, after))) ∧
    (∀ content text, s.print = false → s.verify = true →
      (machine.files.readText s.outFile = .ok content ∨
        machine.files.readText s.outFile = .error .notFound ∧ content = "") →
      s.textOf machine.files = .ok text →
      (Unicode.trimText content = Unicode.trimText text →
        s.generateOn machine = (.ok text, machine)) ∧
      (Unicode.trimText content ≠ Unicode.trimText text →
        ∃ diff, LineDiff.diff? content text = some diff ∧
          s.generateOn machine = (.error (.outdated s.outFile diff), machine))) := by
  refine ⟨fun hmode => ?_, fun failure hfailure => ?_, fun text after hprint hverify hrun => ?_,
    fun content text hprint hverify hcontent htext => ?_⟩
  · rw [generateOn_eq]
    split
    · rfl
    · exact files_deliverOn hmode _ machine
  · rw [generateOn_eq, (s.textOf_eq_error_iff machine.files failure).mpr hfailure]
  · obtain ⟨place, hplace, hframe, hread⟩ := frame_of_generateOn hprint hverify hrun
    exact ⟨hread, ⟨place, hplace, hframe.file⟩, generateOn_verifying_of_write hprint hverify hrun⟩
  · have hpresent : machine.files.presentText s.outFile = .ok content := by
      rcases hcontent with hread | ⟨hread, rfl⟩ <;> rw [FileSystem.presentText, hread]
    rw [generateOn_of_present hprint hverify htext hpresent, LineDiff.diff?]
    refine ⟨fun heq => ?_, fun hne => ?_⟩
    · simp [heq]
    · simp [hne]

/-- A run whose files are named from the root writes its text, makes the directory for it, and is up
to date by the comparison after it. -/
theorem generate_write_then_verify_of_absolute_paths :
    let machine : Machine :=
      { files := (FileSystem.empty ["work"]).put ["work", "s.sql"]
          (.file (.text "CREATE TABLE t (a int);")) }
    let s : Settings := { schemaFile := "/work/s.sql", outFile := "/out/db.d.ts" }
    ∃ text after, s.generateOn machine = (.ok text, after) ∧
      after.files.readText "/out/db.d.ts" = .ok text ∧
      s.verifying.generateOn after = (.ok text, after) := by
  intro machine s
  have hok : (s.generateOn machine).1.isOk = true := by decide +kernel
  have hapart : (s.generateOn machine).2.files.locate s.schemaFile ≠
      (s.generateOn machine).2.files.locate s.outFile := by decide +kernel
  obtain ⟨text, htext⟩ : ∃ text, (s.generateOn machine).1 = .ok text := by
    cases hresult : (s.generateOn machine).1 with
    | ok text => exact ⟨text, rfl⟩
    | error failure =>
      rw [hresult] at hok
      cases hok
  have hrun : s.generateOn machine = (.ok text, (s.generateOn machine).2) := Prod.ext htext rfl
  obtain ⟨hread, -, hverify⟩ := (generate_write_then_verify s machine).2.2.1 text _ rfl rfl hrun
  exact ⟨text, _, hrun, hread, hverify hapart⟩

end Settings

end TableTypes
