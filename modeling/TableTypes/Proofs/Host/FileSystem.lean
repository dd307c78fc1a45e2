import Mathlib.Data.Set.Basic
import TableTypes.Host.FileSystem

/-!
# What a write changes

A file system is compared with a later one by a frame: the places whose files may have changed.
Directories are made only where nothing was, so no directory is ever lost, and a path passes through
directories only. A path that leads to a place therefore leads to the same place later on.
-/

namespace TableTypes

/-- What an entry holds if it is a file. -/
def Entry.content? : Entry → Option Content
  | directory => none
  | file content => some content

namespace FileSystem

/-- What the file at a place holds. -/
def file? (fs : FileSystem) (place : Place) : Option Content :=
  fs.entry? place |>.bind Entry.content?

/-- The second file system has the working directory and every directory of the first one, and the
same files but for those at some places. -/
structure Frame (before after : FileSystem) (written : Set Place) : Prop where
  workingDirectory : after.workingDirectory = before.workingDirectory
  directory : ∀ place, before.entry? place = some .directory →
    after.entry? place = some .directory
  file : ∀ place, place ∉ written → after.file? place = before.file? place

variable {before middle after : FileSystem} {written others : Set Place}

/-- Nothing has changed in a file system since itself. -/
theorem Frame.refl (fs : FileSystem) : Frame fs fs ∅ :=
  ⟨rfl, fun _ h => h, fun _ _ => rfl⟩

/-- More places may be given up. -/
theorem Frame.mono (h : Frame before after written) (hsub : written ⊆ others) :
    Frame before after others :=
  ⟨h.workingDirectory, h.directory,
    fun place hplace => h.file place fun hmem => hplace (hsub hmem)⟩

/-- What two steps keep is kept by the one after the other. -/
theorem Frame.trans (h : Frame before middle written) (h' : Frame middle after written) :
    Frame before after written :=
  ⟨h'.workingDirectory.trans h.workingDirectory, fun place hplace => h'.directory place (h.directory place hplace),
    fun place hplace => (h'.file place hplace).trans (h.file place hplace)⟩

/-! ## One entry -/

/-- An entry that is put at a place is found there, and all others are found as before. -/
theorem entry?_put (fs : FileSystem) (place other : Place) (e : Entry) :
    FileSystem.entry? (fs.put place e) other =
      if other = place then some e else fs.entry? other := rfl

/-- A file may go wherever there is no directory. -/
theorem frame_put_file {fs : FileSystem} {place : Place} (h : fs.entry? place ≠ some .directory)
    (content : Content) : Frame fs (fs.put place (.file content)) {place} where
  workingDirectory := rfl
  directory other hother := by
    have hne : other ≠ place := by
      rintro rfl
      exact h hother
    rw [entry?_put, if_neg hne, hother]
  file other hother := by
    have hne : other ≠ place := hother
    rw [file?, entry?_put, if_neg hne, file?]

/-- A directory goes only where there is nothing. -/
theorem frame_put_directory {fs : FileSystem} {place : Place} (h : fs.entry? place = none) :
    Frame fs (fs.put place .directory) ∅ where
  workingDirectory := rfl
  directory other hother := by
    rw [entry?_put]
    split
    · rfl
    · exact hother
  file other _ := by
    by_cases heq : other = place
    · simp [file?, entry?_put, heq, h, Entry.content?]
    · rw [file?, entry?_put, if_neg heq, file?]

/-! ## Making directories -/

/-- Making directories on the way from a place touches no file. -/
theorem frame_makeFrom (fs : FileSystem) (place : Place) (names : List String) :
    Frame fs (fs.makeFrom place names).1 ∅ := by
  fun_induction makeFrom fs place names with
  | case1 fs place => exact .refl fs
  | case2 fs place name rest hdot ih => exact ih
  | case3 fs place rest _ ih => exact ih
  | case4 fs place name rest hdot hup next hdir ih => exact ih
  | case5 fs place name rest hdot hup next content hfile => exact .refl fs
  | case6 fs place name rest hdot hup next hnone ih => exact (frame_put_directory hnone).trans ih

/-- Making directories touches no file, even where it fails halfway. -/
theorem frame_makeDirectories (fs : FileSystem) (path : String) :
    Frame fs (fs.makeDirectories path).1 ∅ := by
  unfold makeDirectories
  split
  · exact .refl fs
  · split
    · exact frame_makeFrom fs _ _
    · exact .refl fs

/-! ## Paths -/

/-- Names lead to the same place later on. -/
theorem Frame.follow (h : Frame before after written) {start place : Place} {names : List String}
    (hplace : before.follow start names = .ok place) : after.follow start names = .ok place := by
  -- every name is looked up in a directory, and those are kept
  fun_induction FileSystem.follow before start names with
  | case1 start => exact hplace
  | case2 start name rest hnone => cases hplace
  | case3 start name rest content hfile => cases hplace
  | case4 start name rest hdir hdot ih =>
    rw [FileSystem.follow, h.directory _ hdir]
    simpa only [hdot, if_true] using ih hplace
  | case5 start rest hdir _ ih =>
    rw [FileSystem.follow, h.directory _ hdir]
    simpa using ih hplace
  | case6 start name rest hdir hdot hup ih =>
    rw [FileSystem.follow, h.directory _ hdir]
    simpa only [hdot, hup, Bool.false_eq_true, if_false] using ih hplace

/-- A path starts from the same place later on. -/
theorem Frame.start_eq (h : Frame before after written) (path : String) :
    after.start path = before.start path := by
  simp only [start, h.workingDirectory]

/-- A path leads to the same place later on. -/
theorem Frame.locate (h : Frame before after written) {path : String} {place : Place}
    (hplace : before.locate path = .ok place) : after.locate path = .ok place := by
  unfold FileSystem.locate at hplace ⊢
  rw [h.start_eq]
  cases hstart : before.start path with
  | error fault => rw [hstart] at hplace; cases hplace
  | ok found => rw [hstart] at hplace; exact h.follow hplace

/-- A path from the root leads to the place of its names wherever the program works, and two dots lead
out of the working directory. -/
example :
    let fs := FileSystem.empty ["home", "app"]
    fs.locate "/home/app/db.ts" = .ok ["home", "app", "db.ts"] ∧
    fs.locate "db.ts" = .ok ["home", "app", "db.ts"] ∧
    fs.locate "../db.ts" = .ok ["home", "db.ts"] := by
  decide

/-! ## Files -/

/-- A path reads as a text if it leads to a file with this text. -/
theorem readText_eq_ok_iff {fs : FileSystem} {path text : String} :
    fs.readText path = .ok text ↔
      ∃ place, fs.locate path = .ok place ∧ fs.file? place = some (.text text) := by
  unfold readText look file?
  cases fs.locate path with
  | error fault => simp [Except.bind]
  | ok place =>
    rcases hentry : fs.entry? place with _ | _ | _ | _ <;>
      simp [Except.bind, hentry, Entry.content?]

/-- A text that is read stays the same if its file is not among the written ones. -/
theorem Frame.readText (h : Frame before after written) {path text : String}
    (hread : before.readText path = .ok text)
    (hkept : ∀ place, after.locate path = .ok place → place ∉ written) :
    after.readText path = .ok text := by
  obtain ⟨place, hplace, hfile⟩ := readText_eq_ok_iff.mp hread
  have hlater : after.locate path = .ok place := h.locate hplace
  exact readText_eq_ok_iff.mpr ⟨place, hlater, (h.file place (hkept place hlater)).trans hfile⟩

/-- A write puts a file at the place of the path, which held no directory. -/
theorem exists_put_of_write {path : String} {content : Content}
    (h : before.write path content = .ok after) :
    ∃ place, before.locate path = .ok place ∧ before.entry? place ≠ some .directory ∧
      after = before.put place (.file content) := by
  unfold write at h
  cases hplace : before.locate path with
  | error fault => rw [hplace] at h; cases h
  | ok place =>
    rw [hplace] at h
    simp only [Except.bind] at h
    split at h
    · cases h
    next hdir => exact ⟨place, rfl, hdir, (Except.ok.inj h).symm⟩

/-- A write changes the file at the place of the path and no other, and the path reads as what was
written. -/
theorem frame_write {path text : String} (h : before.write path (.text text) = .ok after) :
    ∃ place, after.locate path = .ok place ∧ Frame before after {place} ∧
      after.readText path = .ok text := by
  obtain ⟨place, hplace, hdir, rfl⟩ := exists_put_of_write h
  have hframe := frame_put_file hdir (.text text)
  have hlater := hframe.locate hplace
  have hfile : (before.put place (.file (.text text))).file? place = some (.text text) := by
    simp [file?, entry?_put, Entry.content?]
  exact ⟨place, hlater, hframe, readText_eq_ok_iff.mpr ⟨place, hlater, hfile⟩⟩

end FileSystem

end TableTypes
