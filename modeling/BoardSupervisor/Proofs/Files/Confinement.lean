import BoardSupervisor.Proofs.Command.Effect
import BoardSupervisor.Proofs.Files.Straying

/-!
# Names that are confined to their directory

A file command looks its name up in the machine's directory, but nothing holds the name there: one
that begins with a slash starts from the root, and two points lead up. Loading a file is confined to
the directory for exactly the names that do not leave it.
-/

namespace BoardSupervisor

/-- A name is confined to the directory that it is looked up in: loading the file of that name ends
alike on trees that agree on the directory. -/
def Path.Confined (name : String) : Prop :=
  ∀ (directory : String) (first second : FileTree), first.AgreeOn directory second →
    ∀ (address start : UInt16) (m : Machine),
      let one := Act.loadFile name address start ⟨first.disk, directory⟩ m
      let other := Act.loadFile name address start ⟨second.disk, directory⟩ m
      one.value = other.value ∧ one.machine = other.machine

namespace Act

variable {name : String} {around other : Bench} {address start : UInt16} {m : Machine}

/-- How loading a file ends depends on what the disk answers to its name, and on nothing else around
the board. -/
theorem loadFile_congr (same : around.file name = other.file name) (address start : UInt16)
    (m : Machine) : loadFile name address start around m = loadFile name address start other m := by
  cases read : around.file name with
  | error cause =>
    rw [loadFile_of_unreadable around m address start read,
      loadFile_of_unreadable other m address start (same ▸ read)]
  | ok image =>
    rw [loadFile_of_readable around m address start read,
      loadFile_of_readable other m address start (same ▸ read)]

/-- A cause for which a file cannot be read is told, so that loading it ends in the same way only
where it cannot be read for the same cause. -/
theorem file_of_loadFile_value {cause : ReadFault} (unreadable : around.file name = .error cause)
    (same : (loadFile name address start around m).value =
      (loadFile name address start other m).value) : other.file name = .error cause := by
  rw [loadFile_of_unreadable around m address start unreadable] at same
  cases read : other.file name with
  | error cause' =>
    rw [loadFile_of_unreadable other m address start read] at same
    cases same
    rfl
  | ok image =>
    rw [loadFile_of_readable other m address start read] at same
    split at same <;> cases same

end Act

namespace Path

variable {name : String}

/-- A name is confined if it reads the same in trees that agree on its directory. -/
theorem confined_of_read (same : ∀ (directory : String) (first second : FileTree),
    first.AgreeOn directory second →
      first.read (join directory name) = second.read (join directory name)) : Confined name := by
  intro directory first second agree address start m one other
  have answered : (⟨first.disk, directory⟩ : Bench).file name =
      (⟨second.disk, directory⟩ : Bench).file name := same directory first second agree
  have alike : one = other := Act.loadFile_congr answered address start m
  exact ⟨congrArg Outcome.value alike, congrArg Outcome.machine alike⟩

/-- A name that does not leave its directory is confined. -/
theorem confined_of_not_leaves (stays : leaves name = false) : Confined name :=
  confined_of_read fun _ _ _ agree => FileTree.read_of_not_leaves agree stays

/-- A name that is no path is confined, as it reads nothing. -/
theorem confined_of_fault (given : name ≠ "") (faulty : fault? name ≠ none) : Confined name := by
  apply confined_of_read
  intro directory first second _
  obtain ⟨fault, found⟩ := Option.ne_none_iff_exists'.mp (fault?_join given faulty directory)
  rw [FileTree.read_eq, FileTree.read_eq, FileTree.locate, FileTree.locate, found]
  rfl

/-- A name that leaves its directory is not confined. -/
theorem not_confined_of_leaves (clean : fault? name = none) (leaves : leaves name = true) :
    ¬ Confined name := by
  intro confined
  obtain ⟨first, second, agree, nothing, something⟩ :=
    FileTree.exists_apart_of_leaves clean leaves
  have same := (confined "" first second agree 0 0 Machine.powerOn).1
  have unreadable : (⟨first.disk, ""⟩ : Bench).file name = .error .notFound := nothing
  exact something (Act.file_of_loadFile_value unreadable same)

/-- A name is confined exactly if it is no path at all or does not leave the directory that it is
looked up in, and a file that a confined name leads to lies in that directory. -/
theorem confined_iff (name : String) :
    (Confined name ↔ fault? name ≠ none ∨ leaves name = false) ∧
      (Confined name → ∀ (directory : String) (tree : FileTree) (place : Place)
        (bytes : Array UInt8), tree.locate (join directory name) = .ok place →
          tree.entry? place = some (.file bytes) →
            ∃ base, tree.home directory = .ok base ∧ base <+: place) := by
  have exactly : Confined name ↔ fault? name ≠ none ∨ leaves name = false := by
    constructor
    · intro confined
      by_contra neither
      rw [not_or, not_not, Bool.not_eq_false] at neither
      exact not_confined_of_leaves neither.1 neither.2 confined
    · by_cases given : name = ""
      · intro _
        exact confined_of_not_leaves (by rw [given]; decide)
      · rintro (faulty | stays)
        · exact confined_of_fault given faulty
        · exact confined_of_not_leaves stays
  refine ⟨exactly, ?_⟩
  intro confined directory tree place bytes reached file
  by_cases stays : leaves name = false
  · exact FileTree.file_of_not_leaves stays reached file
  · have faulty := (exactly.mp confined).resolve_right stays
    have given : name ≠ "" := by
      rintro rfl
      exact stays (by decide)
    obtain ⟨fault, found⟩ := Option.ne_none_iff_exists'.mp (fault?_join given faulty directory)
    rw [FileTree.locate, found] at reached
    cases reached

/-- A directory with a file and a directory in it. -/
def shelf : FileTree := ⟨[], [(["d", "A.BIN"], #[1]), (["d", "SUB", "B.BIN"], #[2])]⟩

/-- A name may go down and up again, and leads to a file in the directory then; a name that begins
with a slash is not confined. -/
theorem confined_iff_subdirectory :
    Confined "SUB/../A.BIN" ∧ ¬ Confined "/X.BIN" ∧
      ∃ base, shelf.home "d" = .ok base ∧ base <+: ["d", "A.BIN"] := by
  have confined : Confined "SUB/../A.BIN" := (confined_iff _).1.mpr (.inr (by decide))
  refine ⟨confined, ?_, ?_⟩
  · intro confined
    have either := (confined_iff _).1.mp confined
    revert either
    decide
  · exact (confined_iff _).2 confined "d" shelf ["d", "A.BIN"] #[1] (by rfl) (by rfl)

/-- A name with two points is not confined: a file beside the directory is read through it. -/
theorem not_confined_beside : ¬ Confined "../OUT.BIN" := by
  intro confined
  have agree : shelf.AgreeOn "d" (shelf.add ["OUT.BIN"] #[0x3e, 0x42]) := by
    refine ⟨by rfl, ?_⟩
    intro base here inner
    have below : base = ["d"] := by
      have there : shelf.home "d" = .ok ["d"] := by rfl
      rw [there] at here
      cases here
      rfl
    rw [below, FileTree.entry?_add _ (by simp)]
  have same := (confined "d" _ _ agree 0x100 0x100 Machine.powerOn).1
  have unreadable : (⟨shelf.disk, "d"⟩ : Bench).file "../OUT.BIN" = .error .notFound := by
    rfl
  have readable : (⟨(shelf.add ["OUT.BIN"] #[0x3e, 0x42]).disk, "d"⟩ : Bench).file
      "../OUT.BIN" = .ok #[0x3e, 0x42] := by rfl
  have unreadableToo := Act.file_of_loadFile_value unreadable same
  rw [readable] at unreadableToo
  cases unreadableToo

end Path

end BoardSupervisor
