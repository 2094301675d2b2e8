import BoardSupervisor.Files
import Mathlib.Tactic.ByContra

/-!
# Looking up a name in a directory

A name that does not begin with a slash is looked up from the place that its directory leads to: the
walk through the joined path is the walk through the directory followed by the walk through the
name.
A walk goes from directory to directory, and whatever lies above a directory is a directory too.
-/

namespace BoardSupervisor

namespace Path

/-- The parts of a path that is put together at a slash. -/
theorem pieces_slash (before after : List Char) :
    pieces (String.ofList (before ++ '/' :: after)) =
      pieces (String.ofList before) ++ pieces (String.ofList after) := by
  unfold pieces
  simp only [String.toList_ofList]
  rw [List.splitOnP_append_cons before after (by decide), List.map_append]

/-- A path has at least one part. -/
theorem pieces_ne_nil (path : String) : pieces path ≠ [] := by
  simp [pieces, List.splitOnP_ne_nil]

/-- The parts of an empty path: one, and that is empty. -/
theorem pieces_empty : pieces "" = [""] := by decide

/-- A part that names an entry, and does not stay or lead up. -/
def isName (part : String) : Bool := part != "" && part != "." && part != ".."

/-- What is no name stays or leads up. -/
theorem cases_of_not_isName {part : String} (unnamed : isName part = false) :
    (part = "" ∨ part = ".") ∨ part = ".." := by
  by_contra neither
  simp_all [isName]

/-- A part that stays names nothing and does not lead up. -/
theorem isName_of_stays {part : String} (stays : part = "" ∨ part = ".") :
    isName part = false ∧ part ≠ ".." := by
  rcases stays with rfl | rfl <;> decide

/-- Only the first character of a path decides whether it starts from the root. -/
theorem isAbsolute_append {front : String} (given : front ≠ "") (rest : String) :
    isAbsolute (front ++ rest) = isAbsolute front := by
  obtain ⟨c, chars, front_eq⟩ := List.exists_cons_of_ne_nil (mt String.toList_eq_nil_iff.mp given)
  simp [isAbsolute, front_eq]

/-- Nothing is wrong with a path that has no zero in it, is not empty and not too long. -/
theorem fault?_eq_none_iff (path : String) :
    fault? path = none ↔
      '\x00' ∉ path.toList ∧ path ≠ "" ∧ path.utf8ByteSize ≤ maxBytes := by
  unfold fault?
  by_cases zero : '\x00' ∈ path.toList <;> by_cases empty : path = "" <;>
    by_cases long : path.utf8ByteSize ≤ maxBytes <;> simp_all

/-- What is wrong with a name is wrong with it in every directory, unless the name is empty. -/
theorem fault?_join {name : String} (given : name ≠ "") (faulty : fault? name ≠ none)
    (directory : String) : fault? (join directory name) ≠ none := by
  have joined : ∃ front, join directory name = front ++ name := by
    unfold join
    split
    · exact ⟨"", by simp⟩
    · split
      · exact ⟨directory, rfl⟩
      · exact ⟨directory ++ "/", rfl⟩
  obtain ⟨front, joined⟩ := joined
  intro clean
  rw [joined, fault?_eq_none_iff, String.toList_append, List.mem_append,
    String.utf8ByteSize_append] at clean
  obtain ⟨nowhere, -, short⟩ := clean
  apply faulty
  rw [fault?_eq_none_iff]
  exact ⟨fun zero => nowhere (.inr zero), given, by omega⟩

/-- A name that does not begin with a slash is joined to a directory by adding its parts, where an
empty part at the end of the directory gives way. -/
theorem pieces_join {directory name : String} (relative : isAbsolute name = false)
    (given : directory ≠ "") :
    pieces (join directory name) = pieces directory ++ pieces name ∨
      ∃ front, pieces directory = front ++ [""] ∧
        pieces (join directory name) = front ++ pieces name := by
  have nonempty : directory.isEmpty = false := by simpa using given
  unfold join
  rw [relative, nonempty, Bool.or_false, if_neg Bool.false_ne_true]
  by_cases slash : directory.toList.getLast? = some '/'
  · right
    obtain ⟨front, split⟩ := List.getLast?_eq_some_iff.mp slash
    have directory_eq : directory = String.ofList (front ++ '/' :: []) := by
      rw [← split, String.ofList_toList]
    have joined : directory ++ name = String.ofList (front ++ '/' :: name.toList) := by
      rw [directory_eq]
      apply String.toList_injective
      simp
    rw [slash, if_pos (by rfl), joined, pieces_slash, String.ofList_toList]
    refine ⟨pieces (String.ofList front), ?_, rfl⟩
    rw [directory_eq, pieces_slash]
    exact congrArg _ pieces_empty
  · left
    have joined : directory ++ "/" ++ name =
        String.ofList (directory.toList ++ '/' :: name.toList) := by
      apply String.toList_injective
      simp
    rw [if_neg (by simpa using slash), joined, pieces_slash, String.ofList_toList,
      String.ofList_toList]

end Path

namespace FileTree

variable (tree : FileTree)

/-- The place that a directory leads to. -/
def home (directory : String) : Except ReadFault Place :=
  tree.walk (if Path.isAbsolute directory then [] else tree.workingDirectory)
    (Path.pieces directory)

/-- The bytes that lie at a place. -/
def content (place : Place) : Except ReadFault (Array UInt8) :=
  match tree.entry? place with
  | none => .error .notFound
  | some .directory => .error .isDirectory
  | some (.file bytes) => .ok bytes

/-- Reading a path is reading the place that it leads to. -/
theorem read_eq (path : String) : tree.read path = tree.locate path >>= tree.content := rfl

/-- A walk begins with one step. -/
theorem walk_cons (place : Place) (part : String) (rest : List String) :
    tree.walk place (part :: rest) = tree.step place part >>= fun next => tree.walk next rest :=
  List.foldlM_cons

/-- Two walks, one after the other. -/
theorem walk_append (place : Place) (first second : List String) :
    tree.walk place (first ++ second) =
      tree.walk place first >>= fun next => tree.walk next second :=
  List.foldlM_append

/-- A place that is a directory is found as one. -/
theorem entry?_of_isDirectory {place : Place} (directory : tree.isDirectory place = true) :
    tree.entry? place = some .directory := by
  unfold entry?
  rw [directory, if_pos rfl]

/-- A place is found as a directory only if it is one. -/
theorem isDirectory_of_entry? {place : Place} (found : tree.entry? place = some .directory) :
    tree.isDirectory place = true := by
  cases directory : tree.isDirectory place with
  | true => rfl
  | false =>
    unfold entry? at found
    rw [directory, if_neg Bool.false_ne_true, Option.map_eq_some_iff] at found
    obtain ⟨_, _, same⟩ := found
    cases same

/-- What lies above a directory is a directory. -/
theorem isDirectory_of_prefix {place above : Place} (directory : tree.isDirectory place = true)
    (leads : above <+: place) : tree.isDirectory above = true := by
  simp only [isDirectory, Bool.or_eq_true, List.any_eq_true, Bool.and_eq_true,
    List.isPrefixOf_iff_prefix, bne_iff_ne] at directory ⊢
  rcases directory with working | ⟨⟨path, bytes⟩, member, below, other⟩
  · exact .inl (leads.trans working)
  · refine .inr ⟨⟨path, bytes⟩, member, leads.trans below, ?_⟩
    rintro rfl
    exact other (below.eq_of_length_le leads.length_le).symm

/-- The working directory is a directory. -/
theorem isDirectory_workingDirectory : tree.isDirectory tree.workingDirectory = true := by
  simp [isDirectory]

/-- The root is a directory. -/
theorem isDirectory_root : tree.isDirectory [] = true := by
  simp [isDirectory]

section Steps

variable {tree} {place : Place} {part : String} {rest : List String}

/-- A walk does not go on where no directory is, whatever its next part is. -/
theorem walk_of_not_directory (other : tree.entry? place ≠ some .directory) :
    tree.walk place (part :: rest) =
      .error (if (tree.entry? place).isNone then .notFound else .notDirectory) := by
  rw [walk_cons, step]
  cases found : tree.entry? place with
  | none => rfl
  | some entry =>
    cases entry with
    | directory => exact absurd found other
    | file bytes => rfl

/-- A walk through a directory stays there at an empty part or a point. -/
theorem walk_stay (directory : tree.isDirectory place = true) (stays : part = "" ∨ part = ".") :
    tree.walk place (part :: rest) = tree.walk place rest := by
  rw [walk_cons, step, tree.entry?_of_isDirectory directory]
  dsimp only
  rw [if_pos stays]
  rfl

/-- A walk through a directory leads up at two points. -/
theorem walk_up (directory : tree.isDirectory place = true) :
    tree.walk place (".." :: rest) = tree.walk place.dropLast rest := by
  rw [walk_cons, step, tree.entry?_of_isDirectory directory]
  rfl

/-- A walk through a directory goes on to the entry that is named, if it is there. -/
theorem walk_name (directory : tree.isDirectory place = true) (named : Path.isName part = true) :
    tree.walk place (part :: rest) =
      if part.utf8ByteSize > Path.maxPieceBytes then .error .nameTooLong
      else if (tree.entry? (place ++ [part])).isSome then tree.walk (place ++ [part]) rest
      else .error .notFound := by
  have distinct : ¬ (part = "" ∨ part = ".") ∧ part ≠ ".." := by
    simp_all [Path.isName]
  rw [walk_cons, step, tree.entry?_of_isDirectory directory]
  dsimp only
  rw [if_neg distinct.1, if_neg distinct.2]
  split
  · rfl
  · split <;> rfl

/-- An empty part in a walk that goes on changes nothing. -/
theorem walk_empty_cons :
    tree.walk place ("" :: part :: rest) = tree.walk place (part :: rest) := by
  by_cases found : tree.entry? place = some .directory
  · exact walk_stay (tree.isDirectory_of_entry? found) (.inl rfl)
  · rw [walk_of_not_directory found, walk_of_not_directory found]

end Steps

/-- The directory without a name leads to the working directory. -/
theorem home_empty : tree.home "" = .ok tree.workingDirectory := by
  have relative : Path.isAbsolute "" = false := by decide
  rw [home, relative, Path.pieces_empty]
  exact walk_stay tree.isDirectory_workingDirectory (.inl rfl)

/-- The walk through a name that was joined to a directory is the walk through the directory and
then the walk through the name. -/
theorem walk_join {directory name : String} (relative : Path.isAbsolute name = false) :
    tree.walk (if Path.isAbsolute (Path.join directory name) then [] else tree.workingDirectory)
        (Path.pieces (Path.join directory name)) =
      tree.home directory >>= fun base => tree.walk base (Path.pieces name) := by
  obtain ⟨part, rest, name_eq⟩ := List.exists_cons_of_ne_nil (Path.pieces_ne_nil name)
  by_cases given : directory = ""
  · have joined : Path.join directory name = name := by simp [Path.join, given]
    rw [joined, relative, given, home_empty]
    rfl
  · have start : Path.isAbsolute (Path.join directory name) = Path.isAbsolute directory := by
      have nonempty : directory.isEmpty = false := by simpa using given
      unfold Path.join
      rw [relative, nonempty, Bool.or_false, if_neg Bool.false_ne_true]
      split
      · exact Path.isAbsolute_append given name
      · rw [String.append_assoc]
        exact Path.isAbsolute_append given ("/" ++ name)
    rw [start, home]
    rcases Path.pieces_join relative given with joined | ⟨front, directory_eq, joined⟩
    · rw [joined, walk_append]
    · rw [joined, directory_eq, walk_append, walk_append, bind_assoc]
      refine bind_congr fun base => ?_
      rw [← walk_append, List.singleton_append, name_eq, walk_empty_cons]

/-- The place that a name is looked up from: the root if it begins with a slash, else the place that
its directory leads to. -/
def startOf (directory name : String) : Except ReadFault Place :=
  if Path.isAbsolute name then .ok [] else tree.home directory

/-- Looking up a name in a directory is walking through its parts from where it is looked up, unless
something is wrong with the joined path. -/
theorem locate_join (directory name : String) :
    tree.locate (Path.join directory name) =
      match Path.fault? (Path.join directory name) with
      | some fault => .error fault
      | none =>
        tree.startOf directory name >>= fun start => tree.walk start (Path.pieces name) := by
  unfold locate
  cases Path.fault? (Path.join directory name) with
  | some fault => rfl
  | none =>
    dsimp only
    cases absolute : Path.isAbsolute name with
    | true =>
      have joined : Path.join directory name = name := by simp [Path.join, absolute]
      rw [joined, startOf, absolute]
      rfl
    | false => rw [tree.walk_join absolute, startOf, absolute, if_neg Bool.false_ne_true]

section Adding

/-- The tree with a file added at a place. -/
def add (place : Place) (bytes : Array UInt8) : FileTree :=
  { tree with files := (place, bytes) :: tree.files }

/-- A file that is added changes nothing at a place that it does not lie below. -/
theorem entry?_add {place other : Place} (apart : ¬ other <+: place) (bytes : Array UInt8) :
    FileTree.entry? (tree.add place bytes) other = tree.entry? other := by
  have notAbove : other.isPrefixOf place = false := by
    simpa [← List.isPrefixOf_iff_prefix] using apart
  have differs : (place == other) = false := by
    simp only [beq_eq_false_iff_ne]
    rintro rfl
    exact apart (List.prefix_refl place)
  have sameDirectory : (tree.add place bytes).isDirectory other = tree.isDirectory other := by
    simp [isDirectory, add, notAbove]
  have sameFile : (tree.add place bytes).files.find? (fun file => file.1 == other) =
      tree.files.find? fun file => file.1 == other := by
    simp only [add, List.find?_cons, differs]
  unfold entry?
  rw [sameDirectory]
  split
  · rfl
  · exact congrArg _ sameFile

/-- A file that is added lies at its place unless that is a directory. -/
theorem entry?_add_self {place : Place} (free : tree.isDirectory place = false)
    (bytes : Array UInt8) : FileTree.entry? (tree.add place bytes) place = some (.file bytes) := by
  have still : (tree.add place bytes).isDirectory place = false := by
    simpa [isDirectory, add] using free
  unfold entry?
  rw [still, if_neg Bool.false_ne_true]
  simp [add]

end Adding

end FileTree

end BoardSupervisor
