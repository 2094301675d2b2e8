import BoardSupervisor.Proofs.Files.Lookup

/-!
# Trees that agree on a directory

Which names stay in the directory that they are looked up in can be read off their parts. A name
that goes up from the directory and then enters an entry, or that begins with a slash and enters one
at all, leaves it. Every other name leads to the same place in all trees that agree on the
directory, the same lies there, and a file that is found lies in the directory.
-/

namespace BoardSupervisor

namespace Path

/-- Whether a part is short enough for an entry. -/
def fits (part : String) : Bool := part.utf8ByteSize ≤ maxPieceBytes

/-- Whether a walk enters an entry: the first name on it is one that an entry can have. -/
def enters (parts : List String) : Bool := (parts.find? isName).any fits

/-- Whether a walk leaves the directory that it is some number of entries below: it goes up from
that directory and enters an entry from there. -/
def strays : Nat → List String → Bool
  | _, [] => false
  | depth, part :: rest =>
    if isName part then fits part && strays (depth + 1) rest
    else if part = ".." then
      match depth with
      | 0 => enters rest
      | depth + 1 => strays depth rest
    else strays depth rest

/-- Whether a name leaves the directory that it is looked up in. -/
def leaves (name : String) : Bool :=
  if isAbsolute name then enters (pieces name) else strays 0 (pieces name)

section Parts

variable {part : String} {rest : List String} {depth : Nat}

/-- The first name on a walk decides whether it enters an entry. -/
theorem enters_of_isName (named : isName part = true) : enters (part :: rest) = fits part := by
  simp [enters, named]

/-- What is no name enters nothing. -/
theorem enters_of_not_isName (unnamed : isName part = false) :
    enters (part :: rest) = enters rest := by
  simp [enters, unnamed]

/-- A name leads one entry further down, if it is not too long. -/
theorem strays_of_isName (named : isName part = true) :
    strays depth (part :: rest) = (fits part && strays (depth + 1) rest) := by
  simp [strays, named]

/-- A part that stays does not matter. -/
theorem strays_of_stays (stays : part = "" ∨ part = ".") :
    strays depth (part :: rest) = strays depth rest := by
  obtain ⟨unnamed, other⟩ := isName_of_stays stays
  simp [strays, unnamed, other]

/-- Two points lead one entry up. -/
theorem strays_up_succ : strays (depth + 1) (".." :: rest) = strays depth rest := rfl

/-- Two points lead out of the directory itself. -/
theorem strays_up_zero : strays 0 (".." :: rest) = enters rest := rfl

end Parts

end Path

/-- Two trees agree on a directory: it leads to the same place in both, and whatever lies there or
below is the same. -/
structure FileTree.AgreeOn (directory : String) (first second : FileTree) : Prop where
  /-- The directory leads to the same place. -/
  home : first.home directory = second.home directory
  /-- At that place and below it the same lies. -/
  entry : ∀ base, first.home directory = .ok base →
    ∀ inner, first.entry? (base ++ inner) = second.entry? (base ++ inner)

namespace FileTree

section Upwards

/-- Where a walk without names leads to. -/
def ascend (place : Place) (parts : List String) : Place :=
  parts.foldl (fun place part => if part = ".." then place.dropLast else place) place

/-- A walk without names leads up or nowhere. -/
theorem ascend_isPrefix (place : Place) (parts : List String) : ascend place parts <+: place := by
  induction parts generalizing place with
  | nil => exact List.prefix_refl place
  | cons part rest ih =>
    have above : place.dropLast <+: place := List.dropLast_prefix place
    change ascend (if part = ".." then place.dropLast else place) rest <+: place
    split
    · exact (ih place.dropLast).trans above
    · exact ih place

variable {tree : FileTree} {place : Place} {parts : List String}

/-- A walk that enters nothing does not depend on the tree: it fails at a name that is too long, or
leads up. -/
theorem walk_of_not_enters (directory : tree.isDirectory place = true)
    (outside : Path.enters parts = false) :
    tree.walk place parts =
      if parts.any Path.isName then .error .nameTooLong else .ok (ascend place parts) := by
  induction parts generalizing place with
  | nil => rfl
  | cons part rest ih =>
    cases named : Path.isName part with
    | true =>
      rw [Path.enters_of_isName named] at outside
      have long : part.utf8ByteSize > Path.maxPieceBytes := by simpa [Path.fits] using outside
      rw [walk_name directory named, if_pos long, List.any_cons, named, Bool.true_or, if_pos rfl]
    | false =>
      rw [Path.enters_of_not_isName named] at outside
      rw [List.any_cons, named, Bool.false_or]
      rcases Path.cases_of_not_isName named with stays | rfl
      · rw [walk_stay directory stays, ih directory outside, ascend, ascend, List.foldl_cons,
          if_neg (Path.isName_of_stays stays).2]
      · have above : place.dropLast <+: place := List.dropLast_prefix place
        rw [walk_up directory, ih (tree.isDirectory_of_prefix directory above) outside]
        rfl

/-- Where a walk that enters nothing ends, there is a directory. -/
theorem isDirectory_of_not_enters (directory : tree.isDirectory place = true)
    (outside : Path.enters parts = false) {last : Place}
    (reached : tree.walk place parts = .ok last) : tree.isDirectory last = true := by
  rw [walk_of_not_enters directory outside] at reached
  split at reached
  · cases reached
  · cases reached
    exact tree.isDirectory_of_prefix directory (ascend_isPrefix place parts)

end Upwards

section Agreement

variable {first second : FileTree} {base : Place}

/-- Walks that enter nothing lead to the same place from a directory of two trees, and that is a
directory of both. -/
theorem walk_alike_of_not_enters {place : Place} (directory : first.isDirectory place = true)
    (directoryToo : second.isDirectory place = true) {parts : List String}
    (outside : Path.enters parts = false) :
    first.walk place parts = second.walk place parts ∧
      ∀ last, first.walk place parts = .ok last →
        first.entry? last = some .directory ∧ second.entry? last = some .directory := by
  have same : first.walk place parts = second.walk place parts := by
    rw [walk_of_not_enters directory outside, walk_of_not_enters directoryToo outside]
  refine ⟨same, ?_⟩
  intro last reached
  have one := isDirectory_of_not_enters directory outside reached
  have other := isDirectory_of_not_enters directoryToo outside (same ▸ reached)
  exact ⟨first.entry?_of_isDirectory one, second.entry?_of_isDirectory other⟩

/-- Walks that do not leave a directory lead to the same place in trees that agree on it. The same
lies there, and the place is in the directory unless it is a directory itself: a walk that has come
above the directory enters nothing any more. -/
theorem walk_of_not_strays
    (agree : ∀ inner, first.entry? (base ++ inner) = second.entry? (base ++ inner))
    (parts : List String) (inner : Place) (stays : Path.strays inner.length parts = false) :
    first.walk (base ++ inner) parts = second.walk (base ++ inner) parts ∧
      ∀ last, first.walk (base ++ inner) parts = .ok last →
        first.entry? last = second.entry? last ∧
          (base <+: last ∨ first.entry? last = some .directory) := by
  induction parts generalizing inner with
  | nil =>
    refine ⟨rfl, ?_⟩
    intro last here
    cases here
    exact ⟨agree inner, .inl (List.prefix_append base inner)⟩
  | cons part rest ih =>
    by_cases found : first.entry? (base ++ inner) = some .directory
    case neg =>
      have foundToo := agree inner ▸ found
      rw [walk_of_not_directory found, walk_of_not_directory foundToo, agree inner]
      exact ⟨rfl, fun last reached => by cases reached⟩
    have directory := first.isDirectory_of_entry? found
    have directoryToo := second.isDirectory_of_entry? (agree inner ▸ found)
    cases named : Path.isName part with
    | true =>
      rw [Path.strays_of_isName named] at stays
      have next := agree (inner ++ [part])
      have later := ih (inner ++ [part])
      rw [← List.append_assoc] at next later
      rw [walk_name directory named, walk_name directoryToo named, next]
      split
      · exact ⟨rfl, fun last reached => by cases reached⟩
      · next short =>
        have fits : Path.fits part = true := by simpa [Path.fits] using short
        split
        · exact later (by simpa [fits] using stays)
        · exact ⟨rfl, fun last reached => by cases reached⟩
    | false =>
      rcases Path.cases_of_not_isName named with here | rfl
      · rw [Path.strays_of_stays here] at stays
        rw [walk_stay directory here, walk_stay directoryToo here]
        exact ih inner stays
      · rw [walk_up directory, walk_up directoryToo]
        rcases List.eq_nil_or_concat inner with rfl | ⟨outer, last, rfl⟩
        · have above : (base ++ []).dropLast <+: base ++ [] := List.dropLast_prefix _
          rw [List.length_nil, Path.strays_up_zero] at stays
          obtain ⟨same, ends⟩ := walk_alike_of_not_enters
            (first.isDirectory_of_prefix directory above)
            (second.isDirectory_of_prefix directoryToo above) stays
          refine ⟨same, ?_⟩
          intro last reached
          obtain ⟨one, other⟩ := ends last reached
          exact ⟨one.trans other.symm, .inr one⟩
        · rw [List.length_concat, Path.strays_up_succ] at stays
          have up : (base ++ outer.concat last).dropLast = base ++ outer := by simp
          rw [up]
          exact ih outer stays

variable {directory name : String}

/-- A name that does not leave its directory is found at the same place in trees that agree on the
directory. The same lies there, and the place is in the directory or is a directory itself. -/
theorem locate_of_not_leaves (agree : first.AgreeOn directory second)
    (stays : Path.leaves name = false) :
    first.locate (Path.join directory name) = second.locate (Path.join directory name) ∧
      ∀ last, first.locate (Path.join directory name) = .ok last →
        first.entry? last = second.entry? last ∧
          ((∃ base, first.home directory = .ok base ∧ base <+: last) ∨
            first.entry? last = some .directory) := by
  rw [locate_join, locate_join]
  cases Path.fault? (Path.join directory name) with
  | some fault => exact ⟨rfl, fun last reached => by cases reached⟩
  | none =>
    unfold Path.leaves at stays
    unfold startOf
    cases absolute : Path.isAbsolute name with
    | true =>
      rw [absolute, if_pos rfl] at stays
      obtain ⟨same, ends⟩ := walk_alike_of_not_enters first.isDirectory_root
        second.isDirectory_root stays
      refine ⟨same, ?_⟩
      intro last reached
      obtain ⟨one, other⟩ := ends last reached
      exact ⟨one.trans other.symm, .inr one⟩
    | false =>
      rw [absolute, if_neg Bool.false_ne_true] at stays
      rw [if_neg Bool.false_ne_true, if_neg Bool.false_ne_true, ← agree.home]
      cases home : first.home directory with
      | error fault => exact ⟨rfl, fun last reached => by cases reached⟩
      | ok base =>
        obtain ⟨same, found⟩ := walk_of_not_strays (agree.entry base home) (Path.pieces name) []
          stays
        rw [List.append_nil] at same found
        refine ⟨same, ?_⟩
        intro last reached
        obtain ⟨alike, inside | above⟩ := found last reached
        · exact ⟨alike, .inl ⟨base, rfl, inside⟩⟩
        · exact ⟨alike, .inr above⟩

/-- A name that does not leave its directory reads the same in trees that agree on the directory. -/
theorem read_of_not_leaves (agree : first.AgreeOn directory second)
    (stays : Path.leaves name = false) :
    first.read (Path.join directory name) = second.read (Path.join directory name) := by
  obtain ⟨same, ends⟩ := locate_of_not_leaves agree stays
  rw [read_eq, read_eq, ← same]
  cases reached : first.locate (Path.join directory name) with
  | error fault => rfl
  | ok last =>
    change first.content last = second.content last
    rw [content, content, (ends last reached).1]

/-- A tree agrees with itself. -/
theorem AgreeOn.refl (directory : String) (tree : FileTree) : tree.AgreeOn directory tree :=
  ⟨rfl, fun _ _ _ => rfl⟩

/-- A file that a name leads to lies in the directory that the name is looked up in, unless the name
leaves it. -/
theorem file_of_not_leaves {tree : FileTree} (stays : Path.leaves name = false) {place : Place}
    (reached : tree.locate (Path.join directory name) = .ok place) {bytes : Array UInt8}
    (file : tree.entry? place = some (.file bytes)) :
    ∃ base, tree.home directory = .ok base ∧ base <+: place := by
  obtain ⟨-, inside | above⟩ := (locate_of_not_leaves (.refl directory tree) stays).2 place reached
  · exact inside
  · rw [above] at file
    cases file

end Agreement

end FileTree

end BoardSupervisor
