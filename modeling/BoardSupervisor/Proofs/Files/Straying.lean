import BoardSupervisor.Proofs.Files.Agreement

/-!
# Names that leave their directory

For a name that leaves the directory it is looked up in there are two trees that agree on the
directory and that the name tells apart. In the first one the places that it passes in the directory
are directories, and nothing lies where it enters an entry outside; in the second a file lies there.
-/

namespace BoardSupervisor

namespace Path

/-- The places that a walk would pass if all its names were those of directories. -/
def trail (inner : Place) : List String → List Place
  | [] => [inner]
  | part :: rest =>
    inner :: trail (if isName part then inner ++ [part] else if part = ".." then inner.dropLast
      else inner) rest

variable {inner : Place} {part : String} {rest : List String}

/-- A walk passes the place that it begins at. -/
theorem mem_trail (inner : Place) (parts : List String) : inner ∈ trail inner parts := by
  cases parts <;> simp [trail]

/-- A name leads to the place of its entry. -/
theorem trail_of_isName (named : isName part = true) :
    trail inner (part :: rest) = inner :: trail (inner ++ [part]) rest := by
  simp [trail, named]

/-- A part that stays leads nowhere else. -/
theorem trail_of_stays (stays : part = "" ∨ part = ".") :
    trail inner (part :: rest) = inner :: trail inner rest := by
  obtain ⟨unnamed, other⟩ := isName_of_stays stays
  simp [trail, unnamed, other]

/-- Two points lead up. -/
theorem trail_up : trail inner (".." :: rest) = inner :: trail inner.dropLast rest := rfl

end Path

namespace FileTree

section Straying

/-- How a walk ends tells whether a file lies at some place below the root. -/
def Tells (tree : FileTree) (entrance : String) (result : Except ReadFault Place) : Prop :=
  (tree.entry? [entrance] = none → result = .error .notFound) ∧
    ∀ bytes, tree.entry? [entrance] = some (.file bytes) →
      result = .ok [entrance] ∨ result = .error .notDirectory

/-- A walk from a file ends there or fails. -/
theorem walk_of_file {tree : FileTree} {place : Place} {bytes : Array UInt8}
    (file : tree.entry? place = some (.file bytes)) (parts : List String) :
    tree.walk place parts = .ok place ∨ tree.walk place parts = .error .notDirectory := by
  cases parts with
  | nil => exact .inl rfl
  | cons part rest =>
    right
    rw [walk_of_not_directory (by simp [file]), file]
    rfl

/-- A walk from the root that enters an entry tells whether a file is there. -/
theorem walk_root_of_enters {parts : List String} (entered : Path.enters parts = true) :
    ∃ entrance, ∀ tree : FileTree, tree.Tells entrance (tree.walk [] parts) := by
  induction parts with
  | nil => cases entered
  | cons part rest ih =>
    cases named : Path.isName part with
    | true =>
      rw [Path.enters_of_isName named] at entered
      have short : ¬ part.utf8ByteSize > Path.maxPieceBytes := by simpa [Path.fits] using entered
      refine ⟨part, ?_⟩
      intro tree
      rw [walk_name tree.isDirectory_root named, if_neg short, List.nil_append]
      refine ⟨?_, ?_⟩
      · intro nothing
        rw [nothing]
        rfl
      · intro bytes file
        have there : (tree.entry? [part]).isSome = true := by rw [file]; rfl
        rw [if_pos there]
        exact walk_of_file file rest
    | false =>
      rw [Path.enters_of_not_isName named] at entered
      obtain ⟨entrance, tells⟩ := ih entered
      refine ⟨entrance, ?_⟩
      intro tree
      have same : tree.walk [] (part :: rest) = tree.walk [] rest := by
        rcases Path.cases_of_not_isName named with stays | rfl
        · exact walk_stay tree.isDirectory_root stays
        · exact walk_up tree.isDirectory_root
      rw [same]
      exact tells tree

/-- A walk that leaves a directory below the root tells whether a file lies at some place
outside the directory, if all the places that it passes in the directory are directories. -/
theorem walk_of_strays (parts : List String) (inner : Place)
    (strays : Path.strays inner.length parts = true) :
    ∃ entrance, ∀ (tree : FileTree) (home : String),
      (∀ place ∈ Path.trail inner parts, tree.isDirectory (home :: place) = true) →
        tree.Tells entrance (tree.walk (home :: inner) parts) := by
  induction parts generalizing inner with
  | nil => cases strays
  | cons part rest ih =>
    cases named : Path.isName part with
    | true =>
      rw [Path.strays_of_isName named, Bool.and_eq_true] at strays
      have short : ¬ part.utf8ByteSize > Path.maxPieceBytes := by
        simpa [Path.fits] using strays.1
      obtain ⟨entrance, tells⟩ := ih (inner ++ [part]) (by simpa using strays.2)
      refine ⟨entrance, ?_⟩
      intro tree home passed
      rw [Path.trail_of_isName named, List.forall_mem_cons] at passed
      have next := passed.2 (inner ++ [part]) (Path.mem_trail (inner ++ [part]) rest)
      have there : (tree.entry? (home :: inner ++ [part])).isSome = true := by
        rw [List.cons_append, tree.entry?_of_isDirectory next]
        rfl
      rw [walk_name passed.1 named, if_neg short, if_pos there]
      exact tells tree home passed.2
    | false =>
      rcases Path.cases_of_not_isName named with stays | rfl
      · rw [Path.strays_of_stays stays] at strays
        obtain ⟨entrance, tells⟩ := ih inner strays
        refine ⟨entrance, ?_⟩
        intro tree home passed
        rw [Path.trail_of_stays stays, List.forall_mem_cons] at passed
        rw [walk_stay passed.1 stays]
        exact tells tree home passed.2
      · rcases List.eq_nil_or_concat inner with rfl | ⟨outer, last, rfl⟩
        · rw [List.length_nil, Path.strays_up_zero] at strays
          obtain ⟨entrance, tells⟩ := walk_root_of_enters strays
          refine ⟨entrance, ?_⟩
          intro tree home passed
          rw [Path.trail_up, List.forall_mem_cons] at passed
          rw [walk_up passed.1]
          exact tells tree
        · rw [List.length_concat, Path.strays_up_succ] at strays
          obtain ⟨entrance, tells⟩ := ih outer strays
          refine ⟨entrance, ?_⟩
          intro tree home passed
          rw [Path.trail_up, List.forall_mem_cons, List.concat_eq_append, List.dropLast_concat]
            at passed
          have up : ((home :: outer) ++ [last]).dropLast = home :: outer := List.dropLast_concat
          rw [List.concat_eq_append, walk_up passed.1, ← List.cons_append, up]
          exact tells tree home passed.2

end Straying

section Apart

/-- A tree has its working directory below the root, and directories at the given places in it. -/
structure Holds (tree : FileTree) (home : String) (places : List Place) : Prop where
  /-- The working directory. -/
  working : tree.workingDirectory = [home]
  /-- The directories in it. -/
  passed : ∀ place ∈ places, tree.isDirectory (home :: place) = true

/-- A tree whose working directory lies at the root, with directories at the given places in it. -/
def ofPlaces (home : String) (places : List Place) : FileTree :=
  ⟨[home], places.map fun inner => (home :: inner ++ ["x"], #[])⟩

variable (home : String) (places : List Place)

/-- The given places are directories. -/
theorem isDirectory_ofPlaces {inner : Place} (given : inner ∈ places) :
    (ofPlaces home places).isDirectory (home :: inner) = true := by
  simp only [isDirectory, ofPlaces, Bool.or_eq_true, List.any_map, List.any_eq_true]
  refine .inr ⟨inner, given, ?_⟩
  simp

variable {home} {entrance : String}

/-- Nothing lies beside the working directory. -/
theorem entry?_ofPlaces_of_ne (other : entrance ≠ home) :
    (ofPlaces home places).isDirectory [entrance] = false ∧
      FileTree.entry? (ofPlaces home places) [entrance] = none := by
  have free : (ofPlaces home places).isDirectory [entrance] = false := by
    simp [isDirectory, ofPlaces, List.isPrefixOf, other]
  refine ⟨free, ?_⟩
  unfold entry?
  rw [free, if_neg Bool.false_ne_true, Option.map_eq_none_iff, List.find?_eq_none]
  simp [ofPlaces, Ne.symm other]

/-- A file beside the working directory is no matter of the working directory. -/
theorem agreeOn_add (other : entrance ≠ home) (bytes : Array UInt8) :
    (ofPlaces home places).AgreeOn "" ((ofPlaces home places).add [entrance] bytes) := by
  refine ⟨?_, ?_⟩
  · rw [home_empty, home_empty]
    rfl
  · intro base here inner
    rw [home_empty] at here
    cases here
    have apart : ¬ [home] ++ inner <+: [entrance] := by simp [Ne.symm other]
    exact (entry?_add _ apart bytes).symm

/-- There are two trees that agree on their working directory and have directories at the given
places in it. Nothing lies at the entrance in the first one, and a file in the second. -/
theorem exists_apart (entrance : String) (places : List Place) :
    ∃ (home : String) (first second : FileTree), first.AgreeOn "" second ∧
      first.Holds home places ∧ second.Holds home places ∧
        first.entry? [entrance] = none ∧ second.entry? [entrance] = some (.file #[]) := by
  obtain ⟨home, other⟩ : ∃ home : String, entrance ≠ home := by
    by_cases same : entrance = "d"
    · exact ⟨"e", by rw [same]; decide⟩
    · exact ⟨"d", same⟩
  obtain ⟨free, nothing⟩ := entry?_ofPlaces_of_ne places other
  have passed : ∀ place ∈ places, (ofPlaces home places).isDirectory (home :: place) = true :=
    fun _ given => isDirectory_ofPlaces home places given
  have passedToo : ∀ place ∈ places,
      ((ofPlaces home places).add [entrance] #[]).isDirectory (home :: place) = true := by
    intro place given
    apply isDirectory_of_entry?
    rw [entry?_add _ (by simp [Ne.symm other]), entry?_of_isDirectory _ (passed place given)]
  exact ⟨home, _, _, agreeOn_add places other #[], ⟨rfl, passed⟩, ⟨rfl, passedToo⟩, nothing,
    entry?_add_self _ free #[]⟩

/-- Looking up a name that leaves its directory tells whether a file lies at some place, if all the
places that the name passes in the directory are directories. -/
theorem locate_of_leaves {name : String} (clean : Path.fault? name = none)
    (leaves : Path.leaves name = true) :
    ∃ entrance, ∀ (tree : FileTree) (home : String),
      tree.Holds home (Path.trail [] (Path.pieces name)) →
        tree.Tells entrance (tree.locate (Path.join "" name)) := by
  have joined : Path.join "" name = name := by simp [Path.join]
  unfold Path.leaves at leaves
  cases absolute : Path.isAbsolute name with
  | true =>
    rw [absolute, if_pos rfl] at leaves
    obtain ⟨entrance, tells⟩ := walk_root_of_enters leaves
    refine ⟨entrance, ?_⟩
    intro tree home _
    rw [locate_join, joined, clean, startOf, absolute]
    exact tells tree
  | false =>
    rw [absolute, if_neg Bool.false_ne_true] at leaves
    obtain ⟨entrance, tells⟩ := walk_of_strays (Path.pieces name) [] leaves
    refine ⟨entrance, ?_⟩
    rintro tree home ⟨working, passed⟩
    rw [locate_join, joined, clean, startOf, absolute, home_empty, working]
    exact tells tree home passed

/-- For a name that leaves its directory there are two trees that agree on the directory and in
which the name does not read the same. -/
theorem exists_apart_of_leaves {name : String} (clean : Path.fault? name = none)
    (leaves : Path.leaves name = true) :
    ∃ first second : FileTree, first.AgreeOn "" second ∧
      first.read (Path.join "" name) = .error .notFound ∧
        second.read (Path.join "" name) ≠ .error .notFound := by
  obtain ⟨entrance, tells⟩ := locate_of_leaves clean leaves
  obtain ⟨home, first, second, agree, held, heldToo, nothing, file⟩ :=
    exists_apart entrance (Path.trail [] (Path.pieces name))
  refine ⟨first, second, agree, ?_, ?_⟩
  · rw [read_eq, (tells first home held).1 nothing]
    rfl
  · rw [read_eq]
    rcases (tells second home heldToo).2 #[] file with reached | reached
    · rw [reached]
      change second.content [entrance] ≠ _
      rw [content, file]
      exact fun same => by cases same
    · rw [reached]
      exact fun same => by cases same

end Apart

end FileTree

end BoardSupervisor
