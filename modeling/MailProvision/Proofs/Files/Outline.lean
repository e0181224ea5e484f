import MailProvision.Files.Disk
import MailProvision.Proofs.Files.Walking

/-!
# Trees with the same outline

Two trees have the same outline if they differ in nothing but what their files hold: the same
locations, the same kinds, the same modes. Paths lead to the same places in both, and making
directories does the same to both, down to the fault that it ends with.
-/

namespace MailProvision

/-- An entry without what it holds. -/
def Entry.outline : Entry → Entry
  | directory => directory
  | file mode _ => file mode []

namespace FileTree

/-- Two trees that differ in nothing but what their files hold. -/
def SameOutline (tree other : FileTree) : Prop :=
  ∀ location, (tree.get? location).map Entry.outline = (other.get? location).map Entry.outline

namespace SameOutline

variable {tree other : FileTree}

theorem refl (tree : FileTree) : tree.SameOutline tree :=
  fun _ => rfl

theorem symm (same : tree.SameOutline other) : other.SameOutline tree :=
  fun location => (same location).symm

/-- What stands at a location in two trees with the same outline. -/
inductive Pair : Option Entry → Option Entry → Prop
  | nothing : Pair none none
  | directory : Pair (some .directory) (some .directory)
  | file (mode : Nat) (content other : List UInt8) :
      Pair (some (.file mode content)) (some (.file mode other))

theorem pair (same : tree.SameOutline other) (location : Location) :
    Pair (tree.get? location) (other.get? location) := by
  have outlines := same location
  generalize tree.get? location = entry, other.get? location = entry' at outlines
  cases entry with
  | none =>
      cases entry' with
      | none => exact .nothing
      | some found => cases outlines
  | some found =>
      cases entry' with
      | none => cases outlines
      | some found' =>
          cases found with
          | directory =>
              cases found' with
              | directory => exact .directory
              | file mode content => cases outlines
          | file mode content =>
              cases found' with
              | directory => cases outlines
              | file mode' content' =>
                  cases outlines
                  exact .file _ _ _

theorem insert (same : tree.SameOutline other) (location : Location) {entry entry' : Entry}
    (outline : entry.outline = entry'.outline) :
    (tree.insert location entry).SameOutline (other.insert location entry') := by
  intro seen
  simp only [get?_insert]
  by_cases here : seen = location ∧ seen ≠ []
  · rw [if_pos here, if_pos here, Option.map_some, Option.map_some, outline]
  · rw [if_neg here, if_neg here]
    exact same seen

theorem isDirectoryAt (same : tree.SameOutline other) : tree.SameDirectories other := by
  intro location
  unfold FileTree.isDirectoryAt
  have pair := same.pair location
  generalize tree.get? location = entry, other.get? location = entry' at pair
  cases pair with
  | nothing => rfl
  | directory => rfl
  | file mode content content' => simp

section Paths

variable (same : tree.SameOutline other)
include same

theorem step (location : Location) (name : String) :
    tree.step location name = other.step location name := by
  unfold FileTree.step
  have here := same.pair location
  have below := same.pair (location ++ [.text name])
  generalize tree.get? location = entry, other.get? location = entry',
    tree.get? (location ++ [.text name]) = next,
    other.get? (location ++ [.text name]) = next' at here below
  cases here with
  | nothing => rfl
  | file mode content content' => rfl
  | directory =>
      cases below with
      | nothing => rfl
      | directory => rfl
      | file mode content content' => rfl

theorem walk (location : Location) (names : List String) :
    tree.walk location names = other.walk location names := by
  induction names generalizing location with
  | nil => rfl
  | cons name rest ih =>
      rw [FileTree.walk, FileTree.walk, same.step]
      cases other.step location name with
      | error fault => rfl
      | ok next => exact ih next

theorem resolve (workingDirectory : Location) (path : String) :
    tree.resolve workingDirectory path = other.resolve workingDirectory path := by
  unfold FileTree.resolve
  rw [same.walk]
  simp only [same.isDirectoryAt _]

theorem isDirectory (workingDirectory : Location) (path : String) :
    tree.isDirectory workingDirectory path = other.isDirectory workingDirectory path := by
  unfold FileTree.isDirectory
  rw [same.resolve]
  simp only [same.isDirectoryAt _]

theorem resolveParent (workingDirectory : Location) (path : String) :
    tree.resolveParent workingDirectory path = other.resolveParent workingDirectory path := by
  unfold FileTree.resolveParent
  cases checkPath path with
  | error fault => rfl
  | ok checked =>
      simp only [bind, Except.bind]
      cases (names path).getLast? with
      | none => rfl
      | some last =>
          simp only [same.walk]
          cases other.walk (start workingDirectory path) (names path).dropLast with
          | error fault => rfl
          | ok directory =>
              have here := same.pair directory
              simp only
              generalize tree.get? directory = entry, other.get? directory = entry' at here
              cases here with
              | nothing => rfl
              | directory => rfl
              | file mode content content' => rfl

end Paths

end SameOutline

/-- Two attempts to change trees end with the same fault, or with trees of the same outline. -/
inductive SameAttempt : Except FileFault FileTree → Except FileFault FileTree → Prop
  | fault (fault : FileFault) : SameAttempt (.error fault) (.error fault)
  | made {tree other : FileTree} (same : tree.SameOutline other) :
      SameAttempt (.ok tree) (.ok other)

/-- Two attempts that can end half-way end with the same answer and trees of the same outline. -/
structure SameProgress (first second : FileTree × Except FileFault Unit) : Prop where
  tree : first.1.SameOutline second.1
  result : first.2 = second.2

namespace SameOutline

variable {tree other : FileTree} (same : tree.SameOutline other)
include same

theorem makeDirectory (workingDirectory : Location) (path : String) :
    SameAttempt (tree.makeDirectory workingDirectory path)
      (other.makeDirectory workingDirectory path) := by
  unfold FileTree.makeDirectory
  rw [same.resolveParent]
  cases other.resolveParent workingDirectory path with
  | error fault => exact .fault fault
  | ok found =>
      rcases found with ⟨directory, last⟩
      cases last with
      | here => exact .fault _
      | up => exact .fault _
      | root => exact .fault _
      | name name =>
          simp only [bind, Except.bind]
          cases checkName name with
          | error fault => exact .fault fault
          | ok checked =>
              have below := same.pair (directory ++ [.text name])
              simp only
              generalize tree.get? (directory ++ [.text name]) = entry,
                other.get? (directory ++ [.text name]) = entry' at below
              cases below with
              | nothing => exact .made (same.insert _ rfl)
              | directory => exact .fault _
              | file mode content content' => exact .fault _

theorem ensureDirectory (workingDirectory : Location) (path : String) :
    SameProgress (tree.ensureDirectory workingDirectory path)
      (other.ensureDirectory workingDirectory path) := by
  unfold FileTree.ensureDirectory
  have attempts := same.makeDirectory workingDirectory path
  rw [same.isDirectory]
  generalize tree.makeDirectory workingDirectory path = first,
    other.makeDirectory workingDirectory path = second at attempts
  cases attempts with
  | fault fault => exact ⟨same, rfl⟩
  | made made => exact ⟨made, rfl⟩

/-- Up to the first directory that is there or cannot be made. -/
theorem makeChain (workingDirectory : Location) (paths : List String) :
    SameProgress (FileTree.makeChain workingDirectory paths tree)
      (FileTree.makeChain workingDirectory paths other) := by
  induction paths with
  | nil => exact ⟨same, rfl⟩
  | cons path parents ih =>
      rw [FileTree.makeChain, FileTree.makeChain, same.isDirectory]
      by_cases empty : path = ""
      · rw [if_pos empty, if_pos empty]
        exact ⟨same, rfl⟩
      · rw [if_neg empty, if_neg empty]
        have attempts := same.makeDirectory workingDirectory path
        generalize tree.makeDirectory workingDirectory path = first,
          other.makeDirectory workingDirectory path = second at attempts
        cases attempts with
        | made made => exact ⟨made, rfl⟩
        | fault fault =>
            cases fault with
            | notFound =>
                generalize FileTree.makeChain workingDirectory parents tree = first,
                  FileTree.makeChain workingDirectory parents other = second at ih
                rcases first with ⟨above, result⟩
                rcases second with ⟨above', result'⟩
                rcases ih with ⟨sameAbove, rfl⟩
                cases result with
                | error fault => exact ⟨sameAbove, rfl⟩
                | ok done => exact sameAbove.ensureDirectory workingDirectory path
            | _ => exact ⟨same, rfl⟩

theorem makeDirectories (workingDirectory : Location) (path : String) :
    SameProgress (tree.makeDirectories workingDirectory path)
      (other.makeDirectories workingDirectory path) :=
  same.makeChain workingDirectory (Path.ancestors path)

end SameOutline

end FileTree

end MailProvision
