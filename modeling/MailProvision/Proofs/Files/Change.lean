import MailProvision.Proofs.Files.Places

/-!
# What others do to a tree

While files are staged others go on making and removing directories and files. They never touch a
temporary file itself, since no path that anybody writes down leads to one; it goes away only with
everything else in its directory. `Change.apply` is what one such change does, and `Change.sweeps`
tells whether it takes with it what stands in a directory.
-/

namespace MailProvision

namespace Location

/-- Whether the last name is that of a temporary file. -/
def isTemporary (location : Location) : Bool :=
  match location.getLast? with
  | some (.temporary _) => true
  | _ => false

/-- Whether the location can be written down. -/
def isPlain (location : Location) : Bool :=
  location.all fun name =>
    match name with
    | .text _ => true
    | .temporary _ => false

@[simp]
theorem isTemporary_append_temporary (directory : Location) (number : Nat) :
    isTemporary (directory ++ [.temporary number]) = true := by
  simp [isTemporary]

theorem temporary_not_mem_of_isPlain {location : Location} (plain : location.isPlain = true)
    (number : Nat) : .temporary number ∉ location := by
  intro mem
  simpa using List.all_eq_true.mp plain _ mem

theorem not_isTemporary_of_isPlain {location : Location} (plain : location.isPlain = true) :
    location.isTemporary = false := by
  rcases List.eq_nil_or_concat location with rfl | ⟨init, last, rfl⟩
  · rfl
  · cases last with
    | text text => simp [isTemporary]
    | temporary number =>
        exact absurd (by simp) (temporary_not_mem_of_isPlain plain number)

theorem ne_temporary_of_isPlain {location : Location} (plain : location.isPlain = true)
    (directory : Location) (number : Nat) : location ≠ directory ++ [.temporary number] := by
  rintro rfl
  exact temporary_not_mem_of_isPlain plain number (by simp)

/-- What stands at or above a temporary file and can be written down is at or above its directory. -/
theorem prefix_directory_of_isPlain {location directory : Location} {number : Nat}
    (plain : location.isPlain = true) (isAbove : location <+: directory ++ [.temporary number]) :
    location <+: directory := by
  rcases List.prefix_concat_iff.mp isAbove with whole | isAbove
  · exact absurd whole (ne_temporary_of_isPlain plain directory number)
  · exact isAbove

end Location

namespace FileTree

/-- Two trees with the same entries apart from temporary files. -/
def SameVisible (tree other : FileTree) : Prop :=
  ∀ location, location.isTemporary = false → tree.get? location = other.get? location

namespace SameVisible

variable {tree other : FileTree}

theorem refl (tree : FileTree) : tree.SameVisible tree :=
  fun _ _ => rfl

theorem symm (same : tree.SameVisible other) : other.SameVisible tree :=
  fun location visible => (same location visible).symm

theorem trans {third : FileTree} (left : tree.SameVisible other)
    (right : other.SameVisible third) : tree.SameVisible third :=
  fun location visible => (left location visible).trans (right location visible)

theorem isDirectoryAt (same : tree.SameVisible other) {location : Location}
    (visible : location.isTemporary = false) :
    tree.isDirectoryAt location = other.isDirectoryAt location := by
  simp only [FileTree.isDirectoryAt, same location visible]

theorem insert (same : tree.SameVisible other) (location : Location) (entry : Entry) :
    (tree.insert location entry).SameVisible (other.insert location entry) := by
  intro seen visible
  simp only [get?_insert, same seen visible]

theorem erase (same : tree.SameVisible other) (location : Location) :
    (tree.erase location).SameVisible (other.erase location) := by
  intro seen visible
  simp only [get?_erase, same seen visible]

theorem eraseBelow (same : tree.SameVisible other) (location : Location) :
    (tree.eraseBelow location).SameVisible (other.eraseBelow location) := by
  intro seen visible
  simp only [get?_eraseBelow, same seen visible]

theorem ite {condition : Prop} [Decidable condition] {tree' other' : FileTree}
    (yes : tree.SameVisible other) (no : tree'.SameVisible other') :
    (if condition then tree else tree').SameVisible (if condition then other else other') := by
  split
  · exact yes
  · exact no

theorem insert_temporary (tree : FileTree) (directory : Location) (number : Nat) (entry : Entry) :
    tree.SameVisible (tree.insert (directory ++ [.temporary number]) entry) := by
  intro seen visible
  refine (get?_insert_of_ne ?_ _ _).symm
  rintro rfl
  simp at visible

theorem erase_temporary (tree : FileTree) (directory : Location) (number : Nat) :
    tree.SameVisible (tree.erase (directory ++ [.temporary number])) := by
  intro seen visible
  refine (get?_erase_of_ne ?_ _).symm
  rintro rfl
  simp at visible

end SameVisible

end FileTree

/-- What others do to a tree. -/
inductive Change where
  | makeDirectory (location : Location)
  /-- With everything in it. -/
  | removeDirectory (location : Location)
  | emptyDirectory (location : Location)
  | putFile (location : Location) (mode : Nat) (content : List UInt8)
  | removeFile (location : Location)

namespace Change

def location : Change → Location
  | makeDirectory location => location
  | removeDirectory location => location
  | emptyDirectory location => location
  | putFile location _ _ => location
  | removeFile location => location

/-- The tree after a change; a change that is not possible is not made. -/
def apply (change : Change) (tree : FileTree) : FileTree :=
  if change.location.isPlain = false then tree
  else
    match change with
    | makeDirectory location =>
        if (tree.get? location).isSome then tree else tree.insert location .directory
    | removeDirectory location =>
        if tree.isDirectoryAt location then (tree.eraseBelow location).erase location else tree
    | emptyDirectory location =>
        if tree.isDirectoryAt location then tree.eraseBelow location else tree
    | putFile location mode content =>
        if tree.isDirectoryAt location then tree else tree.insert location (.file mode content)
    | removeFile location =>
        if tree.isDirectoryAt location then tree else tree.erase location

/-- Whether a change takes with it what stands in a directory. -/
def sweeps (change : Change) (tree : FileTree) (directory : Location) : Bool :=
  match change with
  | removeDirectory location =>
      location.isPlain && tree.isDirectoryAt location && location.isPrefixOf directory
  | emptyDirectory location =>
      location.isPlain && tree.isDirectoryAt location && location.isPrefixOf directory
  | _ => false

/-- Everything that a change can come to. -/
inductive Made (change : Change) (tree : FileTree) : FileTree → Prop where
  | nothing (spares : ∀ directory, change.sweeps tree directory = false) : Made change tree tree
  | makeDirectory (location : Location) (plain : location.isPlain = true)
      (free : tree.get? location = none)
      (spares : ∀ directory, change.sweeps tree directory = false) :
      Made change tree (tree.insert location .directory)
  | removeDirectory (location : Location) (plain : location.isPlain = true)
      (stands : tree.isDirectoryAt location = true)
      (sweeps_iff : ∀ directory, change.sweeps tree directory = true ↔ location <+: directory) :
      Made change tree ((tree.eraseBelow location).erase location)
  | emptyDirectory (location : Location) (plain : location.isPlain = true)
      (stands : tree.isDirectoryAt location = true)
      (sweeps_iff : ∀ directory, change.sweeps tree directory = true ↔ location <+: directory) :
      Made change tree (tree.eraseBelow location)
  | putFile (location : Location) (mode : Nat) (content : List UInt8)
      (plain : location.isPlain = true) (free : tree.isDirectoryAt location = false)
      (spares : ∀ directory, change.sweeps tree directory = false) :
      Made change tree (tree.insert location (.file mode content))
  | removeFile (location : Location) (plain : location.isPlain = true)
      (free : tree.isDirectoryAt location = false)
      (spares : ∀ directory, change.sweeps tree directory = false) :
      Made change tree (tree.erase location)

theorem made (change : Change) (tree : FileTree) : change.Made tree (change.apply tree) := by
  unfold apply
  split
  · rename_i unplain
    apply Made.nothing
    intro directory
    cases change <;> simp_all [sweeps, Change.location]
  · rename_i plain
    rw [Bool.not_eq_false] at plain
    cases change with
    | makeDirectory location =>
        simp only
        split
        · exact .nothing fun _ => rfl
        · rename_i free
          exact .makeDirectory location plain (by simpa using free) fun _ => rfl
    | removeDirectory location =>
        simp only
        split
        · rename_i stands
          refine .removeDirectory location plain stands fun directory => ?_
          simp_all [sweeps, Change.location]
        · rename_i absent
          exact .nothing fun _ => by simp [sweeps, absent]
    | emptyDirectory location =>
        simp only
        split
        · rename_i stands
          refine .emptyDirectory location plain stands fun directory => ?_
          simp_all [sweeps, Change.location]
        · rename_i absent
          exact .nothing fun _ => by simp [sweeps, absent]
    | putFile location mode content =>
        simp only
        split
        · exact .nothing fun _ => rfl
        · rename_i free
          exact .putFile location mode content plain (by simpa using free) fun _ => rfl
    | removeFile location =>
        simp only
        split
        · exact .nothing fun _ => rfl
        · rename_i free
          exact .removeFile location plain (by simpa using free) fun _ => rfl

section Temporary

variable {change : Change} {tree after : FileTree} {directory : Location}

theorem Made.get?_of_sweeps (made : change.Made tree after)
    (sweeps : change.sweeps tree directory = true) (number : Nat) :
    after.get? (directory ++ [.temporary number]) = none := by
  have proper : directory ++ [.temporary number] ≠ [] := by simp
  cases made with
  | nothing spares => simp [spares] at sweeps
  | makeDirectory location plain free spares => simp [spares] at sweeps
  | putFile location mode content plain free spares => simp [spares] at sweeps
  | removeFile location plain free spares => simp [spares] at sweeps
  | removeDirectory location plain stands sweeps_iff =>
      have isBelow := ((sweeps_iff _).mp sweeps).trans
        (List.prefix_append directory [Name.temporary number])
      have different := Location.ne_temporary_of_isPlain plain directory number
      simp [FileTree.get?_erase, FileTree.get?_eraseBelow, isBelow, Ne.symm different]
  | emptyDirectory location plain stands sweeps_iff =>
      have isBelow := ((sweeps_iff _).mp sweeps).trans
        (List.prefix_append directory [Name.temporary number])
      have different := Location.ne_temporary_of_isPlain plain directory number
      simp [FileTree.get?_eraseBelow, isBelow, Ne.symm different]

theorem Made.get?_of_spares (made : change.Made tree after)
    (spares : change.sweeps tree directory = false) (number : Nat) :
    after.get? (directory ++ [.temporary number]) =
      tree.get? (directory ++ [.temporary number]) := by
  have notBelow {location : Location} (plain : location.isPlain = true)
      (sweeps_iff : ∀ directory, change.sweeps tree directory = true ↔ location <+: directory) :
      ¬location <+: directory ++ [.temporary number] := by
    intro isAbove
    have isAbove := Location.prefix_directory_of_isPlain plain isAbove
    rw [← sweeps_iff, spares] at isAbove
    cases isAbove
  cases made with
  | nothing _ => rfl
  | makeDirectory location plain free _ =>
      exact FileTree.get?_insert_of_ne
        (Ne.symm (Location.ne_temporary_of_isPlain plain directory number)) _ _
  | putFile location mode content plain free _ =>
      exact FileTree.get?_insert_of_ne
        (Ne.symm (Location.ne_temporary_of_isPlain plain directory number)) _ _
  | removeFile location plain free _ =>
      exact FileTree.get?_erase_of_ne
        (Ne.symm (Location.ne_temporary_of_isPlain plain directory number)) _
  | removeDirectory location plain stands sweeps_iff =>
      rw [FileTree.get?_erase_of_ne
        (Ne.symm (Location.ne_temporary_of_isPlain plain directory number))]
      simp [FileTree.get?_eraseBelow, notBelow plain sweeps_iff]
  | emptyDirectory location plain stands sweeps_iff =>
      simp [FileTree.get?_eraseBelow, notBelow plain sweeps_iff]

/-- A directory that is not swept still stands with all that is above it. -/
theorem Made.rooted (made : change.Made tree after)
    (spares : change.sweeps tree directory = false) (rooted : tree.Rooted directory) :
    after.Rooted directory := by
  intro above isAbove
  have stands := rooted above isAbove
  have notBelow {location : Location}
      (sweeps_iff : ∀ directory, change.sweeps tree directory = true ↔ location <+: directory) :
      ¬location <+: above := by
    intro isBelow
    have isBelow := isBelow.trans isAbove
    rw [← sweeps_iff, spares] at isBelow
    cases isBelow
  cases made with
  | nothing _ => exact stands
  | makeDirectory location plain free _ =>
      have different : above ≠ location := by
        rintro rfl
        simp [FileTree.isDirectoryAt, free] at stands
      simp only [FileTree.isDirectoryAt, FileTree.get?_insert_of_ne different]
      exact stands
  | putFile location mode content plain free _ =>
      rw [← FileTree.SameDirectories.insert_file free]
      exact stands
  | removeFile location plain free _ =>
      rw [← FileTree.SameDirectories.erase free]
      exact stands
  | removeDirectory location plain standing sweeps_iff =>
      have different : above ≠ location := by
        rintro rfl
        exact notBelow sweeps_iff List.prefix_rfl
      simp only [FileTree.isDirectoryAt, FileTree.get?_erase_of_ne different,
        FileTree.get?_eraseBelow, notBelow sweeps_iff, false_and, if_false]
      exact stands
  | emptyDirectory location plain standing sweeps_iff =>
      simp only [FileTree.isDirectoryAt, FileTree.get?_eraseBelow, notBelow sweeps_iff, false_and,
        if_false]
      exact stands

end Temporary

/-- A change does the same whatever temporary files there are. -/
theorem sameVisible_apply {tree other : FileTree} (same : tree.SameVisible other)
    (change : Change) : (change.apply tree).SameVisible (change.apply other) := by
  simp only [apply]
  cases plain : change.location.isPlain with
  | false => exact same
  | true =>
      have visible := Location.not_isTemporary_of_isPlain plain
      have found := same change.location visible
      have directory := same.isDirectoryAt visible
      simp only [Bool.true_eq_false, if_false]
      cases change with
      | makeDirectory location =>
          simp only [Change.location] at found
          simp only [found]
          exact same.ite (same.insert _ _)
      | removeDirectory location =>
          simp only [Change.location] at directory
          simp only [directory]
          exact ((same.eraseBelow _).erase _).ite same
      | emptyDirectory location =>
          simp only [Change.location] at directory
          simp only [directory]
          exact (same.eraseBelow _).ite same
      | putFile location mode content =>
          simp only [Change.location] at directory
          simp only [directory]
          exact same.ite (same.insert _ _)
      | removeFile location =>
          simp only [Change.location] at directory
          simp only [directory]
          exact same.ite (same.erase _)

end Change

end MailProvision
