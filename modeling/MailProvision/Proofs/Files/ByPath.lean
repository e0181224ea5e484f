import MailProvision.Files.Directories
import MailProvision.Proofs.Files.Change

/-!
# Changes that go by paths

Making, completing and removing directories, and removing files, all by paths from a working directory
that can be written down, are no more than sequences of changes.
-/

namespace MailProvision

namespace Location

theorem isPlain_append {location other : Location} (plain : location.isPlain = true)
    (otherPlain : isPlain other = true) : isPlain (location ++ other) = true := by
  simp only [isPlain] at plain otherPlain ⊢
  rw [List.all_append, plain, otherPlain]
  rfl

theorem isPlain_next {location : Location} (plain : location.isPlain = true) (name : String) :
    (location.next name).isPlain = true := by
  simp only [next]
  split
  · exact plain
  · split
    · have all := List.all_eq_true.mp plain
      apply List.all_eq_true.mpr
      intro seen mem
      exact all seen ((List.dropLast_prefix location).subset mem)
    · exact isPlain_append plain rfl

theorem isPlain_follow {location : Location} (plain : location.isPlain = true)
    (names : List String) : (location.follow names).isPlain = true := by
  induction names generalizing location with
  | nil => exact plain
  | cons name rest ih => exact ih (isPlain_next plain name)

end Location

namespace FileTree

variable {tree other : FileTree} {workingDirectory location : Location} {path : String}

theorem isPlain_of_walk (plain : workingDirectory.isPlain = true) {names : List String}
    (walked : tree.walk (start workingDirectory path) names = .ok location) :
    location.isPlain = true := by
  have start_plain : (start workingDirectory path).isPlain = true := by
    simp only [start]
    split
    · rfl
    · exact plain
  rw [walk_eq_follow walked]
  exact Location.isPlain_follow start_plain names

theorem isPlain_of_resolve (plain : workingDirectory.isPlain = true)
    (resolved : tree.resolve workingDirectory path = .ok location) : location.isPlain = true :=
  isPlain_of_walk plain (resolve_ok_iff.1 resolved).2.1

theorem isPlain_of_resolveParent (plain : workingDirectory.isPlain = true) {last : LastStep}
    (resolved : tree.resolveParent workingDirectory path = .ok (location, last)) :
    location.isPlain = true := by
  have led := (resolveParent_ok_iff.1 resolved).2
  cases final : (names path).getLast? with
  | none =>
      simp only [final] at led
      rw [led.1]
      rfl
  | some name =>
      simp only [final] at led
      exact isPlain_of_walk plain led.1

def applyAll (tree : FileTree) (changes : List Change) : FileTree :=
  changes.foldl (fun tree change => change.apply tree) tree

/-- Others can make the second tree of the first. -/
def ChangesTo (tree other : FileTree) : Prop :=
  ∃ changes : List Change, tree.applyAll changes = other

namespace ChangesTo

theorem refl (tree : FileTree) : tree.ChangesTo tree :=
  ⟨[], rfl⟩

theorem of_apply (change : Change) (applied : change.apply tree = other) :
    tree.ChangesTo other :=
  ⟨[change], applied⟩

theorem trans {third : FileTree} (first : tree.ChangesTo other)
    (second : other.ChangesTo third) : tree.ChangesTo third := by
  rcases first with ⟨changes, rfl⟩
  rcases second with ⟨later, rfl⟩
  exact ⟨changes ++ later, List.foldl_append⟩

end ChangesTo

/-- A directory that is made is put where nothing stood. -/
theorem exists_place_of_makeDirectory
    (made : tree.makeDirectory workingDirectory path = .ok other) :
    ∃ above name, tree.resolveParent workingDirectory path = .ok (above, .name name) ∧
      name.utf8ByteSize ≤ nameLimit ∧ tree.get? (above ++ [.text name]) = none ∧
      tree.insert (above ++ [.text name]) .directory = other := by
  simp only [makeDirectory] at made
  cases parent : tree.resolveParent workingDirectory path with
  | error fault => simp [parent, bind, Except.bind] at made
  | ok found =>
      rcases found with ⟨above, last⟩
      cases last with
      | here => simp [parent, bind, Except.bind] at made
      | up => simp [parent, bind, Except.bind] at made
      | root => simp [parent, bind, Except.bind] at made
      | name name =>
          refine ⟨above, name, rfl, ?_⟩
          by_cases long : nameLimit < name.utf8ByteSize
          · simp [parent, bind, Except.bind, checkName, long] at made
          · cases free : tree.get? (above ++ [.text name]) with
            | some entry => simp [parent, bind, Except.bind, checkName, long, free] at made
            | none =>
                simp only [parent, bind, Except.bind, checkName, long, if_false, free,
                  Except.ok.injEq] at made
                exact ⟨Nat.not_lt.mp long, rfl, made⟩

/-- A file that is removed stood where it is missing then. -/
theorem exists_place_of_remove (removed : tree.remove workingDirectory path = .ok other) :
    ∃ above name, tree.resolveParent workingDirectory path = .ok (above, .name name) ∧
      tree.isDirectoryAt (above ++ [.text name]) = false ∧
      tree.erase (above ++ [.text name]) = other := by
  simp only [remove] at removed
  cases parent : tree.resolveParent workingDirectory path with
  | error fault => simp [parent, bind, Except.bind] at removed
  | ok found =>
      rcases found with ⟨above, last⟩
      cases last with
      | here => simp [parent, bind, Except.bind] at removed
      | up => simp [parent, bind, Except.bind] at removed
      | root => simp [parent, bind, Except.bind] at removed
      | name name =>
          refine ⟨above, name, rfl, ?_⟩
          by_cases long : nameLimit < name.utf8ByteSize
          · simp [parent, bind, Except.bind, checkName, long] at removed
          · cases held : tree.get? (above ++ [.text name]) with
            | none => simp [parent, bind, Except.bind, checkName, long, held] at removed
            | some entry =>
                cases entry with
                | directory => simp [parent, bind, Except.bind, checkName, long, held] at removed
                | file mode content =>
                    by_cases slash : wantsDirectory path = true
                    · simp [parent, bind, Except.bind, checkName, long, held, slash] at removed
                    · simp only [parent, bind, Except.bind, checkName, long, if_false, held,
                        slash, Bool.false_eq_true, Except.ok.injEq] at removed
                      exact ⟨by simp [isDirectoryAt, held], removed⟩

theorem changesTo_of_makeDirectory (plain : workingDirectory.isPlain = true)
    (made : tree.makeDirectory workingDirectory path = .ok other) : tree.ChangesTo other := by
  rcases exists_place_of_makeDirectory made with ⟨above, name, parent, _, free, rfl⟩
  have placePlain : Location.isPlain (above ++ [.text name]) = true :=
    Location.isPlain_append (isPlain_of_resolveParent plain parent) rfl
  apply ChangesTo.of_apply (.makeDirectory (above ++ [.text name]))
  simp [Change.apply, Change.location, placePlain, free]

theorem changesTo_of_remove (plain : workingDirectory.isPlain = true)
    (removed : tree.remove workingDirectory path = .ok other) : tree.ChangesTo other := by
  rcases exists_place_of_remove removed with ⟨above, name, parent, free, rfl⟩
  have placePlain : Location.isPlain (above ++ [.text name]) = true :=
    Location.isPlain_append (isPlain_of_resolveParent plain parent) rfl
  apply ChangesTo.of_apply (.removeFile (above ++ [.text name]))
  simp [Change.apply, Change.location, placePlain, free]

/-- What is done to a tree by a path from a working directory. -/
inductive PathOperation where
  | makeDirectory (path : String)
  | makeDirectories (path : String)
  | removeDirectories (path : String)
  | remove (path : String)

/-- The tree after something was done by a path, or was tried and failed. -/
def perform (tree : FileTree) (workingDirectory : Location) : PathOperation → FileTree
  | .makeDirectory path => (tree.ensureDirectory workingDirectory path).1
  | .makeDirectories path => (tree.makeDirectories workingDirectory path).1
  | .removeDirectories path => (tree.removeDirectories workingDirectory path).1
  | .remove path => (tree.remove workingDirectory path).toOption.getD tree

theorem changesTo_ensureDirectory (plain : workingDirectory.isPlain = true) (tree : FileTree)
    (path : String) : tree.ChangesTo (tree.ensureDirectory workingDirectory path).1 := by
  simp only [ensureDirectory]
  cases made : tree.makeDirectory workingDirectory path with
  | ok after => exact changesTo_of_makeDirectory plain made
  | error fault => exact .refl tree

theorem changesTo_makeChain (plain : workingDirectory.isPlain = true) (paths : List String)
    (tree : FileTree) : tree.ChangesTo (makeChain workingDirectory paths tree).1 := by
  induction paths with
  | nil => exact .refl tree
  | cons path parents ih =>
      rw [makeChain]
      split
      · exact .refl tree
      · split
        · rename_i after made
          exact changesTo_of_makeDirectory plain made
        · split
          · rename_i after above
            rw [above] at ih
            exact ih.trans (changesTo_ensureDirectory plain after path)
          · rename_i after fault above
            rw [above] at ih
            exact ih
        · exact .refl tree

theorem changesTo_makeDirectories (plain : workingDirectory.isPlain = true) (tree : FileTree)
    (path : String) : tree.ChangesTo (tree.makeDirectories workingDirectory path).1 :=
  changesTo_makeChain plain (Path.ancestors path) tree

theorem changesTo_removeDirectories (plain : workingDirectory.isPlain = true) (tree : FileTree)
    (path : String) : tree.ChangesTo (tree.removeDirectories workingDirectory path).1 := by
  simp only [removeDirectories]
  cases resolved : tree.resolve workingDirectory path with
  | error fault => exact .refl tree
  | ok location =>
      have locationPlain := isPlain_of_resolve plain resolved
      by_cases stands : tree.isDirectoryAt location = true
      · have emptied : tree.ChangesTo (tree.eraseBelow location) :=
          .of_apply (.emptyDirectory location)
            (by simp [Change.apply, Change.location, locationPlain, stands])
        have removed : tree.ChangesTo ((tree.eraseBelow location).erase location) :=
          .of_apply (.removeDirectory location)
            (by simp [Change.apply, Change.location, locationPlain, stands])
        simp only [stands, if_true]
        cases (tree.eraseBelow location).resolveParent workingDirectory path with
        | error fault => exact emptied
        | ok found =>
            rcases found with ⟨_, last⟩
            cases last with
            | name name => exact removed
            | here => exact emptied
            | up => exact emptied
            | root => exact emptied
      · simp only [stands]
        exact .refl tree

/-- Whatever is done by a path is a sequence of changes. -/
theorem changesTo_perform (plain : workingDirectory.isPlain = true) (tree : FileTree)
    (operation : PathOperation) : tree.ChangesTo (tree.perform workingDirectory operation) := by
  cases operation with
  | makeDirectory path => exact changesTo_ensureDirectory plain tree path
  | makeDirectories path => exact changesTo_makeDirectories plain tree path
  | removeDirectories path => exact changesTo_removeDirectories plain tree path
  | remove path =>
      simp only [perform]
      cases removed : tree.remove workingDirectory path with
      | error fault => exact .refl tree
      | ok after => exact changesTo_of_remove plain removed

end FileTree

end MailProvision
