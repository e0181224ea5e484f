import MailProvision.Proofs.Files.ByPath

/-!
# Completing directories

Creating a directory with all that is missing above it only adds to a tree: what stood there stays,
and all that is new are directories to which the path or a path above it leads (`Raises`). If it
succeeds the path leads to a directory, and doing it once more changes nothing.
-/

namespace MailProvision

namespace Path

/-- The first path is the parent of the second, or the parent of that, and so on. -/
inductive Above : String → String → Prop
  | parent {path above : String} (parent : parent? path = some above) : Above above path
  | higher {path middle above : String} (parent : parent? path = some middle)
      (further : Above above middle) : Above above path

theorem mem_ancestorsWithin {limit : Nat} {path above : String}
    (member : above ∈ ancestorsWithin limit path) : above = path ∨ Above above path := by
  induction limit generalizing path with
  | zero => cases member
  | succ limit ih =>
      rw [ancestorsWithin] at member
      rcases List.mem_cons.mp member with same | higher
      · exact .inl same
      · right
        cases parent : parent? path with
        | none =>
            rw [parent] at higher
            cases higher
        | some middle =>
            rw [parent] at higher
            rcases ih higher with rfl | further
            · exact .parent parent
            · exact .higher parent further

theorem above_of_mem_ancestors {path parent above : String}
    (isParent : parent? path = some parent) (member : above ∈ ancestors parent) :
    Above above path := by
  rcases mem_ancestorsWithin member with rfl | further
  · exact .parent isParent
  · exact .higher isParent further

end Path

namespace FileTree

/-- Every entry of the first tree is in the second. -/
def KeptIn (tree other : FileTree) : Prop :=
  ∀ location entry, tree.get? location = some entry → other.get? location = some entry

namespace KeptIn

variable {tree other : FileTree} (kept : tree.KeptIn other)
include kept

theorem isDirectoryAt {location : Location} (directory : tree.isDirectoryAt location = true) :
    other.isDirectoryAt location = true :=
  isDirectoryAt_iff.2 (kept _ _ (isDirectoryAt_iff.1 directory))

theorem walk {location final : Location} {names : List String}
    (walked : tree.walk location names = .ok final) : other.walk location names = .ok final := by
  induction names generalizing location with
  | nil => exact walked
  | cons name rest ih =>
      rcases walk_cons_ok_iff.1 walked with ⟨stepped, onward⟩
      rcases step_ok_iff.1 stepped with ⟨start, _, shape⟩
      refine walk_cons_ok_iff.2 ⟨step_ok_iff.2 ⟨kept.isDirectoryAt start, rfl, ?_⟩, ih onward⟩
      rcases shape with here | up | ⟨short, there⟩
      · exact .inl here
      · exact .inr (.inl up)
      · rcases Option.isSome_iff_exists.mp there with ⟨entry, found⟩
        exact .inr (.inr ⟨short, by simp [kept _ _ found]⟩)

theorem resolveParent {workingDirectory directory : Location} {path : String} {last : LastStep}
    (resolved : tree.resolveParent workingDirectory path = .ok (directory, last)) :
    other.resolveParent workingDirectory path = .ok (directory, last) := by
  rcases resolveParent_ok_iff.1 resolved with ⟨checked, led⟩
  refine resolveParent_ok_iff.2 ⟨checked, ?_⟩
  cases final : (names path).getLast? with
  | none => simpa [final] using led
  | some name =>
      simp only [final] at led ⊢
      rcases led with ⟨walked, stands, last_eq⟩
      exact ⟨kept.walk walked, kept.isDirectoryAt stands, last_eq⟩

theorem resolve {workingDirectory location : Location} {path : String}
    (resolved : tree.resolve workingDirectory path = .ok location) :
    other.resolve workingDirectory path = .ok location := by
  rcases resolve_ok_iff.1 resolved with ⟨checked, walked, plain⟩
  exact resolve_ok_iff.2
    ⟨checked, kept.walk walked, fun slash => kept.isDirectoryAt (plain slash)⟩

end KeptIn

/-- The second tree is the first with directories added, each where one of the listed paths leads. -/
structure Raises (workingDirectory : Location) (listed : String → Prop) (tree other : FileTree) :
    Prop where
  kept : tree.KeptIn other
  added : ∀ location entry, tree.get? location = none → other.get? location = some entry →
    entry = .directory ∧
      ∃ path, listed path ∧ other.resolve workingDirectory path = .ok location

namespace Raises

variable {workingDirectory : Location} {listed : String → Prop} {tree other : FileTree}

theorem refl (workingDirectory : Location) (listed : String → Prop) (tree : FileTree) :
    Raises workingDirectory listed tree tree where
  kept _ _ found := found
  added _ _ absent found := by
    rw [absent] at found
    cases found

theorem trans {third : FileTree} (first : Raises workingDirectory listed tree other)
    (second : Raises workingDirectory listed other third) :
    Raises workingDirectory listed tree third where
  kept location entry found := second.kept location entry (first.kept location entry found)
  added location entry absent found := by
    cases between : other.get? location with
    | none => exact second.added location entry between found
    | some earlier =>
        rcases first.added location earlier absent between with ⟨rfl, path, isListed, led⟩
        cases (second.kept location _ between).symm.trans found
        exact ⟨rfl, path, isListed, second.kept.resolve led⟩

theorem mono {more : String → Prop} (raises : Raises workingDirectory listed tree other)
    (within : ∀ path, listed path → more path) : Raises workingDirectory more tree other where
  kept := raises.kept
  added location entry absent found := by
    rcases raises.added location entry absent found with ⟨directory, path, isListed, led⟩
    exact ⟨directory, path, within path isListed, led⟩

end Raises

variable {workingDirectory : Location} {tree other : FileTree} {path : String}

theorem isDirectory_iff :
    tree.isDirectory workingDirectory path = true ↔
      ∃ location, tree.resolve workingDirectory path = .ok location ∧
        tree.isDirectoryAt location = true := by
  unfold isDirectory
  cases tree.resolve workingDirectory path with
  | error fault => simp
  | ok location => simp

theorem KeptIn.isDirectory (kept : tree.KeptIn other)
    (stands : tree.isDirectory workingDirectory path = true) :
    other.isDirectory workingDirectory path = true := by
  rcases isDirectory_iff.1 stands with ⟨location, resolved, directory⟩
  exact isDirectory_iff.2 ⟨location, kept.resolve resolved, kept.isDirectoryAt directory⟩

theorem isDirectory_of_sameDirectories (same : tree.SameDirectories other)
    (stands : tree.isDirectory workingDirectory path = true) :
    other.isDirectory workingDirectory path = true := by
  rcases isDirectory_iff.1 stands with ⟨location, resolved, directory⟩
  refine isDirectory_iff.2 ⟨location, resolve_of_sameDirectories same resolved directory, ?_⟩
  rw [← same]
  exact directory

/-- The path leads to the directory that is made, and nothing else is new. -/
theorem raises_of_makeDirectory
    (made : tree.makeDirectory workingDirectory path = .ok other) :
    Raises workingDirectory (· = path) tree other ∧
      other.isDirectory workingDirectory path = true := by
  rcases exists_place_of_makeDirectory made with ⟨above, name, parent, short, free, rfl⟩
  have proper : above ++ [.text name] ≠ [] := by simp
  have added := get?_insert_self proper tree .directory
  have kept : tree.KeptIn (tree.insert (above ++ [.text name]) .directory) := by
    intro location entry found
    rw [get?_insert_of_ne, found]
    rintro rfl
    cases found.symm.trans free
  have led := resolve_of_resolveParent (kept.resolveParent parent) short (by simp [added])
    fun _ => isDirectoryAt_iff.2 added
  constructor
  · refine { kept, added := ?_ }
    intro location entry absent found
    by_cases here : location = above ++ [.text name]
    · subst location
      cases added.symm.trans found
      exact ⟨rfl, path, rfl, led⟩
    · rw [get?_insert_of_ne here, absent] at found
      cases found
  · exact isDirectory_iff.2 ⟨_, led, isDirectoryAt_iff.2 added⟩

/-- Where a directory stands none is made. -/
theorem makeDirectory_of_isDirectory (stands : tree.isDirectory workingDirectory path = true) :
    tree.makeDirectory workingDirectory path = .error .alreadyExists := by
  rcases isDirectory_iff.1 stands with ⟨location, resolved, directory⟩
  rcases resolve_ok_iff.1 resolved with ⟨checked, walked, _⟩
  rcases List.eq_nil_or_concat (names path) with nothing | ⟨init, last, names_eq⟩
  · have parent : tree.resolveParent workingDirectory path = .ok ([], .root) := by
      apply resolveParent_ok_iff.2
      simp [checked, nothing]
    simp [makeDirectory, parent, bind, Except.bind]
  · rw [List.concat_eq_append] at names_eq
    rw [names_eq] at walked
    rcases walk_append_ok_iff.1 walked with ⟨before, final⟩
    rcases walk_cons_ok_iff.1 final with ⟨stepped, arrived⟩
    rcases step_ok_iff.1 stepped with ⟨above, _, shape⟩
    have parent : tree.resolveParent workingDirectory path =
        .ok ((start workingDirectory path).follow init, lastStep last) := by
      apply resolveParent_ok_iff.2
      simp [checked, names_eq, before, above]
    by_cases here : last = "."
    · simp [makeDirectory, parent, lastStep, here, bind, Except.bind]
    · by_cases up : last = ".."
      · simp [makeDirectory, parent, lastStep, up, bind, Except.bind]
      · have next_eq : ((start workingDirectory path).follow init).next last =
            (start workingDirectory path).follow init ++ [.text last] := by
          simp [Location.next, here, up]
        rw [next_eq, walk_nil, Except.ok.injEq] at arrived
        have short : last.utf8ByteSize ≤ nameLimit := by
          rcases shape with same | same | ⟨short, _⟩
          · exact absurd same here
          · exact absurd same up
          · exact short
        have found := isDirectoryAt_iff.1 directory
        rw [← arrived] at found
        simp [makeDirectory, parent, lastStep, here, up, checkName, Nat.not_lt.mpr short, found,
          bind, Except.bind]

theorem raises_ensureDirectory (tree : FileTree) (workingDirectory : Location) (path : String) :
    Raises workingDirectory (· = path) tree (tree.ensureDirectory workingDirectory path).1 ∧
      ((tree.ensureDirectory workingDirectory path).2 = .ok () →
        (tree.ensureDirectory workingDirectory path).1.isDirectory workingDirectory path =
          true) := by
  unfold ensureDirectory
  cases made : tree.makeDirectory workingDirectory path with
  | ok after =>
      rcases raises_of_makeDirectory made with ⟨raises, stands⟩
      exact ⟨raises, fun _ => stands⟩
  | error fault =>
      refine ⟨.refl _ _ tree, ?_⟩
      cases stands : tree.isDirectory workingDirectory path with
      | true => exact fun _ => rfl
      | false =>
          intro succeeded
          cases succeeded

/-- By induction on the chain: what the rest of it adds is kept when its first directory is made. -/
theorem raises_makeChain (workingDirectory : Location) (paths : List String) (tree : FileTree) :
    Raises workingDirectory (· ∈ paths) tree (makeChain workingDirectory paths tree).1 := by
  induction paths with
  | nil => exact .refl _ _ tree
  | cons path parents ih =>
      have first {before after : FileTree}
          (raises : Raises workingDirectory (· = path) before after) :
          Raises workingDirectory (· ∈ path :: parents) before after :=
        raises.mono (by simp)
      rw [makeChain]
      split
      · exact .refl _ _ tree
      · split
        · rename_i after made
          exact first (raises_of_makeDirectory made).1
        · split
          · rename_i after above
            rw [above] at ih
            exact (ih.mono fun _ => List.mem_cons_of_mem path).trans
              (first (raises_ensureDirectory after workingDirectory path).1)
          · rename_i after fault above
            rw [above] at ih
            exact ih.mono fun _ => List.mem_cons_of_mem path
        · exact .refl _ _ tree

/-- A chain that succeeds ends with its first directory, unless that is the working directory. -/
theorem isDirectory_of_makeChain {parents : List String} (named : path ≠ "")
    (succeeded : (makeChain workingDirectory (path :: parents) tree).2 = .ok ()) :
    (makeChain workingDirectory (path :: parents) tree).1.isDirectory workingDirectory path =
      true := by
  rw [makeChain, if_neg named] at succeeded ⊢
  cases made : tree.makeDirectory workingDirectory path with
  | ok after => exact (raises_of_makeDirectory made).2
  | error fault =>
      have content {fault : FileFault} (succeeded : (if tree.isDirectory workingDirectory path
          then Except.ok () else .error fault) = .ok ()) :
          tree.isDirectory workingDirectory path = true := by
        cases stands : tree.isDirectory workingDirectory path with
        | true => rfl
        | false =>
            rw [stands] at succeeded
            cases succeeded
      simp only [made] at succeeded ⊢
      cases fault with
      | notFound =>
          cases above : makeChain workingDirectory parents tree with
          | mk after result =>
              simp only [above] at succeeded ⊢
              cases result with
              | error fault => cases succeeded
              | ok done => exact (raises_ensureDirectory after workingDirectory path).2 succeeded
      | _ => exact content succeeded

theorem makeChain_of_isDirectory {parents : List String}
    (stands : tree.isDirectory workingDirectory path = true) :
    makeChain workingDirectory (path :: parents) tree = (tree, .ok ()) := by
  have named : path ≠ "" := by
    rintro rfl
    rcases isDirectory_iff.1 stands with ⟨location, resolved, _⟩
    cases (resolve_ok_iff.1 resolved).1
  rw [makeChain, if_neg named, makeDirectory_of_isDirectory stands]
  simp only [stands, if_true]

section Directories

variable (tree workingDirectory path)

theorem raises_makeDirectories :
    Raises workingDirectory (· ∈ Path.ancestors path) tree
      (tree.makeDirectories workingDirectory path).1 :=
  raises_makeChain workingDirectory (Path.ancestors path) tree

variable {tree workingDirectory path}

theorem isDirectory_of_makeDirectories (named : path ≠ "")
    (succeeded : (tree.makeDirectories workingDirectory path).2 = .ok ()) :
    (tree.makeDirectories workingDirectory path).1.isDirectory workingDirectory path = true :=
  isDirectory_of_makeChain named succeeded

theorem makeDirectories_of_isDirectory
    (stands : tree.isDirectory workingDirectory path = true) :
    tree.makeDirectories workingDirectory path = (tree, .ok ()) :=
  makeChain_of_isDirectory stands

end Directories

end FileTree

end MailProvision
