import MailProvision.Proofs.Files.Walking

/-!
# Places and what stands at them

Committing moves a file to the place that a path names. `FileTree.placeFor?` is that place, or nothing
where no file can be moved to; it depends on the directories of the tree alone. `FileTree.entryAt?` is
what one finds by following a path. Where there is a place the two agree, and where there is none
one finds a directory or nothing.
-/

namespace MailProvision

namespace FileTree

/-- The place that a file gets when it is moved to a path, if it can be moved there. -/
def placeFor? (tree : FileTree) (workingDirectory : Location) (path : String) :
    Option Location :=
  match tree.resolveParent workingDirectory path with
  | .ok (directory, .name name) =>
      if nameLimit < name.utf8ByteSize || wantsDirectory path ||
          tree.isDirectoryAt (directory ++ [.text name]) then none
      else some (directory ++ [.text name])
  | _ => none

/-- What is found by following a path. -/
def entryAt? (tree : FileTree) (workingDirectory : Location) (path : String) : Option Entry :=
  match tree.resolve workingDirectory path with
  | .ok location => tree.get? location
  | .error _ => none

/-- The location of the directory that a path names for staging, if nothing is missing. -/
def stagingLocation (workingDirectory : Location) (directory : String) : Location :=
  Location.follow [] (names (Path.join workingDirectory.toPath directory))

/-- Every directory stands in a directory, as in all trees of files. -/
def Nested (tree : FileTree) : Prop :=
  ∀ location, tree.isDirectoryAt location = true → tree.isDirectoryAt location.dropLast = true

theorem nested_of_entries {tree : FileTree}
    (standing : ∀ item ∈ tree.entries, tree.isDirectoryAt item.1.dropLast = true) :
    tree.Nested := by
  intro location directory
  by_cases root : location = []
  · subst location
    exact directory
  · have found := isDirectoryAt_iff.1 directory
    simp only [get?, root, if_false] at found
    rcases List.lookup_eq_some_iff.mp found with ⟨before, after, entries, _⟩
    exact standing (location, .directory) (by simp [entries])

theorem Nested.of_sameDirectories {tree other : FileTree} (nested : tree.Nested)
    (same : tree.SameDirectories other) : other.Nested := by
  intro location directory
  rw [← same] at directory ⊢
  exact nested location directory

theorem resolveStaging_ok_iff {tree : FileTree} {workingDirectory location : Location}
    {directory : String} :
    tree.resolveStaging workingDirectory directory = .ok location ↔
      checkPath (Path.join workingDirectory.toPath directory) = .ok () ∧
        (Path.join workingDirectory.toPath directory).utf8ByteSize + 1 + temporaryNameLength <
          pathLimit ∧
        tree.walk [] (names (Path.join workingDirectory.toPath directory)) = .ok location ∧
        tree.isDirectoryAt location = true := by
  unfold resolveStaging
  cases checked : checkPath (Path.join workingDirectory.toPath directory) with
  | error fault => simp [checked, bind, Except.bind]
  | ok done =>
      by_cases long : pathLimit ≤ (Path.join workingDirectory.toPath directory).utf8ByteSize + 1 +
          temporaryNameLength
      · simp [checked, bind, Except.bind, long, Nat.not_lt.mpr long]
      · cases walked : tree.walk [] (names (Path.join workingDirectory.toPath directory)) with
        | error fault => simp [checked, bind, Except.bind, long, walked]
        | ok final =>
            simp only [checked, bind, Except.bind, long, walked, if_false, Nat.not_le.mp long,
              true_and, Except.ok.injEq]
            cases found : tree.get? final with
            | none =>
                simp only [reduceCtorEq, false_iff]
                rintro ⟨rfl, directory⟩
                simp [isDirectoryAt, found] at directory
            | some entry =>
                cases entry with
                | file mode content =>
                    simp only [reduceCtorEq, false_iff]
                    rintro ⟨rfl, directory⟩
                    simp [isDirectoryAt, found] at directory
                | directory =>
                    simp only [Except.ok.injEq, iff_self_and]
                    rintro rfl
                    simp [isDirectoryAt, found]

theorem resolveStaging_eq {tree : FileTree} {workingDirectory location : Location}
    {directory : String} (resolved : tree.resolveStaging workingDirectory directory = .ok location) :
    location = stagingLocation workingDirectory directory :=
  walk_eq_follow (resolveStaging_ok_iff.1 resolved).2.2.1

theorem rooted_of_resolveStaging {tree : FileTree} {workingDirectory location : Location}
    {directory : String} (resolved : tree.resolveStaging workingDirectory directory = .ok location) :
    tree.Rooted location := by
  rcases resolveStaging_ok_iff.1 resolved with ⟨_, _, walked, directory⟩
  exact rooted_of_walk (rooted_root tree) walked directory

theorem resolveStaging_of_sameDirectories {tree other : FileTree}
    (same : tree.SameDirectories other) {workingDirectory location : Location}
    {directory : String} (resolved : tree.resolveStaging workingDirectory directory = .ok location) :
    other.resolveStaging workingDirectory directory = .ok location := by
  rcases resolveStaging_ok_iff.1 resolved with ⟨checked, short, walked, directory⟩
  refine resolveStaging_ok_iff.2 ⟨checked, short, walk_of_sameDirectories same walked directory, ?_⟩
  rw [← same]
  exact directory

/-- Whether a path leads to a directory in which a temporary file can stand. -/
def reaches (tree : FileTree) (workingDirectory : Location) (directory : String) : Bool :=
  (tree.resolveStaging workingDirectory directory).isOk

theorem reaches_iff {tree : FileTree} {workingDirectory : Location} {directory : String} :
    tree.reaches workingDirectory directory = true ↔
      tree.resolveStaging workingDirectory directory =
        .ok (stagingLocation workingDirectory directory) := by
  simp only [reaches]
  cases resolved : tree.resolveStaging workingDirectory directory with
  | error fault => simp [Except.isOk, Except.toBool]
  | ok location => simp [Except.isOk, Except.toBool, resolveStaging_eq resolved]

theorem exists_fault_of_not_reaches {tree : FileTree} {workingDirectory : Location}
    {directory : String} (unreachable : tree.reaches workingDirectory directory = false) :
    ∃ cause, tree.resolveStaging workingDirectory directory = .error cause := by
  cases resolved : tree.resolveStaging workingDirectory directory with
  | error cause => exact ⟨cause, rfl⟩
  | ok location => simp [reaches, resolved, Except.isOk, Except.toBool] at unreachable

theorem reaches_of_sameDirectories {tree other : FileTree} (same : tree.SameDirectories other)
    (workingDirectory : Location) (directory : String) :
    other.reaches workingDirectory directory = tree.reaches workingDirectory directory := by
  apply Bool.eq_iff_iff.mpr
  rw [reaches_iff, reaches_iff]
  exact ⟨resolveStaging_of_sameDirectories same.symm, resolveStaging_of_sameDirectories same⟩

/-- A directory that was named without upward steps is reached again as long as it stands. -/
theorem resolveStaging_of_rooted {tree other : FileTree} {workingDirectory location : Location}
    {directory : String} (downward : ".." ∉ names (Path.join workingDirectory.toPath directory))
    (resolved : tree.resolveStaging workingDirectory directory = .ok location)
    (rooted : other.Rooted location) :
    other.resolveStaging workingDirectory directory = .ok location := by
  rcases resolveStaging_ok_iff.1 resolved with ⟨checked, short, walked, _⟩
  exact resolveStaging_ok_iff.2
    ⟨checked, short, walk_of_rooted downward walked rooted, rooted.isDirectoryAt⟩

/-- What a name at the end of a path means. -/
def lastStep (name : String) : LastStep :=
  if name = "." then .here else if name = ".." then .up else .name name

theorem resolveParent_ok_iff {tree : FileTree} {workingDirectory directory : Location}
    {path : String} {last : LastStep} :
    tree.resolveParent workingDirectory path = .ok (directory, last) ↔
      checkPath path = .ok () ∧
        match (names path).getLast? with
        | none => directory = [] ∧ last = .root
        | some name =>
            tree.walk (start workingDirectory path) (names path).dropLast = .ok directory ∧
              tree.isDirectoryAt directory = true ∧ last = lastStep name := by
  simp only [resolveParent]
  cases checkPath path with
  | error fault => simp [bind, Except.bind]
  | ok done =>
      simp only [bind, Except.bind, true_and]
      cases final : (names path).getLast? with
      | none => simp [eq_comm]
      | some name =>
          cases walked : tree.walk (start workingDirectory path) (names path).dropLast with
          | error fault => simp
          | ok location =>
              cases found : tree.get? location with
              | none =>
                  simp only [found, Except.ok.injEq, reduceCtorEq, false_iff]
                  rintro ⟨rfl, stands, _⟩
                  simp [isDirectoryAt, found] at stands
              | some entry =>
                  cases entry with
                  | file mode content =>
                      simp only [found, Except.ok.injEq, reduceCtorEq, false_iff]
                      rintro ⟨rfl, stands, _⟩
                      simp [isDirectoryAt, found] at stands
                  | directory =>
                      simp only [found, Except.ok.injEq, Prod.mk.injEq, lastStep]
                      constructor
                      · rintro ⟨rfl, rfl⟩
                        exact ⟨rfl, by simp [isDirectoryAt, found], rfl⟩
                      · rintro ⟨rfl, _, rfl⟩
                        exact ⟨rfl, rfl⟩

theorem resolveParent_of_sameDirectories {tree other : FileTree}
    (same : tree.SameDirectories other) {workingDirectory directory : Location} {path : String}
    {last : LastStep}
    (resolved : tree.resolveParent workingDirectory path = .ok (directory, last)) :
    other.resolveParent workingDirectory path = .ok (directory, last) := by
  rcases resolveParent_ok_iff.1 resolved with ⟨checked, led⟩
  refine resolveParent_ok_iff.2 ⟨checked, ?_⟩
  cases final : (names path).getLast? with
  | none => simpa [final] using led
  | some name =>
      simp only [final] at led ⊢
      rcases led with ⟨walked, stands, last_eq⟩
      refine ⟨walk_of_sameDirectories same walked stands, ?_, last_eq⟩
      rw [← same]
      exact stands

theorem placeFor?_eq_some_iff {tree : FileTree} {workingDirectory place : Location}
    {path : String} :
    tree.placeFor? workingDirectory path = some place ↔
      ∃ directory name,
        tree.resolveParent workingDirectory path = .ok (directory, .name name) ∧
          name.utf8ByteSize ≤ nameLimit ∧ wantsDirectory path = false ∧
          tree.isDirectoryAt (directory ++ [.text name]) = false ∧
          place = directory ++ [.text name] := by
  simp only [placeFor?]
  split
  · rename_i directory name resolved
    simp only [resolved, Except.ok.injEq, Prod.mk.injEq, LastStep.name.injEq]
    constructor
    · intro placed
      split at placed
      · cases placed
      · rename_i suitable
        simp only [Bool.or_eq_true, decide_eq_true_eq, not_or, Nat.not_lt,
          Bool.not_eq_true] at suitable
        rcases suitable with ⟨⟨short, plain⟩, free⟩
        exact ⟨directory, name, ⟨rfl, rfl⟩, short, plain, free, (Option.some.inj placed).symm⟩
    · rintro ⟨_, _, ⟨rfl, rfl⟩, short, plain, free, rfl⟩
      simp [Nat.not_lt.mpr short, plain, free]
  · rename_i unnamed
    simp only [reduceCtorEq, false_iff]
    rintro ⟨directory, name, resolved, _⟩
    exact unnamed directory name resolved

theorem placeFor?_of_sameDirectories {tree other : FileTree} (same : tree.SameDirectories other)
    (workingDirectory : Location) (path : String) :
    other.placeFor? workingDirectory path = tree.placeFor? workingDirectory path := by
  have transfer {first second : FileTree} (same : first.SameDirectories second)
      {place : Location} (placed : first.placeFor? workingDirectory path = some place) :
      second.placeFor? workingDirectory path = some place := by
    rcases placeFor?_eq_some_iff.1 placed with ⟨directory, name, resolved, short, plain, free, rfl⟩
    refine placeFor?_eq_some_iff.2 ⟨directory, name,
      resolveParent_of_sameDirectories same resolved, short, plain, ?_, rfl⟩
    rw [← same]
    exact free
  ext place
  exact ⟨transfer same.symm, transfer same⟩

theorem place_ne_root {tree : FileTree} {workingDirectory place : Location} {path : String}
    (placed : tree.placeFor? workingDirectory path = some place) : place ≠ [] := by
  rcases placeFor?_eq_some_iff.1 placed with ⟨directory, name, _, _, _, _, rfl⟩
  simp

theorem place_free {tree : FileTree} {workingDirectory place : Location} {path : String}
    (placed : tree.placeFor? workingDirectory path = some place) :
    tree.isDirectoryAt place = false := by
  rcases placeFor?_eq_some_iff.1 placed with ⟨directory, name, _, _, _, free, rfl⟩
  exact free

theorem place_ne_temporary {tree : FileTree} {workingDirectory place : Location} {path : String}
    (placed : tree.placeFor? workingDirectory path = some place) (directory : Location)
    (number : Nat) : place ≠ directory ++ [.temporary number] := by
  rcases placeFor?_eq_some_iff.1 placed with ⟨parent, name, _, _, _, _, rfl⟩
  simp

/-- Renaming succeeds exactly where the temporary file is found and the destination names a place;
the file then moves to that place. -/
theorem rename_ok_iff {tree renamed : FileTree} {workingDirectory : Location} {directory : String}
    {number : Nat} {destination : String} :
    tree.rename workingDirectory directory number destination = .ok renamed ↔
      ∃ source place mode content,
        tree.resolveStaging workingDirectory directory = .ok source ∧
          tree.placeFor? workingDirectory destination = some place ∧
          tree.get? (source ++ [.temporary number]) = some (.file mode content) ∧
          renamed = (tree.erase (source ++ [.temporary number])).insert place
            (.file mode content) := by
  simp only [rename, placeFor?]
  cases parent : tree.resolveParent workingDirectory destination with
  | error fault =>
      cases checkPath destination <;>
        cases tree.resolveStaging workingDirectory directory <;> simp [bind, Except.bind]
  | ok found =>
      rcases found with ⟨above, last⟩
      have checked := (resolveParent_ok_iff.1 parent).1
      cases tree.resolveStaging workingDirectory directory with
      | error fault => simp [checked, bind, Except.bind]
      | ok source =>
          cases last with
          | here => simp [checked, bind, Except.bind]
          | up => simp [checked, bind, Except.bind]
          | root => simp [checked, bind, Except.bind]
          | name name =>
              simp only [checked, bind, Except.bind, checkName, Except.ok.injEq]
              cases held : tree.get? (source ++ [.temporary number]) with
              | none => simp [held]
              | some entry =>
                  cases entry with
                  | directory => simp [held]
                  | file mode content =>
                      by_cases long : nameLimit < name.utf8ByteSize
                      · simp [long]
                      · by_cases slash : wantsDirectory destination = true
                        · simp [long, slash]
                        · by_cases occupied : tree.isDirectoryAt (above ++ [.text name]) = true
                          · simp [long, slash, occupied]
                          · simp only [long, slash, occupied, Bool.false_eq_true, if_false,
                              Bool.or_false, decide_false, Except.ok.injEq, Option.some.injEq]
                            constructor
                            · rintro rfl
                              exact ⟨source, _, mode, content, rfl, rfl, held, rfl⟩
                            · rintro ⟨_, _, _, _, rfl, rfl, found, rfl⟩
                              simp only [held, Option.some.injEq, Entry.file.injEq] at found
                              rw [found.1, found.2]

theorem resolve_ok_iff {tree : FileTree} {workingDirectory location : Location} {path : String} :
    tree.resolve workingDirectory path = .ok location ↔
      checkPath path = .ok () ∧
        tree.walk (start workingDirectory path) (names path) = .ok location ∧
        (wantsDirectory path = true → tree.isDirectoryAt location = true) := by
  simp only [resolve]
  cases checked : checkPath path with
  | error fault => simp [bind, Except.bind]
  | ok done =>
      simp only [bind, Except.bind, true_and]
      cases tree.walk (start workingDirectory path) (names path) with
      | error fault => simp
      | ok final =>
          by_cases slash : wantsDirectory path = true
          · by_cases directory : tree.isDirectoryAt final = true
            · simp only [slash, directory, Bool.not_true, Bool.and_false, Bool.false_eq_true,
                if_false, Except.ok.injEq, forall_const, iff_self_and]
              rintro rfl
              exact directory
            · simp only [slash, directory, Bool.not_false, Bool.and_true, if_true, reduceCtorEq,
                forall_const, Except.ok.injEq, false_iff, not_and]
              rintro rfl
              exact directory
          · simp [slash]

/-- A path that does not start at the root has a name in it. -/
theorem names_ne_nil {path : String} (checked : checkPath path = .ok ())
    (relative : Path.isAbsolute path = false) : names path ≠ [] := by
  cases chars : path.toList with
  | nil =>
      have blank : path.isEmpty = true := by
        simpa [String.isEmpty_iff, ← String.toList_eq_nil_iff] using chars
      simp [checkPath, chars, blank] at checked
  | cons first rest =>
      have notSlash : first ≠ '/' := by
        rintro rfl
        simp [Path.isAbsolute, chars] at relative
      have split : ∃ part parts, Path.segments path = String.ofList (first :: part) :: parts := by
        simp only [Path.segments, chars, Text.splitChars, if_neg notSlash]
        split
        · exact ⟨[], [], rfl⟩
        · rename_i part parts _
          exact ⟨part, parts.map String.ofList, rfl⟩
      rcases split with ⟨part, parts, segments⟩
      simp [names, segments]

theorem exists_place_of_file {tree : FileTree} (nested : tree.Nested)
    {workingDirectory : Location} {path : String} {mode : Nat} {content : List UInt8}
    (found : tree.entryAt? workingDirectory path = some (.file mode content)) :
    ∃ place, tree.placeFor? workingDirectory path = some place := by
  simp only [entryAt?] at found
  cases resolved : tree.resolve workingDirectory path with
  | error fault => simp [resolved] at found
  | ok location =>
      simp only [resolved] at found
      rcases resolve_ok_iff.1 resolved with ⟨checked, walked, plain⟩
      have notDirectory : tree.isDirectoryAt location ≠ true := by
        simp [isDirectoryAt, found]
      rcases List.eq_nil_or_concat (names path) with nothing | ⟨init, last, names_eq⟩
      · -- Only the root can be named without a name, and it is a directory.
        rw [nothing, walk_nil, Except.ok.injEq] at walked
        cases absolute : Path.isAbsolute path with
        | false => exact absurd nothing (names_ne_nil checked absolute)
        | true =>
            rw [start, absolute, if_pos rfl] at walked
            simp [isDirectoryAt, ← walked] at notDirectory
      · rw [List.concat_eq_append] at names_eq
        rw [names_eq] at walked
        rcases walk_append_ok_iff.1 walked with ⟨before, final⟩
        rcases walk_cons_ok_iff.1 final with ⟨stepped, arrived⟩
        rw [walk_nil, Except.ok.injEq] at arrived
        rcases step_ok_iff.1 stepped with ⟨above, _, shape⟩
        rcases shape with here | up | ⟨short, _⟩
        · simp [here, Location.next] at arrived
          exact absurd (arrived ▸ above) notDirectory
        · simp [up, Location.next] at arrived
          exact absurd (arrived ▸ nested _ above) notDirectory
        · by_cases here : last = "."
          · simp [here, Location.next] at arrived
            exact absurd (arrived ▸ above) notDirectory
          · by_cases up : last = ".."
            · simp [up, Location.next] at arrived
              exact absurd (arrived ▸ nested _ above) notDirectory
            · simp only [Location.next, here, up, if_false] at arrived
              refine ⟨location, placeFor?_eq_some_iff.2
                ⟨(start workingDirectory path).follow init, last, ?_, short, ?_, ?_, arrived.symm⟩⟩
              · apply resolveParent_ok_iff.2
                refine ⟨checked, ?_⟩
                simp [names_eq, before, above, lastStep, here, up]
              · simpa using fun slash => notDirectory (plain slash)
              · rw [arrived]
                simpa using notDirectory

/-- A path ends in a name where its last step is neither `.` nor `..`. -/
theorem exists_init_of_resolveParent {tree : FileTree} {workingDirectory directory : Location}
    {path name : String}
    (resolved : tree.resolveParent workingDirectory path = .ok (directory, .name name)) :
    ∃ init, names path = init ++ [name] ∧ directory = (start workingDirectory path).follow init ∧
      tree.walk (start workingDirectory path) init = .ok directory ∧
      tree.isDirectoryAt directory = true ∧ directory.next name = directory ++ [.text name] := by
  have led := (resolveParent_ok_iff.1 resolved).2
  cases final : (names path).getLast? with
  | none => simp [final] at led
  | some last =>
      simp only [final] at led
      rcases led with ⟨walked, above, last_eq⟩
      rcases List.getLast?_eq_some_iff.mp final with ⟨init, names_eq⟩
      rw [names_eq, List.dropLast_concat] at walked
      simp only [lastStep] at last_eq
      split at last_eq
      · cases last_eq
      · split at last_eq
        · cases last_eq
        · rename_i here up
          cases last_eq
          exact ⟨init, names_eq, walk_eq_follow walked, walked, above, by
            simp [Location.next, here, up]⟩

/-- Where something stands under the name at the end of a path, the path leads to it. -/
theorem resolve_of_resolveParent {tree : FileTree} {workingDirectory directory : Location}
    {path name : String}
    (resolved : tree.resolveParent workingDirectory path = .ok (directory, .name name))
    (short : name.utf8ByteSize ≤ nameLimit)
    (found : (tree.get? (directory ++ [.text name])).isSome = true)
    (suits : wantsDirectory path = true →
      tree.isDirectoryAt (directory ++ [.text name]) = true) :
    tree.resolve workingDirectory path = .ok (directory ++ [.text name]) := by
  rcases exists_init_of_resolveParent resolved with
    ⟨init, names_eq, start_eq, walked, above, next_eq⟩
  refine resolve_ok_iff.2 ⟨(resolveParent_ok_iff.1 resolved).1, ?_, suits⟩
  rw [names_eq]
  refine walk_append_ok_iff.2 ⟨start_eq ▸ walked, ?_⟩
  rw [← start_eq]
  refine walk_cons_ok_iff.2 ⟨step_ok_iff.2 ⟨above, rfl, ?_⟩, ?_⟩
  · exact .inr (.inr ⟨short, next_eq ▸ found⟩)
  · rw [next_eq, walk_nil]

theorem entryAt?_of_place {tree : FileTree} {workingDirectory place : Location} {path : String}
    (placed : tree.placeFor? workingDirectory path = some place) :
    tree.entryAt? workingDirectory path = tree.get? place := by
  rcases placeFor?_eq_some_iff.1 placed with ⟨directory, name, resolved, short, plain, free, rfl⟩
  cases found : tree.get? (directory ++ [.text name]) with
  | some entry =>
      have led := resolve_of_resolveParent resolved short (by simp [found]) (by simp [plain])
      simp [entryAt?, led, found]
  | none =>
      simp only [entryAt?]
      cases led : tree.resolve workingDirectory path with
      | error fault => rfl
      | ok location =>
          -- Whatever the path leads to would stand at the place.
          rcases exists_init_of_resolveParent resolved with ⟨init, names_eq, start_eq, _, _, next_eq⟩
          rcases resolve_ok_iff.1 led with ⟨_, all, _⟩
          rw [names_eq] at all
          rcases walk_cons_ok_iff.1 (walk_append_ok_iff.1 all).2 with ⟨last, arrived⟩
          rw [← start_eq, next_eq, walk_nil, Except.ok.injEq] at arrived
          rw [← arrived]
          exact found

/-- A path that leads to a directory leads to it in every tree that has the same directories. -/
theorem resolve_of_sameDirectories {tree other : FileTree} (same : tree.SameDirectories other)
    {workingDirectory location : Location} {path : String}
    (resolved : tree.resolve workingDirectory path = .ok location)
    (directory : tree.isDirectoryAt location = true) :
    other.resolve workingDirectory path = .ok location := by
  rcases resolve_ok_iff.1 resolved with ⟨checked, walked, _⟩
  refine resolve_ok_iff.2 ⟨checked, walk_of_sameDirectories same walked directory, fun _ => ?_⟩
  rw [← same]
  exact directory

theorem entryAt?_directory_of_sameDirectories {tree other : FileTree}
    (same : tree.SameDirectories other) {workingDirectory : Location} {path : String}
    (found : tree.entryAt? workingDirectory path = some .directory) :
    other.entryAt? workingDirectory path = some .directory := by
  simp only [entryAt?] at found
  cases resolved : tree.resolve workingDirectory path with
  | error fault => simp [resolved] at found
  | ok location =>
      simp only [resolved] at found
      have directory := isDirectoryAt_iff.2 found
      simp only [entryAt?, resolve_of_sameDirectories same resolved directory]
      rw [same] at directory
      exact isDirectoryAt_iff.1 directory

/-- Where a path names no place, only the directories decide what is found there. -/
theorem entryAt?_of_unplaced {tree other : FileTree} (nested : tree.Nested)
    (same : tree.SameDirectories other) {workingDirectory : Location} {path : String}
    (unplaced : tree.placeFor? workingDirectory path = none) :
    other.entryAt? workingDirectory path = tree.entryAt? workingDirectory path := by
  have otherNested := nested.of_sameDirectories same
  have otherUnplaced : other.placeFor? workingDirectory path = none := by
    rw [placeFor?_of_sameDirectories same, unplaced]
  cases found : tree.entryAt? workingDirectory path with
  | some entry =>
      cases entry with
      | directory => exact entryAt?_directory_of_sameDirectories same found
      | file mode content =>
          rcases exists_place_of_file nested found with ⟨place, placed⟩
          simp [unplaced] at placed
  | none =>
      cases otherFound : other.entryAt? workingDirectory path with
      | none => rfl
      | some entry =>
          cases entry with
          | directory =>
              have back := entryAt?_directory_of_sameDirectories same.symm otherFound
              simp [found] at back
          | file mode content =>
              rcases exists_place_of_file otherNested otherFound with ⟨place, placed⟩
              simp [otherUnplaced] at placed

end FileTree

end MailProvision
