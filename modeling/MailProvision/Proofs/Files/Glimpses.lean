import MailProvision.Proofs.Files.Staging

/-!
# What is seen while files are put in place

Files go to their paths by way of temporary files. Whoever looks in between sees a tree with the same
directories, in which each location holds what it held before, or one of the new files, whole, or else
belongs to a temporary file that was not there before and is private for as long as it is not whole.

This is said of a single tree (`Delivery.Glimpse`) and kept by each operation on the tree. It is kept
too when the work breaks off in the middle of an operation, and whatever part of the clearing up is
then done.
-/

namespace MailProvision

/-- One disk comes from another by way of trees that all have a property. -/
def Disk.Passes (property : FileTree → Prop) (before after : Disk) : Prop :=
  ∃ seen, after.states = seen ++ before.states ∧ ∀ tree ∈ seen, property tree

namespace Disk.Passes

variable {property : FileTree → Prop} {before between after : Disk}

theorem refl (disk : Disk) : disk.Passes property disk :=
  ⟨[], rfl, by simp⟩

theorem trans (first : before.Passes property between) (second : between.Passes property after) :
    before.Passes property after := by
  rcases first with ⟨early, earlyStates, earlyHolds⟩
  rcases second with ⟨late, lateStates, lateHolds⟩
  refine ⟨late ++ early, ?_, ?_⟩
  · rw [lateStates, earlyStates, List.append_assoc]
  · intro tree mem
    rcases List.mem_append.mp mem with mem | mem
    · exact lateHolds tree mem
    · exact earlyHolds tree mem

theorem replaceTree (passes : before.Passes property after) {tree : FileTree}
    (holds : property tree) : before.Passes property (after.replaceTree tree) :=
  passes.trans ⟨[tree], rfl, by simpa using holds⟩

theorem tree (passes : before.Passes property after) (holds : property before.tree) :
    property after.tree := by
  rcases passes with ⟨seen, states, all⟩
  simp only [Disk.states] at states
  cases seen with
  | nil =>
      simp only [List.nil_append, List.cons.injEq] at states
      rw [states.1]
      exact holds
  | cons last rest =>
      simp only [List.cons_append, List.cons.injEq] at states
      rw [states.1]
      exact all last List.mem_cons_self

end Disk.Passes

/-- Files that are put at paths of a tree. -/
structure Delivery where
  tree : FileTree
  workingDirectory : Location
  files : List (String × Entry)

namespace Delivery

/-- A temporary file can be made here: the location has a name for one and held nothing before. -/
def Fresh (delivery : Delivery) (location : Location) : Prop :=
  (∃ directory number, location = directory ++ [.temporary number]) ∧
    delivery.tree.get? location = none

/-- What may be found at a location while the files are put in place. -/
inductive Shows (delivery : Delivery) (location : Location) : Option Entry → Prop
  /-- What was there before. -/
  | old : Shows delivery location (delivery.tree.get? location)
  /-- A temporary file with any part of its content. -/
  | waiting (fresh : delivery.Fresh location) (content : List UInt8) :
      Shows delivery location (some (.file StagedFile.privateMode content))
  /-- A temporary file that is complete. -/
  | staged (fresh : delivery.Fresh location) {path : String} {entry : Entry}
      (meant : (path, entry) ∈ delivery.files) : Shows delivery location (some entry)
  | placed {path : String} {entry : Entry} (meant : (path, entry) ∈ delivery.files)
      (place : delivery.tree.placeFor? delivery.workingDirectory path = some location) :
      Shows delivery location (some entry)

/-- A tree as it may be seen while the files are put in place. -/
structure Glimpse (delivery : Delivery) (seen : FileTree) : Prop where
  same : delivery.tree.SameDirectories seen
  shows : ∀ location, delivery.Shows location (seen.get? location)

/-- A tree as it may be left by work that breaks off: temporary files may be gone or hold any part
of their content, in private. -/
def BreaksOff (delivery : Delivery) (seen left : FileTree) : Prop :=
  ∀ location, left.get? location = seen.get? location ∨
    delivery.Fresh location ∧
      (left.get? location = none ∨
        ∃ content, left.get? location = some (.file StagedFile.privateMode content))

variable {delivery : Delivery} {seen : FileTree} {location : Location}

theorem Fresh.ne_root (fresh : delivery.Fresh location) : location ≠ [] := by
  rcases fresh with ⟨⟨directory, number, rfl⟩, _⟩
  simp

theorem Fresh.shows_none (fresh : delivery.Fresh location) : delivery.Shows location none := by
  rw [← fresh.2]
  exact .old

/-- No path leads to a temporary file. -/
theorem Fresh.ne_place (fresh : delivery.Fresh location) {place : Location} {path : String}
    (placed : delivery.tree.placeFor? delivery.workingDirectory path = some place) :
    place ≠ location := by
  rcases fresh with ⟨⟨directory, number, rfl⟩, _⟩
  exact FileTree.place_ne_temporary placed directory number

theorem glimpse_refl (delivery : Delivery) : delivery.Glimpse delivery.tree where
  same := .refl _
  shows := fun _ => .old

namespace Glimpse

theorem isDirectoryAt_of_fresh (glimpse : delivery.Glimpse seen)
    (fresh : delivery.Fresh location) : seen.isDirectoryAt location = false := by
  rw [← glimpse.same]
  simp [FileTree.isDirectoryAt, fresh.2]

theorem insert (glimpse : delivery.Glimpse seen) (proper : location ≠ [])
    (free : seen.isDirectoryAt location = false) {mode : Nat} {content : List UInt8}
    (shows : delivery.Shows location (some (.file mode content))) :
    delivery.Glimpse (seen.insert location (.file mode content)) where
  same := glimpse.same.trans (.insert_file free mode content)
  shows := by
    intro other
    by_cases here : other = location
    · subst other
      rw [FileTree.get?_insert_self proper]
      exact shows
    · rw [FileTree.get?_insert_of_ne here]
      exact glimpse.shows other

theorem erase (glimpse : delivery.Glimpse seen) (fresh : delivery.Fresh location) :
    delivery.Glimpse (seen.erase location) where
  same := glimpse.same.trans (.erase (glimpse.isDirectoryAt_of_fresh fresh))
  shows := by
    intro other
    by_cases here : other = location
    · subst other
      rw [FileTree.get?_erase_self fresh.ne_root]
      exact fresh.shows_none
    · rw [FileTree.get?_erase_of_ne here]
      exact glimpse.shows other

/-- A temporary file, complete or not. -/
theorem insert_fresh (glimpse : delivery.Glimpse seen) (fresh : delivery.Fresh location)
    {mode : Nat} {content : List UInt8}
    (shows : delivery.Shows location (some (.file mode content))) :
    delivery.Glimpse (seen.insert location (.file mode content)) :=
  glimpse.insert fresh.ne_root (glimpse.isDirectoryAt_of_fresh fresh) shows

/-- A file at the place that its path names. -/
theorem insert_placed (glimpse : delivery.Glimpse seen) {path : String} {mode : Nat}
    {content : List UInt8} (meant : (path, .file mode content) ∈ delivery.files)
    (place : delivery.tree.placeFor? delivery.workingDirectory path = some location) :
    delivery.Glimpse (seen.insert location (.file mode content)) := by
  apply glimpse.insert (FileTree.place_ne_root place) _ (.placed meant place)
  rw [← glimpse.same]
  exact FileTree.place_free place

theorem breakOff (glimpse : delivery.Glimpse seen) {left : FileTree}
    (broken : delivery.BreaksOff seen left) : delivery.Glimpse left where
  same := by
    intro location
    rcases broken location with unchanged | ⟨fresh, gone | ⟨content, part⟩⟩
    · rw [glimpse.same location]
      simp [FileTree.isDirectoryAt, unchanged]
    · simp [FileTree.isDirectoryAt, fresh.2, gone]
    · simp [FileTree.isDirectoryAt, fresh.2, part]
  shows := by
    intro location
    rcases broken location with unchanged | ⟨fresh, gone | ⟨content, part⟩⟩
    · rw [unchanged]
      exact glimpse.shows location
    · rw [gone]
      exact fresh.shows_none
    · rw [part]
      exact .waiting fresh content

/-- A path finds what it found before, or a whole file that is meant for the same place. -/
theorem entryAt?_cases (glimpse : delivery.Glimpse seen) (nested : delivery.tree.Nested)
    (path : String) :
    seen.entryAt? delivery.workingDirectory path =
        delivery.tree.entryAt? delivery.workingDirectory path ∨
      ∃ other entry, (other, entry) ∈ delivery.files ∧
        delivery.tree.placeFor? delivery.workingDirectory other =
          delivery.tree.placeFor? delivery.workingDirectory path ∧
        seen.entryAt? delivery.workingDirectory path = some entry := by
  cases placed : delivery.tree.placeFor? delivery.workingDirectory path with
  | none => exact .inl (FileTree.entryAt?_of_unplaced nested glimpse.same placed)
  | some place =>
      have stays := FileTree.placeFor?_of_sameDirectories glimpse.same delivery.workingDirectory path
      rw [placed] at stays
      rw [FileTree.entryAt?_of_place stays, FileTree.entryAt?_of_place placed]
      have shows := glimpse.shows place
      generalize seen.get? place = found at shows ⊢
      cases shows with
      | old => exact .inl rfl
      | waiting fresh content => exact absurd rfl (fresh.ne_place placed)
      | staged fresh meant => exact absurd rfl (fresh.ne_place placed)
      | placed meant there => exact .inr ⟨_, _, meant, there, rfl⟩

/-- A file that is not private was there before or is one of the new files, whole. -/
theorem of_not_private (glimpse : delivery.Glimpse seen) {mode : Nat} {content : List UInt8}
    (found : seen.get? location = some (.file mode content))
    (shared : mode ≠ StagedFile.privateMode) :
    delivery.tree.get? location = some (.file mode content) ∨
      ∃ path, (path, .file mode content) ∈ delivery.files := by
  have shows := glimpse.shows location
  rw [found] at shows
  generalize held : some (Entry.file mode content) = entry at shows
  cases shows with
  | old => exact .inl rfl
  | waiting fresh other =>
      cases held
      exact absurd rfl shared
  | staged fresh meant =>
      cases held
      exact .inr ⟨_, meant⟩
  | placed meant place =>
      cases held
      exact .inr ⟨_, meant⟩

end Glimpse

/-- Staging a file of the delivery passes only through trees that may be seen. -/
theorem passes_stagedDisk {disk : Disk} {destination : String} {content : List UInt8} {mode : Nat}
    (glimpse : delivery.Glimpse disk.tree)
    (fresh : delivery.Fresh
      ((StagedFile.prepared destination disk).waitingPlace disk.workingDirectory))
    (meant : (destination, StagedFile.waitingEntry content mode) ∈ delivery.files) :
    disk.Passes delivery.Glimpse (StagedFile.stagedDisk destination content mode disk) := by
  have created := glimpse.insert_fresh fresh (.waiting fresh [])
  have written := glimpse.insert_fresh fresh (.waiting fresh content)
  have complete := glimpse.insert_fresh fresh (.staged fresh meant)
  refine ⟨[_, _, _], rfl, ?_⟩
  simp only [List.mem_cons, List.not_mem_nil, or_false]
  rintro tree (rfl | rfl | rfl)
  · exact complete
  · exact written
  · exact created

/-- A file that is not staged passes only through trees that may be seen, and leaves none behind. -/
theorem passes_of_abandons {disk after : Disk} {destination : String} {content : List UInt8}
    (glimpse : delivery.Glimpse disk.tree)
    (fresh : delivery.Fresh
      ((StagedFile.prepared destination disk).waitingPlace disk.workingDirectory))
    (abandons : StagedFile.Abandons destination content disk after) :
    disk.Passes delivery.Glimpse after := by
  cases abandons with
  | uncreated unreached => exact .refl disk
  | uncompleted obstacle reached met =>
      have created := glimpse.insert_fresh fresh (.waiting fresh [])
      have written := glimpse.insert_fresh fresh (.waiting fresh (obstacle.written content))
      refine ⟨[_, _, _], rfl, ?_⟩
      simp only [List.mem_cons, List.not_mem_nil, or_false]
      rintro tree (rfl | rfl | rfl)
      · exact glimpse
      · exact written
      · exact created

end Delivery

end MailProvision
