import MailProvision.Files.Staged
import MailProvision.Proofs.Action
import MailProvision.Proofs.Files.Places

/-!
# Staging, committing and discarding

One description of each operation on staged files, from which all their properties follow. Staging
puts a file at a new location; committing moves it to the place that its destination names, or
discards it; discarding takes it away if the directory is still reached by the path it was given.
None of them changes the directories of the tree.
-/

namespace MailProvision

theorem le_foldl_of_grows {Item : Type} {add : Nat → Item → Nat}
    (grows : ∀ bound item, bound ≤ add bound item) (items : List Item) (bound : Nat) :
    bound ≤ items.foldl add bound := by
  induction items generalizing bound with
  | nil => exact Nat.le_refl bound
  | cons item rest ih => exact Nat.le_trans (grows bound item) (ih _)

theorem le_foldl_of_mem {Item : Type} {add : Nat → Item → Nat}
    (grows : ∀ bound item, bound ≤ add bound item) {items : List Item} {item : Item}
    (mem : item ∈ items) {least : Nat} (counted : ∀ bound, least ≤ add bound item)
    (bound : Nat) : least ≤ items.foldl add bound := by
  induction items generalizing bound with
  | nil => cases mem
  | cons first rest ih =>
      rcases List.mem_cons.mp mem with rfl | later
      · exact Nat.le_trans (counted bound) (le_foldl_of_grows grows rest _)
      · exact ih later _

/-- A bound raised above the number of a name. -/
def Name.raise (bound : Nat) : Name → Nat
  | .text _ => bound
  | .temporary number => max bound (number + 1)

theorem Name.le_raise (bound : Nat) (name : Name) : bound ≤ name.raise bound := by
  cases name with
  | text text => exact Nat.le_refl bound
  | temporary number => exact Nat.le_max_left _ _

namespace FileTree

theorem freshNumber_eq (tree : FileTree) :
    tree.freshNumber =
      tree.entries.foldl (fun bound item => item.1.foldl Name.raise bound) 0 := by
  simp only [freshNumber]
  congr 1
  funext bound item
  congr 1
  funext bound name
  cases name with
  | text text => rfl
  | temporary number => rfl

/-- No temporary file in the tree has the fresh number or one above it. -/
theorem lt_freshNumber {tree : FileTree} {location : Location} {entry : Entry}
    (found : tree.get? location = some entry) {number : Nat}
    (mem : .temporary number ∈ location) : number < tree.freshNumber := by
  have proper : location ≠ [] := List.ne_nil_of_mem mem
  simp only [get?, proper, if_false] at found
  rcases List.lookup_eq_some_iff.mp found with ⟨before, after, items, _⟩
  have itemMem : (location, entry) ∈ tree.entries := by
    simp [items]
  rw [freshNumber_eq]
  apply le_foldl_of_mem _ itemMem
  · intro bound
    apply le_foldl_of_mem Name.le_raise mem
    intro bound
    exact Nat.le_max_right _ _
  · intro bound item
    exact le_foldl_of_grows Name.le_raise _ bound

end FileTree

namespace Disk

def nextNumber (disk : Disk) : Nat :=
  max disk.drawn disk.tree.freshNumber

theorem drawn_le_nextNumber (disk : Disk) : disk.drawn ≤ disk.nextNumber :=
  Nat.le_max_left _ _

theorem get?_of_nextNumber_le {disk : Disk} {number : Nat} (fresh : disk.nextNumber ≤ number)
    {location : Location} (mem : .temporary number ∈ location) :
    disk.tree.get? location = none := by
  cases found : disk.tree.get? location with
  | none => rfl
  | some entry =>
      have old := FileTree.lt_freshNumber found mem
      have bound : disk.tree.freshNumber ≤ disk.nextNumber := Nat.le_max_right _ _
      omega

/-- A file can be staged for a destination: its directory is reached, and nothing is in the way. -/
def admits (disk : Disk) (destination : String) : Bool :=
  disk.tree.reaches disk.workingDirectory (StagedFile.directoryOf destination) &&
    (disk.obstacle? destination).isNone

theorem admits_iff {disk : Disk} {destination : String} :
    disk.admits destination = true ↔
      disk.tree.reaches disk.workingDirectory (StagedFile.directoryOf destination) = true ∧
        disk.obstacle? destination = none := by
  simp [admits]

@[simp]
theorem replaceTree_tree (tree : FileTree) (disk : Disk) : (disk.replaceTree tree).tree = tree :=
  rfl

end Disk

namespace StagedFile

/-- The location of the directory in which a staged file waits. -/
def home (workingDirectory : Location) (staged : StagedFile) : Location :=
  FileTree.stagingLocation workingDirectory staged.directory

/-- The location of the temporary file of a staged file. -/
def waitingPlace (workingDirectory : Location) (staged : StagedFile) : Location :=
  staged.home workingDirectory ++ [.temporary staged.number]

theorem waitingPlace_ne_root (workingDirectory : Location) (staged : StagedFile) :
    staged.waitingPlace workingDirectory ≠ [] := by
  simp [waitingPlace]

def prepared (destination : String) (disk : Disk) : StagedFile :=
  { destination, directory := directoryOf destination, number := disk.nextNumber }

/-- The entry of a file that waits to be committed. -/
def waitingEntry (content : List UInt8) (mode : Nat) : Entry :=
  .file (mode % modeLimit) content

/-- The disk once a temporary file is created. -/
def createdDisk (destination : String) (disk : Disk) : Disk :=
  let place := (prepared destination disk).waitingPlace disk.workingDirectory
  { disk with
    tree := disk.tree.insert place (.file privateMode [])
    past := disk.tree :: disk.past
    drawn := disk.nextNumber + 1 }

/-- The disk once a file is staged, and what stood on it meanwhile. -/
def stagedDisk (destination : String) (content : List UInt8) (mode : Nat) (disk : Disk) : Disk :=
  let place := (prepared destination disk).waitingPlace disk.workingDirectory
  { disk with
    tree := disk.tree.insert place (waitingEntry content mode)
    past :=
      disk.tree.insert place (.file privateMode content) ::
        disk.tree.insert place (.file privateMode []) :: disk.tree :: disk.past
    drawn := disk.nextNumber + 1 }

/-- The disk once a temporary file was given up with a part of its content, and what stood on it
meanwhile. -/
def abandonedDisk (destination : String) (part : List UInt8) (disk : Disk) : Disk :=
  let place := (prepared destination disk).waitingPlace disk.workingDirectory
  { disk with
    past :=
      disk.tree.insert place (.file privateMode part) ::
        disk.tree.insert place (.file privateMode []) :: disk.tree :: disk.past
    drawn := disk.nextNumber + 1 }

/-- What a disk comes to when a file is not staged on it: no temporary file is made, or it meets an
obstacle and is taken away. -/
inductive Abandons (destination : String) (content : List UInt8) (disk : Disk) : Disk → Prop
  | uncreated
      (unreached :
        disk.tree.reaches disk.workingDirectory (directoryOf destination) = false) :
      Abandons destination content disk disk
  | uncompleted (obstacle : Obstacle)
      (reached : disk.tree.reaches disk.workingDirectory (directoryOf destination) = true)
      (met : disk.obstacle? destination = some obstacle) :
      Abandons destination content disk
        (abandonedDisk destination (obstacle.written content) disk)

namespace Abandons

variable {destination : String} {content : List UInt8} {disk after : Disk}

theorem tree (abandons : Abandons destination content disk after) : after.tree = disk.tree := by
  cases abandons with
  | uncreated unreached => rfl
  | uncompleted obstacle reached met => rfl

theorem workingDirectory (abandons : Abandons destination content disk after) :
    after.workingDirectory = disk.workingDirectory := by
  cases abandons with
  | uncreated unreached => rfl
  | uncompleted obstacle reached met => rfl

theorem obstacles (abandons : Abandons destination content disk after) :
    after.obstacles = disk.obstacles := by
  cases abandons with
  | uncreated unreached => rfl
  | uncompleted obstacle reached met => rfl

theorem drawn_le (abandons : Abandons destination content disk after) :
    disk.drawn ≤ after.drawn := by
  cases abandons with
  | uncreated unreached => exact Nat.le_refl _
  | uncompleted obstacle reached met => exact Nat.le_succ_of_le disk.drawn_le_nextNumber

end Abandons

theorem get?_prepared (destination : String) (disk : Disk) :
    disk.tree.get? ((prepared destination disk).waitingPlace disk.workingDirectory) = none := by
  apply Disk.get?_of_nextNumber_le (Nat.le_refl _)
  simp [waitingPlace, prepared]

theorem sameDirectories_stagedDisk (destination : String) (content : List UInt8) (mode : Nat)
    (disk : Disk) :
    disk.tree.SameDirectories (stagedDisk destination content mode disk).tree := by
  apply FileTree.SameDirectories.insert_file
  simp [FileTree.isDirectoryAt, get?_prepared]

theorem discard_of_unreachable {staged : StagedFile} {disk : Disk}
    (unreachable : disk.tree.reaches disk.workingDirectory staged.directory = false) :
    staged.discard disk = disk := by
  rcases FileTree.exists_fault_of_not_reaches unreachable with ⟨cause, resolved⟩
  simp only [discard, resolved]

theorem discard_of_reachable {staged : StagedFile} {disk : Disk}
    (reachable : disk.tree.reaches disk.workingDirectory staged.directory = true) :
    staged.discard disk =
      disk.replaceTree (disk.tree.erase (staged.waitingPlace disk.workingDirectory)) := by
  simp only [discard, FileTree.reaches_iff.1 reachable]
  rfl

theorem workingDirectory_discard (staged : StagedFile) (disk : Disk) :
    (staged.discard disk).workingDirectory = disk.workingDirectory := by
  cases reachable : disk.tree.reaches disk.workingDirectory staged.directory with
  | false => rw [discard_of_unreachable reachable]
  | true =>
      rw [discard_of_reachable reachable]
      rfl

theorem createTemporary_of_reachable {destination : String} {disk : Disk}
    (reachable : disk.tree.reaches disk.workingDirectory (directoryOf destination) = true) :
    createTemporary (directoryOf destination) disk =
      { result := .ok ((prepared destination disk).waitingPlace disk.workingDirectory,
          disk.nextNumber)
        state := createdDisk destination disk
        trace := [] } := by
  simp only [createTemporary, FileTree.reaches_iff.1 reachable]
  rfl

theorem stage_of_reachable {destination : String} {disk : Disk}
    (reachable : disk.tree.reaches disk.workingDirectory (directoryOf destination) = true)
    (content : List UInt8) (mode : Nat) :
    stage destination content mode disk =
      prepare (prepared destination disk)
        ((prepared destination disk).waitingPlace disk.workingDirectory) content mode
        (createdDisk destination disk) := by
  have created := createTemporary_of_reachable reachable
  simp only [stage, bind, Action.andThen, Action.mapFailure, created, mapError_ok, List.nil_append]
  simp only [prepared]

section Complete

variable {tree : FileTree} {location : Location} {disk : Disk}

theorem complete_none (proper : location ≠ [])
    (created : disk.tree = tree.insert location (.file privateMode [])) (content : List UInt8)
    (mode : Nat) :
    complete location content mode none disk =
      { result := .ok ()
        state :=
          { disk with
            tree := tree.insert location (waitingEntry content mode)
            past := tree.insert location (.file privateMode content) :: disk.tree :: disk.past }
        trace := [] } := by
  simp only [complete, bind, Action.andThen, Disk.write, Disk.setMode, Action.modify,
    Disk.replaceTree, created, FileTree.setContent_insert proper, FileTree.setMode_insert proper,
    waitingEntry, List.append_nil]

theorem complete_some (proper : location ≠ [])
    (created : disk.tree = tree.insert location (.file privateMode [])) (content : List UInt8)
    (mode : Nat) (obstacle : Obstacle) :
    complete location content mode (some obstacle) disk =
      { result := .error obstacle.cause
        state :=
          { disk with
            tree := tree.insert location (.file privateMode (obstacle.written content))
            past := disk.tree :: disk.past }
        trace := [] } := by
  simp only [complete, bind, Action.andThen, Disk.write, Action.modify, Action.fail,
    Disk.replaceTree, created, FileTree.setContent_insert proper, List.append_nil]

end Complete

theorem prepare_of_ok {staged : StagedFile} {location : Location} {content : List UInt8}
    {mode : Nat} {disk after : Disk}
    (completed : complete location content mode (disk.obstacle? staged.destination) disk =
      { result := .ok (), state := after, trace := [] }) :
    prepare staged location content mode disk =
      { result := .ok staged
        state := after
        trace :=
          [.event
            (.staged staged.destination (staged.temporaryPath after.workingDirectory))] } := by
  have kept := Action.onFailure_of_ok staged.discard completed
  simp only [prepare, bind, Action.andThen, Action.gets, Action.mapFailure, kept, Action.report,
    Action.note, pure, Action.done, mapError_ok, List.nil_append, List.append_nil]

theorem prepare_of_error {staged : StagedFile} {location : Location} {content : List UInt8}
    {mode : Nat} {disk after : Disk} {cause : FileFault}
    (failed : complete location content mode (disk.obstacle? staged.destination) disk =
      { result := .error cause, state := after, trace := [] }) :
    prepare staged location content mode disk =
      { result := .error { path := staged.destination, cause }
        state := staged.discard after
        trace := [] } := by
  have taken := Action.onFailure_of_error staged.discard failed
  simp only [prepare, bind, Action.andThen, Action.gets, Action.mapFailure, taken, mapError_error,
    List.nil_append]

theorem stage_of_admitted {destination : String} {disk : Disk}
    (admitted : disk.admits destination = true) (content : List UInt8) (mode : Nat) :
    stage destination content mode disk =
      { result := .ok (prepared destination disk)
        state := stagedDisk destination content mode disk
        trace := [.event (.staged destination
          ((prepared destination disk).temporaryPath disk.workingDirectory))] } := by
  rcases Disk.admits_iff.1 admitted with ⟨reachable, free⟩
  have completed := complete_none
    (waitingPlace_ne_root disk.workingDirectory (prepared destination disk))
    (show (createdDisk destination disk).tree = _ from rfl) content mode
  rw [← show (createdDisk destination disk).obstacle? destination = none from free] at completed
  rw [stage_of_reachable reachable]
  exact prepare_of_ok completed

/-- Discarding an uncompleted file leaves the tree as it was. -/
theorem discard_uncompleted {destination : String} {disk : Disk}
    (reachable : disk.tree.reaches disk.workingDirectory (directoryOf destination) = true)
    (part : List UInt8) (past : List FileTree) (drawn : Nat) :
    let uncompleted := disk.tree.insert
      ((prepared destination disk).waitingPlace disk.workingDirectory) (.file privateMode part)
    (prepared destination disk).discard { disk with tree := uncompleted, past, drawn } =
      { disk with past := uncompleted :: past, drawn } := by
  intro uncompleted
  have free : disk.tree.isDirectoryAt
      ((prepared destination disk).waitingPlace disk.workingDirectory) = false := by
    simp [FileTree.isDirectoryAt, get?_prepared]
  have still :
      uncompleted.reaches disk.workingDirectory (prepared destination disk).directory = true := by
    have same := FileTree.SameDirectories.insert_file free privateMode part
    exact (FileTree.reaches_of_sameDirectories same _ _).trans reachable
  have back := FileTree.erase_insert
    (waitingPlace_ne_root disk.workingDirectory (prepared destination disk))
    (get?_prepared destination disk) (.file privateMode part)
  refine Eq.trans (discard_of_reachable still) ?_
  simp only [Disk.replaceTree, uncompleted, back]

theorem stage_of_obstacle {destination : String} {disk : Disk} {obstacle : Obstacle}
    (reachable : disk.tree.reaches disk.workingDirectory (directoryOf destination) = true)
    (met : disk.obstacle? destination = some obstacle) (content : List UInt8) (mode : Nat) :
    stage destination content mode disk =
      { result := .error { path := destination, cause := obstacle.cause }
        state := abandonedDisk destination (obstacle.written content) disk
        trace := [] } := by
  have proper := waitingPlace_ne_root disk.workingDirectory (prepared destination disk)
  have failed := complete_some proper (show (createdDisk destination disk).tree = _ from rfl)
    content mode obstacle
  rw [← show (createdDisk destination disk).obstacle? destination = some obstacle from met]
    at failed
  rw [stage_of_reachable reachable]
  refine (prepare_of_error failed).trans ?_
  simp only [createdDisk]
  rw [discard_uncompleted reachable]
  rfl

theorem stage_of_refused {destination : String} {disk : Disk}
    (refused : disk.admits destination = false) (content : List UInt8) (mode : Nat) :
    ∃ cause after, Abandons destination content disk after ∧
      stage destination content mode disk =
        { result := .error { path := destination, cause }, state := after, trace := [] } := by
  cases reachable : disk.tree.reaches disk.workingDirectory (directoryOf destination) with
  | false =>
      rcases FileTree.exists_fault_of_not_reaches reachable with ⟨cause, resolved⟩
      have failed : createTemporary (directoryOf destination) disk =
          { result := .error cause, state := disk, trace := [] } := by
        simp only [createTemporary, resolved]
      exact ⟨cause, disk, .uncreated reachable,
        Action.bind_of_error (Action.mapFailure_of_error _ failed)⟩
  | true =>
      cases met : disk.obstacle? destination with
      | none => simp [Disk.admits, reachable, met] at refused
      | some obstacle =>
          exact ⟨_, _, .uncompleted obstacle reachable met,
            stage_of_obstacle reachable met content mode⟩

/-- A commit that is refused discards the staged file. -/
theorem commit_of_refused {staged : StagedFile} {disk : Disk} {cause : FileFault}
    (refused :
      disk.tree.rename disk.workingDirectory staged.directory staged.number staged.destination =
        .error cause) :
    staged.commit disk =
      { result := .error { path := staged.destination, cause }
        state := staged.discard disk
        trace := [] } := by
  apply Action.bind_of_error
  apply Action.mapFailure_of_error
  apply Action.onFailure_of_error
  simp only [Disk.attempt, refused]

/-- A commit succeeds where the file still waits and its destination names a place. -/
theorem commit_of_place {staged : StagedFile} {disk : Disk} {place : Location}
    {mode : Nat} {content : List UInt8}
    (reachable : disk.tree.reaches disk.workingDirectory staged.directory = true)
    (waits :
      disk.tree.get? (staged.waitingPlace disk.workingDirectory) = some (.file mode content))
    (placed : disk.tree.placeFor? disk.workingDirectory staged.destination = some place) :
    staged.commit disk =
      { result := .ok staged.destination
        state :=
          disk.replaceTree
            ((disk.tree.erase (staged.waitingPlace disk.workingDirectory)).insert place
              (.file mode content))
        trace := [] } := by
  have renamed :
      disk.tree.rename disk.workingDirectory staged.directory staged.number staged.destination =
        .ok ((disk.tree.erase (staged.waitingPlace disk.workingDirectory)).insert place
          (.file mode content)) :=
    FileTree.rename_ok_iff.2
      ⟨_, place, mode, content, FileTree.reaches_iff.1 reachable, placed, waits, rfl⟩
  have moved := Action.mapFailure_of_ok
    (fun cause => ({ path := staged.destination, cause } : WriteFault)) <|
    Action.onFailure_of_ok staged.discard <|
      show Disk.attempt (fun tree workingDirectory =>
          tree.rename workingDirectory staged.directory staged.number staged.destination) disk = _ by
        simp only [Disk.attempt, renamed]
        rfl
  simp only [commit]
  rw [Action.bind_of_ok moved]
  rfl

theorem commit_of_unplaced {staged : StagedFile} {disk : Disk}
    (unplaced : disk.tree.placeFor? disk.workingDirectory staged.destination = none) :
    ∃ cause, staged.commit disk =
      { result := .error { path := staged.destination, cause }
        state := staged.discard disk
        trace := [] } := by
  cases renamed : disk.tree.rename disk.workingDirectory staged.directory staged.number
      staged.destination with
  | ok tree =>
      rcases FileTree.rename_ok_iff.1 renamed with ⟨_, place, _, _, _, placed, _⟩
      simp [unplaced] at placed
  | error cause => exact ⟨cause, commit_of_refused renamed⟩

/-- Everything that a commit can come to: the file is moved, or it is refused and discarded. -/
theorem commit_cases (staged : StagedFile) (disk : Disk) :
    (∃ place mode content,
      disk.tree.reaches disk.workingDirectory staged.directory = true ∧
        disk.tree.placeFor? disk.workingDirectory staged.destination = some place ∧
        disk.tree.get? (staged.waitingPlace disk.workingDirectory) = some (.file mode content) ∧
        staged.commit disk =
          { result := .ok staged.destination
            state :=
              disk.replaceTree
                ((disk.tree.erase (staged.waitingPlace disk.workingDirectory)).insert place
                  (.file mode content))
            trace := [] }) ∨
      ∃ cause, staged.commit disk =
        { result := .error { path := staged.destination, cause }
          state := staged.discard disk
          trace := [] } := by
  cases renamed : disk.tree.rename disk.workingDirectory staged.directory staged.number
      staged.destination with
  | error cause => exact .inr ⟨cause, commit_of_refused renamed⟩
  | ok tree =>
      rcases FileTree.rename_ok_iff.1 renamed with
        ⟨source, place, mode, content, resolved, placed, found, _⟩
      obtain rfl := FileTree.resolveStaging_eq resolved
      have reachable := FileTree.reaches_iff.2 resolved
      exact .inl ⟨place, mode, content, reachable, placed, found,
        commit_of_place reachable found placed⟩

end StagedFile

end MailProvision
