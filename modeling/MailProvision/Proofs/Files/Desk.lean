import MailProvision.Proofs.Files.ByPath
import MailProvision.Proofs.Files.Deposits

/-!
# Many staged files at a time

A desk is a disk on which any number of files are staged under ids of their own, while others change
the tree and what keeps a file from being written comes and goes. Files are staged, committed and
dropped in any order; an id that is used again drops the file that had it.

Two accounts are kept beside the disk: the deposits by id, and the strays. A stray is a deposit that
was given up while its directory stood but was no longer reached by the path it was staged through;
its temporary file stays behind.
-/

namespace MailProvision

/-- A disk with the files that are staged on it. -/
structure Desk where
  disk : Disk
  /-- The staged files by id. -/
  deposits : String → Option Deposit
  /-- What was given up while it could not be reached. -/
  strays : List Deposit

inductive DeskOperation where
  | stage (id destination : String) (content : List UInt8) (mode : Nat)
  | commit (id : String)
  | drop (id : String)
  | change (change : Change)
  /-- From now on these obstacles are met. -/
  | obstruct (obstacles : List (String × Obstacle))

inductive Reply where
  | staged
  | refused (fault : WriteFault)
  | committed (path : String)
  | dropped
  /-- Nothing is staged under this id. -/
  | unknown
  | changed
deriving DecidableEq

namespace Reply

def ofCommit : Except WriteFault String → Reply
  | .ok path => .committed path
  | .error fault => .refused fault

end Reply

namespace Desk

/-- A desk on which nothing is staged. -/
def opening (disk : Disk) : Desk :=
  { disk, deposits := fun _ => none, strays := [] }

/-- The directory of a deposit stands, but its path no longer leads there. -/
def isStranded (desk : Desk) (deposit : Deposit) : Bool :=
  !deposit.swept &&
    !desk.disk.tree.reaches desk.disk.workingDirectory deposit.file.directory

/-- The desk once a deposit is given up, with the disk that this leaves. -/
def consume (desk : Desk) (id : String) (deposit : Deposit) (disk : Disk) : Desk :=
  { disk
    deposits := fun other => if other = id then none else desk.deposits other
    strays := if desk.isStranded deposit then deposit :: desk.strays else desk.strays }

def drop (desk : Desk) (id : String) : Desk × Reply :=
  match desk.deposits id with
  | none => (desk, .unknown)
  | some deposit => (desk.consume id deposit (deposit.file.discard desk.disk), .dropped)

/-- Puts the file under an id in place, or gives it up. -/
def commit (desk : Desk) (id : String) : Desk × Reply :=
  match desk.deposits id with
  | none => (desk, .unknown)
  | some deposit =>
      (desk.consume id deposit (deposit.file.commit desk.disk).state,
        .ofCommit (deposit.file.commit desk.disk).result)

def file (desk : Desk) (id : String) (deposit : Deposit) : Desk :=
  { desk with
    deposits := fun other => if other = id then some deposit else desk.deposits other }

/-- Puts a newly staged file under an id, and drops the file that had it. -/
def receive (desk : Desk) (id : String) (content : List UInt8) (mode : Nat)
    (outcome : Outcome Disk WriteFault StagedFile) : Desk × Reply :=
  match outcome.result with
  | .error fault => ({ desk with disk := outcome.state }, .refused fault)
  | .ok file =>
      let cleared := (drop { desk with disk := outcome.state } id).1
      (cleared.file id { file, mode := mode % StagedFile.modeLimit, content }, .staged)

def stage (desk : Desk) (id destination : String) (content : List UInt8) (mode : Nat) :
    Desk × Reply :=
  desk.receive id content mode (StagedFile.stage destination content mode desk.disk)

def change (desk : Desk) (change : Change) : Desk :=
  { disk := desk.disk.replaceTree (change.apply desk.disk.tree)
    deposits := fun id => (desk.deposits id).map (Deposit.mark change desk.disk)
    strays := desk.strays.map (Deposit.mark change desk.disk) }

def obstruct (desk : Desk) (obstacles : List (String × Obstacle)) : Desk :=
  { desk with disk := { desk.disk with obstacles } }

def step (desk : Desk) : DeskOperation → Desk × Reply
  | .stage id destination content mode => desk.stage id destination content mode
  | .commit id => desk.commit id
  | .drop id => desk.drop id
  | .change change => (desk.change change, .changed)
  | .obstruct obstacles => (desk.obstruct obstacles, .changed)

def run (desk : Desk) (operations : List DeskOperation) : Desk :=
  operations.foldl (fun desk operation => (desk.step operation).1) desk

theorem tree_run_changes (desk : Desk) (changes : List Change) :
    (desk.run (changes.map .change)).disk.tree = desk.disk.tree.applyAll changes := by
  induction changes generalizing desk with
  | nil => rfl
  | cons change rest ih => exact ih (desk.change change)

/-- Whether a deposit is staged or astray. -/
def Holds (desk : Desk) (deposit : Deposit) : Prop :=
  (∃ id, desk.deposits id = some deposit) ∨ deposit ∈ desk.strays

/-- The accounts of a desk agree with its disk and with one another. What is in hand is staged, but
not yet under an id. -/
structure Orderly (initial : FileTree) (inHand : Deposit → Prop) (desk : Desk) : Prop where
  keeps : desk.disk.Keeps initial fun deposit => desk.Holds deposit ∨ inHand deposit
  spare : ∀ deposit, inHand deposit → ¬desk.Holds deposit
  separate : ∀ id other deposit,
    desk.deposits id = some deposit → desk.deposits other = some deposit → id = other
  apart : ∀ id deposit, desk.deposits id = some deposit → deposit ∉ desk.strays
  /-- Only a path that leads upwards can lose its directory while that stands. -/
  upward : ∀ deposit ∈ desk.strays,
    ".." ∈ FileTree.names
      (Path.join desk.disk.workingDirectory.toPath deposit.file.directory)

variable {initial : FileTree} {inHand : Deposit → Prop} {desk : Desk}

def IsOrderly (initial : FileTree) (desk : Desk) : Prop :=
  desk.Orderly initial fun _ => False

theorem orderly_opening (disk : Disk) : (opening disk).IsOrderly disk.tree where
  keeps := (Disk.Keeps.start disk).congr fun deposit => by simp [Holds, opening]
  spare := fun _ impossible => impossible.elim
  separate := by simp [opening]
  apart := by simp [opening]
  upward := by simp [opening]

theorem upward_of_stranded (orderly : desk.Orderly initial inHand) {deposit : Deposit}
    (mem : desk.Holds deposit) (stranded : desk.isStranded deposit = true) :
    ".." ∈ FileTree.names
      (Path.join desk.disk.workingDirectory.toPath deposit.file.directory) := by
  simp only [isStranded, Bool.and_eq_true, Bool.not_eq_true'] at stranded
  rcases stranded with ⟨unswept, unreachable⟩
  apply Classical.byContradiction
  intro downward
  rcases orderly.keeps.reached deposit (.inl mem) with ⟨before, reached⟩
  have rooted := (orderly.keeps.kept deposit (.inl mem)).rooted unswept
  have again := FileTree.resolveStaging_of_rooted downward (FileTree.reaches_iff.1 reached) rooted
  rw [FileTree.reaches_iff.2 again] at unreachable
  cases unreachable

theorem holds_of_found {id : String} {deposit : Deposit}
    (found : desk.deposits id = some deposit) : desk.Holds deposit :=
  .inl ⟨id, found⟩

/-- What the disk may come to when a deposit is given up. -/
structure Frees (desk : Desk) (deposit : Deposit) (disk : Disk) : Prop where
  workingDirectory : disk.workingDirectory = desk.disk.workingDirectory
  drawn : disk.drawn = desk.disk.drawn
  same : desk.disk.tree.SameDirectories disk.tree
  others : ∀ directory number,
    directory ++ [.temporary number] ≠
        deposit.file.waitingPlace desk.disk.workingDirectory →
      disk.tree.get? (directory ++ [.temporary number]) =
        desk.disk.tree.get? (directory ++ [.temporary number])
  own : desk.isStranded deposit = false →
    disk.tree.get? (deposit.file.waitingPlace desk.disk.workingDirectory) = none
  stays : desk.isStranded deposit = true → disk = desk.disk

theorem holds_consume_of_stranded {id : String} {deposit : Deposit} {disk : Disk}
    (found : desk.deposits id = some deposit) (stranded : desk.isStranded deposit = true)
    (other : Deposit) : (desk.consume id deposit disk).Holds other ↔ desk.Holds other := by
  simp only [Holds, consume, stranded, if_true, List.mem_cons]
  constructor
  · rintro (⟨key, held⟩ | rfl | mem)
    · split at held
      · cases held
      · exact .inl ⟨key, held⟩
    · exact .inl ⟨id, found⟩
    · exact .inr mem
  · rintro (⟨key, held⟩ | mem)
    · by_cases same : key = id
      · subst key
        rw [found, Option.some.injEq] at held
        exact .inr (.inl held.symm)
      · exact .inl ⟨key, by rw [if_neg same, held]⟩
    · exact .inr (.inr mem)

theorem holds_consume (orderly : desk.Orderly initial inHand) {id : String} {deposit : Deposit}
    {disk : Disk} (found : desk.deposits id = some deposit)
    (unstranded : desk.isStranded deposit = false) (other : Deposit) :
    (desk.consume id deposit disk).Holds other ↔ desk.Holds other ∧ other ≠ deposit := by
  simp only [Holds, consume, unstranded, Bool.false_eq_true, if_false]
  constructor
  · rintro (⟨key, held⟩ | mem)
    · split at held
      · cases held
      · rename_i different
        refine ⟨.inl ⟨key, held⟩, ?_⟩
        rintro rfl
        exact different (orderly.separate key id other held found)
    · refine ⟨.inr mem, ?_⟩
      rintro rfl
      exact orderly.apart id other found mem
  · rintro ⟨⟨key, held⟩ | mem, different⟩
    · have apart : key ≠ id := by
        rintro rfl
        rw [found, Option.some.injEq] at held
        exact different held.symm
      exact .inl ⟨key, by rw [if_neg apart, held]⟩
    · exact .inr mem

/-- Giving up a deposit keeps the accounts right. -/
theorem orderly_consume (orderly : desk.Orderly initial inHand) {id : String} {deposit : Deposit}
    {disk : Disk} (found : desk.deposits id = some deposit) (frees : desk.Frees deposit disk) :
    (desk.consume id deposit disk).Orderly initial inHand := by
  have held {key : String} {other : Deposit}
      (left : (desk.consume id deposit disk).deposits key = some other) :
      desk.deposits key = some other ∧ other ≠ deposit := by
    simp only [consume] at left
    split at left
    · cases left
    · rename_i different
      refine ⟨left, ?_⟩
      rintro rfl
      exact different (orderly.separate key id other left found)
  have mem := holds_of_found found
  have unspent {other : Deposit} (left : (desk.consume id deposit disk).Holds other) :
      desk.Holds other := by
    cases stranded : desk.isStranded deposit with
    | true => exact (holds_consume_of_stranded found stranded other).mp left
    | false => exact ((holds_consume orderly found stranded other).mp left).1
  refine { keeps := ?_, spare := ?_, separate := ?_, apart := ?_, upward := ?_ }
  · cases stranded : desk.isStranded deposit with
    | true =>
        rw [frees.stays stranded]
        refine orderly.keeps.congr fun other => ?_
        rw [holds_consume_of_stranded found stranded]
    | false =>
        have taken := orderly.keeps.take (.inl mem) frees.workingDirectory frees.drawn frees.same
          frees.others (frees.own stranded)
        refine taken.congr fun other => ?_
        rw [holds_consume orderly found stranded, or_and_right]
        refine or_congr_right ⟨fun inHand => ⟨inHand, ?_⟩, And.left⟩
        rintro rfl
        exact orderly.spare other inHand mem
  · intro other inHand left
    exact orderly.spare other inHand (unspent left)
  · intro first second other firstFound secondFound
    exact orderly.separate first second other (held firstFound).1 (held secondFound).1
  · intro key other otherFound astray
    rcases held otherFound with ⟨before, different⟩
    simp only [consume] at astray
    split at astray
    · rcases List.mem_cons.mp astray with same | astray
      · exact different same
      · exact orderly.apart key other before astray
    · exact orderly.apart key other before astray
  · intro other astray
    have workingDirectory_eq : (desk.consume id deposit disk).disk.workingDirectory =
        desk.disk.workingDirectory := frees.workingDirectory
    rw [workingDirectory_eq]
    simp only [consume] at astray
    split at astray
    · rename_i stranded
      rcases List.mem_cons.mp astray with rfl | astray
      · exact upward_of_stranded orderly mem stranded
      · exact orderly.upward other astray
    · exact orderly.upward other astray

theorem reaches_of_stranded {deposit : Deposit} (stranded : desk.isStranded deposit = true) :
    desk.disk.tree.reaches desk.disk.workingDirectory deposit.file.directory = false := by
  simp only [isStranded, Bool.and_eq_true, Bool.not_eq_true'] at stranded
  exact stranded.2

theorem frees_discard (orderly : desk.Orderly initial inHand) {deposit : Deposit}
    (mem : desk.Holds deposit) : desk.Frees deposit (deposit.file.discard desk.disk) := by
  have kept := orderly.keeps.kept deposit (.inl mem)
  cases reachable : desk.disk.tree.reaches desk.disk.workingDirectory deposit.file.directory with
  | false =>
      rw [StagedFile.discard_of_unreachable reachable]
      refine
        { workingDirectory := rfl, drawn := rfl, same := .refl _, others := fun _ _ _ => rfl
          own := ?_, stays := fun _ => rfl }
      intro unstranded
      have swept : deposit.swept = true := by
        simpa [isStranded, reachable] using unstranded
      exact kept.gone swept
  | true =>
      rw [StagedFile.discard_of_reachable reachable]
      refine
        { workingDirectory := rfl, drawn := rfl, same := .erase kept.not_directory
          others := fun _ _ different => FileTree.get?_erase_of_ne different _
          own := fun _ => FileTree.get?_erase_self (StagedFile.waitingPlace_ne_root _ _) _
          stays := ?_ }
      intro stranded
      rw [reaches_of_stranded stranded] at reachable
      cases reachable

theorem frees_commit (orderly : desk.Orderly initial inHand) {deposit : Deposit}
    (mem : desk.Holds deposit) : desk.Frees deposit (deposit.file.commit desk.disk).state := by
  rcases deposit.file.commit_cases desk.disk with
    ⟨place, mode, content, reachable, placed, found, committed⟩ | ⟨cause, refused⟩
  · have kept := orderly.keeps.kept deposit (.inl mem)
    have erased := FileTree.SameDirectories.erase kept.not_directory
    have free : (desk.disk.tree.erase
        (deposit.file.waitingPlace desk.disk.workingDirectory)).isDirectoryAt place = false := by
      rw [← erased]
      exact FileTree.place_free placed
    have proper := StagedFile.waitingPlace_ne_root desk.disk.workingDirectory deposit.file
    have temporary (directory : Location) (number : Nat) :
        directory ++ [.temporary number] ≠ place :=
      Ne.symm (FileTree.place_ne_temporary placed directory number)
    rw [committed]
    refine
      { workingDirectory := rfl, drawn := rfl, same := erased.trans (.insert_file free _ _)
        others := ?_, own := ?_, stays := ?_ }
    · intro directory number different
      exact (FileTree.get?_insert_of_ne (temporary directory number) _ _).trans
        (FileTree.get?_erase_of_ne different _)
    · intro _
      exact (FileTree.get?_insert_of_ne (temporary _ _) _ _).trans
        (FileTree.get?_erase_self proper _)
    · intro stranded
      rw [reaches_of_stranded stranded] at reachable
      cases reachable
  · rw [refused]
    exact frees_discard orderly mem

theorem orderly_drop (orderly : desk.Orderly initial inHand) (id : String) :
    (desk.drop id).1.Orderly initial inHand := by
  simp only [drop]
  cases found : desk.deposits id with
  | none => exact orderly
  | some deposit =>
      exact orderly_consume orderly found (frees_discard orderly (holds_of_found found))

theorem orderly_commit (orderly : desk.Orderly initial inHand) (id : String) :
    (desk.commit id).1.Orderly initial inHand := by
  simp only [commit]
  cases found : desk.deposits id with
  | none => exact orderly
  | some deposit =>
      exact orderly_consume orderly found (frees_commit orderly (holds_of_found found))

theorem orderly_change (orderly : desk.IsOrderly initial) (change : Change) :
    (desk.change change).IsOrderly initial := by
  have marked_eq {first second : Deposit} (firstMem : desk.Holds first)
      (secondMem : desk.Holds second)
      (same : first.mark change desk.disk = second.mark change desk.disk) : first = second :=
    orderly.keeps.unique first second (.inl firstMem) (.inl secondMem)
      (congrArg (fun deposit => deposit.file.number) same)
  refine
    { keeps := ?_, spare := fun _ impossible => impossible.elim, separate := ?_, apart := ?_
      upward := ?_ }
  · refine (orderly.keeps.change change).congr fun deposit => ?_
    simp only [Holds, Desk.change, Option.map_eq_some_iff, List.mem_map, or_false]
    constructor
    · rintro (⟨id, before, found, rfl⟩ | ⟨before, astray, rfl⟩)
      · exact ⟨before, .inl ⟨id, found⟩, rfl⟩
      · exact ⟨before, .inr astray, rfl⟩
    · rintro ⟨before, ⟨id, found⟩ | astray, rfl⟩
      · exact .inl ⟨id, before, found, rfl⟩
      · exact .inr ⟨before, astray, rfl⟩
  · intro first second deposit firstFound secondFound
    simp only [Desk.change, Option.map_eq_some_iff] at firstFound secondFound
    rcases firstFound with ⟨before, found, rfl⟩
    rcases secondFound with ⟨other, otherFound, same⟩
    obtain rfl := marked_eq (holds_of_found otherFound) (holds_of_found found) same
    exact orderly.separate first second other found otherFound
  · intro id deposit found astray
    simp only [Desk.change, Option.map_eq_some_iff, List.mem_map] at found astray
    rcases found with ⟨before, found, rfl⟩
    rcases astray with ⟨other, astray, same⟩
    obtain rfl := marked_eq (.inr astray) (holds_of_found found) same
    exact orderly.apart id other found astray
  · intro deposit astray
    simp only [Desk.change, List.mem_map] at astray
    rcases astray with ⟨before, astray, rfl⟩
    exact orderly.upward before astray

/-- The desk with a newly staged file still in hand. -/
def lay (desk : Desk) (destination : String) (content : List UInt8) (mode : Nat) : Desk :=
  { desk with disk := StagedFile.stagedDisk destination content mode desk.disk }

/-- The accounts of a desk stay right when its disk has the same tree and draws more numbers. -/
theorem orderly_of_same_tree (orderly : desk.Orderly initial inHand) {disk : Disk}
    (tree_eq : disk.tree = desk.disk.tree)
    (directory_eq : disk.workingDirectory = desk.disk.workingDirectory)
    (drawn_le : desk.disk.drawn ≤ disk.drawn) :
    { desk with disk }.Orderly initial inHand where
  keeps := orderly.keeps.of_same_tree tree_eq directory_eq drawn_le
  spare := orderly.spare
  separate := orderly.separate
  apart := orderly.apart
  upward := by
    rw [directory_eq]
    exact orderly.upward

theorem orderly_lay (orderly : desk.IsOrderly initial) {destination : String}
    (reachable : desk.disk.tree.reaches desk.disk.workingDirectory
      (StagedFile.directoryOf destination) = true)
    (content : List UInt8) (mode : Nat) :
    (desk.lay destination content mode).Orderly initial
      (· = Disk.Keeps.prepared destination content mode desk.disk) := by
  refine
    { keeps := ?_, spare := ?_, separate := orderly.separate, apart := orderly.apart
      upward := orderly.upward }
  · refine (orderly.keeps.stage reachable content mode).congr fun deposit => ?_
    rw [or_false, or_comm]
    rfl
  · rintro deposit rfl mem
    have bound := orderly.keeps.drawn _ (.inl mem)
    have above := desk.disk.drawn_le_nextNumber
    simp only [Disk.Keeps.prepared, StagedFile.prepared] at bound
    omega

theorem orderly_file {deposit : Deposit} (orderly : desk.Orderly initial (· = deposit))
    {id : String} (vacant : desk.deposits id = none) :
    (desk.file id deposit).IsOrderly initial := by
  have absent := orderly.spare deposit rfl
  refine
    { keeps := ?_, spare := fun _ impossible => impossible.elim, separate := ?_, apart := ?_
      upward := orderly.upward }
  · refine orderly.keeps.congr fun other => ?_
    simp only [Holds, file, or_false]
    constructor
    · rintro (⟨key, found⟩ | astray)
      · split at found
        · exact .inr (Option.some.inj found).symm
        · exact .inl (.inl ⟨key, found⟩)
      · exact .inl (.inr astray)
    · rintro ((⟨key, found⟩ | astray) | rfl)
      · have different : key ≠ id := by
          rintro rfl
          rw [vacant] at found
          cases found
        exact .inl ⟨key, by rw [if_neg different, found]⟩
      · exact .inr astray
      · exact .inl ⟨id, if_pos rfl⟩
  · intro first second other firstFound secondFound
    simp only [file] at firstFound secondFound
    split at firstFound <;> split at secondFound
    · rename_i left right
      rw [left, right]
    · cases firstFound
      exact absurd (holds_of_found secondFound) absent
    · cases secondFound
      exact absurd (holds_of_found firstFound) absent
    · exact orderly.separate first second other firstFound secondFound
  · intro key other found astray
    simp only [file] at found
    split at found
    · cases found
      exact absent (.inr astray)
    · exact orderly.apart key other found astray

theorem deposits_drop (desk : Desk) (id : String) : (desk.drop id).1.deposits id = none := by
  simp only [drop]
  cases found : desk.deposits id with
  | none => exact found
  | some deposit => simp [consume]

theorem stage_of_refused {destination : String} (refused : desk.disk.admits destination = false)
    (id : String) (content : List UInt8) (mode : Nat) :
    ∃ cause disk, StagedFile.Abandons destination content desk.disk disk ∧
      desk.stage id destination content mode =
        ({ desk with disk }, .refused { path := destination, cause }) := by
  rcases StagedFile.stage_of_refused refused content mode with ⟨cause, disk, abandons, failed⟩
  exact ⟨cause, disk, abandons, by rw [stage, failed, receive]⟩

theorem stage_of_admitted {destination : String} (admitted : desk.disk.admits destination = true)
    (id : String) (content : List UInt8) (mode : Nat) :
    desk.stage id destination content mode =
      (((desk.lay destination content mode).drop id).1.file id
        (Disk.Keeps.prepared destination content mode desk.disk), .staged) := by
  rw [stage, StagedFile.stage_of_admitted admitted content mode, receive]
  rfl

theorem orderly_stage (orderly : desk.IsOrderly initial) (id destination : String)
    (content : List UInt8) (mode : Nat) :
    (desk.stage id destination content mode).1.IsOrderly initial := by
  cases admitted : desk.disk.admits destination with
  | false =>
      rcases stage_of_refused admitted id content mode with ⟨cause, disk, abandons, refused⟩
      rw [refused]
      exact orderly_of_same_tree orderly abandons.tree abandons.workingDirectory abandons.drawn_le
  | true =>
      rw [stage_of_admitted admitted]
      have reachable := (Disk.admits_iff.1 admitted).1
      have dropped := orderly_drop (orderly_lay orderly reachable content mode) id
      exact orderly_file dropped (deposits_drop _ id)

theorem orderly_step (orderly : desk.IsOrderly initial) (operation : DeskOperation) :
    (desk.step operation).1.IsOrderly initial := by
  cases operation with
  | stage id destination content mode => exact orderly_stage orderly id destination content mode
  | commit id => exact orderly_commit orderly id
  | drop id => exact orderly_drop orderly id
  | change change => exact orderly_change orderly change
  | obstruct obstacles => exact orderly_of_same_tree orderly rfl rfl (Nat.le_refl _)

theorem orderly_run (orderly : desk.IsOrderly initial) (operations : List DeskOperation) :
    (desk.run operations).IsOrderly initial := by
  induction operations generalizing desk with
  | nil => exact orderly
  | cons operation rest ih => exact ih (orderly_step orderly operation)

end Desk

end MailProvision
