import MailProvision.Proofs.Files.Change
import MailProvision.Proofs.Files.Staging

/-!
# Deposits

A deposit remembers what was staged, and whether everything in its directory was swept away since.
`Disk.Keeps` says that the temporary files of a disk are those of the deposits that are held: it is
kept by staging one more, by taking one away, and by whatever others change meanwhile.
-/

namespace MailProvision

/-- A staged file with what was written to it. -/
structure Deposit where
  file : StagedFile
  mode : Nat
  content : List UInt8
  /-- Whether everything in its directory was swept away since. -/
  swept : Bool := false

namespace Deposit

def entry (deposit : Deposit) : Entry :=
  .file deposit.mode deposit.content

def mark (change : Change) (disk : Disk) (deposit : Deposit) : Deposit :=
  { deposit with
    swept := deposit.swept ||
      change.sweeps disk.tree (deposit.file.home disk.workingDirectory) }

/-- The temporary file is there exactly as long as its directory is not swept. -/
structure Kept (workingDirectory : Location) (tree : FileTree) (deposit : Deposit) : Prop where
  rooted : deposit.swept = false → tree.Rooted (deposit.file.home workingDirectory)
  waits : deposit.swept = false →
    tree.get? (deposit.file.waitingPlace workingDirectory) = some deposit.entry
  gone : deposit.swept = true → tree.get? (deposit.file.waitingPlace workingDirectory) = none

theorem Kept.of_same {workingDirectory : Location} {tree other : FileTree} {deposit : Deposit}
    (kept : deposit.Kept workingDirectory tree) (same : tree.SameDirectories other)
    (unchanged : other.get? (deposit.file.waitingPlace workingDirectory) =
      tree.get? (deposit.file.waitingPlace workingDirectory)) :
    deposit.Kept workingDirectory other where
  rooted := fun unswept => (kept.rooted unswept).of_sameDirectories same
  waits := fun unswept => unchanged.trans (kept.waits unswept)
  gone := fun swept => unchanged.trans (kept.gone swept)

theorem Kept.not_directory {workingDirectory : Location} {tree : FileTree} {deposit : Deposit}
    (kept : deposit.Kept workingDirectory tree) :
    tree.isDirectoryAt (deposit.file.waitingPlace workingDirectory) = false := by
  cases swept : deposit.swept with
  | true => simp [FileTree.isDirectoryAt, kept.gone swept]
  | false => simp [FileTree.isDirectoryAt, kept.waits swept, entry]

theorem Kept.mark {disk : Disk} {deposit : Deposit} {change : Change} {after : FileTree}
    (kept : deposit.Kept disk.workingDirectory disk.tree) (made : change.Made disk.tree after) :
    (deposit.mark change disk).Kept disk.workingDirectory after := by
  cases sweeps : change.sweeps disk.tree (deposit.file.home disk.workingDirectory) with
  | true =>
      have swept : (deposit.mark change disk).swept = true := by
        simp [Deposit.mark, sweeps]
      refine { rooted := ?_, waits := ?_, gone := fun _ => made.get?_of_sweeps sweeps _ }
      · intro unswept
        simp [swept] at unswept
      · intro unswept
        simp [swept] at unswept
  | false =>
      have swept_eq : (deposit.mark change disk).swept = deposit.swept := by
        simp [Deposit.mark, sweeps]
      have unchanged : after.get? (deposit.file.waitingPlace disk.workingDirectory) =
          disk.tree.get? (deposit.file.waitingPlace disk.workingDirectory) :=
        made.get?_of_spares sweeps _
      refine { rooted := ?_, waits := ?_, gone := ?_ }
      · intro unswept
        exact made.rooted sweeps (kept.rooted (swept_eq ▸ unswept))
      · intro unswept
        exact unchanged.trans (kept.waits (swept_eq ▸ unswept))
      · intro swept
        exact unchanged.trans (kept.gone (swept_eq ▸ swept))

end Deposit

theorem StagedFile.waitingPlace_ne {workingDirectory : Location} {first second : StagedFile}
    (different : first.number ≠ second.number) :
    first.waitingPlace workingDirectory ≠ second.waitingPlace workingDirectory := by
  intro same
  have lasts := congrArg List.getLast? same
  simp [waitingPlace] at lasts
  exact different lasts

namespace Disk

/-- The temporary files of a disk are those of the deposits that are held and were not swept. Beyond
that there are only some that were there from the start. -/
structure Keeps (initial : FileTree) (held : Deposit → Prop) (disk : Disk) : Prop where
  kept : ∀ deposit, held deposit → deposit.Kept disk.workingDirectory disk.tree
  drawn : ∀ deposit, held deposit → deposit.file.number < disk.drawn
  unique : ∀ first second, held first → held second →
    first.file.number = second.file.number → first = second
  known : ∀ directory number, disk.tree.get? (directory ++ [.temporary number]) ≠ none →
    initial.get? (directory ++ [.temporary number]) ≠ none ∨
      ∃ deposit, held deposit ∧ deposit.swept = false ∧
        deposit.file.waitingPlace disk.workingDirectory = directory ++ [.temporary number]
  directed : ∀ deposit, held deposit →
    deposit.file.directory = StagedFile.directoryOf deposit.file.destination
  reached : ∀ deposit, held deposit →
    ∃ before : FileTree, before.reaches disk.workingDirectory deposit.file.directory = true

namespace Keeps

variable {initial : FileTree} {held : Deposit → Prop} {disk : Disk}

theorem start (disk : Disk) : disk.Keeps disk.tree (fun _ => False) where
  kept := fun _ impossible => impossible.elim
  drawn := fun _ impossible => impossible.elim
  unique := fun _ _ impossible => impossible.elim
  known := fun _ _ found => .inl found
  directed := fun _ impossible => impossible.elim
  reached := fun _ impossible => impossible.elim

theorem congr {other : Deposit → Prop} (keeps : disk.Keeps initial held)
    (same : ∀ deposit, other deposit ↔ held deposit) : disk.Keeps initial other := by
  obtain rfl : other = held := funext fun deposit => propext (same deposit)
  exact keeps

/-- What staging hands out, with what was written to it. -/
def prepared (destination : String) (content : List UInt8) (mode : Nat) (disk : Disk) : Deposit :=
  { file := StagedFile.prepared destination disk, mode := mode % StagedFile.modeLimit, content }

theorem stage (keeps : disk.Keeps initial held) {destination : String}
    (reachable : disk.tree.reaches disk.workingDirectory
      (StagedFile.directoryOf destination) = true)
    (content : List UInt8) (mode : Nat) :
    (StagedFile.stagedDisk destination content mode disk).Keeps initial fun deposit =>
      deposit = prepared destination content mode disk ∨ held deposit := by
  have same := StagedFile.sameDirectories_stagedDisk destination content mode disk
  have above := disk.drawn_le_nextNumber
  have older {deposit : Deposit} (mem : held deposit) :
      deposit.file.number ≠ (StagedFile.prepared destination disk).number := by
    have bound := keeps.drawn deposit mem
    simp only [StagedFile.prepared]
    omega
  refine
    { kept := ?_, drawn := ?_, unique := ?_, known := ?_, directed := ?_, reached := ?_ }
  · rintro deposit (rfl | mem)
    · refine { rooted := fun _ => ?_, waits := fun _ => ?_, gone := ?_ }
      · have rooted := FileTree.rooted_of_resolveStaging (FileTree.reaches_iff.1 reachable)
        exact rooted.of_sameDirectories same
      · exact FileTree.get?_insert_self (StagedFile.waitingPlace_ne_root _ _) _ _
      · simp [prepared]
    · refine (keeps.kept deposit mem).of_same same ?_
      exact FileTree.get?_insert_of_ne (StagedFile.waitingPlace_ne (older mem)) _ _
  · rintro deposit (rfl | mem)
    · exact Nat.lt_succ_self _
    · have bound := keeps.drawn deposit mem
      simp only [StagedFile.stagedDisk]
      omega
  · rintro first second (rfl | firstMem) (rfl | secondMem) numbers
    · rfl
    · exact absurd numbers.symm (older secondMem)
    · exact absurd numbers (older firstMem)
    · exact keeps.unique first second firstMem secondMem numbers
  · intro directory number found
    by_cases new : directory ++ [.temporary number] =
        (StagedFile.prepared destination disk).waitingPlace disk.workingDirectory
    · exact .inr ⟨_, .inl rfl, rfl, new.symm⟩
    · simp only [StagedFile.stagedDisk, FileTree.get?_insert_of_ne new] at found
      rcases keeps.known directory number found with old | ⟨deposit, mem, unswept, place⟩
      · exact .inl old
      · exact .inr ⟨deposit, .inr mem, unswept, place⟩
  · rintro deposit (rfl | mem)
    · rfl
    · exact keeps.directed deposit mem
  · rintro deposit (rfl | mem)
    · exact ⟨disk.tree, reachable⟩
    · exact keeps.reached deposit mem

/-- One temporary file is taken away, and no other is touched. -/
theorem take (keeps : disk.Keeps initial held) {deposit : Deposit} (mem : held deposit)
    {other : Disk} (directory_eq : other.workingDirectory = disk.workingDirectory)
    (drawn_eq : other.drawn = disk.drawn) (same : disk.tree.SameDirectories other.tree)
    (others : ∀ directory number,
      directory ++ [.temporary number] ≠ deposit.file.waitingPlace disk.workingDirectory →
        other.tree.get? (directory ++ [.temporary number]) =
          disk.tree.get? (directory ++ [.temporary number]))
    (own : other.tree.get? (deposit.file.waitingPlace disk.workingDirectory) = none) :
    other.Keeps initial fun kept => held kept ∧ kept ≠ deposit := by
  have apart {kept : Deposit} (mem' : held kept) (different : kept ≠ deposit) :
      kept.file.waitingPlace disk.workingDirectory ≠
        deposit.file.waitingPlace disk.workingDirectory := by
    apply StagedFile.waitingPlace_ne
    intro numbers
    exact different (keeps.unique kept deposit mem' mem numbers)
  refine
    { kept := ?_, drawn := ?_, unique := ?_, known := ?_, directed := ?_, reached := ?_ }
  · rintro kept ⟨mem', different⟩
    rw [directory_eq]
    exact (keeps.kept kept mem').of_same same (others _ _ (apart mem' different))
  · rintro kept ⟨mem', _⟩
    rw [drawn_eq]
    exact keeps.drawn kept mem'
  · rintro first second ⟨firstMem, _⟩ ⟨secondMem, _⟩ numbers
    exact keeps.unique first second firstMem secondMem numbers
  · intro directory number found
    by_cases taken : directory ++ [.temporary number] =
        deposit.file.waitingPlace disk.workingDirectory
    · rw [taken] at found
      exact absurd own found
    · rw [others directory number taken] at found
      rcases keeps.known directory number found with old | ⟨kept, mem', unswept, place⟩
      · exact .inl old
      · refine .inr ⟨kept, ⟨mem', ?_⟩, unswept, directory_eq ▸ place⟩
        rintro rfl
        exact taken place.symm
  · rintro kept ⟨mem', _⟩
    exact keeps.directed kept mem'
  · rintro kept ⟨mem', _⟩
    rw [directory_eq]
    exact keeps.reached kept mem'

/-- The account of a disk holds on every disk with the same tree that drew as many numbers. -/
theorem of_same_tree (keeps : disk.Keeps initial held) {other : Disk}
    (tree_eq : other.tree = disk.tree)
    (directory_eq : other.workingDirectory = disk.workingDirectory)
    (drawn_le : disk.drawn ≤ other.drawn) : other.Keeps initial held where
  kept := by
    rw [tree_eq, directory_eq]
    exact keeps.kept
  drawn := fun deposit mem => Nat.lt_of_lt_of_le (keeps.drawn deposit mem) drawn_le
  unique := keeps.unique
  known := by
    rw [tree_eq, directory_eq]
    exact keeps.known
  directed := keeps.directed
  reached := by
    rw [directory_eq]
    exact keeps.reached

theorem change (keeps : disk.Keeps initial held) (change : Change) :
    (disk.replaceTree (change.apply disk.tree)).Keeps initial fun marked =>
      ∃ deposit, held deposit ∧ deposit.mark change disk = marked := by
  have made := change.made disk.tree
  refine
    { kept := ?_, drawn := ?_, unique := ?_, known := ?_, directed := ?_, reached := ?_ }
  · rintro _ ⟨deposit, mem, rfl⟩
    exact (keeps.kept deposit mem).mark made
  · rintro _ ⟨deposit, mem, rfl⟩
    exact keeps.drawn deposit mem
  · rintro _ _ ⟨first, firstMem, rfl⟩ ⟨second, secondMem, rfl⟩ numbers
    rw [keeps.unique first second firstMem secondMem numbers]
  · intro directory number found
    cases sweeps : change.sweeps disk.tree directory with
    | true => exact absurd (made.get?_of_sweeps sweeps number) found
    | false =>
        simp only [Disk.replaceTree_tree, made.get?_of_spares sweeps number] at found
        rcases keeps.known directory number found with old | ⟨deposit, mem, unswept, place⟩
        · exact .inl old
        · refine .inr ⟨_, ⟨deposit, mem, rfl⟩, ?_, place⟩
          have home : deposit.file.home disk.workingDirectory = directory :=
            (List.append_inj' place rfl).1
          simp [Deposit.mark, unswept, home, sweeps]
  · rintro _ ⟨deposit, mem, rfl⟩
    exact keeps.directed deposit mem
  · rintro _ ⟨deposit, mem, rfl⟩
    exact keeps.reached deposit mem

end Keeps

end Disk

end MailProvision
