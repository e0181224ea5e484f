import MailProvision.Proofs.Files.Desk

/-!
# What is seen of staged files

Leaving temporary files aside, the tree of a desk is the one in which every commit that succeeds puts
a whole file in place at once and nothing else that is done to staged files has any effect. It is
computed along the same operations (`Desk.shown`). With the accounts of the desk this says what each
operation answers and what it leaves behind.
-/

namespace MailProvision

namespace Desk

variable {initial : FileTree} {desk : Desk}

/-- What one operation makes of a tree without temporary files: a commit that succeeds puts the whole
file in place at once, and nothing else that is done to staged files has an effect. -/
def showStep (desk : Desk) (seen : FileTree) : DeskOperation → FileTree
  | .change change => change.apply seen
  | .commit id =>
      match desk.deposits id, (desk.commit id).2 with
      | some deposit, .committed path =>
          match desk.disk.tree.placeFor? desk.disk.workingDirectory path with
          | some place => seen.insert place deposit.entry
          | none => seen
      | _, _ => seen
  | .stage _ _ _ _ => seen
  | .drop _ => seen
  | .obstruct _ => seen

/-- What operations make of a tree without temporary files. -/
def shown (desk : Desk) (seen : FileTree) : List DeskOperation → FileTree
  | [] => seen
  | operation :: rest => (desk.step operation).1.shown (desk.showStep seen operation) rest

theorem sameVisible_discard (staged : StagedFile) (disk : Disk) :
    disk.tree.SameVisible (staged.discard disk).tree := by
  cases reachable : disk.tree.reaches disk.workingDirectory staged.directory with
  | false =>
      rw [StagedFile.discard_of_unreachable reachable]
      exact .refl _
  | true =>
      rw [StagedFile.discard_of_reachable reachable]
      exact .erase_temporary _ _ _

theorem sameVisible_drop (desk : Desk) (id : String) :
    desk.disk.tree.SameVisible (desk.drop id).1.disk.tree := by
  simp only [drop]
  cases desk.deposits id with
  | none => exact .refl _
  | some deposit => exact sameVisible_discard deposit.file desk.disk

theorem sameVisible_stage (desk : Desk) (id destination : String) (content : List UInt8)
    (mode : Nat) :
    desk.disk.tree.SameVisible (desk.stage id destination content mode).1.disk.tree := by
  cases admitted : desk.disk.admits destination with
  | false =>
      rcases stage_of_refused admitted id content mode with ⟨cause, disk, abandons, refused⟩
      rw [refused]
      intro location visible
      exact congrArg (·.get? location) abandons.tree.symm
  | true =>
      rw [stage_of_admitted admitted]
      have laid : desk.disk.tree.SameVisible (desk.lay destination content mode).disk.tree :=
        .insert_temporary _ _ _ _
      exact laid.trans (sameVisible_drop _ id)

theorem drop_of_found {id : String} {deposit : Deposit}
    (found : desk.deposits id = some deposit) :
    desk.drop id = (desk.consume id deposit (deposit.file.discard desk.disk), .dropped) := by
  rw [drop, found]

theorem commit_of_found {id : String} {deposit : Deposit}
    (found : desk.deposits id = some deposit) :
    desk.commit id =
      (desk.consume id deposit (deposit.file.commit desk.disk).state,
        .ofCommit (deposit.file.commit desk.disk).result) := by
  rw [commit, found]

/-- A commit moves exactly what was staged, or it does what a drop does. -/
theorem commit_cases (orderly : desk.IsOrderly initial) {id : String} {deposit : Deposit}
    (found : desk.deposits id = some deposit) :
    (∃ place, deposit.swept = false ∧
      desk.disk.tree.placeFor? desk.disk.workingDirectory deposit.file.destination =
        some place ∧
      (desk.commit id).2 = .committed deposit.file.destination ∧
      (desk.commit id).1.disk.tree =
        (desk.disk.tree.erase
          (deposit.file.waitingPlace desk.disk.workingDirectory)).insert place deposit.entry) ∨
    ∃ cause, (desk.commit id).2 = .refused { path := deposit.file.destination, cause } ∧
      (desk.commit id).1 = (desk.drop id).1 := by
  have kept := orderly.keeps.kept deposit (.inl (holds_of_found found))
  rcases deposit.file.commit_cases desk.disk with
    ⟨place, mode, content, reachable, placed, waits, committed⟩ | ⟨cause, refused⟩
  · have unswept : deposit.swept = false := by
      cases swept : deposit.swept with
      | false => rfl
      | true =>
          rw [kept.gone swept] at waits
          cases waits
    rw [kept.waits unswept, Option.some.injEq] at waits
    refine .inl ⟨place, unswept, placed, ?_, ?_⟩
    · rw [commit_of_found found, committed, Reply.ofCommit]
    · rw [commit_of_found found, committed, ← waits]
      rfl
  · refine .inr ⟨cause, ?_, ?_⟩
    · rw [commit_of_found found, refused, Reply.ofCommit]
    · rw [commit_of_found found, drop_of_found found, refused]

theorem sameVisible_step (orderly : desk.IsOrderly initial) {seen : FileTree}
    (same : desk.disk.tree.SameVisible seen) (operation : DeskOperation) :
    (desk.step operation).1.disk.tree.SameVisible (desk.showStep seen operation) := by
  cases operation with
  | change change => exact Change.sameVisible_apply same change
  | obstruct obstacles => exact same
  | stage id destination content mode =>
      rw [step, showStep]
      exact (sameVisible_stage desk id destination content mode).symm.trans same
  | drop id =>
      rw [step, showStep]
      exact (sameVisible_drop desk id).symm.trans same
  | commit id =>
      cases found : desk.deposits id with
      | none => simpa [step, showStep, commit, found] using same
      | some deposit =>
          rcases commit_cases orderly found with
            ⟨place, _, placed, answered, tree⟩ | ⟨cause, answered, dropped⟩
          · have erased : (desk.disk.tree.erase
                (deposit.file.waitingPlace desk.disk.workingDirectory)).SameVisible seen :=
              (FileTree.SameVisible.erase_temporary _ _ _).symm.trans same
            simp only [step, showStep, found, answered, placed, tree]
            exact erased.insert place deposit.entry
          · simp only [step, showStep, found, answered, dropped]
            exact (sameVisible_drop desk id).symm.trans same

theorem sameVisible_run (orderly : desk.IsOrderly initial) {seen : FileTree}
    (same : desk.disk.tree.SameVisible seen) (operations : List DeskOperation) :
    (desk.run operations).disk.tree.SameVisible (desk.shown seen operations) := by
  induction operations generalizing desk seen with
  | nil => exact same
  | cons operation rest ih =>
      exact ih (orderly_step orderly operation) (sameVisible_step orderly same operation)

/-- What staging comes to: a new deposit in the directory of its destination, or an error that names
the destination and leaves the tree as it was. -/
inductive Stages (desk : Desk) (id destination : String) (content : List UInt8) (mode : Nat) :
    Desk × Reply → Prop where
  | staged (after : Desk) (deposit : Deposit)
      (admitted : desk.disk.admits destination = true)
      (found : after.deposits id = some deposit)
      (destination_eq : deposit.file.destination = destination)
      (entry_eq : deposit.entry = .file (mode % StagedFile.modeLimit) content)
      (unswept : deposit.swept = false)
      (home : desk.disk.tree.resolveStaging desk.disk.workingDirectory
        (StagedFile.directoryOf destination) =
          .ok (deposit.file.home desk.disk.workingDirectory))
      (same : desk.disk.tree.SameVisible after.disk.tree) :
      Stages desk id destination content mode (after, .staged)
  | refused (cause : FileFault) (disk : Disk)
      (refused : desk.disk.admits destination = false)
      (abandons : StagedFile.Abandons destination content desk.disk disk)
      (tree_eq : disk.tree = desk.disk.tree) :
      Stages desk id destination content mode
        ({ desk with disk }, .refused { path := destination, cause })

/-- The temporary file of a deposit is taken away, unless its path no longer leads there; then it is
left behind. -/
structure TakesAway (desk : Desk) (deposit : Deposit) (after : Desk) : Prop where
  same : desk.disk.tree.SameVisible after.disk.tree
  gone : desk.isStranded deposit = false →
    after.disk.tree.get? (deposit.file.waitingPlace desk.disk.workingDirectory) = none
  left : desk.isStranded deposit = true →
    after.disk.tree.get? (deposit.file.waitingPlace desk.disk.workingDirectory) =
      some deposit.entry

/-- What committing comes to: the destination holds what was staged, or an error names the destination
and the file is taken away. -/
inductive Commits (desk : Desk) (deposit : Deposit) : Desk × Reply → Prop where
  | committed (after : Desk) (place : Location)
      (unswept : deposit.swept = false)
      (placed : desk.disk.tree.placeFor? desk.disk.workingDirectory deposit.file.destination =
        some place)
      (entry : after.disk.tree.entryAt? desk.disk.workingDirectory deposit.file.destination =
        some deposit.entry)
      (others : ∀ location, location.isTemporary = false → location ≠ place →
        after.disk.tree.get? location = desk.disk.tree.get? location)
      (gone : after.disk.tree.get?
        (deposit.file.waitingPlace desk.disk.workingDirectory) = none) :
      Commits desk deposit (after, .committed deposit.file.destination)
  | refused (after : Desk) (cause : FileFault) (takesAway : desk.TakesAway deposit after) :
      Commits desk deposit (after, .refused { path := deposit.file.destination, cause })

/-- What the operations on staged files come to. -/
structure Answers (desk : Desk) : Prop where
  stage : ∀ id destination content mode,
    desk.Stages id destination content mode (desk.stage id destination content mode)
  commit : ∀ id deposit, desk.deposits id = some deposit →
    desk.Commits deposit (desk.commit id)
  drop : ∀ id deposit, desk.deposits id = some deposit →
    desk.TakesAway deposit (desk.drop id).1
  absent : ∀ id, desk.deposits id = none →
    desk.commit id = (desk, .unknown) ∧ desk.drop id = (desk, .unknown)

theorem stages_stage (desk : Desk) (id destination : String) (content : List UInt8) (mode : Nat) :
    desk.Stages id destination content mode (desk.stage id destination content mode) := by
  have same := sameVisible_stage desk id destination content mode
  cases admitted : desk.disk.admits destination with
  | false =>
      rcases stage_of_refused admitted id content mode with ⟨cause, disk, abandons, refused⟩
      rw [refused]
      exact .refused cause disk admitted abandons abandons.tree
  | true =>
      have reached := FileTree.reaches_iff.1 (Disk.admits_iff.1 admitted).1
      rw [stage_of_admitted admitted] at same ⊢
      exact .staged _ (Disk.Keeps.prepared destination content mode desk.disk) admitted (if_pos rfl)
        rfl rfl rfl reached same

theorem takesAway_drop (orderly : desk.IsOrderly initial) {id : String} {deposit : Deposit}
    (found : desk.deposits id = some deposit) : desk.TakesAway deposit (desk.drop id).1 := by
  have frees := frees_discard orderly (holds_of_found found)
  refine { same := sameVisible_drop desk id, gone := ?_, left := ?_ }
  · rw [drop_of_found found]
    exact frees.own
  · intro stranded
    have unswept : deposit.swept = false := by
      simp only [isStranded, Bool.and_eq_true, Bool.not_eq_true'] at stranded
      exact stranded.1
    have kept := orderly.keeps.kept deposit (.inl (holds_of_found found))
    rw [drop_of_found found, consume, frees.stays stranded]
    exact kept.waits unswept

theorem commits_commit (orderly : desk.IsOrderly initial) {id : String} {deposit : Deposit}
    (found : desk.deposits id = some deposit) : desk.Commits deposit (desk.commit id) := by
  have kept := orderly.keeps.kept deposit (.inl (holds_of_found found))
  have frees := frees_commit orderly (holds_of_found found)
  rcases commit_cases orderly found with
    ⟨place, unswept, placed, answered, tree⟩ | ⟨cause, answered, dropped⟩
  · have after_eq : (desk.commit id).1.disk = (deposit.file.commit desk.disk).state := by
      rw [commit_of_found found]
      rfl
    have stillPlaced : (desk.commit id).1.disk.tree.placeFor? desk.disk.workingDirectory
        deposit.file.destination = some place := by
      rw [after_eq, FileTree.placeFor?_of_sameDirectories frees.same]
      exact placed
    have split : desk.commit id =
        ((desk.commit id).1, .committed deposit.file.destination) := by
      rw [← answered]
    rw [split]
    refine .committed _ place unswept placed ?_ ?_ ?_
    · rw [FileTree.entryAt?_of_place stillPlaced, tree]
      exact FileTree.get?_insert_self (FileTree.place_ne_root placed) _ _
    · intro location visible different
      rw [tree, FileTree.get?_insert_of_ne different]
      exact (FileTree.SameVisible.erase_temporary _ _ _ location visible).symm
    · have apart := Ne.symm (FileTree.place_ne_temporary placed
        (deposit.file.home desk.disk.workingDirectory) deposit.file.number)
      rw [tree, StagedFile.waitingPlace, FileTree.get?_insert_of_ne apart]
      exact FileTree.get?_erase_self (by simp) _
  · have takesAway := takesAway_drop orderly found
    rw [← dropped] at takesAway
    have split : desk.commit id =
        ((desk.commit id).1, .refused { path := deposit.file.destination, cause }) := by
      rw [← answered]
    rw [split]
    exact .refused _ cause takesAway

theorem answers_of_orderly (orderly : desk.IsOrderly initial) : desk.Answers where
  stage := stages_stage desk
  commit := fun _ _ found => commits_commit orderly found
  drop := fun _ _ found => takesAway_drop orderly found
  absent := fun id found => by simp [commit, drop, found]

/-- Whatever is done at a desk, and whatever others do meanwhile: all that is ever seen of staged files
is that the commits that succeed put them in place; the temporary files are those of the deposits that
were not swept away; and every operation answers as it should. -/
theorem staged_files_protocol (disk : Disk) (operations : List DeskOperation) :
    let desk := (opening disk).run operations
    desk.disk.tree.SameVisible ((opening disk).shown disk.tree operations) ∧
      desk.IsOrderly disk.tree ∧ desk.Answers := by
  have orderly := orderly_run (orderly_opening disk) operations
  refine ⟨?_, orderly, answers_of_orderly orderly⟩
  exact sameVisible_run (orderly_opening disk) (.refl disk.tree) operations

/-! ## Work by paths -/

/-- What a desk comes to by its own operations and by what others do by paths from its working
directory. -/
inductive WorksTo (desk : Desk) : Desk → Prop
  | start : WorksTo desk desk
  | operate {before : Desk} (works : WorksTo desk before) (operation : DeskOperation) :
      WorksTo desk (before.step operation).1
  /-- The changes that make up what is done by the path. -/
  | byPath {before : Desk} (works : WorksTo desk before) (operation : FileTree.PathOperation)
      (changes : List Change)
      (does : before.disk.tree.applyAll changes =
        before.disk.tree.perform before.disk.workingDirectory operation) :
      WorksTo desk (before.run (changes.map .change))

theorem workingDirectory_drop (desk : Desk) (id : String) :
    (desk.drop id).1.disk.workingDirectory = desk.disk.workingDirectory := by
  simp only [drop]
  cases desk.deposits id with
  | none => rfl
  | some deposit => exact StagedFile.workingDirectory_discard deposit.file desk.disk

theorem workingDirectory_step (desk : Desk) (operation : DeskOperation) :
    (desk.step operation).1.disk.workingDirectory = desk.disk.workingDirectory := by
  cases operation with
  | change change => rfl
  | obstruct obstacles => rfl
  | drop id => exact workingDirectory_drop desk id
  | commit id =>
      simp only [step, commit]
      cases desk.deposits id with
      | none => rfl
      | some deposit =>
          rcases deposit.file.commit_cases desk.disk with
            ⟨place, mode, content, _, _, _, committed⟩ | ⟨cause, refused⟩
          · simp only [consume, committed]
            rfl
          · simp only [consume, refused]
            exact StagedFile.workingDirectory_discard deposit.file desk.disk
  | stage id destination content mode =>
      rw [step]
      cases admitted : desk.disk.admits destination with
      | false =>
          rcases stage_of_refused admitted id content mode with ⟨cause, disk, abandons, refused⟩
          rw [refused]
          exact abandons.workingDirectory
      | true =>
          rw [stage_of_admitted admitted]
          exact workingDirectory_drop (desk.lay destination content mode) id

theorem workingDirectory_run (desk : Desk) (operations : List DeskOperation) :
    (desk.run operations).disk.workingDirectory = desk.disk.workingDirectory := by
  induction operations generalizing desk with
  | nil => rfl
  | cons operation rest ih => exact (ih _).trans (workingDirectory_step desk operation)

theorem workingDirectory_of_worksTo {after : Desk} (works : desk.WorksTo after) :
    after.disk.workingDirectory = desk.disk.workingDirectory := by
  induction works with
  | start => rfl
  | operate _ operation ih => exact (workingDirectory_step _ operation).trans ih
  | byPath _ _ changes _ ih => exact (workingDirectory_run _ (changes.map .change)).trans ih

theorem orderly_of_worksTo {after : Desk} (orderly : desk.IsOrderly initial)
    (works : desk.WorksTo after) : after.IsOrderly initial := by
  induction works with
  | start => exact orderly
  | operate _ operation ih => exact orderly_step ih operation
  | byPath _ _ changes _ ih => exact orderly_run ih (changes.map .change)

/-- Whatever is done by a path can be done while files are staged, and the staged files still
answer as they should. -/
theorem answers_among_paths (disk : Disk) (plain : disk.workingDirectory.isPlain = true)
    {desk : Desk} (works : (opening disk).WorksTo desk) :
    desk.IsOrderly disk.tree ∧ desk.Answers ∧
      ∀ operation, ∃ after, desk.WorksTo after ∧
        after.disk.tree = desk.disk.tree.perform disk.workingDirectory operation := by
  have orderly := orderly_of_worksTo (orderly_opening disk) works
  have directory_eq := workingDirectory_of_worksTo works
  refine ⟨orderly, answers_of_orderly orderly, fun operation => ?_⟩
  rcases FileTree.changesTo_perform plain desk.disk.tree operation with ⟨changes, does⟩
  refine ⟨desk.run (changes.map .change), .byPath .start operation changes ?_, ?_⟩
  · rw [directory_eq]
    exact does
  · rw [tree_run_changes, does]

/-- A file staged through a directory that is removed while the file waits elsewhere. -/
def detour : Desk :=
  let disk : Disk :=
    { tree := ⟨[([.text "work"], .directory), ([.text "work", .text "a"], .directory)]⟩
      workingDirectory := [.text "work"] }
  (opening disk).run
    [.stage "x" "a/../f" "new".toUTF8.toList 0o644,
      .change (.removeDirectory [.text "work", .text "a"])]

theorem refused_commit_leaves_temporary :
    (detour.commit "x").2 = .refused { path := "a/../f", cause := .notFound } ∧
      (detour.commit "x").1.deposits "x" = none ∧
      detour.disk.tree.isDirectoryAt [.text "work"] = true ∧
      (detour.commit "x").1.disk.tree.get? [.text "work", .temporary 0] =
        some (.file 0o644 "new".toUTF8.toList) := by
  have unlisted : (detour.commit "x").1.deposits "x" = none := rfl
  exact ⟨by decide +kernel, unlisted, by decide +kernel, by decide +kernel⟩

end Desk

end MailProvision
