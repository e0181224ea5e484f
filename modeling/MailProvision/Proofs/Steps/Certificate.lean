import MailProvision.Proofs.Certificate.Endings
import MailProvision.Proofs.Files.Raising
import MailProvision.Proofs.Steps.Order

/-!
# What the certificate step does to the disk

The step creates the parents of its two files, one after the other, and then mints. However it
fails, nothing that stood on the disk is lost, and all that is new are directories above the two
files; only where the certificate cannot be moved to its place is the key left behind as well
(`Steps.Spares`). A step that succeeds leaves both parents standing. It can be done again, and then
changes nothing but what the two files hold (`Runner.Settles`).
-/

namespace MailProvision

namespace Steps

open MailProvision.Action

/-- The directory in which a path ends stands, unless the path names none. -/
def ParentStands (path : String) (disk : Disk) : Prop :=
  ∀ parent, Path.parent? path = some parent → parent ≠ "" →
    disk.tree.isDirectory disk.workingDirectory parent = true

/-- All that is done is that directories above a path are added. -/
structure Prepares (path : String) (workshop : Workshop)
    (outcome : Outcome Workshop (Halt MintError) Unit) : Prop where
  raises : FileTree.Raises workshop.disk.workingDirectory (Path.Above · path) workshop.disk.tree
    outcome.state.disk.tree
  workingDirectory : outcome.state.disk.workingDirectory = workshop.disk.workingDirectory
  obstacles : outcome.state.disk.obstacles = workshop.disk.obstacles
  drawn : outcome.state.disk.drawn = workshop.disk.drawn
  keys : outcome.state.keys = workshop.keys
  silent : outcome.trace = []
  stands : outcome.result = .ok () → ParentStands path outcome.state.disk

theorem prepares_ensureParent (path : String) (workshop : Workshop) :
    Prepares path workshop (ensureParent path workshop) := by
  rcases ensureParent_cases path with ⟨none, unnamed⟩ | ⟨parent, isParent, nonempty, named⟩
  · rw [unnamed]
    refine { raises := .refl _ _ _, workingDirectory := rfl, obstacles := rfl, drawn := rfl,
             keys := rfl, silent := rfl, stands := ?_ }
    intro _ parent isParent nonempty
    exact absurd (none parent isParent) nonempty
  · rw [named, makeDirectories_run]
    refine { raises := ?_, workingDirectory := rfl, obstacles := rfl, drawn := rfl, keys := rfl,
             silent := rfl, stands := ?_ }
    · exact (FileTree.raises_makeDirectories _ _ parent).mono fun _ =>
        Path.above_of_mem_ancestors isParent
    · intro succeeded other isOther _
      cases isParent.symm.trans isOther
      exact FileTree.isDirectory_of_makeDirectories nonempty
        ((mapError_eq_ok_iff _).1 ((mapError_eq_ok_iff _).1 succeeded))

/-- Where the parent stands already nothing is changed. -/
theorem ensureParent_of_stands {path : String} {workshop : Workshop}
    (stands : ParentStands path workshop.disk) :
    (ensureParent path workshop).result = .ok () ∧
      (ensureParent path workshop).state.disk.tree = workshop.disk.tree := by
  rcases ensureParent_cases path with ⟨_, unnamed⟩ | ⟨parent, isParent, nonempty, named⟩
  · rw [unnamed]
    exact ⟨rfl, rfl⟩
  · have made := FileTree.makeDirectories_of_isDirectory (stands parent isParent nonempty)
    rw [named, makeDirectories_run, made]
    exact ⟨rfl, rfl⟩

theorem ParentStands.of_isDirectory {path : String} {disk other : Disk}
    (stands : ParentStands path disk)
    (same : ∀ parent, disk.tree.isDirectory disk.workingDirectory parent = true →
      other.tree.isDirectory other.workingDirectory parent = true) :
    ParentStands path other :=
  fun parent isParent nonempty => same parent (stands parent isParent nonempty)

variable (settings : CertificateSettings) (workshop : Workshop)

/-- The workshop once the step has seen to both parents. -/
def prepared : Workshop :=
  (ensureParent settings.keyPath (ensureParent settings.certificatePath workshop).state).state

/-- The step finds or creates both parents. -/
structure Ready : Prop where
  certificate : (ensureParent settings.certificatePath workshop).result = .ok ()
  key : (ensureParent settings.keyPath
    (ensureParent settings.certificatePath workshop).state).result = .ok ()

/-- The call for a pair that the step makes in the end. -/
def call : MintCall where
  bits := settings.keyBits.toNat
  subject := settings.subject
  certificatePath := settings.certificatePath
  keyPath := settings.keyPath
  workshop := prepared settings workshop

/-- A path is above one of the two files. -/
def AboveOutputs (path : String) : Prop :=
  Path.Above path settings.certificatePath ∨ Path.Above path settings.keyPath

/-- The step ends because the certificate cannot be moved to its place; the key has been moved to
this location. -/
structure LeavesKey (after : Disk) (halt : Halt MintError) (location : Location) : Prop where
  ready : Ready settings workshop
  refused : ∃ material fault, (call settings workshop).pair = .ok material ∧
    ((call settings workshop).writing material).firstFailure? = some (.moveCertificate, fault) ∧
    halt = .failure (.persistence fault.path fault.cause) ∧
    after.tree.get? location = some material.keyEntry
  placed : after.placeFor? settings.keyPath = some location

/-- What a step that does not succeed leaves on the disk. -/
structure Spares (after : Disk) (halt : Halt MintError) : Prop where
  old : ∀ location entry, workshop.disk.tree.get? location = some entry →
    after.tree.get? location = some entry ∨ LeavesKey settings workshop after halt location
  new : ∀ location entry, workshop.disk.tree.get? location = none →
    after.tree.get? location = some entry →
      (entry = .directory ∧ ∃ above, AboveOutputs settings above ∧
        after.tree.resolve after.workingDirectory above = .ok location) ∨
      LeavesKey settings workshop after halt location

variable {settings workshop}

theorem spares_of_raises {after : Disk} {halt : Halt MintError}
    (raises : FileTree.Raises workshop.disk.workingDirectory (AboveOutputs settings)
      workshop.disk.tree after.tree)
    (workingDirectory : after.workingDirectory = workshop.disk.workingDirectory) :
    Spares settings workshop after halt where
  old location entry found := .inl (raises.kept location entry found)
  new location entry absent found := by
    rw [workingDirectory]
    exact .inl (raises.added location entry absent found)

section Parents

variable (settings workshop)

theorem raises_certificateParent :
    FileTree.Raises workshop.disk.workingDirectory (AboveOutputs settings) workshop.disk.tree
      (ensureParent settings.certificatePath workshop).state.disk.tree :=
  (prepares_ensureParent settings.certificatePath workshop).raises.mono fun _ => .inl

theorem workingDirectory_prepared :
    (prepared settings workshop).disk.workingDirectory = workshop.disk.workingDirectory :=
  (prepares_ensureParent settings.keyPath _).workingDirectory.trans
    (prepares_ensureParent settings.certificatePath workshop).workingDirectory

theorem obstacles_prepared :
    (prepared settings workshop).disk.obstacles = workshop.disk.obstacles :=
  (prepares_ensureParent settings.keyPath _).obstacles.trans
    (prepares_ensureParent settings.certificatePath workshop).obstacles

theorem workingDirectory_call :
    (call settings workshop).after.workingDirectory = workshop.disk.workingDirectory :=
  (call settings workshop).workingDirectory_after.trans
    (workingDirectory_prepared settings workshop)

theorem raises_prepared :
    FileTree.Raises workshop.disk.workingDirectory (AboveOutputs settings) workshop.disk.tree
      (prepared settings workshop).disk.tree := by
  have first := prepares_ensureParent settings.certificatePath workshop
  have second := (prepares_ensureParent settings.keyPath
    (ensureParent settings.certificatePath workshop).state).raises
  rw [first.workingDirectory] at second
  exact (raises_certificateParent settings workshop).trans (second.mono fun _ => .inr)

theorem seconds_prepared : (prepared settings workshop).seconds = workshop.seconds := by
  unfold Workshop.seconds prepared
  rw [keeps_clock_ensureParent, keeps_clock_ensureParent]

end Parents

theorem mintCertificate_of_unprepared {halt : Halt MintError}
    (failed : (ensureParent settings.certificatePath workshop).result = .error halt) :
    mintCertificate settings workshop =
      { result := .error halt
        state := (ensureParent settings.certificatePath workshop).state
        trace := [] } := by
  have silent := (prepares_ensureParent settings.certificatePath workshop).silent
  unfold mintCertificate
  cases ran : ensureParent settings.certificatePath workshop with
  | mk result after trace =>
      rw [ran] at failed silent
      cases failed
      cases silent
      rw [bind_of_error ran]

theorem mintCertificate_of_keyUnprepared {halt : Halt MintError}
    (made : (ensureParent settings.certificatePath workshop).result = .ok ())
    (failed : (ensureParent settings.keyPath
      (ensureParent settings.certificatePath workshop).state).result = .error halt) :
    (mintCertificate settings workshop).result = .error halt ∧
      (mintCertificate settings workshop).state = prepared settings workshop := by
  unfold mintCertificate prepared
  rw [bind_result made, bind_state made]
  cases ran : ensureParent settings.keyPath
      (ensureParent settings.certificatePath workshop).state with
  | mk result after trace =>
      rw [ran] at failed
      cases failed
      rw [bind_of_error ran]
      exact ⟨rfl, rfl⟩

/-- Once both parents stand the step comes to what its call for a pair comes to. -/
theorem mintCertificate_of_ready (ready : Ready settings workshop) :
    (mintCertificate settings workshop).result = (call settings workshop).outcome.result ∧
      (mintCertificate settings workshop).state = (call settings workshop).outcome.state := by
  unfold mintCertificate
  rw [bind_result ready.certificate, bind_state ready.certificate, bind_result ready.key,
    bind_state ready.key]
  exact bind_report _ (mint settings.keyBits.toNat settings.subject settings.certificatePath
    settings.keyPath) (prepared settings workshop)

/-! ### A step that fails -/

theorem spares_of_keyLeft {halt : Halt MintError} (ready : Ready settings workshop)
    (ends : (call settings workshop).Ends .keyLeft)
    (failed : (call settings workshop).outcome.result = .error halt) :
    Spares settings workshop (call settings workshop).after halt := by
  have raises := raises_prepared settings workshop
  have same := (call settings workshop).sameDirectories_after
  cases ends with
  | @keyLeft material fault keyPlace made late _ answer placed _ tree =>
      have leaves : LeavesKey settings workshop (call settings workshop).after halt keyPlace :=
        { ready
          refused := ⟨material, fault, made, late, Except.error.inj (failed.symm.trans answer), by
            rw [tree, if_pos rfl]⟩
          placed := (MintCall.placeFor?_after _ _).trans placed }
      -- Away from the key the tree is the one in which the pair was made.
      constructor
      · intro location entry found
        by_cases here : location = keyPlace
        · subst location
          exact .inr leaves
        · left
          rw [tree, if_neg here]
          exact raises.kept location entry found
      · intro location entry absent found
        by_cases here : location = keyPlace
        · subst location
          exact .inr leaves
        · left
          rw [tree, if_neg here] at found
          rcases raises.added location entry absent found with ⟨rfl, above, isAbove, led⟩
          refine ⟨rfl, above, isAbove, ?_⟩
          rw [workingDirectory_call]
          exact FileTree.resolve_of_sameDirectories same led (FileTree.isDirectoryAt_iff.2 found)

theorem spares_of_ready {halt : Halt MintError} (ready : Ready settings workshop)
    (failed : (call settings workshop).outcome.result = .error halt) :
    Spares settings workshop (call settings workshop).after halt := by
  have unchanged (tree : (call settings workshop).after.tree =
      (call settings workshop).before.tree) :
      Spares settings workshop (call settings workshop).after halt := by
    apply spares_of_raises _ (workingDirectory_call settings workshop)
    rw [tree]
    exact raises_prepared settings workshop
  rcases (call settings workshop).ends_cases with refused | panicked | unwritten | keyLeft |
    ⟨material, keyPlace, certificatePlace, made, _, reached⟩
  · cases refused with
    | refused _ _ _ tree => exact unchanged tree
  · cases panicked with
    | panicked _ _ _ _ tree => exact unchanged tree
  · cases unwritten with
    | unwritten _ _ _ _ _ tree => exact unchanged tree
  · exact spares_of_keyLeft ready keyLeft failed
  · cases failed.symm.trans (MintCall.result_of_both made reached)

theorem spares_mintCertificate {halt : Halt MintError}
    (failed : (mintCertificate settings workshop).result = .error halt) :
    Spares settings workshop (mintCertificate settings workshop).state.disk halt := by
  cases certificate : (ensureParent settings.certificatePath workshop).result with
  | error fault =>
      rw [mintCertificate_of_unprepared certificate]
      exact spares_of_raises (raises_certificateParent settings workshop)
        (prepares_ensureParent settings.certificatePath workshop).workingDirectory
  | ok made =>
      cases key : (ensureParent settings.keyPath
          (ensureParent settings.certificatePath workshop).state).result with
      | error fault =>
          rw [(mintCertificate_of_keyUnprepared certificate key).2]
          exact spares_of_raises (raises_prepared settings workshop)
            (workingDirectory_prepared settings workshop)
      | ok made =>
          have ready : Ready settings workshop := ⟨certificate, key⟩
          rcases mintCertificate_of_ready ready with ⟨result, state⟩
          rw [state]
          exact spares_of_ready ready (result.symm.trans failed)

/-! ### A step that succeeds -/

/-- The step succeeds if and only if both parents are seen to, a pair can be made and both files
have a place. -/
theorem mintCertificate_ok_iff :
    (∃ minted, (mintCertificate settings workshop).result = .ok minted) ↔
      Ready settings workshop ∧
      (∃ notBefore notAfter name, KeyMaterial.Planned settings.keyBits.toNat settings.subject
        workshop.seconds notBefore notAfter name) ∧
      ∃ keyPlace certificatePlace,
        (prepared settings workshop).progress settings.certificatePath settings.keyPath =
          .both keyPlace certificatePlace := by
  constructor
  · rintro ⟨minted, succeeded⟩
    have ready : Ready settings workshop := by
      unfold mintCertificate at succeeded
      rcases bind_ok_iff.1 succeeded with ⟨_, certificate, rest⟩
      rcases bind_ok_iff.1 rest with ⟨_, key, _⟩
      exact ⟨certificate, key⟩
    rw [(mintCertificate_of_ready ready).1] at succeeded
    rcases Workshop.mint_ok_iff.1 succeeded with ⟨_, _, _, _, _, planned, reached, _⟩
    have planned : KeyMaterial.Planned _ _ (prepared settings workshop).seconds _ _ _ := planned
    rw [seconds_prepared] at planned
    exact ⟨ready, ⟨_, _, _, planned⟩, _, _, reached⟩
  · rintro ⟨ready, ⟨_, _, _, planned⟩, _, _, reached⟩
    rw [← seconds_prepared settings] at planned
    rw [(mintCertificate_of_ready ready).1]
    exact ⟨_, Workshop.mint_ok_iff.2 ⟨_, _, _, _, _, planned, reached, rfl⟩⟩

theorem exists_place_of_planned (ready : Ready settings workshop) {notBefore notAfter : Int}
    {name : DistinguishedName}
    (planned : KeyMaterial.Planned settings.keyBits.toNat settings.subject workshop.seconds
      notBefore notAfter name) :
    ∃ material : KeyMaterial, (mintCertificate settings workshop).state.disk.tree =
      material.place (prepared settings workshop).disk.tree
        ((prepared settings workshop).progress settings.certificatePath settings.keyPath) := by
  rw [← seconds_prepared settings] at planned
  rw [(mintCertificate_of_ready ready).2]
  exact ⟨_, (Workshop.mints_of_planned planned _ _).tree⟩

theorem obstacles_mintCertificate (ready : Ready settings workshop) {notBefore notAfter : Int}
    {name : DistinguishedName}
    (planned : KeyMaterial.Planned settings.keyBits.toNat settings.subject workshop.seconds
      notBefore notAfter name) :
    (mintCertificate settings workshop).state.disk.obstacles = workshop.disk.obstacles := by
  rw [← seconds_prepared settings] at planned
  rw [(mintCertificate_of_ready ready).2]
  exact (Workshop.mints_of_planned planned _ _).obstacles.trans (obstacles_prepared _ _)

/-- Both parents stand when the step mints. -/
theorem parentStands_prepared (ready : Ready settings workshop) :
    ParentStands settings.certificatePath (prepared settings workshop).disk ∧
      ParentStands settings.keyPath (prepared settings workshop).disk := by
  have first := prepares_ensureParent settings.certificatePath workshop
  have second := prepares_ensureParent settings.keyPath
    (ensureParent settings.certificatePath workshop).state
  refine ⟨(first.stands ready.certificate).of_isDirectory ?_, second.stands ready.key⟩
  intro parent stands
  unfold prepared
  rw [second.workingDirectory]
  exact second.raises.kept.isDirectory stands

theorem parentStands_of_ok {minted : MintedCertificate}
    (succeeded : (mintCertificate settings workshop).result = .ok minted) :
    ParentStands settings.certificatePath (mintCertificate settings workshop).state.disk ∧
      ParentStands settings.keyPath (mintCertificate settings workshop).state.disk := by
  have ready := (mintCertificate_ok_iff.1 ⟨minted, succeeded⟩).1
  have stay (path : String) (stands : ParentStands path (prepared settings workshop).disk) :
      ParentStands path (call settings workshop).after := by
    apply stands.of_isDirectory
    intro parent stands
    rw [MintCall.workingDirectory_after]
    exact FileTree.isDirectory_of_sameDirectories (call settings workshop).sameDirectories_after
      stands
  rw [(mintCertificate_of_ready ready).2]
  rcases parentStands_prepared ready with ⟨certificate, key⟩
  exact ⟨stay _ certificate, stay _ key⟩

variable (settings) in
/-- At this moment both ends of the validity can be told and written. -/
structure Timely (seconds : Int) : Prop where
  starts : CalendarTime.isRepresentable (seconds + settings.subject.validityStart.toInt) = true
  ends : CalendarTime.isRepresentable (seconds + settings.subject.validityEnd.toInt) = true
  writable : CertificateTime.Writable (seconds + settings.subject.validityStart.toInt)
    (seconds + settings.subject.validityEnd.toInt)

/-- Where both parents stand, seeing to them changes nothing. -/
theorem ready_of_stands
    (certificate : ParentStands settings.certificatePath workshop.disk)
    (key : ParentStands settings.keyPath workshop.disk) :
    Ready settings workshop ∧ (prepared settings workshop).disk.tree = workshop.disk.tree := by
  rcases ensureParent_of_stands certificate with ⟨made, tree⟩
  have directory := (prepares_ensureParent settings.certificatePath workshop).workingDirectory
  have stays : ParentStands settings.keyPath
      (ensureParent settings.certificatePath workshop).state.disk := by
    apply key.of_isDirectory
    intro parent stands
    rw [directory, tree]
    exact stands
  rcases ensureParent_of_stands stays with ⟨keyMade, keyTree⟩
  exact ⟨⟨made, keyMade⟩, keyTree.trans tree⟩

theorem timely_of_planned {bits : Nat} {seconds notBefore notAfter : Int}
    {name : DistinguishedName}
    (planned : KeyMaterial.Planned bits settings.subject seconds notBefore notAfter name) :
    Timely settings seconds := by
  rcases offsetFrom_ok_iff.1 planned.starts with ⟨rfl, starts⟩
  rcases offsetFrom_ok_iff.1 planned.ends with ⟨rfl, ends⟩
  exact ⟨starts, ends, planned.writable⟩

/-- A pair that was made at one moment can be made at any moment that suits. -/
theorem planned_of_timely {bits : Nat} {seconds later notBefore notAfter : Int}
    {name : DistinguishedName}
    (planned : KeyMaterial.Planned bits settings.subject seconds notBefore notAfter name)
    (timely : Timely settings later) :
    KeyMaterial.Planned bits settings.subject later
      (later + settings.subject.validityStart.toInt)
      (later + settings.subject.validityEnd.toInt) name :=
  { planned with
    starts := offsetFrom_ok_iff.2 ⟨rfl, timely.starts⟩
    ends := offsetFrom_ok_iff.2 ⟨rfl, timely.ends⟩
    writable := timely.writable }

/-- On the tree that a step left, the writing of a pair gets as far as it got before. -/
theorem progress_again {material : KeyMaterial} {again : Workshop}
    (left : (prepared settings again).disk.tree =
      material.place (prepared settings workshop).disk.tree
        ((prepared settings workshop).progress settings.certificatePath settings.keyPath))
    (directory : again.disk.workingDirectory = workshop.disk.workingDirectory)
    (obstacles : again.disk.obstacles = workshop.disk.obstacles) :
    (prepared settings again).progress settings.certificatePath settings.keyPath =
      (prepared settings workshop).progress settings.certificatePath settings.keyPath := by
  have same := material.sameDirectories_place (prepared settings workshop).disk
    settings.certificatePath settings.keyPath
  unfold Workshop.progress at left ⊢
  rw [← left] at same
  apply Disk.progressTo_of_sameDirectories same
  · rw [workingDirectory_prepared, workingDirectory_prepared, directory]
  · rw [obstacles_prepared, obstacles_prepared, obstacles]

/-- A step that succeeded succeeds again on the disk that it left, at every moment that suits and
at no other, and gives the tree the outline that it has. -/
theorem mintCertificate_again {minted : MintedCertificate} {again : Workshop}
    (succeeded : (mintCertificate settings workshop).result = .ok minted)
    (tree : again.disk.tree = (mintCertificate settings workshop).state.disk.tree)
    (directory : again.disk.workingDirectory =
      (mintCertificate settings workshop).state.disk.workingDirectory)
    (obstacles : again.disk.obstacles =
      (mintCertificate settings workshop).state.disk.obstacles) :
    ((∃ minted, (mintCertificate settings again).result = .ok minted) ↔
        Timely settings again.seconds) ∧
      (Timely settings again.seconds →
        again.disk.tree.SameOutline (mintCertificate settings again).state.disk.tree) := by
  rcases mintCertificate_ok_iff.1 ⟨minted, succeeded⟩ with
    ⟨ready, ⟨_, _, name, planned⟩, keyPlace, certificatePlace, reached⟩
  rcases exists_place_of_planned ready planned with ⟨material, left⟩
  have stands (path : String)
      (stood : ParentStands path (mintCertificate settings workshop).state.disk) :
      ParentStands path again.disk := by
    apply stood.of_isDirectory
    intro parent isDirectory
    rw [tree, directory]
    exact isDirectory
  rcases parentStands_of_ok succeeded with ⟨certificate, key⟩
  rcases ready_of_stands (stands _ certificate) (stands _ key) with ⟨readyAgain, same⟩
  have progress :
      (prepared settings again).progress settings.certificatePath settings.keyPath =
        (prepared settings workshop).progress settings.certificatePath settings.keyPath := by
    apply progress_again ((same.trans tree).trans left)
    · rw [directory, (mintCertificate_of_ready ready).2]
      exact workingDirectory_call settings workshop
    · rw [obstacles, obstacles_mintCertificate ready planned]
  refine ⟨⟨?_, ?_⟩, ?_⟩
  · intro succeeds
    rcases mintCertificate_ok_iff.1 succeeds with ⟨_, ⟨_, _, _, plannedAgain⟩, _⟩
    exact timely_of_planned plannedAgain
  · intro timely
    exact mintCertificate_ok_iff.2 ⟨readyAgain, ⟨_, _, _, planned_of_timely planned timely⟩,
      keyPlace, certificatePlace, progress.trans reached⟩
  · intro timely
    rcases exists_place_of_planned readyAgain (planned_of_timely planned timely) with
      ⟨other, final⟩
    rw [final, progress, same, tree, left]
    exact material.sameOutline_place_again other _ _

theorem timely_of_ok {minted : MintedCertificate}
    (succeeded : (mintCertificate settings workshop).result = .ok minted) :
    Timely settings (mintCertificate settings workshop).state.seconds := by
  rcases mintCertificate_ok_iff.1 ⟨minted, succeeded⟩ with ⟨_, ⟨_, _, _, planned⟩, _⟩
  have seconds : (mintCertificate settings workshop).state.seconds = workshop.seconds := by
    unfold Workshop.seconds
    rw [keeps_clock_mintCertificate]
  rw [seconds]
  exact timely_of_planned planned

end Steps

namespace Runner

variable {Cluster : Type} (runner : Runner Cluster)

/-- The step ends with the parent of the certificate. Nothing is reported, no key is drawn and no
temporary file is made; of the settings nothing but the path of the certificate has a say. -/
structure StopsAtOnce (world : World Cluster) (cause : MintError) : Prop where
  answer : (runner.outcome .certificate world).result = .error (.failure (.mint cause))
  silent : (runner.outcome .certificate world).trace = []
  raises : FileTree.Raises world.workshop.disk.workingDirectory
    (Path.Above · runner.config.certificate.certificatePath) world.workshop.disk.tree
    (runner.outcome .certificate world).state.workshop.disk.tree
  keys : (runner.outcome .certificate world).state.workshop.keys = world.workshop.keys
  drawn : (runner.outcome .certificate world).state.workshop.disk.drawn = world.workshop.disk.drawn
  blind : ∀ other : Runner Cluster,
    other.config.certificate.certificatePath = runner.config.certificate.certificatePath →
      other.outcome .certificate world = runner.outcome .certificate world

/-- Both parents stand, and doing the step again succeeds at this moment and at every other one that
suits, and changes no more than what the two files hold. -/
structure Settles (world : World Cluster) : Prop where
  certificateParent :
    Steps.ParentStands runner.config.certificate.certificatePath world.workshop.disk
  keyParent : Steps.ParentStands runner.config.certificate.keyPath world.workshop.disk
  timely : Steps.Timely runner.config.certificate world.workshop.seconds
  again : ∀ again : World Cluster, again.workshop.disk.tree = world.workshop.disk.tree →
    again.workshop.disk.workingDirectory = world.workshop.disk.workingDirectory →
    again.workshop.disk.obstacles = world.workshop.disk.obstacles →
    (runner.Succeeds .certificate again ↔
        Steps.Timely runner.config.certificate again.workshop.seconds) ∧
      (Steps.Timely runner.config.certificate again.workshop.seconds →
        again.workshop.disk.tree.SameOutline
          (runner.outcome .certificate again).state.workshop.disk.tree)

variable {runner}

theorem stopsAtOnce_of_unprepared {world : World Cluster} {cause : MintError}
    (failed : (Steps.ensureParent runner.config.certificate.certificatePath world.workshop).result =
      .error (.failure cause)) :
    runner.StopsAtOnce world cause := by
  have prepares := Steps.prepares_ensureParent runner.config.certificate.certificatePath
    world.workshop
  have ran := Steps.mintCertificate_of_unprepared failed
  constructor
  · rw [outcome_certificate, ran]
    rfl
  · rw [outcome_certificate, ran]
  · rw [outcome_certificate, ran]
    exact prepares.raises
  · rw [outcome_certificate, ran]
    exact prepares.keys
  · rw [outcome_certificate, ran]
    exact prepares.drawn
  · intro other same
    rw [← same] at failed
    rw [outcome_certificate, outcome_certificate, ran, Steps.mintCertificate_of_unprepared failed,
      same]

theorem succeeds_certificate_iff_mintCertificate {world : World Cluster} :
    runner.Succeeds .certificate world ↔
      ∃ minted, (Steps.mintCertificate runner.config.certificate world.workshop).result =
        .ok minted := by
  unfold Succeeds
  simp only [certificate_ok_iff]
  constructor
  · rintro ⟨_, minted, ran, _⟩
    exact ⟨minted, ran⟩
  · rintro ⟨minted, ran⟩
    exact ⟨_, minted, ran, rfl⟩

theorem settles_of_ok {world : World Cluster} {outcome : StepOutcome}
    (succeeded : (runner.outcome .certificate world).result = .ok outcome) :
    runner.Settles (runner.outcome .certificate world).state := by
  rcases certificate_ok_iff.1 succeeded with ⟨minted, ran, _⟩
  rcases Steps.parentStands_of_ok ran with ⟨certificate, key⟩
  rw [outcome_certificate]
  refine ⟨certificate, key, Steps.timely_of_ok ran, ?_⟩
  intro again tree directory obstacles
  rcases Steps.mintCertificate_again ran tree directory obstacles with ⟨iff, same⟩
  rw [succeeds_certificate_iff_mintCertificate, outcome_certificate]
  exact ⟨iff, same⟩

/-- A certificate step that does not succeed loses nothing that stood on the disk, and adds no more
than directories above its two files and, if the certificate cannot be moved to its place, the key.
If it fails with the parent of the certificate it has done nothing else. If it succeeds, both
parents stand and it can be done again, as long as the dates can be told and written, without a
change to the outline of the tree. -/
theorem certificate_step_effects (runner : Runner Cluster) (world : World Cluster) :
    (∀ halt, (runner.outcome .certificate world).result = .error halt →
      ∃ cause : Halt MintError, halt = cause.map .mint ∧
        Steps.Spares runner.config.certificate world.workshop
          (runner.outcome .certificate world).state.workshop.disk cause) ∧
    (∀ cause, (Steps.ensureParent runner.config.certificate.certificatePath world.workshop).result =
        .error (.failure cause) →
      runner.StopsAtOnce world cause) ∧
    (∀ outcome, (runner.outcome .certificate world).result = .ok outcome →
      runner.Settles (runner.outcome .certificate world).state) := by
  refine ⟨?_, fun _ => stopsAtOnce_of_unprepared, fun _ => settles_of_ok⟩
  intro halt failed
  rcases certificate_error_iff.1 failed with ⟨cause, ran, rfl⟩
  rw [outcome_certificate]
  exact ⟨cause, rfl, Steps.spares_mintCertificate ran⟩

/-- A world in which a file stands where the directory for the certificate is to go. -/
def blockedWorld : World (List String) where
  cluster := []
  workshop :=
    { disk :=
        { tree := ⟨[([.text "work"], .directory), ([.text "work", .text "keys"], .file 0o644 [])]⟩
          workingDirectory := [.text "work"] }
      clock := 0
      keys := { seed := [1] } }

theorem certificate_step_effects_newDirectory :
    (withNewDirectory.Succeeds .certificate (seededWorld [1]) ∧
      withNewDirectory.Settles (withNewDirectory.outcome .certificate (seededWorld [1])).state) ∧
    ∃ cause, withNewDirectory.StopsAtOnce blockedWorld cause ∧
      Steps.Spares withNewDirectory.config.certificate blockedWorld.workshop
        (withNewDirectory.outcome .certificate blockedWorld).state.workshop.disk
        (.failure cause) := by
  rcases certificate_step_effects withNewDirectory (seededWorld [1]) with ⟨_, _, settles⟩
  rcases certificate_step_effects withNewDirectory blockedWorld with ⟨spares, stops, _⟩
  have blocked : (Steps.ensureParent withNewDirectory.config.certificate.certificatePath
      blockedWorld.workshop).result = .error (.failure (.persistence "keys" .alreadyExists)) := by
    decide +kernel
  rcases succeeds_certificate_seededWorld with ⟨outcome, succeeded⟩
  refine ⟨⟨⟨outcome, succeeded⟩, settles outcome succeeded⟩, _, stops _ blocked, ?_⟩
  rcases spares _ (stops _ blocked).answer with ⟨cause, same, left⟩
  cases cause with
  | failure error =>
      cases same
      exact left
  | panic => cases same

/-- A runner whose certificates, if they are made at the start of 1970, hold to the last second
that can be told. -/
def withLastDate : Runner (List String) where
  config :=
    { database := localDatabase
      certificate :=
        { withNewDirectory.config.certificate with subject := { validityEnd := 253402300799 } } }
  connector := .recording

theorem certificate_step_fails_one_second_later :
    let left := (withLastDate.outcome .certificate (seededWorld [1])).state
    withLastDate.Succeeds .certificate (seededWorld [1]) ∧
      ¬withLastDate.Succeeds .certificate
        { left with workshop := { left.workshop with clock := 1000000000 } } := by
  constructor
  · obtain ⟨name, named⟩ :
        ∃ name, DistinguishedName.ofSubject { validityEnd := 253402300799 } = .ok name := ⟨_, rfl⟩
    have planned : KeyMaterial.Planned 2048 { validityEnd := 253402300799 } 0 0 253402300799 name :=
      { checked := rfl
        sized := rfl
        starts := offsetFrom_ok_iff.2 ⟨by decide +kernel, by decide +kernel⟩
        ends := offsetFrom_ok_iff.2 ⟨by decide +kernel, by decide +kernel⟩
        signs := rfl
        named
        writable := by constructor <;> decide +kernel }
    exact succeeds_certificate_iff_mintCertificate.2 (exists_minted_seededWorld planned)
  · intro succeeds
    rcases Steps.mintCertificate_ok_iff.1 (succeeds_certificate_iff_mintCertificate.1 succeeds) with
      ⟨_, ⟨_, _, _, planned⟩, _⟩
    have ends : CalendarTime.isRepresentable (1 + 253402300799) = true :=
      (Steps.timely_of_planned planned).ends
    exact absurd ends (by decide +kernel)

end Runner

end MailProvision
