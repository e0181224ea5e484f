import MailProvision.Certificate.Minting
import MailProvision.Proofs.Files.Glimpses

/-!
# Writing a key and its certificate

How far the writing of a pair gets can be told from the disk before it: from the two temporary
files, which it must let be written, and from the two places, which must be there. The temporary
files leave no trace. So writing comes to putting nothing, the key alone, or both files into the
tree that was there before.

On the way there the disk passes only through trees as the delivery of the two files allows them.
-/

namespace MailProvision

/-- How far the writing of a key and a certificate gets. -/
inductive Progress where
  /-- Nothing is put in place; the error names a path. -/
  | nothing (path : String)
  /-- The key is put in place and then the certificate is refused. -/
  | keyOnly (keyPlace : Location)
  | both (keyPlace certificatePlace : Location)
deriving DecidableEq

namespace Progress

/-- What writing answers when it gets this far. -/
inductive Answers (certificatePath keyPath : String) :
    Progress → Except WriteFault (String × String) → Prop
  | nothing (path : String) (cause : FileFault) :
      Answers certificatePath keyPath (.nothing path) (.error { path, cause })
  | keyOnly (keyPlace : Location) (cause : FileFault) :
      Answers certificatePath keyPath (.keyOnly keyPlace)
        (.error { path := certificatePath, cause })
  | both (keyPlace certificatePlace : Location) :
      Answers certificatePath keyPath (.both keyPlace certificatePlace)
        (.ok (certificatePath, keyPath))

end Progress

namespace Disk

/-- How far writing gets, seen from the disk before it. -/
def progressTo (disk : Disk) (certificatePath keyPath : String) : Progress :=
  if disk.admits keyPath = false then .nothing keyPath
  else if disk.admits certificatePath = false then .nothing certificatePath
  else
    match disk.tree.placeFor? disk.workingDirectory keyPath,
      disk.tree.placeFor? disk.workingDirectory certificatePath with
    | none, _ => .nothing keyPath
    | some keyPlace, none => .keyOnly keyPlace
    | some keyPlace, some certificatePlace => .both keyPlace certificatePlace

theorem places_of_progressTo_keyOnly {disk : Disk} {keyPlace : Location}
    {certificatePath keyPath : String}
    (reached : disk.progressTo certificatePath keyPath = .keyOnly keyPlace) :
    disk.tree.placeFor? disk.workingDirectory keyPath = some keyPlace ∧
      disk.tree.placeFor? disk.workingDirectory certificatePath = none := by
  simp only [progressTo] at reached
  split at reached
  · cases reached
  · split at reached
    · cases reached
    · split at reached <;> cases reached
      rename_i unplaced placed
      exact ⟨placed, unplaced⟩

theorem places_of_progressTo_both {disk : Disk} {keyPlace certificatePlace : Location}
    {certificatePath keyPath : String}
    (reached : disk.progressTo certificatePath keyPath = .both keyPlace certificatePlace) :
    disk.tree.placeFor? disk.workingDirectory keyPath = some keyPlace ∧
      disk.tree.placeFor? disk.workingDirectory certificatePath = some certificatePlace := by
  simp only [progressTo] at reached
  split at reached
  · cases reached
  · split at reached
    · cases reached
    · split at reached <;> cases reached
      rename_i keyPlaced certificatePlaced
      exact ⟨keyPlaced, certificatePlaced⟩

section Same

variable {disk other : Disk} (same : disk.tree.SameDirectories other.tree)
  (directory_eq : other.workingDirectory = disk.workingDirectory)
  (obstacles_eq : other.obstacles = disk.obstacles)
include same directory_eq obstacles_eq

theorem admits_of_sameDirectories (destination : String) :
    other.admits destination = disk.admits destination := by
  simp only [admits, obstacle?, directory_eq, obstacles_eq,
    FileTree.reaches_of_sameDirectories same]

theorem progressTo_of_sameDirectories (certificatePath keyPath : String) :
    other.progressTo certificatePath keyPath = disk.progressTo certificatePath keyPath := by
  simp only [progressTo, admits_of_sameDirectories same directory_eq obstacles_eq, directory_eq,
    FileTree.placeFor?_of_sameDirectories same]

end Same

end Disk

namespace KeyMaterial

/-- The key file of a pair. -/
def keyEntry (material : KeyMaterial) : Entry :=
  .file keyFileMode material.privateKeyPem.toUTF8.toList

/-- The certificate file of a pair. -/
def certificateEntry (material : KeyMaterial) : Entry :=
  .file certificateFileMode material.certificatePem.toUTF8.toList

/-- The tree with as much of a pair as is put in place. -/
def place (material : KeyMaterial) (tree : FileTree) : Progress → FileTree
  | .nothing _ => tree
  | .keyOnly keyPlace => tree.insert keyPlace material.keyEntry
  | .both keyPlace certificatePlace =>
      (tree.insert keyPlace material.keyEntry).insert certificatePlace material.certificateEntry

/-- The two files of a pair on their way to two paths of a disk. -/
def delivery (material : KeyMaterial) (certificatePath keyPath : String) (disk : Disk) :
    Delivery :=
  { tree := disk.tree
    workingDirectory := disk.workingDirectory
    files := [(keyPath, material.keyEntry), (certificatePath, material.certificateEntry)] }

/-- Putting a pair in place changes no directory. -/
theorem sameDirectories_place (material : KeyMaterial) (disk : Disk)
    (certificatePath keyPath : String) :
    disk.tree.SameDirectories
      (material.place disk.tree (disk.progressTo certificatePath keyPath)) := by
  cases reached : disk.progressTo certificatePath keyPath with
  | nothing path => exact .refl disk.tree
  | keyOnly keyPlace =>
      rcases Disk.places_of_progressTo_keyOnly reached with ⟨keyPlaced, _⟩
      exact .insert_file (FileTree.place_free keyPlaced) _ _
  | both keyPlace certificatePlace =>
      rcases Disk.places_of_progressTo_both reached with ⟨keyPlaced, certificatePlaced⟩
      have withKey := FileTree.SameDirectories.insert_file (FileTree.place_free keyPlaced)
        keyFileMode material.privateKeyPem.toUTF8.toList
      apply withKey.trans
      apply FileTree.SameDirectories.insert_file
      rw [← withKey]
      exact FileTree.place_free certificatePlaced

section Entries

variable (material : KeyMaterial) {disk : Disk} {keyPlace : Location}
  {certificatePath keyPath : String}

theorem key_of_keyOnly
    (reached : disk.progressTo certificatePath keyPath = .keyOnly keyPlace) :
    (material.place disk.tree (.keyOnly keyPlace)).entryAt? disk.workingDirectory keyPath =
      some material.keyEntry := by
  rcases Disk.places_of_progressTo_keyOnly reached with ⟨keyPlaced, _⟩
  have same := material.sameDirectories_place disk certificatePath keyPath
  rw [reached] at same
  have placed := FileTree.placeFor?_of_sameDirectories same disk.workingDirectory keyPath
  rw [keyPlaced] at placed
  rw [FileTree.entryAt?_of_place placed]
  exact FileTree.get?_insert_self (FileTree.place_ne_root keyPlaced) _ _

theorem entries_of_keyOnly (nested : disk.tree.Nested)
    (reached : disk.progressTo certificatePath keyPath = .keyOnly keyPlace) :
    (material.place disk.tree (.keyOnly keyPlace)).entryAt? disk.workingDirectory keyPath =
        some material.keyEntry ∧
      (material.place disk.tree (.keyOnly keyPlace)).entryAt? disk.workingDirectory
          certificatePath =
        disk.tree.entryAt? disk.workingDirectory certificatePath := by
  rcases Disk.places_of_progressTo_keyOnly reached with ⟨_, unplaced⟩
  have same := material.sameDirectories_place disk certificatePath keyPath
  rw [reached] at same
  exact ⟨material.key_of_keyOnly reached, FileTree.entryAt?_of_unplaced nested same unplaced⟩

theorem entries_of_both {certificatePlace : Location}
    (reached :
      disk.progressTo certificatePath keyPath = .both keyPlace certificatePlace) :
    (material.place disk.tree (.both keyPlace certificatePlace)).entryAt? disk.workingDirectory
        certificatePath = some material.certificateEntry ∧
      (material.place disk.tree (.both keyPlace certificatePlace)).entryAt? disk.workingDirectory
          keyPath =
        some (if keyPlace = certificatePlace then material.certificateEntry
          else material.keyEntry) := by
  rcases Disk.places_of_progressTo_both reached with ⟨keyPlaced, certificatePlaced⟩
  have same := material.sameDirectories_place disk certificatePath keyPath
  rw [reached] at same
  have placed := FileTree.placeFor?_of_sameDirectories same disk.workingDirectory keyPath
  rw [keyPlaced] at placed
  have certificateStays :=
    FileTree.placeFor?_of_sameDirectories same disk.workingDirectory certificatePath
  rw [certificatePlaced] at certificateStays
  have keyProper := FileTree.place_ne_root keyPlaced
  constructor
  · rw [FileTree.entryAt?_of_place certificateStays]
    exact FileTree.get?_insert_self (FileTree.place_ne_root certificatePlaced) _ _
  · rw [FileTree.entryAt?_of_place placed]
    by_cases together : keyPlace = certificatePlace
    · subst certificatePlace
      rw [if_pos rfl]
      exact FileTree.get?_insert_self keyProper _ _
    · rw [if_neg together, place, FileTree.get?_insert_of_ne together]
      exact FileTree.get?_insert_self keyProper _ _

end Entries

end KeyMaterial

/-- A pair that is written to two paths on a disk. -/
structure Writing where
  material : KeyMaterial
  certificatePath : String
  keyPath : String
  disk : Disk

namespace Writing

variable (writing : Writing)

def outcome : Outcome Disk WriteFault (String × String) :=
  writing.material.write writing.certificatePath writing.keyPath writing.disk

def progress : Progress :=
  writing.disk.progressTo writing.certificatePath writing.keyPath

def key : StagedFile :=
  StagedFile.prepared writing.keyPath writing.disk

def keyWaits : Location :=
  writing.key.waitingPlace writing.disk.workingDirectory

def keyStaged : Disk :=
  StagedFile.stagedDisk writing.keyPath writing.material.privateKeyPem.toUTF8.toList keyFileMode
    writing.disk

def certificate : StagedFile :=
  StagedFile.prepared writing.certificatePath writing.keyStaged

def certificateWaits : Location :=
  writing.certificate.waitingPlace writing.disk.workingDirectory

def bothStaged : Disk :=
  StagedFile.stagedDisk writing.certificatePath writing.material.certificatePem.toUTF8.toList
    certificateFileMode writing.keyStaged

/-- The tree in which the certificate alone waits. -/
def certificateAlone : FileTree :=
  writing.disk.tree.insert writing.certificateWaits writing.material.certificateEntry

theorem keyStaged_tree :
    writing.keyStaged.tree =
      writing.disk.tree.insert writing.keyWaits writing.material.keyEntry :=
  rfl

theorem bothStaged_tree :
    writing.bothStaged.tree =
      (writing.disk.tree.insert writing.keyWaits writing.material.keyEntry).insert
        writing.certificateWaits writing.material.certificateEntry :=
  rfl

theorem keyWaits_ne_root : writing.keyWaits ≠ [] :=
  StagedFile.waitingPlace_ne_root _ _

theorem certificateWaits_ne_root : writing.certificateWaits ≠ [] :=
  StagedFile.waitingPlace_ne_root _ _

theorem certificateWaits_ne_keyWaits : writing.certificateWaits ≠ writing.keyWaits := by
  intro same
  have numbers := congrArg List.getLast? same
  have above := writing.keyStaged.drawn_le_nextNumber
  have drawn : writing.keyStaged.drawn = writing.disk.nextNumber + 1 := rfl
  simp [certificateWaits, keyWaits, certificate, key, StagedFile.waitingPlace,
    StagedFile.prepared] at numbers
  omega

theorem get?_keyWaits : writing.disk.tree.get? writing.keyWaits = none :=
  StagedFile.get?_prepared writing.keyPath writing.disk

theorem get?_certificateWaits : writing.disk.tree.get? writing.certificateWaits = none := by
  have absent : writing.keyStaged.tree.get? writing.certificateWaits = none :=
    StagedFile.get?_prepared writing.certificatePath writing.keyStaged
  rw [keyStaged_tree, FileTree.get?_insert_of_ne writing.certificateWaits_ne_keyWaits] at absent
  exact absent

theorem sameDirectories_keyStaged :
    writing.disk.tree.SameDirectories writing.keyStaged.tree :=
  StagedFile.sameDirectories_stagedDisk _ _ _ _

theorem sameDirectories_bothStaged :
    writing.disk.tree.SameDirectories writing.bothStaged.tree :=
  writing.sameDirectories_keyStaged.trans (StagedFile.sameDirectories_stagedDisk _ _ _ _)

theorem sameDirectories_certificateAlone :
    writing.disk.tree.SameDirectories writing.certificateAlone := by
  apply FileTree.SameDirectories.insert_file
  simp [FileTree.isDirectoryAt, get?_certificateWaits]

def delivery : Delivery :=
  writing.material.delivery writing.certificatePath writing.keyPath writing.disk

theorem fresh_keyWaits : writing.delivery.Fresh writing.keyWaits :=
  ⟨⟨_, _, rfl⟩, writing.get?_keyWaits⟩

theorem fresh_certificateWaits : writing.delivery.Fresh writing.certificateWaits :=
  ⟨⟨_, _, rfl⟩, writing.get?_certificateWaits⟩

theorem key_mem_delivery :
    (writing.keyPath, writing.material.keyEntry) ∈ writing.delivery.files :=
  List.mem_cons_self

theorem certificate_mem_delivery :
    (writing.certificatePath, writing.material.certificateEntry) ∈ writing.delivery.files :=
  List.mem_cons_of_mem _ List.mem_cons_self

theorem passes_keyStaged :
    writing.disk.Passes writing.delivery.Glimpse writing.keyStaged :=
  Delivery.passes_stagedDisk writing.delivery.glimpse_refl writing.fresh_keyWaits
    writing.key_mem_delivery

theorem passes_bothStaged :
    writing.disk.Passes writing.delivery.Glimpse writing.bothStaged :=
  writing.passes_keyStaged.trans <|
    Delivery.passes_stagedDisk (writing.passes_keyStaged.tree writing.delivery.glimpse_refl)
      writing.fresh_certificateWaits writing.certificate_mem_delivery

theorem glimpse_certificateAlone : writing.delivery.Glimpse writing.certificateAlone :=
  writing.delivery.glimpse_refl.insert_fresh writing.fresh_certificateWaits
    (.staged writing.fresh_certificateWaits writing.certificate_mem_delivery)

theorem erase_keyWaits :
    writing.bothStaged.tree.erase writing.keyWaits = writing.certificateAlone := by
  rw [bothStaged_tree,
    FileTree.erase_insert_of_ne (Ne.symm writing.certificateWaits_ne_keyWaits),
    FileTree.erase_insert writing.keyWaits_ne_root writing.get?_keyWaits]
  rfl

theorem erase_certificateWaits :
    writing.certificateAlone.erase writing.certificateWaits = writing.disk.tree :=
  FileTree.erase_insert writing.certificateWaits_ne_root writing.get?_certificateWaits _

/-- The disk once the key is in place, while the certificate still waits. -/
def keyPut (keyPlace : Location) : Disk :=
  writing.bothStaged.replaceTree
    (writing.certificateAlone.insert keyPlace writing.material.keyEntry)

/-- Putting both files in place once they are staged. -/
def commits (key certificate : StagedFile) : Action Disk WriteFault (String × String) := do
  let keyPath ← key.commit.onFailure certificate.discard
  Action.report (.wroteKey keyPath)
  let certificatePath ← certificate.commit
  Action.report (.wroteCertificate certificatePath)
  return (certificatePath, keyPath)

theorem outcome_eq :
    writing.outcome = (do
      let key ← StagedFile.stage writing.keyPath writing.material.privateKeyPem.toUTF8.toList
        keyFileMode
      let certificate ←
        (StagedFile.stage writing.certificatePath
          writing.material.certificatePem.toUTF8.toList certificateFileMode).onFailure key.discard
      commits key certificate : Action Disk WriteFault (String × String)) writing.disk :=
  rfl

/-- What writing comes to if it gets this far: the disk and the answer, and the trees that are
passed on the way. -/
structure Reaches (progress : Progress) : Prop where
  tree : writing.outcome.state.tree = writing.material.place writing.disk.tree progress
  workingDirectory : writing.outcome.state.workingDirectory = writing.disk.workingDirectory
  obstacles : writing.outcome.state.obstacles = writing.disk.obstacles
  answers : Progress.Answers writing.certificatePath writing.keyPath progress writing.outcome.result
  passes : writing.disk.Passes writing.delivery.Glimpse writing.outcome.state

variable {writing}

theorem Reaches.of_run {progress : Progress} {outcome : Outcome Disk WriteFault (String × String)}
    (run : writing.outcome = outcome)
    (tree : outcome.state.tree = writing.material.place writing.disk.tree progress)
    (workingDirectory : outcome.state.workingDirectory = writing.disk.workingDirectory)
    (obstacles : outcome.state.obstacles = writing.disk.obstacles)
    (answers :
      Progress.Answers writing.certificatePath writing.keyPath progress outcome.result)
    (passes : writing.disk.Passes writing.delivery.Glimpse outcome.state) :
    writing.Reaches progress := by
  subst outcome
  exact { tree, workingDirectory, obstacles, answers, passes }

theorem reaches_of_refused_key (refused : writing.disk.admits writing.keyPath = false) :
    writing.Reaches (.nothing writing.keyPath) := by
  rcases StagedFile.stage_of_refused refused writing.material.privateKeyPem.toUTF8.toList
    keyFileMode with ⟨cause, after, abandons, staged⟩
  exact .of_run (Action.bind_of_error staged) abandons.tree abandons.workingDirectory
    abandons.obstacles (.nothing _ cause)
    (Delivery.passes_of_abandons writing.delivery.glimpse_refl writing.fresh_keyWaits abandons)

theorem discard_key
    (reachable :
      writing.disk.tree.reaches writing.disk.workingDirectory
        (StagedFile.directoryOf writing.keyPath) = true)
    {disk : Disk} (same : writing.disk.tree.SameDirectories disk.tree)
    (directory_eq : disk.workingDirectory = writing.disk.workingDirectory) :
    writing.key.discard disk = disk.replaceTree (disk.tree.erase writing.keyWaits) := by
  have again : disk.tree.reaches disk.workingDirectory writing.key.directory = true := by
    rw [directory_eq, FileTree.reaches_of_sameDirectories same]
    exact reachable
  rw [StagedFile.discard_of_reachable again, directory_eq]
  rfl

theorem discard_certificate
    (reachable :
      writing.disk.tree.reaches writing.disk.workingDirectory
        (StagedFile.directoryOf writing.certificatePath) = true)
    {disk : Disk} (same : writing.disk.tree.SameDirectories disk.tree)
    (directory_eq : disk.workingDirectory = writing.disk.workingDirectory) :
    writing.certificate.discard disk =
      disk.replaceTree (disk.tree.erase writing.certificateWaits) := by
  have again : disk.tree.reaches disk.workingDirectory writing.certificate.directory = true := by
    rw [directory_eq, FileTree.reaches_of_sameDirectories same]
    exact reachable
  rw [StagedFile.discard_of_reachable again, directory_eq]
  rfl

theorem admits_keyStaged (destination : String) :
    writing.keyStaged.admits destination = writing.disk.admits destination :=
  Disk.admits_of_sameDirectories writing.sameDirectories_keyStaged rfl rfl destination

theorem stage_certificate (admitted : writing.disk.admits writing.certificatePath = true) :
    StagedFile.stage writing.certificatePath writing.material.certificatePem.toUTF8.toList
        certificateFileMode writing.keyStaged =
      { result := .ok writing.certificate
        state := writing.bothStaged
        trace := [.event (.staged writing.certificatePath
          (writing.certificate.temporaryPath writing.keyStaged.workingDirectory))] } := by
  apply StagedFile.stage_of_admitted
  rw [admits_keyStaged]
  exact admitted

theorem commit_key_of_unplaced
    (unplaced : writing.disk.tree.placeFor? writing.disk.workingDirectory writing.keyPath = none) :
    ∃ cause, writing.key.commit writing.bothStaged =
      { result := .error { path := writing.keyPath, cause }
        state := writing.key.discard writing.bothStaged
        trace := [] } := by
  apply StagedFile.commit_of_unplaced
  rw [FileTree.placeFor?_of_sameDirectories writing.sameDirectories_bothStaged]
  exact unplaced

section KeyAdmitted

variable (keyAdmitted : writing.disk.admits writing.keyPath = true)
include keyAdmitted

theorem stage_key :
    StagedFile.stage writing.keyPath writing.material.privateKeyPem.toUTF8.toList keyFileMode
        writing.disk =
      { result := .ok writing.key
        state := writing.keyStaged
        trace := [.event (.staged writing.keyPath
          (writing.key.temporaryPath writing.disk.workingDirectory))] } :=
  StagedFile.stage_of_admitted keyAdmitted _ _

theorem reaches_of_refused_certificate
    (refused : writing.disk.admits writing.certificatePath = false) :
    writing.Reaches (.nothing writing.certificatePath) := by
  rw [← admits_keyStaged] at refused
  rcases StagedFile.stage_of_refused refused writing.material.certificatePem.toUTF8.toList
    certificateFileMode with ⟨cause, after, abandons, staged⟩
  have same : writing.disk.tree.SameDirectories after.tree := by
    rw [abandons.tree]
    exact writing.sameDirectories_keyStaged
  have passes := writing.passes_keyStaged.trans <|
    Delivery.passes_of_abandons (writing.passes_keyStaged.tree writing.delivery.glimpse_refl)
      writing.fresh_certificateWaits abandons
  have failed := Action.onFailure_of_error writing.key.discard staged
  rw [discard_key (Disk.admits_iff.1 keyAdmitted).1 same abandons.workingDirectory] at failed
  have run := writing.outcome_eq.trans (Action.bind_of_ok (stage_key keyAdmitted))
  rw [Action.bind_of_error failed] at run
  refine .of_run run ?_ abandons.workingDirectory abandons.obstacles (.nothing _ cause) ?_
  · rw [Disk.replaceTree_tree, abandons.tree]
    exact FileTree.erase_insert writing.keyWaits_ne_root writing.get?_keyWaits _
  · apply passes.replaceTree
    exact (passes.tree writing.delivery.glimpse_refl).erase writing.fresh_keyWaits

variable (certificateAdmitted : writing.disk.admits writing.certificatePath = true)
include certificateAdmitted

theorem outcome_of_admitted {outcome : Outcome Disk WriteFault (String × String)}
    (committed : commits writing.key writing.certificate writing.bothStaged = outcome) :
    ∃ trace, writing.outcome = { result := outcome.result, state := outcome.state, trace } := by
  have staged := Action.onFailure_of_ok writing.key.discard
    (stage_certificate certificateAdmitted)
  have run := writing.outcome_eq.trans (Action.bind_of_ok (stage_key keyAdmitted))
  rw [Action.bind_of_ok staged] at run
  subst outcome
  exact ⟨_, run⟩

theorem reaches_of_unplaced_key
    (unplaced : writing.disk.tree.placeFor? writing.disk.workingDirectory writing.keyPath = none) :
    writing.Reaches (.nothing writing.keyPath) := by
  rcases commit_key_of_unplaced unplaced with ⟨cause, refused⟩
  rw [discard_key (Disk.admits_iff.1 keyAdmitted).1 writing.sameDirectories_bothStaged rfl,
    erase_keyWaits] at refused
  have discarded := Action.onFailure_of_error writing.certificate.discard refused
  have back : writing.certificate.discard
      (writing.bothStaged.replaceTree writing.certificateAlone) =
        (writing.bothStaged.replaceTree writing.certificateAlone).replaceTree
          (writing.certificateAlone.erase writing.certificateWaits) :=
    discard_certificate (Disk.admits_iff.1 certificateAdmitted).1
      writing.sameDirectories_certificateAlone rfl
  rw [back] at discarded
  rcases outcome_of_admitted keyAdmitted certificateAdmitted (Action.bind_of_error discarded)
    with ⟨trace, run⟩
  refine .of_run run writing.erase_certificateWaits rfl rfl (.nothing _ cause) ?_
  apply (writing.passes_bothStaged.replaceTree writing.glimpse_certificateAlone).replaceTree
  exact writing.glimpse_certificateAlone.erase writing.fresh_certificateWaits

variable {keyPlace : Location}
  (keyPlaced :
    writing.disk.tree.placeFor? writing.disk.workingDirectory writing.keyPath = some keyPlace)
include keyPlaced

omit keyAdmitted certificateAdmitted in
theorem sameDirectories_keyPut :
    writing.disk.tree.SameDirectories (writing.keyPut keyPlace).tree := by
  apply writing.sameDirectories_certificateAlone.trans
  apply FileTree.SameDirectories.insert_file
  rw [← writing.sameDirectories_certificateAlone]
  exact FileTree.place_free keyPlaced

omit keyAdmitted certificateAdmitted in
theorem glimpse_keyPut : writing.delivery.Glimpse (writing.keyPut keyPlace).tree :=
  writing.glimpse_certificateAlone.insert_placed writing.key_mem_delivery keyPlaced

omit keyAdmitted certificateAdmitted in
theorem passes_keyPut :
    writing.disk.Passes writing.delivery.Glimpse (writing.keyPut keyPlace) :=
  writing.passes_bothStaged.replaceTree (glimpse_keyPut keyPlaced)

omit keyAdmitted certificateAdmitted in
theorem erase_certificateWaits_keyPut :
    (writing.keyPut keyPlace).tree.erase writing.certificateWaits =
      writing.disk.tree.insert keyPlace writing.material.keyEntry := by
  have apart : writing.certificateWaits ≠ keyPlace :=
    Ne.symm (FileTree.place_ne_temporary keyPlaced _ _)
  rw [keyPut, Disk.replaceTree_tree, FileTree.erase_insert_of_ne apart, erase_certificateWaits]

omit certificateAdmitted in
theorem commit_key :
    writing.key.commit writing.bothStaged =
      { result := .ok writing.keyPath
        state := writing.keyPut keyPlace
        trace := [] } := by
  have reachable : writing.bothStaged.tree.reaches writing.bothStaged.workingDirectory
      writing.key.directory = true := by
    rw [FileTree.reaches_of_sameDirectories writing.sameDirectories_bothStaged]
    exact (Disk.admits_iff.1 keyAdmitted).1
  have placed : writing.bothStaged.tree.placeFor? writing.bothStaged.workingDirectory
      writing.key.destination = some keyPlace := by
    rw [FileTree.placeFor?_of_sameDirectories writing.sameDirectories_bothStaged]
    exact keyPlaced
  have waits : writing.bothStaged.tree.get? writing.keyWaits =
      some writing.material.keyEntry := by
    rw [bothStaged_tree, FileTree.get?_insert_of_ne (Ne.symm writing.certificateWaits_ne_keyWaits),
      FileTree.get?_insert_self writing.keyWaits_ne_root]
  have committed := StagedFile.commit_of_place reachable waits placed
  have moved : writing.bothStaged.tree.erase
      (writing.key.waitingPlace writing.bothStaged.workingDirectory) = writing.certificateAlone :=
    writing.erase_keyWaits
  rw [moved] at committed
  exact committed

omit keyAdmitted certificateAdmitted in
theorem commit_certificate_of_unplaced
    (unplaced :
      writing.disk.tree.placeFor? writing.disk.workingDirectory writing.certificatePath = none) :
    ∃ cause, writing.certificate.commit (writing.keyPut keyPlace) =
      { result := .error { path := writing.certificatePath, cause }
        state := writing.certificate.discard (writing.keyPut keyPlace)
        trace := [] } := by
  apply StagedFile.commit_of_unplaced
  rw [FileTree.placeFor?_of_sameDirectories (sameDirectories_keyPut keyPlaced)]
  exact unplaced

/-- Once the key is in place, everything hangs on the certificate. -/
theorem outcome_of_placed_key {result : Except WriteFault String} {state : Disk}
    {trace : List Activity}
    (committed : writing.certificate.commit (writing.keyPut keyPlace) = { result, state, trace }) :
    ∃ trace, writing.outcome =
      { result := result.map fun path => (path, writing.keyPath), state, trace } := by
  have moved := Action.onFailure_of_ok writing.certificate.discard
    (commit_key keyAdmitted keyPlaced)
  rcases outcome_of_admitted keyAdmitted certificateAdmitted rfl with ⟨_, run⟩
  have finished : commits writing.key writing.certificate writing.bothStaged =
      { result := result.map fun path => (path, writing.keyPath)
        state
        trace := (commits writing.key writing.certificate writing.bothStaged).trace } := by
    cases result <;>
      simp only [commits, bind, Action.andThen, moved, Action.report, Action.note, committed, pure,
        Action.done, Except.map]
  rw [finished] at run
  exact ⟨_, run⟩

theorem reaches_of_unplaced_certificate
    (unplaced :
      writing.disk.tree.placeFor? writing.disk.workingDirectory writing.certificatePath = none) :
    writing.Reaches (.keyOnly keyPlace) := by
  rcases commit_certificate_of_unplaced keyPlaced unplaced with ⟨cause, refused⟩
  rw [discard_certificate (Disk.admits_iff.1 certificateAdmitted).1
    (sameDirectories_keyPut keyPlaced) rfl] at refused
  rcases outcome_of_placed_key keyAdmitted certificateAdmitted keyPlaced refused with
    ⟨trace, run⟩
  refine .of_run run (erase_certificateWaits_keyPut keyPlaced) rfl rfl (.keyOnly _ cause) ?_
  apply (passes_keyPut keyPlaced).replaceTree
  exact (glimpse_keyPut keyPlaced).erase writing.fresh_certificateWaits

variable {certificatePlace : Location}
  (certificatePlaced :
    writing.disk.tree.placeFor? writing.disk.workingDirectory writing.certificatePath =
      some certificatePlace)
include certificatePlaced

omit keyAdmitted in
theorem commit_certificate :
    writing.certificate.commit (writing.keyPut keyPlace) =
      { result := .ok writing.certificatePath
        state := (writing.keyPut keyPlace).replaceTree
          (((writing.keyPut keyPlace).tree.erase writing.certificateWaits).insert certificatePlace
            writing.material.certificateEntry)
        trace := [] } := by
  have same := sameDirectories_keyPut keyPlaced
  have reachable : (writing.keyPut keyPlace).tree.reaches
      (writing.keyPut keyPlace).workingDirectory writing.certificate.directory = true := by
    rw [FileTree.reaches_of_sameDirectories same]
    exact (Disk.admits_iff.1 certificateAdmitted).1
  have placed : (writing.keyPut keyPlace).tree.placeFor?
      (writing.keyPut keyPlace).workingDirectory writing.certificate.destination =
        some certificatePlace := by
    rw [FileTree.placeFor?_of_sameDirectories same]
    exact certificatePlaced
  have waits : (writing.keyPut keyPlace).tree.get? writing.certificateWaits =
      some writing.material.certificateEntry := by
    have apart : writing.certificateWaits ≠ keyPlace :=
      Ne.symm (FileTree.place_ne_temporary keyPlaced _ _)
    rw [keyPut, Disk.replaceTree_tree, FileTree.get?_insert_of_ne apart]
    exact FileTree.get?_insert_self writing.certificateWaits_ne_root _ _
  exact StagedFile.commit_of_place reachable waits placed

theorem reaches_of_places : writing.Reaches (.both keyPlace certificatePlace) := by
  rcases outcome_of_placed_key keyAdmitted certificateAdmitted keyPlaced
    (commit_certificate certificateAdmitted keyPlaced certificatePlaced) with ⟨trace, run⟩
  refine .of_run run ?_ rfl rfl (.both _ _) ?_
  · exact congrArg (FileTree.insert · certificatePlace writing.material.certificateEntry)
      (erase_certificateWaits_keyPut keyPlaced)
  · apply (passes_keyPut keyPlaced).replaceTree
    exact ((glimpse_keyPut keyPlaced).erase writing.fresh_certificateWaits).insert_placed
      writing.certificate_mem_delivery certificatePlaced

end KeyAdmitted

/-- Writing gets as far as the disk before it says. -/
theorem reaches_progress (writing : Writing) : writing.Reaches writing.progress := by
  simp only [progress, Disk.progressTo]
  split
  · rename_i refused
    exact reaches_of_refused_key refused
  · rename_i keyAdmitted
    rw [Bool.not_eq_false] at keyAdmitted
    split
    · rename_i refused
      exact reaches_of_refused_certificate keyAdmitted refused
    · rename_i certificateAdmitted
      rw [Bool.not_eq_false] at certificateAdmitted
      split
      · rename_i unplaced
        exact reaches_of_unplaced_key keyAdmitted certificateAdmitted unplaced
      · rename_i keyPlaced unplaced
        exact reaches_of_unplaced_certificate keyAdmitted certificateAdmitted keyPlaced unplaced
      · rename_i keyPlaced certificatePlaced
        exact reaches_of_places keyAdmitted certificateAdmitted keyPlaced certificatePlaced

end Writing

end MailProvision
