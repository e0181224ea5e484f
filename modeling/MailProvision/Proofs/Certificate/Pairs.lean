import MailProvision.Proofs.Certificate.Minting

/-!
# Key and certificate belong together

What minting does to the two files, however it ends. A failure leaves both alone, with one
exception: where the certificate has no place although its temporary file is written, the new key
is in place before the certificate is refused. A success puts both files in place, but where the
two paths lead to one place the certificate replaces the key.

Over a sequence of mints to the same two places a certificate never meets the key of another mint.
-/

namespace MailProvision

namespace Disk

/-- What is found on a disk by following a path. -/
def entryAt? (disk : Disk) (path : String) : Option Entry :=
  disk.tree.entryAt? disk.workingDirectory path

/-- The place that a file gets on a disk when it is moved to a path. -/
def placeFor? (disk : Disk) (path : String) : Option Location :=
  disk.tree.placeFor? disk.workingDirectory path

end Disk

/-- A call for a pair, with the clock, the keys and the obstacles that it finds. -/
structure MintRequest where
  bits : Nat
  subject : Subject
  clock : Int
  keys : KeySource
  obstacles : List (String × Obstacle) := []

namespace MintRequest

def workshop (request : MintRequest) (disk : Disk) : Workshop :=
  { disk := { disk with obstacles := request.obstacles }
    clock := request.clock
    keys := request.keys }

/-- How far the writing of a pair gets on a disk. -/
def progress (request : MintRequest) (certificatePath keyPath : String) (disk : Disk) : Progress :=
  (request.workshop disk).progress certificatePath keyPath

def result (request : MintRequest) (certificatePath keyPath : String) (disk : Disk) :
    Except (Halt MintError) MintedCertificate :=
  (mint request.bits request.subject certificatePath keyPath (request.workshop disk)).result

def run (certificatePath keyPath : String) (disk : Disk) (request : MintRequest) : Disk :=
  (mint request.bits request.subject certificatePath keyPath (request.workshop disk)).state.disk

/-- The disk after requests one after the other, all for the same two paths. -/
def runAll (certificatePath keyPath : String) (disk : Disk) (requests : List MintRequest) : Disk :=
  requests.foldl (run certificatePath keyPath) disk

/-- The file of the key that a request makes. -/
def keyEntry (request : MintRequest) : Entry :=
  .file keyFileMode (request.keys.nextKey request.bits).toPem.toUTF8.toList

/-- The two files are the key and the certificate of this request. -/
def Paired (request : MintRequest) (certificatePath keyPath : String) (disk : Disk) : Prop :=
  ∃ material, request.keys.Makes request.bits request.subject material ∧
    disk.entryAt? keyPath = some material.keyEntry ∧
    disk.entryAt? certificatePath = some material.certificateEntry

/-- What requests make of the two files, seen from the disk before and after them. -/
inductive Leaves (certificatePath keyPath : String) (before after : Disk)
    (requests : List MintRequest) : Prop
  | untouched (key : after.entryAt? keyPath = before.entryAt? keyPath)
      (certificate : after.entryAt? certificatePath = before.entryAt? certificatePath)
  | paired (request : MintRequest) (mem : request ∈ requests)
      (pair : request.Paired certificatePath keyPath after)
  | keyOnly (request : MintRequest) (mem : request ∈ requests) (keyPlace : Location)
      (reached : request.progress certificatePath keyPath before = .keyOnly keyPlace)
      (certificate : after.entryAt? certificatePath = before.entryAt? certificatePath)
      (noCertificate : ∀ mode content,
        after.entryAt? certificatePath ≠ some (.file mode content))

/-- What a request that does not succeed leaves behind. -/
structure Fails (request : MintRequest) (certificatePath keyPath : String) (disk : Disk)
    (halt : Halt MintError) : Prop where
  certificate : (run certificatePath keyPath disk request).entryAt? certificatePath =
    disk.entryAt? certificatePath
  unchanged :
    (∀ keyPlace, request.progress certificatePath keyPath disk ≠ .keyOnly keyPlace) ∨
        halt.isPersistence = false →
      (run certificatePath keyPath disk request).tree = disk.tree
  keyOnly : ∀ keyPlace,
    request.progress certificatePath keyPath disk = .keyOnly keyPlace →
      halt.isPersistence = true →
        (∃ cause, halt = .failure (.persistence certificatePath cause)) ∧
          (run certificatePath keyPath disk request).tree =
            disk.tree.insert keyPlace request.keyEntry ∧
          (run certificatePath keyPath disk request).entryAt? keyPath = some request.keyEntry

variable {certificatePath keyPath : String} {disk : Disk} {request : MintRequest}

theorem workingDirectory_run (certificatePath keyPath : String) (disk : Disk)
    (request : MintRequest) :
    (run certificatePath keyPath disk request).workingDirectory = disk.workingDirectory := by
  rcases (request.workshop disk).mints_or_refuses request.bits request.subject certificatePath
    keyPath with ⟨material, mints⟩ | ⟨halt, refuses⟩
  · exact mints.workingDirectory
  · rw [run, refuses.disk]
    rfl

theorem sameDirectories_run (certificatePath keyPath : String) (disk : Disk)
    (request : MintRequest) :
    disk.tree.SameDirectories (run certificatePath keyPath disk request).tree := by
  rcases (request.workshop disk).mints_or_refuses request.bits request.subject certificatePath
    keyPath with ⟨material, mints⟩ | ⟨error, refuses⟩
  · rw [run, mints.tree]
    exact material.sameDirectories_place (request.workshop disk).disk _ _
  · rw [run, refuses.disk]
    exact .refl _

theorem placeFor?_run (certificatePath keyPath : String) (disk : Disk) (request : MintRequest)
    (path : String) :
    (run certificatePath keyPath disk request).placeFor? path = disk.placeFor? path := by
  rw [Disk.placeFor?, workingDirectory_run,
    FileTree.placeFor?_of_sameDirectories (sameDirectories_run _ _ _ _)]
  rfl

theorem progress_run (certificatePath keyPath : String) (disk : Disk)
    (request other : MintRequest) :
    other.progress certificatePath keyPath (run certificatePath keyPath disk request) =
      other.progress certificatePath keyPath disk := by
  have same := sameDirectories_run certificatePath keyPath disk request
  have directory_eq := workingDirectory_run certificatePath keyPath disk request
  exact @Disk.progressTo_of_sameDirectories (other.workshop disk).disk
    (other.workshop (run certificatePath keyPath disk request)).disk same directory_eq rfl
    certificatePath keyPath

section Reached

variable {keyPlace certificatePlace : Location}

theorem places_of_keyOnly
    (reached : request.progress certificatePath keyPath disk = .keyOnly keyPlace) :
    disk.placeFor? keyPath = some keyPlace ∧ disk.placeFor? certificatePath = none :=
  @Disk.places_of_progressTo_keyOnly (request.workshop disk).disk _ _ _ reached

theorem places_of_both
    (reached : request.progress certificatePath keyPath disk = .both keyPlace certificatePlace) :
    disk.placeFor? keyPath = some keyPlace ∧
      disk.placeFor? certificatePath = some certificatePlace :=
  @Disk.places_of_progressTo_both (request.workshop disk).disk _ _ _ _ reached

theorem entries_of_keyOnly (material : KeyMaterial) (nested : disk.tree.Nested)
    (reached : request.progress certificatePath keyPath disk = .keyOnly keyPlace) :
    (material.place disk.tree (.keyOnly keyPlace)).entryAt? disk.workingDirectory keyPath =
        some material.keyEntry ∧
      (material.place disk.tree (.keyOnly keyPlace)).entryAt? disk.workingDirectory
        certificatePath = disk.entryAt? certificatePath :=
  @KeyMaterial.entries_of_keyOnly material (request.workshop disk).disk _ _ _ nested reached

theorem entries_of_both (material : KeyMaterial)
    (reached : request.progress certificatePath keyPath disk = .both keyPlace certificatePlace) :
    (material.place disk.tree (.both keyPlace certificatePlace)).entryAt? disk.workingDirectory
        certificatePath = some material.certificateEntry ∧
      (material.place disk.tree (.both keyPlace certificatePlace)).entryAt? disk.workingDirectory
        keyPath = some (if keyPlace = certificatePlace then material.certificateEntry
          else material.keyEntry) :=
  @KeyMaterial.entries_of_both material (request.workshop disk).disk _ _ _ _ reached

end Reached

/-- No certificate is found where the certificate is refused after the key. -/
theorem not_file_of_keyOnly (nested : disk.tree.Nested) {keyPlace : Location}
    (reached : request.progress certificatePath keyPath disk = .keyOnly keyPlace)
    (mode : Nat) (content : List UInt8) :
    disk.entryAt? certificatePath ≠ some (.file mode content) := by
  intro found
  rcases places_of_keyOnly reached with ⟨_, unplaced⟩
  rcases FileTree.exists_place_of_file nested found with ⟨place, placed⟩
  exact absurd (placed.symm.trans unplaced) (by simp)

theorem tree_run {material : KeyMaterial}
    (mints : (request.workshop disk).Mints request.bits request.subject certificatePath keyPath
      material) :
    (run certificatePath keyPath disk request).tree =
      material.place disk.tree (request.progress certificatePath keyPath disk) :=
  mints.tree

theorem entryAt?_run {material : KeyMaterial}
    (mints : (request.workshop disk).Mints request.bits request.subject certificatePath keyPath
      material) (path : String) :
    (run certificatePath keyPath disk request).entryAt? path =
      (material.place disk.tree (request.progress certificatePath keyPath disk)).entryAt?
        disk.workingDirectory path := by
  rw [Disk.entryAt?, workingDirectory_run, tree_run mints]

theorem leaves_of_mints {material : KeyMaterial} (nested : disk.tree.Nested)
    (apart : ∀ place, disk.placeFor? certificatePath = some place →
      disk.placeFor? keyPath ≠ some place)
    (mints : (request.workshop disk).Mints request.bits request.subject certificatePath keyPath
      material) :
    Leaves certificatePath keyPath disk (run certificatePath keyPath disk request) [request] := by
  have entry := entryAt?_run mints
  cases reached : request.progress certificatePath keyPath disk with
  | nothing path =>
      rw [reached] at entry
      exact .untouched (entry keyPath) (entry certificatePath)
  | keyOnly keyPlace =>
      rw [reached] at entry
      rcases entries_of_keyOnly material nested reached with
        ⟨_, certificateStays⟩
      have certificate := (entry certificatePath).trans certificateStays
      refine .keyOnly request (List.mem_singleton_self request) keyPlace reached certificate ?_
      intro mode content found
      exact not_file_of_keyOnly nested reached mode content (certificate.symm.trans found)
  | both keyPlace certificatePlace =>
      rw [reached] at entry
      rcases places_of_both reached with ⟨keyPlaced, certificatePlaced⟩
      have different : keyPlace ≠ certificatePlace := by
        rintro rfl
        exact apart keyPlace certificatePlaced keyPlaced
      rcases entries_of_both material reached with
        ⟨certificateIn, keyIn⟩
      rw [if_neg different] at keyIn
      refine .paired request (List.mem_singleton_self request) ⟨material, mints.makes, ?_, ?_⟩
      · exact (entry keyPath).trans keyIn
      · exact (entry certificatePath).trans certificateIn

theorem leaves_run (nested : disk.tree.Nested)
    (apart : ∀ place, disk.placeFor? certificatePath = some place →
      disk.placeFor? keyPath ≠ some place)
    (request : MintRequest) :
    Leaves certificatePath keyPath disk (run certificatePath keyPath disk request) [request] := by
  rcases (request.workshop disk).mints_or_refuses request.bits request.subject certificatePath
    keyPath with ⟨material, mints⟩ | ⟨halt, refuses⟩
  · exact leaves_of_mints nested apart mints
  · have unchanged : run certificatePath keyPath disk request = (request.workshop disk).disk :=
      refuses.disk
    rw [unchanged]
    exact .untouched rfl rfl

theorem leaves_runAll (nested : disk.tree.Nested)
    (apart : ∀ place, disk.placeFor? certificatePath = some place →
      disk.placeFor? keyPath ≠ some place)
    (requests : List MintRequest) :
    Leaves certificatePath keyPath disk (runAll certificatePath keyPath disk requests)
      requests := by
  induction requests generalizing disk with
  | nil => exact .untouched rfl rfl
  | cons request rest ih =>
      have same := sameDirectories_run certificatePath keyPath disk request
      have midNested := nested.of_sameDirectories same
      have first := leaves_run nested apart request
      have later := ih midNested (by simpa only [placeFor?_run] using apart)
      cases later with
      | untouched key certificate =>
          cases first with
          | untouched firstKey firstCertificate =>
              exact .untouched (key.trans firstKey) (certificate.trans firstCertificate)
          | paired maker mem pair =>
              rcases pair with ⟨material, makes, keyIn, certificateIn⟩
              refine .paired maker ?_ ⟨material, makes, ?_, ?_⟩
              · exact List.mem_cons.mpr (.inl (List.mem_singleton.mp mem))
              · exact key.trans keyIn
              · exact certificate.trans certificateIn
          | keyOnly maker mem keyPlace reached firstCertificate noCertificate =>
              have stays : maker ∈ request :: rest :=
                List.mem_cons.mpr (.inl (List.mem_singleton.mp mem))
              refine .keyOnly maker stays keyPlace reached (certificate.trans firstCertificate) ?_
              rw [runAll, List.foldl_cons, ← runAll, certificate]
              exact noCertificate
      | paired maker mem pair => exact .paired maker (List.mem_cons_of_mem request mem) pair
      | keyOnly maker mem keyPlace reached certificate noCertificate =>
          have before := reached
          rw [progress_run] at before
          have stays := List.mem_cons_of_mem request mem
          cases first with
          | untouched _ firstCertificate =>
              exact .keyOnly maker stays keyPlace before (certificate.trans firstCertificate)
                noCertificate
          | paired _ _ pair =>
              rcases pair with ⟨material, _, _, certificateIn⟩
              exact absurd certificateIn (not_file_of_keyOnly midNested reached _ _)
          | keyOnly _ _ _ _ firstCertificate _ =>
              exact .keyOnly maker stays keyPlace before (certificate.trans firstCertificate)
                noCertificate

theorem keyEntry_of_makes {material : KeyMaterial}
    (makes : request.keys.Makes request.bits request.subject material) :
    material.keyEntry = request.keyEntry := by
  rw [KeyMaterial.keyEntry, makes.key]
  rfl

theorem fails_of_error (nested : disk.tree.Nested) {halt : Halt MintError}
    (failed : request.result certificatePath keyPath disk = .error halt) :
    request.Fails certificatePath keyPath disk halt := by
  rcases (request.workshop disk).mints_or_refuses request.bits request.subject certificatePath
    keyPath with ⟨material, mints⟩ | ⟨other, refuses⟩
  · have after := tree_run mints
    have entry := entryAt?_run mints
    have answers : Workshop.Answers certificatePath keyPath material
        (request.progress certificatePath keyPath disk) (.error halt) :=
      failed ▸ mints.answers
    cases reached : request.progress certificatePath keyPath disk with
    | nothing path =>
        rw [reached] at after entry
        refine { certificate := entry certificatePath, unchanged := fun _ => after, keyOnly := ?_ }
        intro keyPlace other
        simp [reached] at other
    | keyOnly keyPlace =>
        rw [reached] at after entry answers
        rcases entries_of_keyOnly material nested reached with
          ⟨keyIn, certificateStays⟩
        have same := keyEntry_of_makes mints.makes
        refine
          { certificate := (entry certificatePath).trans certificateStays
            unchanged := ?_
            keyOnly := ?_ }
        · rintro (other | noFile)
          · exact absurd reached (other keyPlace)
          · cases answers
            cases noFile
        · intro place reachedPlace _
          cases reached.symm.trans reachedPlace
          cases answers with
          | keyOnly _ cause =>
              refine ⟨⟨cause, rfl⟩, ?_, ?_⟩
              · rw [after, KeyMaterial.place, same]
              · rw [entry, keyIn, same]
    | both keyPlace certificatePlace =>
        rw [reached] at answers
        cases answers
  · have unchanged : run certificatePath keyPath disk request = (request.workshop disk).disk :=
      refuses.disk
    have halt_eq : halt = other := by
      have answers : Except.error halt = Except.error other := failed.symm.trans refuses.answers
      cases answers
      rfl
    refine
      { certificate := by rw [unchanged]; rfl
        unchanged := fun _ => by rw [unchanged]; rfl
        keyOnly := ?_ }
    intro keyPlace _ persistence
    rw [halt_eq, refuses.noFile] at persistence
    cases persistence

/-- A request for a certificate that names the usual subject. -/
def plain : MintRequest :=
  { bits := 2048, subject := {}, clock := 0, keys := { seed := [] } }

theorem writable_plain :
    CertificateTime.Writable plain.subject.validityStart.toInt
      plain.subject.validityEnd.toInt := by
  constructor <;> decide +kernel

theorem exists_mints_plain (certificatePath keyPath : String) (disk : Disk) :
    ∃ material, (plain.workshop disk).Mints plain.bits plain.subject certificatePath keyPath
      material := by
  obtain ⟨name, named⟩ : ∃ name, DistinguishedName.ofSubject plain.subject = .ok name := ⟨_, rfl⟩
  have planned : KeyMaterial.Planned plain.bits plain.subject (plain.workshop disk).seconds
      plain.subject.validityStart.toInt plain.subject.validityEnd.toInt name :=
    { checked := rfl
      sized := rfl
      starts := rfl
      ends := rfl
      signs := rfl
      named
      writable := writable_plain }
  exact ⟨_, Workshop.mints_of_planned planned certificatePath keyPath⟩

/-- A disk on which a directory stands where a certificate is to go. -/
def obstructed : Disk :=
  { tree := ⟨[([.text "work"], .directory), ([.text "work", .text "d"], .directory)]⟩
    workingDirectory := [.text "work"] }

theorem nested_obstructed : obstructed.tree.Nested :=
  FileTree.nested_of_entries (by decide)

theorem progress_obstructed :
    plain.progress "d" "key.pem" obstructed =
      .keyOnly [.text "work", .text "key.pem"] := by
  decide +kernel

theorem exists_error_obstructed :
    ∃ cause,
      plain.result "d" "key.pem" obstructed = .error (.failure (.persistence "d" cause)) := by
  rcases exists_mints_plain "d" "key.pem" obstructed with ⟨material, mints⟩
  have answers : Workshop.Answers "d" "key.pem" material
      (plain.progress "d" "key.pem" obstructed)
      (plain.result "d" "key.pem" obstructed) := mints.answers
  rw [progress_obstructed] at answers
  generalize plain.result "d" "key.pem" obstructed = result at answers ⊢
  cases answers with
  | keyOnly keyPlace cause => exact ⟨cause, rfl⟩

/-- A request that does not succeed changes neither file, unless the certificate has no place
although its temporary file can be written and the place of the key is there: then the new key is
left behind. After any requests for two places, a certificate that they wrote lies beside the key
of the same request. -/
theorem mint_keeps_pairs_together (certificatePath keyPath : String) {disk : Disk}
    (nested : disk.tree.Nested) :
    (∀ (request : MintRequest) (halt : Halt MintError),
      request.result certificatePath keyPath disk = .error halt →
        request.Fails certificatePath keyPath disk halt) ∧
    ((∀ place, disk.placeFor? certificatePath = some place →
        disk.placeFor? keyPath ≠ some place) →
      ∀ requests : List MintRequest,
        Leaves certificatePath keyPath disk (runAll certificatePath keyPath disk requests)
          requests) :=
  ⟨fun _ _ failed => fails_of_error nested failed,
    fun apart requests => leaves_runAll nested apart requests⟩

theorem mint_keeps_pairs_together_obstructed :
    obstructed.tree.Nested ∧
      ∃ halt, plain.result "d" "key.pem" obstructed = .error halt ∧
        plain.Fails "d" "key.pem" obstructed halt := by
  rcases exists_error_obstructed with ⟨cause, failed⟩
  have together := mint_keeps_pairs_together "d" "key.pem" nested_obstructed
  exact ⟨nested_obstructed, _, failed, together.1 plain _ failed⟩

theorem mint_failure_leaves_key :
    (∃ cause,
      plain.result "d" "key.pem" obstructed = .error (.failure (.persistence "d" cause))) ∧
      obstructed.entryAt? "key.pem" = none ∧
      (run "d" "key.pem" obstructed plain).entryAt? "key.pem" = some plain.keyEntry := by
  rcases exists_error_obstructed with ⟨cause, failed⟩
  have fails := fails_of_error nested_obstructed failed
  refine ⟨⟨cause, failed⟩, by decide +kernel, ?_⟩
  exact (fails.keyOnly _ progress_obstructed rfl).2.2

/-- What a request that succeeds delivers. -/
structure Delivers (request : MintRequest) (certificatePath keyPath : String) (disk : Disk)
    (minted : MintedCertificate) : Prop where
  paths : minted.certificatePath = certificatePath ∧ minted.keyPath = keyPath
  certificate : ∃ certificate : Certificate,
    certificate.body.publicKey = (request.keys.nextKey request.bits).publicKey ∧
      DistinguishedName.ofSubject request.subject = .ok certificate.body.subject ∧
      (run certificatePath keyPath disk request).entryAt? minted.certificatePath =
        some (.file 0o644 certificate.toPem.toUTF8.toList)
  key :
    (run certificatePath keyPath disk request).entryAt? minted.keyPath =
        some (.file 0o600 (request.keys.nextKey request.bits).toPem.toUTF8.toList) ↔
      disk.placeFor? keyPath ≠ disk.placeFor? certificatePath

theorem delivers_of_mints {minted : MintedCertificate} {material : KeyMaterial}
    (mints : (request.workshop disk).Mints request.bits request.subject certificatePath keyPath
      material)
    (succeeded : request.result certificatePath keyPath disk = .ok minted) :
    request.Delivers certificatePath keyPath disk minted := by
  have answers : Workshop.Answers certificatePath keyPath material
      (request.progress certificatePath keyPath disk) (.ok minted) :=
    succeeded ▸ mints.answers
  have entry := entryAt?_run mints
  cases reached : request.progress certificatePath keyPath disk with
  | nothing path =>
      rw [reached] at answers
      cases answers
  | keyOnly keyPlace =>
      rw [reached] at answers
      cases answers
  | both keyPlace certificatePlace =>
      rw [reached] at answers entry
      cases answers
      rcases places_of_both reached with ⟨keyPlaced, certificatePlaced⟩
      rcases entries_of_both material reached with ⟨certificateIn, keyIn⟩
      rcases mints.makes.certificate with ⟨name, named, certificatePem⟩
      refine { paths := ⟨rfl, rfl⟩, certificate := ?_, key := ?_ }
      · refine ⟨Certificate.selfSigned (request.keys.nextKey request.bits) name
          request.subject.serialNumber.toNat material.notBefore material.notAfter, rfl, named, ?_⟩
        rw [entry, certificateIn, KeyMaterial.certificateEntry, certificatePem]
        rfl
      · have places : disk.placeFor? keyPath = some keyPlace ∧
            disk.placeFor? certificatePath = some certificatePlace :=
          ⟨keyPlaced, certificatePlaced⟩
        rw [entry, keyIn, places.1, places.2]
        by_cases together : keyPlace = certificatePlace
        · -- The mode tells the certificate from the key.
          simp [together, KeyMaterial.certificateEntry, certificateFileMode]
        · simp only [together, if_false, keyEntry_of_makes mints.makes, keyEntry, keyFileMode,
            ne_eq, Option.some.injEq, not_false_eq_true]

def vacant : Disk :=
  { tree := ⟨[([.text "work"], .directory)]⟩, workingDirectory := [.text "work"] }

theorem exists_minted_of_both {certificatePath keyPath : String} {disk : Disk}
    {keyPlace certificatePlace : Location}
    (reached : plain.progress certificatePath keyPath disk = .both keyPlace certificatePlace) :
    ∃ minted, plain.result certificatePath keyPath disk = .ok minted := by
  rcases exists_mints_plain certificatePath keyPath disk with ⟨material, mints⟩
  have answers : Workshop.Answers certificatePath keyPath material
      (plain.progress certificatePath keyPath disk)
      (plain.result certificatePath keyPath disk) := mints.answers
  rw [reached] at answers
  generalize plain.result certificatePath keyPath disk = result at answers ⊢
  cases answers with
  | both keyPlace certificatePlace => exact ⟨_, rfl⟩

theorem progress_vacant_apart :
    plain.progress "cert.pem" "key.pem" vacant =
      .both [.text "work", .text "key.pem"] [.text "work", .text "cert.pem"] := by
  decide +kernel

theorem progress_vacant_together :
    plain.progress "same.pem" "same.pem" vacant =
      .both [.text "work", .text "same.pem"] [.text "work", .text "same.pem"] := by
  decide +kernel

/-- A request that succeeds delivers the certificate, and the key if and only if the two paths lead to
different places. -/
theorem mint_delivers_key_iff_apart {certificatePath keyPath : String} {disk : Disk}
    {request : MintRequest} {minted : MintedCertificate}
    (succeeded : request.result certificatePath keyPath disk = .ok minted) :
    request.Delivers certificatePath keyPath disk minted := by
  rcases (request.workshop disk).mints_or_refuses request.bits request.subject certificatePath
    keyPath with ⟨material, mints⟩ | ⟨error, refuses⟩
  · exact delivers_of_mints mints succeeded
  · have answers : Except.error error = Except.ok minted := refuses.answers.symm.trans succeeded
    cases answers

theorem mint_delivers_key_iff_apart_vacant :
    ∃ minted, plain.result "cert.pem" "key.pem" vacant = .ok minted ∧
      plain.Delivers "cert.pem" "key.pem" vacant minted := by
  rcases exists_minted_of_both progress_vacant_apart with ⟨minted, succeeded⟩
  exact ⟨minted, succeeded, mint_delivers_key_iff_apart succeeded⟩

theorem mint_onto_one_path_loses_key :
    ∃ minted, plain.result "same.pem" "same.pem" vacant = .ok minted ∧
      (run "same.pem" "same.pem" vacant plain).entryAt? minted.keyPath ≠ some plain.keyEntry := by
  rcases exists_minted_of_both progress_vacant_together with ⟨minted, succeeded⟩
  rcases exists_mints_plain "same.pem" "same.pem" vacant with ⟨material, mints⟩
  have delivers := delivers_of_mints mints succeeded
  refine ⟨minted, succeeded, ?_⟩
  intro keyIn
  exact delivers.key.mp keyIn rfl

end MintRequest

end MailProvision
