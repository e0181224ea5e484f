import MailProvision.Proofs.Certificate.Generating
import MailProvision.Proofs.Certificate.Writing

/-!
# Minting a pair

Minting makes a pair and then writes it. What is on the disk afterwards, and what minting answers,
is either nothing new with the way in which the making ended, or decided by how far the writing of
the pair gets.
-/

namespace MailProvision

namespace Workshop

variable {workshop : Workshop} {bits : Nat} {subject : Subject}
  {certificatePath keyPath : String}

/-- How far the writing of a pair gets on the disk of a workshop. -/
def progress (workshop : Workshop) (certificatePath keyPath : String) : Progress :=
  workshop.disk.progressTo certificatePath keyPath

/-- What minting answers for a pair when its writing gets this far. -/
inductive Answers (certificatePath keyPath : String) (material : KeyMaterial) :
    Progress → Except (Halt MintError) MintedCertificate → Prop
  | nothing (path : String) (cause : FileFault) :
      Answers certificatePath keyPath material (.nothing path)
        (.error (.failure (.persistence path cause)))
  | keyOnly (keyPlace : Location) (cause : FileFault) :
      Answers certificatePath keyPath material (.keyOnly keyPlace)
        (.error (.failure (.persistence certificatePath cause)))
  | both (keyPlace certificatePlace : Location) :
      Answers certificatePath keyPath material (.both keyPlace certificatePlace) <| .ok
        { certificatePath
          keyPath
          notBefore := material.notBefore
          notAfter := material.notAfter }

/-- Minting makes a pair and writes as much of it as it can. -/
structure Mints (workshop : Workshop) (bits : Nat) (subject : Subject)
    (certificatePath keyPath : String) (material : KeyMaterial) : Prop where
  makes : workshop.keys.Makes bits subject material
  tree : (mint bits subject certificatePath keyPath workshop).state.disk.tree =
    material.place workshop.disk.tree (workshop.progress certificatePath keyPath)
  workingDirectory :
    (mint bits subject certificatePath keyPath workshop).state.disk.workingDirectory =
      workshop.disk.workingDirectory
  obstacles :
    (mint bits subject certificatePath keyPath workshop).state.disk.obstacles =
      workshop.disk.obstacles
  answers :
    Answers certificatePath keyPath material
      (workshop.progress certificatePath keyPath)
      (mint bits subject certificatePath keyPath workshop).result
  passes :
    workshop.disk.Passes (material.delivery certificatePath keyPath workshop.disk).Glimpse
      (mint bits subject certificatePath keyPath workshop).state.disk

/-- Minting breaks off before there is a pair. -/
structure Refuses (workshop : Workshop) (bits : Nat) (subject : Subject)
    (certificatePath keyPath : String) (halt : Halt MintError) : Prop where
  disk : (mint bits subject certificatePath keyPath workshop).state.disk = workshop.disk
  answers : (mint bits subject certificatePath keyPath workshop).result = .error halt
  noFile : halt.isPersistence = false

/-- The end of minting, once there is a pair. -/
def deliver (certificatePath keyPath : String) (material : KeyMaterial) :
    Action Workshop (Halt MintError) MintedCertificate := do
  let (certificatePath, keyPath) ← Workshop.onDisk (material.write certificatePath keyPath)
  return {
    certificatePath
    keyPath
    notBefore := material.notBefore
    notAfter := material.notAfter }

theorem mint_eq (bits : Nat) (subject : Subject) (certificatePath keyPath : String) :
    mint bits subject certificatePath keyPath =
      KeyMaterial.generate bits subject >>= deliver certificatePath keyPath :=
  rfl

theorem onDisk_result {Value : Type} (action : Action Disk WriteFault Value)
    (workshop : Workshop) :
    (onDisk action workshop).result =
      (action workshop.disk).result.mapError fun fault =>
        .failure (.persistence fault.path fault.cause) :=
  rfl

theorem deliver_disk (certificatePath keyPath : String) (material : KeyMaterial)
    (workshop : Workshop) :
    (deliver certificatePath keyPath material workshop).state.disk =
      (material.write certificatePath keyPath workshop.disk).state := by
  cases written : (material.write certificatePath keyPath workshop.disk).result <;>
    simp only [deliver, bind, Action.andThen, onDisk, Action.mapFailure, Action.within, written,
      mapError_ok, mapError_error, pure, Action.done]

theorem deliver_answers {certificatePath keyPath : String} {material : KeyMaterial}
    {workshop : Workshop} {progress : Progress}
    (answers : Progress.Answers certificatePath keyPath progress
      (material.write certificatePath keyPath workshop.disk).result) :
    Answers certificatePath keyPath material progress
      (deliver certificatePath keyPath material workshop).result := by
  simp only [deliver, bind, Action.andThen, onDisk, Action.mapFailure, Action.within]
  generalize (material.write certificatePath keyPath workshop.disk).result = result,
    (material.write certificatePath keyPath workshop.disk).state = disk,
    (material.write certificatePath keyPath workshop.disk).trace = trace at answers
  cases answers with
  | nothing path cause => exact .nothing path cause
  | keyOnly keyPlace cause => exact .keyOnly keyPlace cause
  | both keyPlace certificatePlace => exact .both keyPlace certificatePlace

/-- Once there is a pair, minting ends as the writing of that pair does. -/
theorem mints_of_made {material : KeyMaterial}
    (made : (KeyMaterial.generate bits subject workshop).result = .ok material)
    (certificatePath keyPath : String) :
    workshop.Mints bits subject certificatePath keyPath material := by
  have makes : workshop.keys.Makes bits subject material := by
    rcases KeyMaterial.generate_ok_iff.1 made with ⟨_, _, _, planned, rfl⟩
    exact planned.makes workshop.keys
  have written := Writing.reaches_progress
    { material, certificatePath, keyPath, disk := workshop.disk }
  have disk_eq : (mint bits subject certificatePath keyPath workshop).state.disk =
      (material.write certificatePath keyPath workshop.disk).state := by
    rw [mint_eq, Action.bind_state made, deliver_disk, KeyMaterial.disk_generate]
  refine
    { makes, tree := ?_, workingDirectory := ?_, obstacles := ?_, answers := ?_, passes := ?_ }
  · rw [disk_eq]
    simpa only [Writing.outcome, Writing.progress, progress] using written.tree
  · rw [disk_eq]
    simpa only [Writing.outcome] using written.workingDirectory
  · rw [disk_eq]
    simpa only [Writing.outcome] using written.obstacles
  · rw [mint_eq, Action.bind_result made]
    apply deliver_answers
    rw [KeyMaterial.disk_generate]
    simpa only [Writing.outcome, Writing.progress, progress] using written.answers
  · rw [disk_eq]
    simpa only [Writing.outcome, Writing.delivery] using written.passes

theorem mints_of_planned {notBefore notAfter : Int} {name : DistinguishedName}
    (planned : KeyMaterial.Planned bits subject workshop.seconds notBefore notAfter name)
    (certificatePath keyPath : String) :
    workshop.Mints bits subject certificatePath keyPath
      (.ofKey (workshop.keys.nextKey bits) subject notBefore notAfter name) :=
  mints_of_made (KeyMaterial.generate_ok_iff.2 ⟨notBefore, notAfter, name, planned, rfl⟩)
    certificatePath keyPath

/-- Without a pair, minting ends as its making does. -/
theorem refuses_of_unmade {halt : Halt MintError}
    (unmade : (KeyMaterial.generate bits subject workshop).result = .error halt)
    (certificatePath keyPath : String) :
    workshop.Refuses bits subject certificatePath keyPath halt where
  disk := by rw [mint_eq, Action.bind_state_of_error unmade, KeyMaterial.disk_generate]
  answers := Action.bind_error_iff.2 (.inl unmade)
  noFile := KeyMaterial.noFile_generate bits subject workshop halt unmade

/-- Minting leaves the disk alone or writes as much of a pair as it can. -/
theorem mints_or_refuses (workshop : Workshop) (bits : Nat) (subject : Subject)
    (certificatePath keyPath : String) :
    (∃ material, workshop.Mints bits subject certificatePath keyPath material) ∨
      ∃ halt, workshop.Refuses bits subject certificatePath keyPath halt := by
  cases made : (KeyMaterial.generate bits subject workshop).result with
  | ok material => exact .inl ⟨material, mints_of_made made certificatePath keyPath⟩
  | error halt => exact .inr ⟨halt, refuses_of_unmade made certificatePath keyPath⟩

theorem keeps_clock_mint (bits : Nat) (subject : Subject) (certificatePath keyPath : String) :
    (mint bits subject certificatePath keyPath).Keeps Workshop.clock := by
  have written (material : KeyMaterial) :
      (onDisk (material.write certificatePath keyPath)).Keeps Workshop.clock := by
    unfold onDisk
    apply Action.Keeps.mapFailure
    apply Action.Keeps.within
    intro _ _
    rfl
  unfold mint
  apply (KeyMaterial.keeps_generate (fun _ _ => rfl) bits subject).bind
  intro material
  apply (written material).bind
  rintro ⟨_, _⟩
  exact .of_still fun _ => rfl

theorem onDisk_ne_panic {Value : Type} (action : Action Disk WriteFault Value)
    (workshop : Workshop) : (onDisk action workshop).result ≠ .error .panic := by
  rw [onDisk_result, ne_eq, mapError_eq_error_iff]
  rintro ⟨_, _, ⟨⟩⟩

/-- Minting panics if and only if the making of the pair does. -/
theorem mint_panic_iff :
    (mint bits subject certificatePath keyPath workshop).result = .error .panic ↔
      (KeyMaterial.generate bits subject workshop).result = .error .panic := by
  rw [mint_eq, Action.bind_error_iff]
  constructor
  · rintro (unmade | ⟨material, _, undelivered⟩)
    · exact unmade
    · rw [deliver, Action.bind_error_iff] at undelivered
      rcases undelivered with unwritten | ⟨_, _, ⟨⟩⟩
      exact absurd unwritten (onDisk_ne_panic _ _)
  · exact .inl

/-- Minting succeeds if and only if a pair can be made and both files have a place. -/
theorem mint_ok_iff {minted : MintedCertificate} :
    (mint bits subject certificatePath keyPath workshop).result = .ok minted ↔
      ∃ notBefore notAfter name keyPlace certificatePlace,
        KeyMaterial.Planned bits subject workshop.seconds notBefore notAfter name ∧
          workshop.progress certificatePath keyPath = .both keyPlace certificatePlace ∧
          minted = { certificatePath, keyPath, notBefore, notAfter } := by
  constructor
  · intro succeeded
    rw [mint_eq] at succeeded
    rcases Action.bind_ok_iff.1 succeeded with ⟨material, generated, _⟩
    rcases KeyMaterial.generate_ok_iff.1 generated with ⟨notBefore, notAfter, name, planned, _⟩
    have answers := (mints_of_planned planned certificatePath keyPath).answers
    rw [mint_eq, succeeded] at answers
    generalize reached : workshop.progress certificatePath keyPath = progress at answers
    cases answers with
    | both keyPlace certificatePlace =>
        exact ⟨notBefore, notAfter, name, keyPlace, certificatePlace, planned, rfl, rfl⟩
  · rintro ⟨notBefore, notAfter, name, keyPlace, certificatePlace, planned, reached, rfl⟩
    have answers := (mints_of_planned planned certificatePath keyPath).answers
    rw [reached] at answers
    generalize (mint bits subject certificatePath keyPath workshop).result = result at answers
    cases answers with
    | both keyPlace certificatePlace => rfl

end Workshop

end MailProvision
