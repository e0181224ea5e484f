import Mathlib.Logic.ExistsUnique
import MailProvision.Proofs.Certificate.Pairs

/-!
# The ways in which minting ends

Writing a pair is four operations on files: both files are staged, and then both are moved. Which of
them is the first to fail is told here by the operations themselves, each on the disk that the ones
before it leave (`Writing.firstFailure?`), and this decides what minting does to the tree. It changes
nothing, leaves the key alone behind, or puts both files in place; whatever else there is stays as it
was, and no temporary file is left.
-/

namespace MailProvision

/-- The operations on files that writing a pair is made of, in their order. -/
inductive Move where
  | stageKey
  | stageCertificate
  | moveKey
  | moveCertificate
deriving DecidableEq

namespace Move

variable {Value : Type}

/-- The failure of an operation, or the first one after it. -/
def failureOr (move : Move) (outcome : Outcome Disk WriteFault Value)
    (next : Value → Disk → Option (Move × WriteFault)) : Option (Move × WriteFault) :=
  match outcome.result with
  | .error fault => some (move, fault)
  | .ok value => next value outcome.state

variable (move : Move) {next : Value → Disk → Option (Move × WriteFault)}

theorem failureOr_error (fault : WriteFault) (state : Disk) (trace : List Activity) :
    move.failureOr { result := .error fault, state, trace } next = some (move, fault) :=
  rfl

theorem failureOr_ok (value : Value) (state : Disk) (trace : List Activity) :
    move.failureOr { result := .ok value, state, trace } next = next value state :=
  rfl

theorem failureOr_eq_some_iff {outcome : Outcome Disk WriteFault Value} {first : Move}
    {fault : WriteFault} :
    move.failureOr outcome next = some (first, fault) ↔
      (move = first ∧ outcome.result = .error fault) ∨
        ∃ value, outcome.result = .ok value ∧ next value outcome.state = some (first, fault) := by
  rcases outcome with ⟨result, state, trace⟩
  cases result with
  | error other => simp [failureOr_error]
  | ok value => simp [failureOr_ok]

end Move

namespace Writing

/-- The path that an operation is about. -/
def pathOf (writing : Writing) : Move → String
  | .stageKey => writing.keyPath
  | .stageCertificate => writing.certificatePath
  | .moveKey => writing.keyPath
  | .moveCertificate => writing.certificatePath

/-- The first operation that fails, and how. -/
def firstFailure? (writing : Writing) : Option (Move × WriteFault) :=
  Move.stageKey.failureOr
    (StagedFile.stage writing.keyPath writing.material.privateKeyPem.toUTF8.toList keyFileMode
      writing.disk) fun key keyStaged =>
  Move.stageCertificate.failureOr
    (StagedFile.stage writing.certificatePath writing.material.certificatePem.toUTF8.toList
      certificateFileMode keyStaged) fun certificate bothStaged =>
  Move.moveKey.failureOr (key.commit bothStaged) fun _ keyMoved =>
  Move.moveCertificate.failureOr (certificate.commit keyMoved) fun _ _ => none

variable {writing : Writing}

/-- The first failure is what writing answers. -/
theorem result_of_firstFailure {move : Move} {fault : WriteFault}
    (failed : writing.firstFailure? = some (move, fault)) :
    writing.outcome.result = .error fault := by
  simp only [firstFailure?, Move.failureOr_eq_some_iff, reduceCtorEq, and_false, exists_false,
    or_false] at failed
  rw [outcome_eq, Action.bind_error_iff]
  rcases failed with ⟨_, refused⟩ | ⟨key, keyStaged, failed⟩
  · exact .inl refused
  · refine .inr ⟨key, keyStaged, Action.bind_error_iff.2 ?_⟩
    rw [Action.onFailure_result]
    rcases failed with ⟨_, refused⟩ | ⟨certificate, bothStaged, failed⟩
    · exact .inl refused
    · refine .inr ⟨certificate, bothStaged, ?_⟩
      rw [Action.onFailure_state_of_ok _ bothStaged, commits, Action.bind_error_iff,
        Action.onFailure_result]
      rcases failed with ⟨_, refused⟩ | ⟨path, keyMoved, _, refused⟩
      · exact .inl refused
      · refine .inr ⟨path, keyMoved, ?_⟩
        rw [Action.onFailure_state_of_ok _ keyMoved, Action.bind_error_iff]
        exact .inr ⟨(), rfl, Action.bind_error_iff.2 (.inl refused)⟩

/-- How far writing gets is decided by the first failure. -/
inductive Halts (writing : Writing) : Progress → Prop
  | early {move : Move} {fault : WriteFault} (early : move ≠ .moveCertificate)
      (names : fault.path = writing.pathOf move)
      (failed : writing.firstFailure? = some (move, fault)) :
      Halts writing (.nothing fault.path)
  | late {keyPlace : Location} {fault : WriteFault} (names : fault.path = writing.certificatePath)
      (failed : writing.firstFailure? = some (.moveCertificate, fault)) :
      Halts writing (.keyOnly keyPlace)
  | never {keyPlace certificatePlace : Location} (complete : writing.firstFailure? = none) :
      Halts writing (.both keyPlace certificatePlace)

theorem halts_progress (writing : Writing) : writing.Halts writing.progress := by
  simp only [progress, Disk.progressTo]
  split
  · rename_i refused
    rcases StagedFile.stage_of_refused refused writing.material.privateKeyPem.toUTF8.toList
      keyFileMode with ⟨cause, after, _, staged⟩
    have failed : writing.firstFailure? = some (.stageKey, { path := writing.keyPath, cause }) := by
      rw [firstFailure?, staged, Move.failureOr_error]
    exact @Halts.early writing .stageKey { path := writing.keyPath, cause } (by decide) rfl failed
  · rename_i keyAdmitted
    rw [Bool.not_eq_false] at keyAdmitted
    split
    · rename_i refused
      rw [← admits_keyStaged] at refused
      rcases StagedFile.stage_of_refused refused writing.material.certificatePem.toUTF8.toList
        certificateFileMode with ⟨cause, after, _, staged⟩
      have failed : writing.firstFailure? =
          some (.stageCertificate, { path := writing.certificatePath, cause }) := by
        rw [firstFailure?, stage_key keyAdmitted, Move.failureOr_ok, staged,
          Move.failureOr_error]
      exact @Halts.early writing .stageCertificate { path := writing.certificatePath, cause }
        (by decide) rfl failed
    · rename_i certificateAdmitted
      rw [Bool.not_eq_false] at certificateAdmitted
      split
      · rename_i unplaced
        rcases commit_key_of_unplaced unplaced with ⟨cause, refused⟩
        have failed : writing.firstFailure? =
            some (.moveKey, { path := writing.keyPath, cause }) := by
          rw [firstFailure?, stage_key keyAdmitted, Move.failureOr_ok,
            stage_certificate certificateAdmitted, Move.failureOr_ok, refused,
            Move.failureOr_error]
        exact @Halts.early writing .moveKey { path := writing.keyPath, cause } (by decide) rfl
          failed
      · rename_i keyPlaced unplaced
        rcases commit_certificate_of_unplaced keyPlaced unplaced with ⟨cause, refused⟩
        have failed : writing.firstFailure? =
            some (.moveCertificate, { path := writing.certificatePath, cause }) := by
          rw [firstFailure?, stage_key keyAdmitted, Move.failureOr_ok,
            stage_certificate certificateAdmitted, Move.failureOr_ok,
            commit_key keyAdmitted keyPlaced, Move.failureOr_ok, refused, Move.failureOr_error]
        exact .late rfl failed
      · rename_i keyPlaced certificatePlaced
        have complete : writing.firstFailure? = none := by
          rw [firstFailure?, stage_key keyAdmitted, Move.failureOr_ok,
            stage_certificate certificateAdmitted, Move.failureOr_ok,
            commit_key keyAdmitted keyPlaced, Move.failureOr_ok,
            commit_certificate certificateAdmitted keyPlaced certificatePlaced,
            Move.failureOr_ok]
        exact .never complete

end Writing

/-- A call for a pair at two paths. -/
structure MintCall where
  bits : Nat
  subject : Subject
  certificatePath : String
  keyPath : String
  workshop : Workshop

/-- The ways in which a call can end. -/
inductive Ending where
  /-- Refused before there is a pair. -/
  | refused
  /-- Broken off before there is a pair, and nothing is answered. -/
  | panicked
  /-- Nothing is put in place. -/
  | unwritten
  /-- The key is put in place, but not the certificate. -/
  | keyLeft
  /-- Both files are put in place. -/
  | delivered
deriving DecidableEq

namespace MintCall

variable (call : MintCall)

def outcome : Outcome Workshop (Halt MintError) MintedCertificate :=
  mint call.bits call.subject call.certificatePath call.keyPath call.workshop

def before : Disk :=
  call.workshop.disk

def after : Disk :=
  call.outcome.state.disk

/-- The pair that is made, or the way in which its making breaks off. -/
def pair : Except (Halt MintError) KeyMaterial :=
  (KeyMaterial.generate call.bits call.subject call.workshop).result

/-- The writing of a pair. -/
def writing (material : KeyMaterial) : Writing where
  material := material
  certificatePath := call.certificatePath
  keyPath := call.keyPath
  disk := call.before

/-- What is answered and what has changed on the disk when a call ends in one of the ways. -/
inductive Ends : Ending → Prop
  | refused {error : MintError} (unmade : call.pair = .error (.failure error))
      (answer : call.outcome.result = .error (.failure error))
      (noFile : error.isPersistence = false) (tree : call.after.tree = call.before.tree) :
      Ends .refused
  | panicked {notBefore notAfter : Int} {name : DistinguishedName}
      (drafted : KeyMaterial.Drafted call.bits call.subject call.workshop.seconds notBefore notAfter
        name)
      (unwritable : ¬CertificateTime.Writable notBefore notAfter)
      (unmade : call.pair = .error .panic) (answer : call.outcome.result = .error .panic)
      (tree : call.after.tree = call.before.tree) :
      Ends .panicked
  | unwritten {material : KeyMaterial} {move : Move} {fault : WriteFault}
      (made : call.pair = .ok material)
      (failed : (call.writing material).firstFailure? = some (move, fault))
      (early : move ≠ .moveCertificate) (names : fault.path = (call.writing material).pathOf move)
      (answer : call.outcome.result = .error (.failure (.persistence fault.path fault.cause)))
      (tree : call.after.tree = call.before.tree) :
      Ends .unwritten
  | keyLeft {material : KeyMaterial} {fault : WriteFault} {keyPlace : Location}
      (made : call.pair = .ok material)
      (failed : (call.writing material).firstFailure? = some (.moveCertificate, fault))
      (names : fault.path = call.certificatePath)
      (answer : call.outcome.result = .error (.failure (.persistence fault.path fault.cause)))
      (placed : call.before.placeFor? call.keyPath = some keyPlace)
      (found : call.after.entryAt? call.keyPath = some material.keyEntry)
      (tree : ∀ location, call.after.tree.get? location =
        if location = keyPlace then some material.keyEntry
        else call.before.tree.get? location) :
      Ends .keyLeft
  | delivered {material : KeyMaterial} {keyPlace certificatePlace : Location}
      (made : call.pair = .ok material)
      (complete : (call.writing material).firstFailure? = none)
      (answer : call.outcome.result = .ok
        { certificatePath := call.certificatePath
          keyPath := call.keyPath
          notBefore := material.notBefore
          notAfter := material.notAfter })
      (keyPlaced : call.before.placeFor? call.keyPath = some keyPlace)
      (certificatePlaced : call.before.placeFor? call.certificatePath = some certificatePlace)
      (keyFound : call.after.entryAt? call.keyPath = some material.keyEntry)
      (certificateFound :
        call.after.entryAt? call.certificatePath = some material.certificateEntry)
      (tree : ∀ location, call.after.tree.get? location =
        if location = certificatePlace then some material.certificateEntry
        else if location = keyPlace then some material.keyEntry
        else call.before.tree.get? location) :
      Ends .delivered

variable {call}

/-- A failure to write the pair is the failure of the call. -/
theorem result_of_failure {material : KeyMaterial} {move : Move} {fault : WriteFault}
    (made : call.pair = .ok material)
    (failed : (call.writing material).firstFailure? = some (move, fault)) :
    call.outcome.result = .error (.failure (.persistence fault.path fault.cause)) := by
  have written : (call.writing material).outcome.result = .error fault :=
    Writing.result_of_firstFailure failed
  rw [outcome, Workshop.mint_eq, Action.bind_result made, Workshop.deliver, Action.bind_error_iff]
  left
  rw [Workshop.onDisk_result, KeyMaterial.disk_generate]
  exact congrArg (Except.mapError _) written

section Paths

variable (call)

def request : MintRequest where
  bits := call.bits
  subject := call.subject
  clock := call.workshop.clock
  keys := call.workshop.keys
  obstacles := call.before.obstacles

theorem workingDirectory_after : call.after.workingDirectory = call.before.workingDirectory :=
  MintRequest.workingDirectory_run call.certificatePath call.keyPath call.before call.request

theorem sameDirectories_after : call.before.tree.SameDirectories call.after.tree :=
  MintRequest.sameDirectories_run call.certificatePath call.keyPath call.before call.request

theorem placeFor?_after (path : String) : call.after.placeFor? path = call.before.placeFor? path :=
  MintRequest.placeFor?_run call.certificatePath call.keyPath call.before call.request path

end Paths

/-- The tree once a pair has been made. -/
theorem tree_after {material : KeyMaterial} (made : call.pair = .ok material) :
    call.after.tree = material.place call.before.tree (call.writing material).progress :=
  (Workshop.mints_of_made made call.certificatePath call.keyPath).tree

theorem entryAt?_after {material : KeyMaterial} (made : call.pair = .ok material)
    (path : String) :
    call.after.entryAt? path =
      (material.place call.before.tree (call.writing material).progress).entryAt?
        call.before.workingDirectory path := by
  rw [Disk.entryAt?, workingDirectory_after, tree_after made]

theorem keyLeft_of_late {material : KeyMaterial} {keyPlace : Location} {fault : WriteFault}
    (made : call.pair = .ok material)
    (reached : (call.writing material).progress = .keyOnly keyPlace)
    (names : fault.path = call.certificatePath)
    (failed : (call.writing material).firstFailure? = some (.moveCertificate, fault)) :
    call.Ends .keyLeft := by
  rcases Disk.places_of_progressTo_keyOnly reached with ⟨keyPlaced, _⟩
  refine .keyLeft made failed names (result_of_failure made failed) keyPlaced ?_ ?_
  · rw [entryAt?_after made, reached]
    exact material.key_of_keyOnly reached
  · intro location
    rw [tree_after made, reached, KeyMaterial.place,
      FileTree.get?_insert_proper (FileTree.place_ne_root keyPlaced)]

/-- Every call that does not put both files in place ends in one of the other ways. -/
theorem ends_cases (call : MintCall) :
    call.Ends .refused ∨ call.Ends .panicked ∨ call.Ends .unwritten ∨ call.Ends .keyLeft ∨
      ∃ material keyPlace certificatePlace, call.pair = .ok material ∧
        (call.writing material).firstFailure? = none ∧
        (call.writing material).progress = .both keyPlace certificatePlace := by
  cases made : call.pair with
  | error halt =>
      have refuses := Workshop.refuses_of_unmade made call.certificatePath call.keyPath
      have tree : call.after.tree = call.before.tree := congrArg Disk.tree refuses.disk
      cases halt with
      | failure error => exact .inl (.refused made refuses.answers refuses.noFile tree)
      | panic =>
          rcases KeyMaterial.generate_panic_iff.1 made with ⟨_, _, _, drafted, unwritable⟩
          exact .inr (.inl (.panicked drafted unwritable made refuses.answers tree))
  | ok material =>
      right
      right
      have halts := (call.writing material).halts_progress
      generalize reached : (call.writing material).progress = progress at halts
      cases halts with
      | early early names failed =>
          have tree := tree_after made
          rw [reached] at tree
          exact .inl (.unwritten made failed early names (result_of_failure made failed) tree)
      | late names failed => exact .inr (.inl (keyLeft_of_late made reached names failed))
      | never complete => exact .inr (.inr ⟨material, _, _, rfl, complete, reached⟩)

/-- Where both files have a place the call succeeds. -/
theorem result_of_both {material : KeyMaterial} {keyPlace certificatePlace : Location}
    (made : call.pair = .ok material)
    (reached : (call.writing material).progress = .both keyPlace certificatePlace) :
    call.outcome.result = .ok
      { certificatePath := call.certificatePath
        keyPath := call.keyPath
        notBefore := material.notBefore
        notAfter := material.notAfter } := by
  have answers : Workshop.Answers call.certificatePath call.keyPath material
      (call.writing material).progress call.outcome.result :=
    (Workshop.mints_of_made made call.certificatePath call.keyPath).answers
  rw [reached] at answers
  generalize call.outcome.result = result at answers ⊢
  cases answers with
  | both keyPlace certificatePlace => rfl

theorem delivered_of_both {material : KeyMaterial} {keyPlace certificatePlace : Location}
    (apart : ∀ place, call.before.placeFor? call.certificatePath = some place →
      call.before.placeFor? call.keyPath ≠ some place)
    (made : call.pair = .ok material)
    (complete : (call.writing material).firstFailure? = none)
    (reached : (call.writing material).progress = .both keyPlace certificatePlace) :
    call.Ends .delivered := by
  rcases Disk.places_of_progressTo_both reached with ⟨keyPlaced, certificatePlaced⟩
  rcases material.entries_of_both reached with ⟨certificateIn, keyIn⟩
  have different : keyPlace ≠ certificatePlace := by
    rintro rfl
    exact apart keyPlace certificatePlaced keyPlaced
  rw [if_neg different] at keyIn
  refine .delivered made complete (result_of_both made reached) keyPlaced certificatePlaced ?_ ?_ ?_
  · rw [entryAt?_after made, reached]
    exact keyIn
  · rw [entryAt?_after made, reached]
    exact certificateIn
  · intro location
    rw [tree_after made, reached, KeyMaterial.place,
      FileTree.get?_insert_proper (FileTree.place_ne_root certificatePlaced),
      FileTree.get?_insert_proper (FileTree.place_ne_root keyPlaced)]

theorem exists_ends (apart : ∀ place, call.before.placeFor? call.certificatePath = some place →
      call.before.placeFor? call.keyPath ≠ some place) :
    ∃ ending, call.Ends ending := by
  rcases call.ends_cases with refused | panicked | unwritten | keyLeft |
    ⟨material, keyPlace, certificatePlace, made, complete, reached⟩
  · exact ⟨_, refused⟩
  · exact ⟨_, panicked⟩
  · exact ⟨_, unwritten⟩
  · exact ⟨_, keyLeft⟩
  · exact ⟨_, delivered_of_both apart made complete reached⟩

/-- The ending that the pair and the first failure point to. -/
def ending (call : MintCall) : Ending :=
  match call.pair with
  | .error (.failure _) => .refused
  | .error .panic => .panicked
  | .ok material =>
      match (call.writing material).firstFailure? with
      | some (move, _) => if move = .moveCertificate then .keyLeft else .unwritten
      | none => .delivered

theorem Ends.eq_ending {ending : Ending} (ends : call.Ends ending) : ending = call.ending := by
  cases ends with
  | refused unmade => simp [MintCall.ending, unmade]
  | panicked _ _ unmade => simp [MintCall.ending, unmade]
  | unwritten made failed early => simp [MintCall.ending, made, failed, early]
  | keyLeft made failed => simp [MintCall.ending, made, failed]
  | delivered made complete => simp [MintCall.ending, made, complete]

/-- No ending touches the locations of temporary files. -/
theorem Ends.get?_temporary {ending : Ending} (ends : call.Ends ending) (directory : Location)
    (number : Nat) :
    call.after.tree.get? (directory ++ [.temporary number]) =
      call.before.tree.get? (directory ++ [.temporary number]) := by
  cases ends with
  | refused _ _ _ tree => rw [tree]
  | panicked _ _ _ _ tree => rw [tree]
  | unwritten _ _ _ _ _ tree => rw [tree]
  | keyLeft _ _ _ _ placed _ tree =>
      rw [tree, if_neg (FileTree.place_ne_temporary placed _ _).symm]
  | delivered _ _ _ keyPlaced certificatePlaced _ _ tree =>
      rw [tree, if_neg (FileTree.place_ne_temporary certificatePlaced _ _).symm,
        if_neg (FileTree.place_ne_temporary keyPlaced _ _).symm]

/-- A call for two different files ends in exactly one of the ways, and none of its temporary files is
left. -/
theorem mint_ends_in_one_way
    (apart : ∀ place, call.before.placeFor? call.certificatePath = some place →
      call.before.placeFor? call.keyPath ≠ some place) :
    (∃! ending, call.Ends ending) ∧
      ∀ directory number, call.before.nextNumber ≤ number →
        call.after.tree.get? (directory ++ [.temporary number]) = none := by
  rcases exists_ends apart with ⟨ending, ends⟩
  constructor
  · refine ⟨ending, ends, ?_⟩
    intro other otherEnds
    exact otherEnds.eq_ending.trans ends.eq_ending.symm
  · intro directory number drawn
    rw [ends.get?_temporary]
    apply Disk.get?_of_nextNumber_le drawn
    simp

theorem mint_ends_in_one_way_vacant :
    let call : MintCall :=
      { bits := 2048
        subject := {}
        certificatePath := "cert.pem"
        keyPath := "key.pem"
        workshop := MintRequest.plain.workshop MintRequest.vacant }
    (∀ place, call.before.placeFor? call.certificatePath = some place →
      call.before.placeFor? call.keyPath ≠ some place) ∧
        call.Ends .delivered ∧ ∀ ending, call.Ends ending → ending = .delivered := by
  intro call
  have reached := MintRequest.progress_vacant_apart
  rcases MintRequest.places_of_both reached with ⟨keyPlaced, certificatePlaced⟩
  have apart : ∀ place, call.before.placeFor? call.certificatePath = some place →
      call.before.placeFor? call.keyPath ≠ some place := by
    intro place placed together
    cases placed.symm.trans certificatePlaced
    exact absurd (Option.some.inj (together.symm.trans keyPlaced)) (by decide)
  rcases MintRequest.exists_minted_of_both reached with ⟨minted, succeeded⟩
  have succeeded : call.outcome.result = .ok minted := succeeded
  rcases (mint_ends_in_one_way apart).1 with ⟨ending, ends, unique⟩
  have delivered : ending = .delivered := by
    cases ends with
    | refused _ answer => cases answer.symm.trans succeeded
    | panicked _ _ _ answer => cases answer.symm.trans succeeded
    | unwritten _ _ _ _ answer => cases answer.symm.trans succeeded
    | keyLeft _ _ _ answer => cases answer.symm.trans succeeded
    | delivered => rfl
  exact ⟨apart, delivered ▸ ends, fun other ends' => (unique other ends').trans delivered⟩

/-- A call for a certificate that would hold before year 0. -/
def ancient : MintCall where
  bits := 2048
  subject := { validityStart := -70000000000, validityEnd := -69999999999 }
  certificatePath := "cert.pem"
  keyPath := "key.pem"
  workshop := MintRequest.plain.workshop MintRequest.vacant

theorem pair_ancient : ancient.pair = .error .panic := by
  obtain ⟨name, named⟩ : ∃ name, DistinguishedName.ofSubject ancient.subject = .ok name :=
    ⟨_, rfl⟩
  refine KeyMaterial.generate_panic_iff.2 ⟨-70000000000, -69999999999, name, ?_, ?_⟩
  · exact
      { checked := rfl
        sized := rfl
        starts := offsetFrom_ok_iff.2 ⟨by decide +kernel, by decide +kernel⟩
        ends := offsetFrom_ok_iff.2 ⟨by decide +kernel, by decide +kernel⟩
        signs := rfl
        named }
  · rintro ⟨starts, _⟩
    exact absurd starts (by decide +kernel)

theorem mint_panics_before_year_zero :
    (∀ place, ancient.before.placeFor? ancient.certificatePath = some place →
      ancient.before.placeFor? ancient.keyPath ≠ some place) ∧
    ancient.outcome.result = .error .panic ∧
    ¬ancient.Ends .refused ∧ ¬ancient.Ends .unwritten ∧ ¬ancient.Ends .keyLeft ∧
      ¬ancient.Ends .delivered := by
  have apart : ∀ place, ancient.before.placeFor? ancient.certificatePath = some place →
      ancient.before.placeFor? ancient.keyPath ≠ some place := by
    intro place placed
    rcases MintRequest.places_of_both MintRequest.progress_vacant_apart with
      ⟨keyPlaced, certificatePlaced⟩
    cases placed.symm.trans certificatePlaced
    rw [show ancient.before.placeFor? ancient.keyPath = _ from keyPlaced]
    decide
  have other {ending : Ending} (different : ending ≠ ancient.ending) : ¬ancient.Ends ending :=
    fun ends => different ends.eq_ending
  have panicked : ancient.ending = .panicked := by
    simp only [ending, pair_ancient]
  rw [panicked] at other
  have refuses :=
    Workshop.refuses_of_unmade pair_ancient ancient.certificatePath ancient.keyPath
  exact ⟨apart, refuses.answers, other (by decide), other (by decide), other (by decide),
    other (by decide)⟩

end MintCall

end MailProvision
