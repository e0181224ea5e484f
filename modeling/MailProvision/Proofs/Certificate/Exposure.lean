import Mathlib.Data.List.Chain
import MailProvision.Proofs.Certificate.Armour
import MailProvision.Proofs.Certificate.Names
import MailProvision.Proofs.Certificate.Pairs

/-!
# What is exposed while a pair is written

Whoever looks at the disk while a pair is minted, or after minting was broken off, finds at either path
what was there before or a whole file. A file that others may read is one that was there before, or the
certificate. So the private key is not exposed: a piece of it that others may read was exposed before,
or is a piece of the certificate, and the key as a whole is not a piece of any certificate.
-/

namespace MailProvision

theorem toUTF8_ofList (chars : List Char) :
    (String.ofList chars).toUTF8.toList = chars.flatMap String.utf8EncodeChar := by
  rw [byteArray_toList, String.toUTF8_eq_toByteArray]
  simp [List.utf8Encode]

namespace Base64

theorem blank_not_mem_digit :
    ∀ n < 64, (0x20 : UInt8) ∉ String.utf8EncodeChar (digit n) := by
  decide +kernel

theorem blank_not_mem_encode {c : Char} {bytes : List UInt8} (member : c ∈ encode bytes) :
    (0x20 : UInt8) ∉ String.utf8EncodeChar c := by
  rcases mem_encode_cases member with rfl | ⟨n, bound, rfl⟩
  · decide +kernel
  · exact blank_not_mem_digit n bound

end Base64

namespace Pem

/-- A blank is not followed by the letter P. -/
def Unprivate (bytes : List UInt8) : Prop :=
  bytes.IsChain fun byte next => byte = 0x20 → next ≠ 0x50

theorem unprivate_of_unblank {bytes : List UInt8} (unblank : (0x20 : UInt8) ∉ bytes) :
    Unprivate bytes := by
  induction bytes with
  | nil => exact .nil
  | cons byte rest ih =>
      simp only [List.mem_cons, not_or] at unblank
      apply (ih unblank.2).cons
      intro next _ blank
      exact absurd blank.symm unblank.1

theorem unprivate_append {front back : List UInt8} (first : Unprivate front)
    (second : Unprivate back) (ends : ∀ byte ∈ front.getLast?, byte ≠ 0x20) :
    Unprivate (front ++ back) :=
  List.isChain_append.mpr
    ⟨first, second, fun byte last _ _ blank => absurd blank (ends byte last)⟩

theorem blank_not_mem_inLines (bytes : List UInt8) :
    (0x20 : UInt8) ∉ (inLines (Base64.encode bytes)).flatMap String.utf8EncodeChar := by
  intro member
  rcases List.mem_flatMap.mp member with ⟨c, written, blank⟩
  by_cases ending : c = '\n'
  · subst c
    revert blank
    decide +kernel
  · exact Base64.blank_not_mem_encode (mem_of_mem_inLines written ending) blank

theorem toUTF8_encode (label : String) (bytes : List UInt8) :
    (encode label bytes).toUTF8.toList =
      (opening label ++ ['\n']).flatMap String.utf8EncodeChar ++
        ((inLines (Base64.encode bytes)).flatMap String.utf8EncodeChar ++
          (closing label ++ ['\n']).flatMap String.utf8EncodeChar) := by
  rw [encode, toUTF8_ofList]
  simp only [encodeChars, List.flatMap_append, List.flatMap_cons, List.flatMap_nil,
    List.append_assoc, List.append_nil]

theorem unprivate_certificate (bytes : List UInt8) :
    Unprivate (encode Certificate.label bytes).toUTF8.toList := by
  rw [toUTF8_encode]
  have data := blank_not_mem_inLines bytes
  apply unprivate_append
  · unfold Unprivate
    decide +kernel
  · apply unprivate_append (unprivate_of_unblank data)
    · unfold Unprivate
      decide +kernel
    · rintro byte last rfl
      exact data (List.mem_of_mem_getLast? last)
  · decide +kernel

theorem private_infix_key (bytes : List UInt8) :
    [0x20, 0x50] <:+: (encode PrivateKey.label bytes).toUTF8.toList := by
  rw [toUTF8_encode]
  apply List.IsInfix.trans _ (List.prefix_append _ _).isInfix
  decide +kernel

/-- No certificate holds a private key. -/
theorem not_infix_certificate (keyBytes certificateBytes : List UInt8) :
    ¬(encode PrivateKey.label keyBytes).toUTF8.toList <:+:
      (encode Certificate.label certificateBytes).toUTF8.toList := by
  intro held
  rcases (private_infix_key keyBytes).trans held with ⟨front, back, spelled⟩
  have chain := unprivate_certificate certificateBytes
  rw [Unprivate, ← spelled, List.append_assoc] at chain
  have marked := (List.isChain_append.mp chain).2.1
  exact (List.isChain_cons_cons.mp marked).1 rfl rfl

end Pem

/-- A piece of a content stands in a file that others may read. -/
def FileTree.Exposes (tree : FileTree) (piece : List UInt8) : Prop :=
  ∃ location mode content,
    tree.get? location = some (.file mode content) ∧ mode ≠ 0o600 ∧ piece <:+: content

namespace KeyMaterial

/-- What a tree lets anyone see of a pair that is put at two paths of a disk: at each path what was
there before or a whole file, and nothing of the key that was not seen before. -/
structure Discloses (material : KeyMaterial) (certificatePath keyPath : String) (before : Disk)
    (seen : FileTree) : Prop where
  certificate :
    seen.entryAt? before.workingDirectory certificatePath = before.entryAt? certificatePath ∨
      seen.entryAt? before.workingDirectory certificatePath =
        some (.file 0o644 material.certificatePem.toUTF8.toList) ∨
      before.placeFor? keyPath = before.placeFor? certificatePath ∧
        seen.entryAt? before.workingDirectory certificatePath =
          some (.file 0o600 material.privateKeyPem.toUTF8.toList)
  key :
    seen.entryAt? before.workingDirectory keyPath = before.entryAt? keyPath ∨
      seen.entryAt? before.workingDirectory keyPath =
        some (.file 0o600 material.privateKeyPem.toUTF8.toList) ∨
      before.placeFor? certificatePath = before.placeFor? keyPath ∧
        seen.entryAt? before.workingDirectory keyPath =
          some (.file 0o644 material.certificatePem.toUTF8.toList)
  readable : ∀ location mode content,
    seen.get? location = some (.file mode content) → mode ≠ 0o600 →
      before.tree.get? location = some (.file mode content) ∨
        mode = 0o644 ∧ content = material.certificatePem.toUTF8.toList
  pieces : ∀ piece, piece <:+: material.privateKeyPem.toUTF8.toList → seen.Exposes piece →
    before.tree.Exposes piece ∨ piece <:+: material.certificatePem.toUTF8.toList
  whole : seen.Exposes material.privateKeyPem.toUTF8.toList →
    before.tree.Exposes material.privateKeyPem.toUTF8.toList

variable {material : KeyMaterial} {certificatePath keyPath : String} {disk : Disk}
  {seen : FileTree}

theorem mem_files_delivery {path : String} {entry : Entry} :
    (path, entry) ∈ (material.delivery certificatePath keyPath disk).files ↔
      path = keyPath ∧ entry = material.keyEntry ∨
        path = certificatePath ∧ entry = material.certificateEntry := by
  simp [delivery]

theorem readable_of_glimpse
    (glimpse : (material.delivery certificatePath keyPath disk).Glimpse seen)
    {location : Location} {mode : Nat} {content : List UInt8}
    (found : seen.get? location = some (.file mode content)) (shared : mode ≠ 0o600) :
    disk.tree.get? location = some (.file mode content) ∨
      mode = 0o644 ∧ content = material.certificatePem.toUTF8.toList := by
  rcases glimpse.of_not_private found shared with old | ⟨path, meant⟩
  · exact .inl old
  · rcases mem_files_delivery.1 meant with ⟨_, isKey⟩ | ⟨_, isCertificate⟩
    · cases isKey
      exact absurd rfl shared
    · cases isCertificate
      exact .inr ⟨rfl, rfl⟩

theorem pieces_of_glimpse
    (glimpse : (material.delivery certificatePath keyPath disk).Glimpse seen)
    {piece : List UInt8} (exposed : seen.Exposes piece) :
    disk.tree.Exposes piece ∨ piece <:+: material.certificatePem.toUTF8.toList := by
  rcases exposed with ⟨location, mode, content, found, shared, part⟩
  rcases readable_of_glimpse glimpse found shared with old | ⟨_, rfl⟩
  · exact .inl ⟨location, mode, content, old, shared, part⟩
  · exact .inr part

theorem discloses_of_glimpse (nested : disk.tree.Nested)
    (apart : ¬material.privateKeyPem.toUTF8.toList <:+: material.certificatePem.toUTF8.toList)
    (glimpse : (material.delivery certificatePath keyPath disk).Glimpse seen) :
    material.Discloses certificatePath keyPath disk seen where
  certificate := by
    rcases glimpse.entryAt?_cases nested certificatePath with
      old | ⟨path, entry, meant, together, found⟩
    · exact .inl old
    · rcases mem_files_delivery.1 meant with ⟨rfl, rfl⟩ | ⟨_, rfl⟩
      · exact .inr (.inr ⟨together, found⟩)
      · exact .inr (.inl found)
  key := by
    rcases glimpse.entryAt?_cases nested keyPath with
      old | ⟨path, entry, meant, together, found⟩
    · exact .inl old
    · rcases mem_files_delivery.1 meant with ⟨_, rfl⟩ | ⟨rfl, rfl⟩
      · exact .inr (.inl found)
      · exact .inr (.inr ⟨together, found⟩)
  readable := fun _ _ _ found shared => readable_of_glimpse glimpse found shared
  pieces := fun _ _ exposed => pieces_of_glimpse glimpse exposed
  whole := fun exposed => (pieces_of_glimpse glimpse exposed).resolve_right apart

end KeyMaterial

namespace MintRequest

theorem apart_of_makes {request : MintRequest} {material : KeyMaterial}
    (makes : request.keys.Makes request.bits request.subject material) :
    ¬material.privateKeyPem.toUTF8.toList <:+: material.certificatePem.toUTF8.toList := by
  rcases makes.certificate with ⟨name, _, written⟩
  rw [makes.key, written]
  exact Pem.not_infix_certificate _ _

/-- A request leaves the disk as it is, or makes a pair and passes only through trees that show
nothing of it but whole files and nothing of its key. So does every tree that is left when the work
breaks off. -/
theorem mint_shows_whole_files_only (certificatePath keyPath : String) {disk : Disk}
    (nested : disk.tree.Nested) (request : MintRequest) :
    run certificatePath keyPath disk request = (request.workshop disk).disk ∨
      ∃ material, request.keys.Makes request.bits request.subject material ∧
        ∃ seen, (run certificatePath keyPath disk request).states = seen ++ disk.states ∧
          ∀ tree ∈ seen,
            material.Discloses certificatePath keyPath disk tree ∧
              ∀ left, (material.delivery certificatePath keyPath disk).BreaksOff tree left →
                material.Discloses certificatePath keyPath disk left := by
  rcases (request.workshop disk).mints_or_refuses request.bits request.subject certificatePath
    keyPath with ⟨material, mints⟩ | ⟨halt, refuses⟩
  · right
    rcases mints.passes with ⟨seen, states, glimpses⟩
    refine ⟨material, mints.makes, seen, states, ?_⟩
    have discloses {left : FileTree}
        (glimpse : (material.delivery certificatePath keyPath disk).Glimpse left) :
        material.Discloses certificatePath keyPath disk left :=
      KeyMaterial.discloses_of_glimpse nested (apart_of_makes mints.makes) glimpse
    intro tree mem
    exact ⟨discloses (glimpses tree mem),
      fun left broken => discloses ((glimpses tree mem).breakOff broken)⟩
  · exact .inl refuses.disk

theorem mint_shows_whole_files_only_obstructed :
    obstructed.tree.Nested ∧
      ∃ material, plain.keys.Makes plain.bits plain.subject material ∧
        ∃ seen, (run "d" "key.pem" obstructed plain).states = seen ++ obstructed.states ∧
          ∀ tree ∈ seen,
            material.Discloses "d" "key.pem" obstructed tree ∧
              ∀ left, (material.delivery "d" "key.pem" obstructed).BreaksOff tree left →
                material.Discloses "d" "key.pem" obstructed left := by
  refine ⟨nested_obstructed, ?_⟩
  rcases mint_shows_whole_files_only "d" "key.pem" nested_obstructed plain with unchanged | shown
  · rcases exists_error_obstructed with ⟨cause, failed⟩
    have keyIn := ((fails_of_error nested_obstructed failed).keyOnly _ progress_obstructed rfl).2.2
    have noKey : (plain.workshop obstructed).disk.entryAt? "key.pem" = none := by decide +kernel
    rw [unchanged, noKey] at keyIn
    cases keyIn
  · exact shown

end MintRequest

end MailProvision
