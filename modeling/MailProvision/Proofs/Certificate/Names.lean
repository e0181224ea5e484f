import MailProvision.Certificate.Name
import MailProvision.Proofs.Certificate.Tagged

/-!
# Reading names back

A name of known attributes is read back attribute by attribute. The name of a subject leaves the
empty fields out, but an attribute keeps its type, so the fields can be told from the name.
-/

namespace MailProvision

theorem mapM_of_forall {Item Value : Type} {write : Item → Value} {read : Value → Option Item}
    {items : List Item} (each : ∀ item ∈ items, read (write item) = some item) :
    (items.map write).mapM read = some items := by
  induction items with
  | nil => rfl
  | cons item rest ih =>
      have first := each item (List.mem_cons_self ..)
      have others := ih fun other member => each other (List.mem_cons_of_mem _ member)
      rw [List.map_cons, List.mapM_cons, first, others]
      rfl

/-! ## Texts as bytes -/

theorem byteArray_toList_loop (bytes : ByteArray) (i : Nat) (front : List UInt8) :
    ByteArray.toList.loop bytes i front = front.reverse ++ bytes.data.toList.drop i := by
  induction i, front using ByteArray.toList.loop.induct bytes with
  | case1 i front inside ih =>
      have inside' : i < bytes.data.toList.length := inside
      have byte : bytes.get! i = bytes.data.toList[i] := getElem!_pos bytes.data i inside
      rw [ByteArray.toList.loop, if_pos inside, ih, List.drop_eq_getElem_cons inside', byte]
      simp
  | case2 i front outside =>
      have outside' : bytes.data.toList.length ≤ i := Nat.le_of_not_lt outside
      rw [ByteArray.toList.loop, if_neg outside, List.drop_eq_nil_of_le outside', List.append_nil]

theorem byteArray_toList (bytes : ByteArray) : bytes.toList = bytes.data.toList := by
  rw [ByteArray.toList, byteArray_toList_loop]
  rfl

theorem fromUTF8?_toUTF8 (text : String) :
    String.fromUTF8? ⟨text.toUTF8.toList.toArray⟩ = some text := by
  have bytes : (⟨text.toUTF8.toList.toArray⟩ : ByteArray) = text.toUTF8 := by
    rw [byteArray_toList]
  rw [bytes, String.fromUTF8?, String.toUTF8_eq_toByteArray, dif_pos text.isValidUTF8]
  rfl

theorem length_toUTF8 (text : String) : text.toUTF8.toList.length = text.utf8ByteSize := by
  rw [byteArray_toList]
  rfl

namespace AttributeType

theorem ofId_id : ∀ type ∈ known, ofId type.id = type := by
  decide

theorem plain_id : ∀ type ∈ known, type.id.Plain := by
  decide

end AttributeType

theorem StringKind.ofTag?_tag (kind : StringKind) : ofTag? kind.tag = some kind := by
  cases kind with
  | printable => rfl
  | utf8 => rfl
  | ia5 => rfl

namespace Attribute

theorem ofDer?_toDer {item : Attribute} (known : item.type ∈ AttributeType.known) :
    ofDer? item.toDer = some item := by
  simp only [toDer, Der.sequence, ofDer?, Der.objectId?_objectId (AttributeType.plain_id _ known),
    StringKind.ofTag?_tag, fromUTF8?_toUTF8, AttributeType.ofId_id _ known, bind, Option.bind]

theorem wellTagged_toDer (item : Attribute) : item.toDer.WellTagged := by
  have text : Der.isConstructed item.kind.tag = false := by
    cases item.kind with
    | printable => rfl
    | utf8 => rfl
    | ia5 => rfl
  exact ⟨rfl, rfl, text, trivial⟩

theorem length_encode_toDer_le {item : Attribute} (known : item.type ∈ AttributeType.known)
    (short : item.text.utf8ByteSize < 2 ^ 64) : item.toDer.encode.length ≤ 2 ^ 67 := by
  have id := Der.length_encode_objectId_le (AttributeType.plain_id _ known)
  have text := Der.length_encode_le (.primitive item.kind.tag item.text.toUTF8.toList)
  have whole := Der.length_encode_le item.toDer
  simp only [Der.content, length_toUTF8] at text
  simp only [toDer, Der.sequence, Der.content, Der.encodeAll, List.append_nil,
    List.length_append] at whole ⊢
  omega

end Attribute

namespace DistinguishedName

variable {name : DistinguishedName}

theorem ofDer?_toDer (known : ∀ step ∈ name, ∀ item ∈ step, item.type ∈ AttributeType.known) :
    ofDer? name.toDer = some name := by
  rw [toDer, Der.sequence, ofDer?]
  apply mapM_of_forall
  intro step member
  rw [Der.set, stepOfDer?]
  apply mapM_of_forall
  intro item member'
  exact Attribute.ofDer?_toDer (known step member item member')

theorem wellTagged_toDer (name : DistinguishedName) : name.toDer.WellTagged := by
  refine ⟨rfl, Der.allWellTagged_iff.2 ?_⟩
  intro value member
  rcases List.mem_map.mp member with ⟨step, _, rfl⟩
  refine ⟨rfl, Der.allWellTagged_iff.2 ?_⟩
  intro part member'
  rcases List.mem_map.mp member' with ⟨item, _, rfl⟩
  exact item.wellTagged_toDer

/-- Steps of one attribute each. -/
theorem length_encode_toDer_le {items : List Attribute} (few : items.length ≤ 7)
    (known : ∀ item ∈ items, item.type ∈ AttributeType.known)
    (short : ∀ item ∈ items, item.text.utf8ByteSize < 2 ^ 64) :
    (toDer (items.map ([·]))).encode.length ≤ 2 ^ 73 := by
  have each : ∀ value ∈ (items.map ([·])).map fun step => Der.set (step.map Attribute.toDer),
      value.encode.length ≤ 2 ^ 69 := by
    intro value member
    rw [List.map_map] at member
    rcases List.mem_map.mp member with ⟨item, listed, rfl⟩
    have inner := Attribute.length_encode_toDer_le (known item listed) (short item listed)
    have step := Der.length_encode_le (Der.set [item.toDer])
    simp only [Der.set, Der.content, Der.encodeAll, List.append_nil] at step
    simp only [Function.comp_apply, List.map_cons, List.map_nil, Der.set]
    omega
  have steps := Der.length_encodeAll_le each
  have whole := Der.length_encode_le (toDer (items.map ([·])))
  simp only [List.length_map] at steps
  simp only [toDer, Der.sequence, Der.content] at whole ⊢
  have : items.length * 2 ^ 69 ≤ 7 * 2 ^ 69 := Nat.mul_le_mul_right _ few
  omega

end DistinguishedName

/-! ## The name of a subject -/

namespace Subject

/-- The attributes of a subject in the order of its name, the empty ones among them. -/
def attributes (subject : Subject) : List Attribute :=
  [⟨.country, .printable, subject.country⟩, ⟨.state, .utf8, subject.state⟩,
    ⟨.locality, .utf8, subject.locality⟩, ⟨.organization, .utf8, subject.organization⟩,
    ⟨.organizationUnit, .utf8, subject.organizationUnit⟩,
    ⟨.commonName, .utf8, subject.commonName⟩, ⟨.emailAddress, .ia5, subject.email⟩]

/-- The attributes that a name of the subject lists. -/
def listed (subject : Subject) : List Attribute :=
  subject.attributes.filter fun item => !item.text.isEmpty

/-- Every text of the subject has fewer than 2 ^ 64 bytes, as every text in memory has. -/
def Addressable (subject : Subject) : Prop :=
  ∀ item ∈ subject.attributes, item.text.utf8ByteSize < 2 ^ 64

theorem types_attributes (subject : Subject) :
    subject.attributes.map Attribute.type = AttributeType.known :=
  rfl

theorem known_of_mem_listed {subject : Subject} {item : Attribute}
    (member : item ∈ subject.listed) :
    item.type ∈ AttributeType.known := by
  rw [← subject.types_attributes]
  exact List.mem_map_of_mem (List.mem_filter.mp member).1

theorem length_listed_le (subject : Subject) : subject.listed.length ≤ 7 :=
  List.length_filter_le _ subject.attributes

end Subject

namespace DistinguishedName

theorem flatMap_step (items : List Attribute) :
    items.flatMap (fun item => step item.type item.kind item.text) =
      (items.filter fun item => !item.text.isEmpty).map ([·]) := by
  induction items with
  | nil => rfl
  | cons item rest ih =>
      rw [List.flatMap_cons, ih, step]
      cases empty : item.text.isEmpty with
      | true => simp [empty]
      | false => simp [empty]

/-- A subject is named by what it lists, one step for each attribute. -/
theorem eq_of_ofSubject {subject : Subject} {name : DistinguishedName}
    (named : ofSubject subject = .ok name) : name = subject.listed.map ([·]) := by
  unfold ofSubject at named
  split at named
  · cases named
  · split at named
    · cases named
    · cases named
      rw [Subject.listed, ← flatMap_step]
      simp [Subject.attributes]

end DistinguishedName

namespace Attribute

/-- The text under a type, empty where no attribute has it. -/
def textOf (type : AttributeType) (items : List Attribute) : String :=
  ((items.find? fun item => item.type = type).map Attribute.text).getD ""

theorem textOf_of_forall_ne {type : AttributeType} {items : List Attribute}
    (absent : ∀ item ∈ items, item.type ≠ type) : textOf type items = "" := by
  have missing : (items.find? fun item => item.type = type) = none := by
    apply List.find?_eq_none.mpr
    intro item member
    simpa using absent item member
  rw [textOf, missing]
  rfl

theorem textOf_cons_of_ne {type : AttributeType} {item : Attribute} {rest : List Attribute}
    (other : item.type ≠ type) : textOf type (item :: rest) = textOf type rest := by
  rw [textOf, List.find?_cons_of_neg (by simpa using other), textOf]

theorem textOf_cons_self (item : Attribute) (rest : List Attribute) :
    textOf item.type (item :: rest) = item.text := by
  rw [textOf, List.find?_cons_of_pos (by simp)]
  rfl

/-- Where types are different, each text can be told after the empty ones were left out. -/
theorem textOf_filter {items : List Attribute} (distinct : (items.map Attribute.type).Nodup)
    {item : Attribute} (member : item ∈ items) :
    textOf item.type (items.filter fun item => !item.text.isEmpty) = item.text := by
  induction items with
  | nil => cases member
  | cons first rest ih =>
      rw [List.map_cons, List.nodup_cons] at distinct
      have apart {later : Attribute} (member : later ∈ rest) : later.type ≠ first.type := by
        intro clash
        apply distinct.1
        rw [← clash]
        exact List.mem_map_of_mem member
      rcases List.mem_cons.mp member with rfl | later
      · cases empty : item.text.isEmpty with
        | true =>
            rw [List.filter_cons_of_neg (by simp [empty]), String.isEmpty_iff.mp empty]
            apply textOf_of_forall_ne
            intro later member
            exact apart (List.mem_filter.mp member).1
        | false =>
            rw [List.filter_cons_of_pos (by simp [empty]), textOf_cons_self]
      · cases empty : first.text.isEmpty with
        | true =>
            rw [List.filter_cons_of_neg (by simp [empty])]
            exact ih distinct.2 later
        | false =>
            rw [List.filter_cons_of_pos (by simp [empty]), textOf_cons_of_ne (apart later).symm]
            exact ih distinct.2 later

end Attribute

namespace Subject

theorem textOf_listed {subject : Subject} {item : Attribute} (member : item ∈ subject.attributes) :
    Attribute.textOf item.type subject.listed = item.text := by
  have distinct : (subject.attributes.map Attribute.type).Nodup := by
    rw [types_attributes]
    decide
  exact Attribute.textOf_filter distinct member

/-- What a subject lists tells all its attributes. -/
theorem attributes_eq_of_listed_eq {subject other : Subject}
    (same : subject.listed = other.listed) :
    subject.attributes = other.attributes := by
  have told (subject : Subject) : subject.attributes = subject.attributes.map fun item =>
      { item with text := Attribute.textOf item.type subject.listed } := by
    refine (List.map_id _).symm.trans (List.map_congr_left ?_)
    intro item member
    rw [textOf_listed member]
    rfl
  calc
    subject.attributes = subject.attributes.map fun item =>
        { item with text := Attribute.textOf item.type subject.listed } := told subject
    _ = other.attributes.map fun item =>
        { item with text := Attribute.textOf item.type other.listed } := by rw [same]; rfl
    _ = other.attributes := (told other).symm

end Subject

end MailProvision
