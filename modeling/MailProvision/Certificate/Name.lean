import MailProvision.Certificate.Der
import MailProvision.Certificate.Fault

/-!
# Distinguished names

The name of a certificate's subject as a list of attributes. Each attribute has a type and a text in
one of three string types. `DistinguishedName.ofSubject` names a subject by its fields in a fixed
order and leaves out the empty ones.
-/

namespace MailProvision

/-- What an attribute of a name says. -/
inductive AttributeType where
  | country
  | state
  | locality
  | organization
  | organizationUnit
  | commonName
  | emailAddress
  | other (id : Der.ObjectId)
deriving DecidableEq, Repr

namespace AttributeType

/-- The identifier of a type. -/
def id : AttributeType → Der.ObjectId
  | country => ⟨2, 5, [4, 6]⟩
  | state => ⟨2, 5, [4, 8]⟩
  | locality => ⟨2, 5, [4, 7]⟩
  | organization => ⟨2, 5, [4, 10]⟩
  | organizationUnit => ⟨2, 5, [4, 11]⟩
  | commonName => ⟨2, 5, [4, 3]⟩
  | emailAddress => ⟨1, 2, [840, 113549, 1, 9, 1]⟩
  | other id => id

/-- The types that have a name here. -/
def known : List AttributeType :=
  [country, state, locality, organization, organizationUnit, commonName, emailAddress]

/-- The type with an identifier. -/
def ofId (id : Der.ObjectId) : AttributeType :=
  (known.find? fun type => type.id = id).getD (other id)

end AttributeType

/-- The string types of attributes. -/
inductive StringKind where
  | printable
  | utf8
  | ia5
deriving DecidableEq, Repr

namespace StringKind

/-- The name of a string type. -/
def name : StringKind → String
  | printable => "PrintableString"
  | utf8 => "UTF8String"
  | ia5 => "IA5String"

/-- The tag of a string type. -/
def tag : StringKind → UInt8
  | printable => 0x13
  | utf8 => 0x0c
  | ia5 => 0x16

/-- The string type with a tag. -/
def ofTag? (tag : UInt8) : Option StringKind :=
  [printable, utf8, ia5].find? fun kind => kind.tag = tag

/-- The characters that a printable string may hold. -/
def isPrintable (c : Char) : Bool :=
  Subject.isAsciiLetter c || ('0' ≤ c && c ≤ '9') || " '()+,-./:=?".toList.contains c

/-- Whether a text fits the alphabet of a string type. -/
def admits (kind : StringKind) (text : String) : Bool :=
  match kind with
  | printable => text.toList.all isPrintable
  | utf8 => true
  | ia5 => Subject.isAscii text

end StringKind

/-- One attribute of a name. -/
structure Attribute where
  type : AttributeType
  kind : StringKind
  text : String
deriving DecidableEq, Repr

namespace Attribute

/-- An attribute as a value. -/
def toDer (item : Attribute) : Der :=
  .sequence [.objectId item.type.id, .primitive item.kind.tag item.text.toUTF8.toList]

/-- The attribute that a value holds. -/
def ofDer? : Der → Option Attribute
  | .constructed 0x30 [id, .primitive tag content] => do
      some
        { type := .ofId (← Der.objectId? id)
          kind := ← StringKind.ofTag? tag
          text := ← String.fromUTF8? ⟨content.toArray⟩ }
  | _ => none

end Attribute

/-- A name: steps that lead to its bearer, each a set of attributes. -/
abbrev DistinguishedName := List (List Attribute)

namespace DistinguishedName

/-- A name as a value. -/
def toDer (name : DistinguishedName) : Der :=
  .sequence (name.map fun step => .set (step.map Attribute.toDer))

/-- The step of a name that a value holds. -/
def stepOfDer? : Der → Option (List Attribute)
  | .constructed 0x31 attributes => attributes.mapM Attribute.ofDer?
  | _ => none

/-- The name that a value holds. -/
def ofDer? : Der → Option DistinguishedName
  | .constructed 0x30 steps => steps.mapM stepOfDer?
  | _ => none

/-- A step with one attribute, or none for an empty text. -/
def step (type : AttributeType) (kind : StringKind) (text : String) : DistinguishedName :=
  if text.isEmpty then [] else [[{ type, kind, text }]]

/-- The name of a subject. -/
def ofSubject (subject : Subject) : Except NameFault DistinguishedName :=
  if !StringKind.printable.admits subject.country then
    .error (.countryAlphabet subject.country)
  else if !StringKind.ia5.admits subject.email then
    .error (.emailAlphabet subject.email)
  else
    .ok <|
      step .country .printable subject.country ++
      step .state .utf8 subject.state ++
      step .locality .utf8 subject.locality ++
      step .organization .utf8 subject.organization ++
      step .organizationUnit .utf8 subject.organizationUnit ++
      step .commonName .utf8 subject.commonName ++
      step .emailAddress .ia5 subject.email

end DistinguishedName

end MailProvision
