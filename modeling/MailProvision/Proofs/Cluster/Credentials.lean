import MailProvision.Cluster.Credentials
import MailProvision.Proofs.Text.Codes

/-!
# What shown credentials tell

Both ways of showing credentials are unambiguous codes for the hosts, the port, the user name and
whether there is a password. So these can be told from what is shown, and nothing else can.
-/

namespace MailProvision

namespace Credentials

/-- The credentials with a text of its own in place of a password. -/
def hidden (credentials : Credentials) : Credentials :=
  { credentials with password := credentials.password.map fun _ => redacted }

theorem hidden_password (credentials : Credentials) :
    credentials.hidden.password = credentials.password.map fun _ => redacted :=
  rfl

theorem hidden_eq_iff {credentials other : Credentials} :
    credentials.hidden = other.hidden ↔
      credentials.hosts = other.hosts ∧ credentials.port = other.port ∧
        credentials.username = other.username ∧
        credentials.password.isSome = other.password.isSome := by
  have passwords : (credentials.password.map fun _ => redacted) =
      (other.password.map fun _ => redacted) ↔
        credentials.password.isSome = other.password.isSome := by
    cases credentials.password <;> cases other.password <;> simp
  simp only [hidden, mk.injEq, passwords]

section Layout

/-- The fields of shown credentials between texts that are always the same. -/
def layout (list : List String → String) (option : Option String → String)
    (opening beforePort beforeUsername beforePassword closing : String)
    (credentials : Credentials) : String :=
  opening ++ list credentials.hosts ++ beforePort ++ toString credentials.port.toNat ++
    ("," ++ beforeUsername) ++ option credentials.username ++ beforePassword ++
      option credentials.hidden.password ++ closing

variable {list : List String → String} {option : Option String → String}

theorem layout_eq_iff (lists : Unambiguous fun texts => (list texts).toList)
    (options : Unambiguous fun text => (option text).toList)
    (opening beforePort beforeUsername beforePassword closing : String)
    {credentials other : Credentials} :
    layout list option opening beforePort beforeUsername beforePassword closing credentials =
        layout list option opening beforePort beforeUsername beforePassword closing other ↔
      credentials.hidden = other.hidden := by
  constructor
  · intro same
    have port : Unambiguous fun port : UInt16 => Nat.toDigits 10 port.toNat ++ [','] :=
      (unambiguous_toDigits (by decide) (by decide) fun _ => Ne.symm (Nat.digitChar_ne _ rfl)).comp
        fun _ _ => UInt16.toNat_inj.mp
    have shown := ((lists.enclose opening.toList beforePort.toList).pair
      (port.enclose [] beforeUsername.toList)).pair
        ((options.enclose [] beforePassword.toList).pair (options.enclose [] closing.toList))
    have fields : ((credentials.hosts, credentials.port),
          credentials.username, credentials.hidden.password) =
        ((other.hosts, other.port), other.username, other.hidden.password) := by
      apply shown.injective
      simpa [layout, ← String.toList_inj, Nat.toList_repr] using same
    simp only [Prod.mk.injEq, hidden] at fields
    simp only [hidden, fields]
  · intro same
    have fields := hidden_eq_iff.1 same
    simp only [layout, fields, same]

end Layout

/-! ## On one line -/

theorem toList_inspectOption (text : Option String) : (inspectOption text).toList =
    text.elim ['N', 'o', 'n', 'e'] fun text =>
      ['S', 'o', 'm', 'e', '('] ++ ((Quoted.encode text).toList ++ [')']) := by
  cases text <;> simp [inspectOption]

theorem unambiguous_inspectOption : Unambiguous fun text => (inspectOption text).toList := by
  simp only [toList_inspectOption]
  apply (Quoted.unambiguous_encode.enclose _ _).option
  intro text rest other same
  simp at same

theorem toList_inspectList_cons (text : String) (texts : List String) :
    (inspectList (text :: texts)).toList =
      ['['] ++ ((Quoted.encode text).toList ++ []) ++
        (texts.flatMap (fun text => [',', ' '] ++ ((Quoted.encode text).toList ++ [])) ++
          [']']) := by
  have joined (text : String) : (", ".intercalate ((text :: texts).map Quoted.encode)).toList =
      (Quoted.encode text).toList ++
        texts.flatMap fun text => [',', ' '] ++ ((Quoted.encode text).toList ++ []) := by
    induction texts generalizing text with
    | nil => simp
    | cons next rest ih =>
        rw [List.map_cons, List.map_cons, String.intercalate_cons_cons, ← List.map_cons,
          String.toList_append, ih]
        simp
  rw [inspectList, String.toList_append, String.toList_append, joined]
  simp

theorem unambiguous_inspectList : Unambiguous fun texts => (inspectList texts).toList := by
  have later : Unambiguous fun texts : List String =>
      texts.flatMap (fun text => [',', ' '] ++ ((Quoted.encode text).toList ++ [])) ++ [']'] := by
    apply (Quoted.unambiguous_encode.enclose _ _).sequence
    intro text rest other same
    simp at same
  apply (Quoted.unambiguous_encode.enclose ['['] []).listCases later rfl toList_inspectList_cons
  intro text rest other same
  simp [inspectList, Quoted.encode, Quoted.encodeChars] at same

/-! ## With one line for each field -/

theorem toList_inspectOptionIndented (text : Option String) : (inspectOptionIndented text).toList =
    text.elim ['N', 'o', 'n', 'e'] fun text =>
      "Some(\n        ".toList ++ ((Quoted.encode text).toList ++ ",\n    )".toList) := by
  cases text <;> simp [inspectOptionIndented]

theorem unambiguous_inspectOptionIndented :
    Unambiguous fun text => (inspectOptionIndented text).toList := by
  simp only [toList_inspectOptionIndented]
  apply (Quoted.unambiguous_encode.enclose _ _).option
  intro text rest other same
  simp at same

theorem toList_inspectListIndented_cons (text : String) (texts : List String) :
    (inspectListIndented (text :: texts)).toList =
      "[\n        ".toList ++ ((Quoted.encode text).toList ++ ",\n".toList) ++
        (texts.flatMap (fun text =>
            "        ".toList ++ ((Quoted.encode text).toList ++ ",\n".toList)) ++
          "    ]".toList) := by
  simp [inspectListIndented, List.flatMap_map]

theorem unambiguous_inspectListIndented :
    Unambiguous fun texts => (inspectListIndented texts).toList := by
  have later : Unambiguous fun texts : List String =>
      texts.flatMap (fun text =>
        "        ".toList ++ ((Quoted.encode text).toList ++ ",\n".toList)) ++ "    ]".toList := by
    apply (Quoted.unambiguous_encode.enclose _ _).sequence
    intro text rest other same
    simp at same
  apply (Quoted.unambiguous_encode.enclose "[\n        ".toList ",\n".toList).listCases later rfl
    toList_inspectListIndented_cons
  intro text rest other same
  simp [inspectListIndented] at same

theorem inspect_eq_iff {credentials other : Credentials} :
    credentials.inspect = other.inspect ↔ credentials.hidden = other.hidden := by
  have shown (credentials : Credentials) : credentials.inspect =
      layout inspectList inspectOption "ConnectionCredentials \x7b hosts: " ", port: "
        " username: " ", password: " " \x7d" credentials := by
    have comma : ", username: " = "," ++ " username: " := by decide +kernel
    unfold inspect layout
    rw [hidden_password, ← comma]
  rw [shown, shown]
  exact layout_eq_iff unambiguous_inspectList unambiguous_inspectOption _ _ _ _ _

theorem inspectIndented_eq_iff {credentials other : Credentials} :
    credentials.inspectIndented = other.inspectIndented ↔ credentials.hidden = other.hidden := by
  have shown (credentials : Credentials) : credentials.inspectIndented =
      layout inspectListIndented inspectOptionIndented
        "ConnectionCredentials \x7b\n    hosts: " ",\n    port: " "\n    username: "
        ",\n    password: " ",\n\x7d" credentials := by
    have comma : ",\n    username: " = "," ++ "\n    username: " := by decide +kernel
    unfold inspectIndented layout
    rw [hidden_password, ← comma]
  rw [shown, shown]
  exact layout_eq_iff unambiguous_inspectListIndented unambiguous_inspectOptionIndented _ _ _ _ _

end Credentials

end MailProvision
