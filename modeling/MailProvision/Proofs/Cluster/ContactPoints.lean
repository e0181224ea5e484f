import Mathlib.Data.List.Forall2
import MailProvision.Cluster.Credentials
import MailProvision.Proofs.Text.Codes

/-!
# What contact points tell

A contact point ends in the port, and no digit is a colon, so the port and the text before it can be
told from it. That text is the host, with or without brackets. Hence two lists of contact points are
equal if and only if the ports are and the hosts are, up to brackets that are put around a host
anyway (`contactPoints_eq_iff_alike`).
-/

namespace MailProvision

namespace Credentials

/-- A host that brackets are put around: it holds a colon and starts with no bracket. -/
def TakesBrackets (host : String) : Prop :=
  ':' ∈ host.toList ∧ ¬['['] <+: host.toList

instance : DecidablePred TakesBrackets := fun host =>
  inferInstanceAs (Decidable (':' ∈ host.toList ∧ ¬['['] <+: host.toList))

/-- The host between brackets. -/
def bracketed (host : String) : String :=
  "[" ++ host ++ "]"

/-- Hosts that no contact point tells apart: they are equal, or one is the other between the brackets
that it takes. -/
inductive Alike : String → String → Prop
  | same (host : String) : Alike host host
  | bracketed {host : String} (takes : TakesBrackets host) : Alike host (bracketed host)
  | unbracketed {host : String} (takes : TakesBrackets host) : Alike (bracketed host) host

/-- A host and a port as a contact point has them. -/
inductive PointsTo (port : UInt16) : String → String → Prop
  | plain {host : String} (takesNone : ¬TakesBrackets host) :
      PointsTo port host (host ++ ":" ++ toString port.toNat)
  | bracketed {host : String} (takes : TakesBrackets host) :
      PointsTo port host (bracketed host ++ ":" ++ toString port.toNat)

/-- The host in a contact point. -/
def written (host : String) : String :=
  if TakesBrackets host then bracketed host else host

/-! ## The host -/

theorem written_of_takesBrackets {host : String} (takes : TakesBrackets host) :
    written host = bracketed host :=
  if_pos takes

theorem written_of_not_takesBrackets {host : String} (takesNone : ¬TakesBrackets host) :
    written host = host :=
  if_neg takesNone

theorem toList_bracketed (host : String) :
    (bracketed host).toList = '[' :: (host.toList ++ [']']) := by
  simp [bracketed]

theorem bracketed_injective : Function.Injective bracketed := by
  intro host other same
  rw [← String.toList_inj, toList_bracketed, toList_bracketed, List.cons.injEq,
    List.append_cancel_right_eq] at same
  exact String.toList_inj.mp same.2

/-- No brackets are put around brackets. -/
theorem not_takesBrackets_bracketed (host : String) : ¬TakesBrackets (bracketed host) := by
  rintro ⟨_, free⟩
  apply free
  rw [toList_bracketed]
  exact ⟨_, rfl⟩

theorem written_eq_iff {host other : String} : written host = written other ↔ Alike host other := by
  constructor
  · intro same
    by_cases takes : TakesBrackets host <;> by_cases takesOther : TakesBrackets other
    · rw [written_of_takesBrackets takes, written_of_takesBrackets takesOther] at same
      rw [bracketed_injective same]
      exact .same other
    · rw [written_of_takesBrackets takes, written_of_not_takesBrackets takesOther] at same
      rw [← same]
      exact .bracketed takes
    · rw [written_of_not_takesBrackets takes, written_of_takesBrackets takesOther] at same
      rw [same]
      exact .unbracketed takesOther
    · rw [written_of_not_takesBrackets takes, written_of_not_takesBrackets takesOther] at same
      rw [same]
      exact .same other
  · intro alike
    cases alike with
    | same => rfl
    | bracketed takes =>
        rw [written_of_takesBrackets takes,
          written_of_not_takesBrackets (not_takesBrackets_bracketed host)]
    | unbracketed takes =>
        rw [written_of_takesBrackets takes,
          written_of_not_takesBrackets (not_takesBrackets_bracketed other)]

/-! ## The port -/

theorem toList_contactPoint (port : UInt16) (host : String) : (contactPoint port host).toList =
    (written host).toList ++ ':' :: Nat.toDigits 10 port.toNat := by
  have takes : ':' ∈ host.toList ∧ host.toList.head? ≠ some '[' ↔ TakesBrackets host := by
    apply and_congr_right
    intro _
    rw [ne_eq, List.head?_eq_some_iff]
    exact not_congr (exists_congr fun rest => eq_comm)
  simp only [contactPoint, String.toList_ofList, written, takes]
  split
  · rw [toList_bracketed]
  · rfl

theorem contactPoint_eq (port : UInt16) (host : String) :
    contactPoint port host = written host ++ ":" ++ toString port.toNat := by
  rw [← String.toList_inj, toList_contactPoint]
  simp [Nat.toList_repr]

theorem pointsTo_contactPoint (port : UInt16) (host : String) :
    PointsTo port host (contactPoint port host) := by
  rw [contactPoint_eq]
  by_cases takes : TakesBrackets host
  · rw [written_of_takesBrackets takes]
    exact .bracketed takes
  · rw [written_of_not_takesBrackets takes]
    exact .plain takes

theorem colon_not_mem_toDigits (n : Nat) : ':' ∉ Nat.toDigits 10 n := by
  intro member
  have digit := Nat.isDigit_of_mem_toDigits (by decide) (by decide) member
  cases digit

/-- Read from its end, a contact point tells the port, and where the host ends. -/
theorem unambiguous_reverse_port :
    Unambiguous fun port : UInt16 => (Nat.toDigits 10 port.toNat).reverse ++ [':'] := by
  have digits : Function.Injective fun n => (Nat.toDigits 10 n).reverse :=
    List.reverse_injective.comp (toDigits_injective (by decide) (by decide))
  have code := Unambiguous.delimited digits fun n member =>
    colon_not_mem_toDigits n (List.mem_reverse.mp member)
  exact code.comp fun _ _ => UInt16.toNat_inj.mp

theorem contactPoint_eq_iff {port otherPort : UInt16} {host other : String} :
    contactPoint port host = contactPoint otherPort other ↔
      port = otherPort ∧ Alike host other := by
  rw [← written_eq_iff]
  constructor
  · intro same
    -- A host may hold any characters, so only the last colon is known to stand before the port.
    rw [← String.toList_inj, toList_contactPoint, toList_contactPoint, ← List.reverse_inj] at same
    simp only [List.reverse_append, List.reverse_cons] at same
    rcases unambiguous_reverse_port same with ⟨ports, hosts⟩
    exact ⟨ports, String.toList_inj.mp (List.reverse_inj.mp hosts)⟩
  · rintro ⟨rfl, hosts⟩
    rw [contactPoint_eq, contactPoint_eq, hosts]

/-! ## All contact points -/

theorem contactPoints_eq_iff_forall₂ {credentials other : Credentials} :
    credentials.contactPoints = other.contactPoints ↔
      List.Forall₂ (fun host otherHost => credentials.port = other.port ∧ Alike host otherHost)
        credentials.hosts other.hosts := by
  rw [contactPoints, contactPoints, ← List.forall₂_eq_eq_eq, List.forall₂_map_left_iff,
    List.forall₂_map_right_iff]
  simp only [contactPoint_eq_iff]

theorem forall₂_pointsTo (credentials : Credentials) :
    List.Forall₂ (PointsTo credentials.port) credentials.hosts credentials.contactPoints := by
  rw [contactPoints, List.forall₂_map_right_iff, List.forall₂_same]
  exact fun host _ => pointsTo_contactPoint credentials.port host

theorem exists_port_of_mem_contactPoints {credentials : Credentials} {point : String}
    (member : point ∈ credentials.contactPoints) :
    ∃ front, point = front ++ ":" ++ toString credentials.port.toNat := by
  rcases List.mem_map.mp member with ⟨host, _, rfl⟩
  exact ⟨written host, contactPoint_eq credentials.port host⟩

/-- Of credentials with hosts, contact points tell the port and the hosts in their order, up to
brackets that a host takes. There is one for each host, with brackets around it if and only if the
host takes them, and the port stands in decimal after its last colon. -/
theorem contactPoints_eq_iff_alike {credentials other : Credentials}
    (solid : credentials.hosts ≠ []) :
    (credentials.contactPoints = other.contactPoints ↔
        credentials.port = other.port ∧ List.Forall₂ Alike credentials.hosts other.hosts) ∧
      List.Forall₂ (PointsTo credentials.port) credentials.hosts credentials.contactPoints ∧
      ∀ point ∈ credentials.contactPoints,
        (∃ front, point = front ++ ":" ++ toString credentials.port.toNat) ∧
          ':' ∉ (toString credentials.port.toNat).toList := by
  refine ⟨?_, forall₂_pointsTo credentials, ?_⟩
  · rw [contactPoints_eq_iff_forall₂, List.forall₂_and_left]
    apply and_congr_left
    intro _
    rcases List.exists_mem_of_ne_nil _ solid with ⟨host, listed⟩
    exact ⟨fun each => each host listed, fun ports _ _ => ports⟩
  · intro point member
    refine ⟨exists_port_of_mem_contactPoints member, ?_⟩
    exact Nat.toList_repr ▸ colon_not_mem_toDigits credentials.port.toNat

theorem contactPoints_eq_iff_alike_colons :
    let bare := ofHosts ["::1", "a:1", "[b", "c"] 90
    let enclosed := ofHosts ["[::1]", "[a:1]", "[b", "c"] 90
    bare.hosts ≠ [] ∧ bare.contactPoints = enclosed.contactPoints ∧
      bare.contactPoints ≠ (ofHosts ["::1", "a", "[b", "c"] 190).contactPoints := by
  refine ⟨by decide, ?_, ?_⟩
  · exact (contactPoints_eq_iff_alike (by decide)).1.mpr ⟨rfl, .cons (.bracketed (by decide))
      (.cons (.bracketed (by decide)) (.cons (.same "[b") (.cons (.same "c") .nil)))⟩
  · intro same
    have ports := ((contactPoints_eq_iff_alike (by decide)).1.mp same).1
    exact absurd ports (by decide)

end Credentials

end MailProvision
