import Mathlib.Data.List.Nodup
import MailProvision.Settings.Merge

/-!
# Building tables entry by entry

Merging sets one entry after the other, and each of them changes the value under one name: the first
name of its path at the root, its key in small letters further down. `Entries.build` is what both
have in common. What ends up under a name depends on the entries that land there only
(`get?_build`).
-/

namespace MailProvision

namespace Text

theorem lowerChar_of_small {c : Char} (low : 97 ≤ c.toNat) (high : c.toNat ≤ 122) :
    lowerChar c = c := by
  have notKelvin : c.toNat ≠ 0x212A := by omega
  have notCapital : ¬(c.val ≥ 'A'.val ∧ c.val ≤ 'Z'.val) := by
    rintro ⟨_, capital⟩
    have bound : c.toNat ≤ 90 := UInt32.le_iff_toNat_le.mp capital
    omega
  rw [lowerChar, if_neg notKelvin]
  exact dif_neg notCapital

theorem lowerChar_of_lt {c : Char} (early : c.toNat < 65) : lowerChar c = c := by
  have notKelvin : c.toNat ≠ 0x212A := by omega
  have notCapital : ¬(c.val ≥ 'A'.val ∧ c.val ≤ 'Z'.val) := by
    rintro ⟨capital, _⟩
    have bound : 65 ≤ c.toNat := UInt32.le_iff_toNat_le.mp capital
    omega
  rw [lowerChar, if_neg notKelvin]
  exact dif_neg notCapital

theorem lowerChar_cases (c : Char) :
    lowerChar c = c ∨ 97 ≤ (lowerChar c).toNat ∧ (lowerChar c).toNat ≤ 122 := by
  unfold lowerChar
  split
  · right
    decide
  · by_cases capital : c.val ≥ 'A'.val ∧ c.val ≤ 'Z'.val
    · right
      have low : 65 ≤ c.toNat := UInt32.le_iff_toNat_le.mp capital.1
      have high : c.toNat ≤ 90 := UInt32.le_iff_toNat_le.mp capital.2
      have lowered : c.toLower.val = c.val + ('a'.val - 'A'.val) :=
        congrArg Char.val (dif_pos capital)
      have small : c.toLower.toNat = c.toNat + 32 := by
        rw [Char.toNat, lowered, UInt32.toNat_add]
        exact Nat.mod_eq_of_lt (show c.toNat + 32 < 2 ^ 32 by omega)
      omega
    · exact .inl (dif_neg capital)

theorem lowerChar_lowerChar (c : Char) : lowerChar (lowerChar c) = lowerChar c := by
  rcases lowerChar_cases c with same | ⟨low, high⟩
  · rw [same, same]
  · exact lowerChar_of_small low high

@[simp] theorem lower_lower (text : String) : lower (lower text) = lower text := by
  simp only [lower, String.toList_ofList, List.map_map]
  congr 1
  exact List.map_congr_left fun c _ => lowerChar_lowerChar c

theorem lower_eq_self_iff {text : String} :
    lower text = text ↔ ∀ c ∈ text.toList, lowerChar c = c := by
  rw [← String.toList_inj, lower, String.toList_ofList]
  exact (Eq.congr_right (List.map_id _).symm).trans List.map_inj_left

end Text

namespace Settings

namespace Entries

theorem keys_cons (key : String) (value : Value) (rest : Entries) :
    keys ((key, value) :: rest) = key :: keys rest :=
  rfl

@[simp] theorem get?_nil (name : String) : Entries.get? [] name = none :=
  rfl

theorem get?_cons (key name : String) (value : Value) (rest : Entries) :
    Entries.get? ((key, value) :: rest) name =
      if name = key then some value else rest.get? name := by
  by_cases same : name = key
  · simp [get?, same]
  · simp [get?, same, List.lookup_cons, beq_false_of_ne same]

theorem get?_alter (entries : Entries) (key name : String) (change : Option Value → Value) :
    (entries.alter key change).get? name =
      if name = key then some (change (entries.get? key)) else entries.get? name := by
  induction entries with
  | nil => exact get?_cons key name _ []
  | cons entry rest ih =>
      rcases entry with ⟨first, value⟩
      by_cases found : first = key
      · subst found
        by_cases same : name = first <;> simp [alter, get?_cons, same]
      · simp only [alter, found, ↓reduceIte, get?_cons, ih, Ne.symm found]
        by_cases same : name = first <;> simp [same, found]

theorem keys_alter (entries : Entries) (key : String) (change : Option Value → Value) :
    (entries.alter key change).keys =
      if key ∈ entries.keys then entries.keys else entries.keys ++ [key] := by
  induction entries with
  | nil => rfl
  | cons entry rest ih =>
      rcases entry with ⟨first, value⟩
      by_cases found : first = key
      · simp [alter, keys_cons, found]
      · simp only [alter, found, ↓reduceIte, keys_cons, ih, List.mem_cons, Ne.symm found, false_or]
        split <;> rfl

theorem mem_keys_alter {entries : Entries} {key name : String}
    {change : Option Value → Value} :
    name ∈ (entries.alter key change).keys ↔ name = key ∨ name ∈ entries.keys := by
  rw [keys_alter]
  split
  · rename_i present
    exact ⟨.inr, fun either => either.elim (fun same => same ▸ present) id⟩
  · rw [List.mem_append, List.mem_singleton]
    exact or_comm

theorem nodup_keys_alter {entries : Entries} (nodup : entries.keys.Nodup) (key : String)
    (change : Option Value → Value) : (entries.alter key change).keys.Nodup := by
  rw [keys_alter]
  split
  · exact nodup
  · rename_i new
    exact List.nodup_append.mpr
      ⟨nodup, List.nodup_singleton key, fun name member other same => by
        rw [List.mem_singleton.mp same]
        exact fun equal => new (equal ▸ member)⟩

theorem alter_of_not_mem {entries : Entries} {key : String} (new : key ∉ entries.keys)
    (change : Option Value → Value) :
    entries.alter key change = entries ++ [(key, change none)] := by
  induction entries with
  | nil => rfl
  | cons entry rest ih =>
      rcases entry with ⟨first, value⟩
      have other : first ≠ key := fun same => new (same ▸ List.mem_cons_self)
      have later : key ∉ Entries.keys rest := fun member => new (List.mem_cons_of_mem _ member)
      simp only [alter, other, ↓reduceIte, ih later, List.cons_append]

/-! ### Building -/

section Building

variable (landing : String → String) (place : String → Value → Option Value → Value)

/-- Entries set one after the other: each changes the value under the name where it lands. -/
def build (entries start : Entries) : Entries :=
  entries.foldl (fun built entry => built.alter (landing entry.1) (place entry.1 entry.2)) start

/-- What entries make of the value under one name. -/
def settle (name : String) (entries : Entries) (present : Option Value) : Option Value :=
  entries.foldl
    (fun present entry =>
      if landing entry.1 = name then some (place entry.1 entry.2 present) else present)
    present

variable {landing place}

theorem get?_build (entries start : Entries) (name : String) :
    (build landing place entries start).get? name =
      settle landing place name entries (start.get? name) := by
  induction entries generalizing start with
  | nil => rfl
  | cons entry rest ih =>
      refine (ih _).trans ?_
      rw [get?_alter, settle, settle, List.foldl_cons]
      by_cases lands : landing entry.1 = name
      · simp only [lands, ↓reduceIte]
      · simp only [lands, Ne.symm lands, ↓reduceIte]

theorem build_append (first second start : Entries) :
    build landing place (first ++ second) start =
      build landing place second (build landing place first start) :=
  List.foldl_append

theorem nodup_build {start : Entries} (nodup : start.keys.Nodup) (entries : Entries) :
    (build landing place entries start).keys.Nodup := by
  induction entries generalizing start with
  | nil => exact nodup
  | cons entry rest ih => exact ih (nodup_keys_alter nodup _ _)

/-- A built table has the names where its entries landed. -/
theorem mem_keys_build {entries start : Entries} {name : String} :
    name ∈ (build landing place entries start).keys ↔
      name ∈ start.keys ∨ ∃ key ∈ entries.keys, landing key = name := by
  induction entries generalizing start with
  | nil => simp [build, keys]
  | cons entry rest ih =>
      refine (@ih (start.alter _ _)).trans ?_
      rw [mem_keys_alter, eq_comm, or_comm (a := landing entry.1 = name), or_assoc]
      simp only [keys, List.map_cons, List.mem_cons, exists_eq_or_imp]

theorem settle_of_apart {name : String} {entries : Entries} (present : Option Value)
    (apart : ∀ key ∈ entries.keys, landing key ≠ name) :
    settle landing place name entries present = present := by
  induction entries generalizing present with
  | nil => rfl
  | cons entry rest ih =>
      rw [settle, List.foldl_cons, if_neg (apart entry.1 List.mem_cons_self)]
      exact ih present fun key member => apart key (List.mem_cons_of_mem _ member)

/-- Where one entry only lands under a name, and under its own, that entry settles the name. -/
theorem settle_of_own {name : String} {entries : Entries} (nodup : entries.keys.Nodup)
    (own : ∀ key ∈ entries.keys, landing key = name ↔ key = name) (present : Option Value) :
    settle landing place name entries present =
      ((entries.get? name).map fun value => place name value present).or present := by
  induction entries generalizing present with
  | nil => rfl
  | cons entry rest ih =>
      rcases entry with ⟨key, value⟩
      rcases List.nodup_cons.mp nodup with ⟨new, nodup⟩
      have others : ∀ key ∈ Entries.keys rest, landing key = name ↔ key = name :=
        fun key member => own key (List.mem_cons_of_mem _ member)
      rw [get?_cons]
      by_cases lands : landing key = name
      · obtain rfl : key = name := (own key List.mem_cons_self).mp lands
        rw [settle, List.foldl_cons, if_pos lands]
        refine (settle_of_apart _ fun other member landed => ?_).trans (by simp)
        exact new ((others other member).mp landed ▸ member)
      · have other : name ≠ key :=
          fun same => lands ((own key List.mem_cons_self).mpr same.symm)
        rw [settle, List.foldl_cons, if_neg lands, if_neg other]
        exact ih nodup others present

/-- Only the entries that land under a name settle it. -/
theorem settle_filter (name : String) (entries : Entries) (present : Option Value) :
    settle landing place name (entries.filter fun entry => landing entry.1 = name) present =
      settle landing place name entries present := by
  induction entries generalizing present with
  | nil => rfl
  | cons entry rest ih =>
      by_cases lands : landing entry.1 = name
      · rw [List.filter_cons, if_pos (decide_eq_true lands)]
        exact ih _
      · rw [List.filter_cons, if_neg (by simp [lands]), ih, settle, settle, List.foldl_cons,
          if_neg lands]

/-- A change under a key that is left out cannot be told. -/
theorem filter_alter {kept : String → Bool} {key : String} (left : kept key = false)
    (entries : Entries) (change : Option Value → Value) :
    (entries.alter key change).filter (fun entry => kept entry.1) =
      entries.filter fun entry => kept entry.1 := by
  induction entries with
  | nil => exact List.filter_cons_of_neg (by simp [left])
  | cons entry rest ih =>
      rcases entry with ⟨first, value⟩
      by_cases found : first = key
      · simp only [alter, found, ↓reduceIte, List.filter_cons, left, Bool.false_eq_true]
      · simp only [alter, found, ↓reduceIte, List.filter_cons, ih]

end Building

end Entries

end Settings

end MailProvision
