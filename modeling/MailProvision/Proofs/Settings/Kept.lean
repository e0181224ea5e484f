import MailProvision.Proofs.Settings.Fields

/-!
# Fields that are kept

A field of a section that no variable bears on is what the file gives for it, if the keys by which
the file leads into the section are spelled as they are read (`field_of_file`). The value has
passed through two mergings into nothing by then, which copy tables in some order and leave
everything else as it is.
-/

namespace MailProvision

namespace Settings

namespace Value

/-- What is copied into nothing is a table again, or else it is what it was. -/
theorem overlay_none_cases (value : Value) :
    (∃ above below fields entries, value = .table above fields ∧
      value.overlay none = .table below entries) ∨
    value.overlay none = value := by
  cases value with
  | scalar origin content => exact .inr rfl
  | array origin items => exact .inr rfl
  | table origin entries =>
      exact .inl ⟨origin, none, entries, _, rfl, setEntries_emptyTable entries⟩

theorem overlay_none_eq_array_iff {value : Value} {origin : Option Origin} {items : List Value} :
    value.overlay none = .array origin items ↔ value = .array origin items := by
  rcases overlay_none_cases value with ⟨_, _, _, _, rfl, copied⟩ | copied
  · rw [copied]
    constructor <;> rintro ⟨⟩
  · rw [copied]

/-- A value in order is a table again, or else it is what it was. -/
theorem arrange_cases (order : Order) (value : Value) :
    (∃ origin fields entries, value = .table origin fields ∧
      value.arrange order = .table origin entries) ∨
    value.arrange order = value := by
  cases value with
  | scalar origin content => exact .inr rfl
  | array origin items => exact .inr rfl
  | table origin entries => exact .inl ⟨origin, entries, _, rfl, rfl⟩

theorem arrange_eq_array_iff {order : Order} {value : Value} {origin : Option Origin}
    {items : List Value} :
    value.arrange order = .array origin items ↔ value = .array origin items := by
  rcases arrange_cases order value with ⟨_, _, _, rfl, arranged⟩ | arranged
  · rw [arranged]
    constructor <;> rintro ⟨⟩
  · rw [arranged]

end Value

namespace Entries

open Value

variable {title field : String} {file layer : Entries} {order : Order}

/-- A file that leads into a section by its title only, and on by keys in small letters. -/
structure Spelled (title : String) (file : Entries) : Prop where
  root : ∀ key ∈ file.keys, landing (landing key) = title → key = title
  small : ∀ key ∈ (inside (file.get? title)).keys, Text.lower key = key
  /-- What the section holds stands under keys, and not in a list. -/
  nested : ∀ origin items, file.get? title ≠ some (.array origin items)

instance (present : Option Value) :
    Decidable (∀ origin items, present ≠ some (.array origin items)) :=
  match present with
  | some (.array origin items) => isFalse fun none => none origin items rfl
  | some (.scalar ..) | some (.table ..) | none => isTrue fun _ _ => by rintro ⟨⟩

instance (title : String) (file : Entries) : Decidable (Spelled title file) :=
  decidable_of_iff
    ((∀ key ∈ file.keys, landing (landing key) = title → key = title) ∧
      (∀ key ∈ (inside (file.get? title)).keys, Text.lower key = key) ∧
      ∀ origin items, file.get? title ≠ some (.array origin items))
    ⟨fun parts => ⟨parts.1, parts.2.1, parts.2.2⟩,
      fun spelled => ⟨spelled.root, spelled.small, spelled.nested⟩⟩

/-- A file in which each key appears once, at the root and in the section. -/
structure Distinct (title : String) (file : Entries) : Prop where
  root : file.keys.Nodup
  inner : (inside (file.get? title)).keys.Nodup

theorem Spelled.tidy (spelled : Spelled title file) (distinct : Distinct title file) :
    Tidy (inside (file.get? title)) where
  nodup := distinct.inner
  small := spelled.small

theorem Spelled.wellSpelled (spelled : Spelled title file) (isSection : IsSection title) :
    ∀ key ∈ file.keys, WellSpelled title key := by
  intro key member leads
  rw [spelled.root key member leads]
  exact .inl isSection.isName

theorem settle_file (isSection : IsSection title) (spelled : Spelled title file)
    (distinct : Distinct title file) :
    settle landing place title file none = (file.get? title).map (overlay · none) := by
  have own : ∀ key ∈ file.keys, landing key = title ↔ key = title := by
    intro key member
    constructor
    · intro lands
      refine spelled.root key member ?_
      rw [lands, isSection.landing_eq]
    · rintro rfl
      exact isSection.landing_eq
  rw [settle_of_own distinct.root own, isSection.place_eq]
  exact Option.or_none

theorem gathered_pair (name : String) :
    (gathered [file, layer]).get? name =
      settle landing place name layer (settle landing place name file none) := by
  have flat : [file, layer].flatten = file ++ layer := by simp
  rw [gathered, flat, get?_build, settle, List.foldl_append]
  rfl

/-- A key that leads through a section makes a table of it. -/
theorem place_of_apart {key : String} (apart : Apart title field key)
    (leads : landing (landing key) = title) (value : Value) (present : Option Value) :
    ∃ origin entries, place key value present = .table origin entries := by
  rcases apart leads with ⟨_, other, rest, parsed, _⟩
  rw [place, parsed]
  cases rest with
  | nil => exact ⟨_, _, setKey_eq other _ value⟩
  | cons => exact ⟨_, _, rfl⟩

theorem settle_ne_array (isSection : IsSection title)
    (apart : ∀ key ∈ layer.keys, Apart title field key) {present : Option Value}
    (start : ∀ origin items, present ≠ some (.array origin items)) :
    ∀ origin items, settle landing place title layer present ≠ some (.array origin items) := by
  induction layer generalizing present with
  | nil => exact start
  | cons entry rest ih =>
      have first := apart entry.1 List.mem_cons_self
      rw [settle, List.foldl_cons]
      refine ih (fun key member => apart key (List.mem_cons_of_mem _ member)) ?_
      split
      · rename_i lands
        rcases place_of_apart first (by rw [lands, isSection.landing_eq]) entry.2 present with
          ⟨_, _, table⟩
        rw [table]
        rintro _ _ ⟨⟩
      · exact start

section Silent

variable (isSection : IsSection title) (spelled : Spelled title file)
  (distinct : Distinct title file) (apart : ∀ key ∈ layer.keys, Apart title field key)
include isSection spelled apart

theorem wellSpelled_pair : ∀ key ∈ keys [file, layer].flatten, WellSpelled title key := by
  intro key member
  have flat : [file, layer].flatten = file ++ layer := by simp
  rw [flat, keys, List.map_append] at member
  rcases List.mem_append.mp member with given | set
  · exact spelled.wellSpelled isSection key given
  · exact (apart key set).wellSpelled

include distinct

/-- A section that the file does not give as a list is no list in the end. -/
theorem collect_ne_array (origin : Option Origin) (items : List Value) :
    (collect order [file, layer]).asTable.2.get? title ≠ some (.array origin items) := by
  have start : ∀ origin items,
      (file.get? title).map (overlay · none) ≠ some (.array origin items) := by
    intro origin items list
    rcases Option.map_eq_some_iff.mp list with ⟨value, found, copied⟩
    rw [overlay_none_eq_array_iff.1 copied] at found
    exact spelled.nested origin items found
  rw [get?_collect_section isSection (wellSpelled_pair isSection spelled apart), gathered_pair,
    settle_file isSection spelled distinct]
  intro list
  rcases Option.map_eq_some_iff.mp list with ⟨value, found, copied⟩
  rcases Option.map_eq_some_iff.mp found with ⟨gathered, found, arranged⟩
  rw [overlay_none_eq_array_iff.1 copied] at arranged
  rw [arrange_eq_array_iff.1 arranged] at found
  exact settle_ne_array isSection apart start origin items found

/-- A field that no variable bears on is what the file gives for it, copied twice. -/
theorem field_of_file :
    (inside ((collect order [file, layer]).asTable.2.get? title)).get? field =
      ((((inside (file.get? title)).get? field).map (overlay · none)).map fun value =>
        value.arrange ((order.below title).below field)).map (overlay · none) := by
  have wellSpelled := wellSpelled_pair isSection spelled apart
  have given := get?_build_of_tidy (spelled.tidy distinct) field
  rw [get?_collect_section isSection wellSpelled, inside_overlay, inside_arrange,
    get?_build_arrange (tidy_gathered isSection wellSpelled), gathered_pair,
    get?_settle_of_apart isSection apart, settle_file isSection spelled distinct, inside_overlay,
    given]

end Silent

end Entries

end Settings

end MailProvision
