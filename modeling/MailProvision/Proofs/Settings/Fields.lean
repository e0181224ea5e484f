import Mathlib.Data.List.Induction
import MailProvision.Proofs.Settings.Layering

/-!
# Fields of sections

What the layers make of one field: an entry that gives it decides, if every entry after it leads
elsewhere (`field_of_given`). An entry gives a field by a path, as variables do, or within the
table of its section, as files do.
-/

namespace MailProvision

namespace Settings

namespace Entries

open Value

/-- A key that leaves a field of a section alone: it leads past the section, or through it to
another field. -/
def Apart (title field key : String) : Prop :=
  landing (landing key) = title → Text.lower key = key ∧
    ∃ other rest, KeyPath.parse? key = some (.key title :: .key other :: rest) ∧ other ≠ field

/-- An entry that gives a field of a section: under a path, or as the only one that stands for the
field in a table. -/
inductive GivesField (title field : String) (given : Value) : String × Value → Prop
  | path {path : String} (isSetting : IsSetting title field path) :
      GivesField title field given (path, given)
  | table {key name : String} {origin : Option Origin} {before after : Entries}
      (isName : KeyPath.IsName key) (leads : Text.lower key = title)
      (named : Text.lower name = field)
      (alone : ∀ other ∈ keys (before ++ after), Text.lower other ≠ field) :
      GivesField title field given (key, .table origin (before ++ (name, given) :: after))

variable {title field : String}

theorem Apart.wellSpelled {key : String} (apart : Apart title field key) :
    WellSpelled title key :=
  fun leads => .inr (apart leads).1

theorem GivesField.wellSpelled {given : Value} {entry : String × Value}
    (gives : GivesField title field given entry) : WellSpelled title entry.1 := by
  intro _
  cases gives with
  | path isSetting => exact .inr isSetting.smallPath
  | table isName => exact .inl isName

/-- A key that leaves the field alone changes another one, if any. -/
theorem get?_place_of_apart {key : String} (apart : Apart title field key)
    (leads : landing (landing key) = title) (value : Value) (present : Option Value) :
    (inside (some (place key value present))).get? field = (inside present).get? field := by
  rcases apart leads with ⟨small, other, rest, parsed, differs⟩
  rcases parse?_cases key with isName | ⟨name, after, step, more, spelling, _, spelled, back⟩ | none
  · rw [KeyPath.parse?_of_isName isName] at parsed
    cases parsed
  · rw [spelling] at parsed
    cases parsed
    rcases KeyPath.steps?_key back with ⟨others, spelledAfter⟩
    have infixed : other.toList <:+: key.toList :=
      ⟨title.toList ++ ['.'], others, by simp [spelled, spelledAfter]⟩
    have smallOther := small_of_spelled small infixed
    rw [← asTable_getD_nil present, place, spelling]
    cases rest with
    | nil =>
        simp only [setPath, setKey_eq, smallOther]
        exact (get?_alter _ _ _ _).trans (if_neg (Ne.symm differs))
    | cons third rest =>
        simp only [setPath]
        exact (get?_alter _ _ _ _).trans (if_neg (Ne.symm differs))
  · rw [none] at parsed
    cases parsed

theorem get?_settle_of_apart (isSection : IsSection title) {entries : Entries}
    (apart : ∀ key ∈ keys entries, Apart title field key) (present : Option Value) :
    (inside (settle landing place title entries present)).get? field =
      (inside present).get? field := by
  induction entries generalizing present with
  | nil => rfl
  | cons entry rest ih =>
      have first := apart entry.1 List.mem_cons_self
      rw [settle, List.foldl_cons]
      refine (ih (fun key member => apart key (List.mem_cons_of_mem _ member)) _).trans ?_
      split
      · rename_i lands
        refine get?_place_of_apart first ?_ entry.2 present
        rw [lands, isSection.landing_eq]
      · rfl

/-- The entry that gives a field settles it, whatever was there. -/
theorem get?_place_of_gives {origin : Option Origin} {content : Scalar} {entry : String × Value}
    (gives : GivesField title field (.scalar origin content) entry) (present : Option Value) :
    landing entry.1 = title ∧
      (inside (some (place entry.1 entry.2 present))).get? field =
        some (.scalar origin content) := by
  cases gives with
  | path isSetting =>
      constructor
      · rw [landing, isSetting.parsed]
      · rw [place, isSetting.parsed, ← asTable_getD_nil]
        simp only [setPath, setKey_eq, isSetting.small]
        exact (get?_alter _ _ _ _).trans (if_pos rfl)
  | @table key name _ before after isName leads named alone =>
      constructor
      · rw [landing_of_isName isName, leads]
      · rw [place, KeyPath.parse?_of_isName isName]
        have sets := asTable_setEntries (present.getD emptyTable)
          (before ++ (name, .scalar origin content) :: after)
        refine (congrArg (Entries.get? · field) sets).trans ?_
        rw [get?_build, settle, List.foldl_append, List.foldl_cons, if_pos named]
        refine @settle_of_apart Text.lower (fun _ => overlay) field after
          (some (.scalar origin content)) fun other member => alone other ?_
        rw [keys, List.map_append]
        exact List.mem_append_right _ member

variable {layers : List Entries} {order : Order}

/-- What is gathered of a field comes out of the second pass as it is. -/
theorem field_collect (isSection : IsSection title)
    (wellSpelled : ∀ key ∈ keys layers.flatten, WellSpelled title key) {origin : Option Origin}
    {content : Scalar}
    (gathers : (inside ((gathered layers).get? title)).get? field =
      some (.scalar origin content)) :
    ∃ above fields, (collect order layers).asTable.2.get? title = some (.table above fields) ∧
      Entries.get? fields field = some (.scalar origin content) := by
  have tidy := tidy_gathered isSection wellSpelled
  rw [get?_collect_section isSection wellSpelled]
  generalize (gathered layers).get? title = present at tidy gathers ⊢
  cases present with
  | none => cases gathers
  | some record =>
      cases record with
      | scalar => cases gathers
      | array => cases gathers
      | table above fields =>
          refine ⟨none, _, congrArg some (setEntries_emptyTable _), ?_⟩
          refine (get?_build_arrange tidy (order.below title) field).trans ?_
          rw [gathers]
          rfl

/-- The last entry for a field gives it. -/
theorem field_of_given (isSection : IsSection title) {front back : Entries}
    {entry : String × Value} {origin : Option Origin} {content : Scalar}
    (given : layers.flatten = front ++ entry :: back)
    (wellSpelled : ∀ key ∈ keys front, WellSpelled title key)
    (gives : GivesField title field (.scalar origin content) entry)
    (apart : ∀ key ∈ keys back, Apart title field key) :
    ∃ above fields, (collect order layers).asTable.2.get? title = some (.table above fields) ∧
      Entries.get? fields field = some (.scalar origin content) := by
  refine field_collect isSection ?_ ?_
  · intro key member
    rw [given, keys, List.map_append, List.map_cons] at member
    rcases List.mem_append.mp member with before | member
    · exact wellSpelled key before
    · rcases List.mem_cons.mp member with rfl | after
      · exact gives.wellSpelled
      · exact (apart key after).wellSpelled
  · rw [gathered, get?_build, given, settle, List.foldl_append, List.foldl_cons]
    have placed := get?_place_of_gives gives (settle landing place title front none)
    rw [if_pos placed.1]
    exact (get?_settle_of_apart isSection apart _).trans placed.2

end Entries

/-! ### Fields from variables -/

namespace Environment

open Entries

theorem layer_concat (environment : List (String × String)) (name text : String) :
    layer (environment ++ [(name, text)]) =
      (key? name).elim (layer environment) fun key =>
        (layer environment).put key (.scalar (some .environment) (content text)) := by
  rw [layer, List.foldl_append, List.foldl_cons, List.foldl_nil]
  dsimp only
  cases key? name <;> rfl

theorem nodup_keys_layer (environment : List (String × String)) :
    (layer environment).keys.Nodup := by
  induction environment using List.reverseRecOn with
  | nil => exact List.nodup_nil
  | append_singleton others last ih =>
      rw [layer_concat]
      cases key? last.1 with
      | none => exact ih
      | some key => exact nodup_keys_alter ih key _

/-- The keys of the variables are those that their names stand for. -/
theorem exists_of_mem_keys_layer {environment : List (String × String)} {key : String}
    (member : key ∈ (layer environment).keys) :
    ∃ entry ∈ environment, key? entry.1 = some key := by
  induction environment using List.reverseRecOn with
  | nil => cases member
  | append_singleton others last ih =>
      have earlier (old : key ∈ (layer others).keys) :
          ∃ entry ∈ others ++ [last], key? entry.1 = some key := by
        rcases ih old with ⟨entry, among, stands⟩
        exact ⟨entry, List.mem_append_left _ among, stands⟩
      rw [layer_concat] at member
      cases stands : key? last.1 with
      | none =>
          rw [stands] at member
          exact earlier member
      | some own =>
          rw [stands] at member
          rcases mem_keys_alter.1 member with rfl | old
          · exact ⟨last, by simp, stands⟩
          · exact earlier old

theorem mem_dotted {chars : List Char} {c : Char} (member : c ∈ dotted chars) :
    c = '.' ∨ c ∈ chars := by
  fun_induction dotted chars with
  | case1 rest ih =>
      rcases List.mem_cons.mp member with rfl | member
      · exact .inl rfl
      · exact (ih member).imp_right fun later =>
          List.mem_cons_of_mem _ (List.mem_cons_of_mem _ later)
  | case2 first rest _ ih =>
      rcases List.mem_cons.mp member with rfl | member
      · exact .inr List.mem_cons_self
      · exact (ih member).imp_right (List.mem_cons_of_mem _)
  | case3 => exact .inr member

theorem lower_key {name key : String} (stands : key? name = some key) : Text.lower key = key := by
  unfold key? at stands
  dsimp only at stands
  split at stands
  · cases stands
    refine Text.lower_eq_self_iff.2 fun c member => ?_
    rw [String.toList_ofList] at member
    rcases mem_dotted member with rfl | old
    · decide
    · rcases List.mem_map.mp (List.mem_of_mem_drop old) with ⟨capital, _, rfl⟩
      exact Text.lowerChar_lowerChar capital
  · cases stands

/-- What several variables for one key agree on is found under it. -/
theorem get?_layer {environment : List (String × String)} {key text : String}
    (given : ∃ entry ∈ environment, key? entry.1 = some key)
    (agree : ∀ entry ∈ environment, key? entry.1 = some key → entry.2 = text) :
    (layer environment).get? key = some (.scalar (some .environment) (content text)) := by
  induction environment using List.reverseRecOn with
  | nil =>
      rcases given with ⟨entry, member, _⟩
      cases member
  | append_singleton others last ih =>
      rw [layer_concat]
      cases stands : key? last.1 with
      | none =>
          refine ih ?_ fun entry member => agree entry (List.mem_append_left _ member)
          rcases given with ⟨entry, member, stand⟩
          rcases List.mem_append.mp member with old | new
          · exact ⟨entry, old, stand⟩
          · obtain rfl := List.mem_singleton.mp new
            rw [stands] at stand
            cases stand
      | some own =>
          refine (get?_alter _ _ _ _).trans ?_
          by_cases same : key = own
          · subst same
            rw [if_pos rfl, agree last (by simp) stands]
          · rw [if_neg same]
            refine ih ?_ fun entry member => agree entry (List.mem_append_left _ member)
            rcases given with ⟨entry, member, stand⟩
            rcases List.mem_append.mp member with old | new
            · exact ⟨entry, old, stand⟩
            · obtain rfl := List.mem_singleton.mp new
              rw [stands] at stand
              exact absurd (Option.some.inj stand).symm same

/-- No variable bears on a field of a section. -/
def Silent (title field : String) (environment : List (String × String)) : Prop :=
  ∀ entry ∈ environment, ∀ key, key? entry.1 = some key → Apart title field key

/-- Of the variables only one bears on a field of a section. -/
structure Sole (title field path name text : String) (environment : List (String × String)) :
    Prop where
  given : (name, text) ∈ environment
  stands : key? name = some path
  alone : ∀ entry ∈ environment, entry ≠ (name, text) → ∀ key, key? entry.1 = some key →
    Apart title field key

variable {title field path name text : String} {environment : List (String × String)}

theorem apart_of_silent (silent : Silent title field environment) :
    ∀ key ∈ (layer environment).keys, Apart title field key := by
  intro key member
  rcases exists_of_mem_keys_layer member with ⟨entry, among, stands⟩
  exact silent entry among key stands

theorem not_apart_path (isSetting : IsSetting title field path) : ¬Apart title field path := by
  intro apart
  have lands : Value.landing path = title := by rw [Value.landing, isSetting.parsed]
  rcases apart (by rw [lands, isSetting.isSection.landing_eq]) with
    ⟨_, other, rest, parsed, differs⟩
  rw [isSetting.parsed] at parsed
  cases parsed
  exact differs rfl

/-- The variable stands among others that leave its field alone. -/
theorem Sole.layer_eq (sole : Sole title field path name text environment)
    (isSetting : IsSetting title field path) :
    ∃ front back,
      layer environment =
        front ++ (path, .scalar (some .environment) (content text)) :: back ∧
      (∀ key ∈ keys front, Apart title field key) ∧ ∀ key ∈ keys back, Apart title field key := by
  have only (entry : String × String) (member : entry ∈ environment)
      (stands : key? entry.1 = some path) : entry = (name, text) := by
    by_contra other
    exact not_apart_path isSetting (sole.alone entry member other path stands)
  have found := get?_layer ⟨_, sole.given, sole.stands⟩ fun entry member stands =>
    congrArg Prod.snd (only entry member stands)
  rcases List.lookup_eq_some_iff.mp found with ⟨front, back, split, _⟩
  have nodup := nodup_keys_layer environment
  rw [split, keys, List.map_append, List.map_cons] at nodup
  have apart (key : String) (member : key ∈ (layer environment).keys) (other : key ≠ path) :
      Apart title field key := by
    rcases exists_of_mem_keys_layer member with ⟨entry, among, stands⟩
    refine sole.alone entry among ?_ key stands
    rintro rfl
    rw [sole.stands] at stands
    exact other (Option.some.inj stands).symm
  refine ⟨front, back, split, fun key member => apart key ?_ ?_, fun key member => apart key ?_ ?_⟩
  · rw [split, keys, List.map_append]
    exact List.mem_append_left _ member
  · rintro rfl
    exact (List.nodup_append.mp nodup).2.2 key member key List.mem_cons_self rfl
  · rw [split, keys, List.map_append]
    exact List.mem_append_right _ (List.mem_cons_of_mem _ member)
  · rintro rfl
    exact (List.nodup_cons.mp (List.nodup_append.mp nodup).2.1).1 member

end Environment

end Settings

end MailProvision
