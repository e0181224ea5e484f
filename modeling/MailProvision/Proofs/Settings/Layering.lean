import Mathlib.Data.List.TakeWhile
import MailProvision.Proofs.Settings.Library
import MailProvision.Settings.Environment

/-!
# Layers of settings

The layers of settings are set into one table, which is then set into another one once more, in the
order that the library chooses (`collect_eq`).
-/

namespace MailProvision

namespace Settings

namespace KeyPath

theorem isIdentifierChar_lowerChar {c : Char} (identifier : isIdentifierChar c = true) :
    isIdentifierChar (Text.lowerChar c) = true := by
  rcases Text.lowerChar_cases c with same | ⟨low, high⟩
  · rw [same]
    exact identifier
  · have letter : 'a' ≤ Text.lowerChar c ∧ Text.lowerChar c ≤ 'z' := ⟨low, high⟩
    simp [isIdentifierChar, letter]

/-- Whether a key is a single identifier. -/
def IsName (key : String) : Prop :=
  key ≠ "" ∧ ∀ c ∈ key.toList, isIdentifierChar c = true

instance (key : String) : Decidable (IsName key) :=
  decidable_of_iff (key ≠ "" ∧ key.toList.all isIdentifierChar = true)
    (and_congr_right' List.all_eq_true)

theorem isName_lower {name : String} (isName : IsName name) : IsName (Text.lower name) := by
  constructor
  · intro empty
    have none : name.toList.map Text.lowerChar = [] := by
      rw [← String.toList_ofList (l := name.toList.map Text.lowerChar)]
      exact String.toList_eq_nil_iff.mpr empty
    exact isName.1 (String.toList_eq_nil_iff.mp (List.map_eq_nil_iff.mp none))
  · intro c member
    rw [Text.lower, String.toList_ofList] at member
    rcases List.mem_map.mp member with ⟨capital, found, rfl⟩
    exact isIdentifierChar_lowerChar (isName.2 capital found)

theorem identifier?_some {chars after : List Char} {name : String}
    (read : identifier? chars = some (name, after)) :
    IsName name ∧ chars = name.toList ++ after := by
  unfold identifier? at read
  split at read
  · cases read
  · rename_i nonempty
    cases read
    refine ⟨⟨?_, ?_⟩, ?_⟩
    · simpa using nonempty
    · intro c member
      rw [String.toList_ofList] at member
      exact List.mem_takeWhile_imp member
    · rw [String.toList_ofList]
      exact List.takeWhile_append_dropWhile.symm

theorem identifier?_append {name : String} (isName : IsName name) {after : List Char}
    (stops : ∀ c ∈ after.head?, isIdentifierChar c = false) :
    identifier? (name.toList ++ after) = some (name, after) := by
  have rest : after.takeWhile isIdentifierChar = [] ∧
      after.dropWhile isIdentifierChar = after := by
    cases after with
    | nil => exact ⟨rfl, rfl⟩
    | cons c others =>
        have stop := stops c rfl
        exact ⟨List.takeWhile_cons_of_neg (by simp [stop]),
          List.dropWhile_cons_of_neg (by simp [stop])⟩
  rw [identifier?, List.takeWhile_append_of_pos isName.2, List.dropWhile_append_of_pos isName.2,
    rest.1, rest.2, List.append_nil]
  split
  · rename_i empty
    exact absurd (String.toList_eq_nil_iff.mp empty) isName.1
  · rw [String.ofList_toList]

theorem identifier?_of_isName {name : String} (isName : IsName name) :
    identifier? name.toList = some (name, []) := by
  have read : identifier? (name.toList ++ []) = some (name, []) := by
    refine identifier?_append isName ?_
    rintro _ ⟨⟩
  rwa [List.append_nil] at read

theorem parse?_of_isName {name : String} (isName : IsName name) :
    parse? name = some [.key name] := by
  simp only [parse?, identifier?_of_isName isName]
  cases name.toList.length <;> rfl

theorem parse?_join {first second : String} (isFirst : IsName first) (isSecond : IsName second) :
    parse? (first ++ "." ++ second) = some [.key first, .key second] := by
  have chars : (first ++ "." ++ second).toList = first.toList ++ '.' :: second.toList := by
    simp
  have front : identifier? (first.toList ++ '.' :: second.toList) =
      some (first, '.' :: second.toList) := by
    refine identifier?_append isFirst ?_
    rintro _ ⟨⟩
    decide
  have long : ∃ limit, (first.toList ++ '.' :: second.toList).length = limit + 1 :=
    ⟨first.toList.length + second.toList.length, by simp; omega⟩
  rcases long with ⟨limit, long⟩
  have back : steps? (limit + 1) ('.' :: second.toList) = some [.key second] := by
    simp only [steps?, identifier?_of_isName isSecond]
    cases limit <;> rfl
  simp only [parse?, chars, front, long, Option.bind_eq_bind, Option.bind_some, back]
  rfl

/-- A path starts with an identifier, and what follows it in the key spells the other steps. -/
theorem parse?_some {key : String} {steps : List PathStep} (parsed : parse? key = some steps) :
    ∃ name after rest, steps = .key name :: rest ∧
      identifier? key.toList = some (name, after) ∧
      steps? key.toList.length after = some rest := by
  simp only [parse?] at parsed
  rcases Option.bind_eq_some_iff.mp parsed with ⟨⟨name, after⟩, front, parsed⟩
  rcases Option.bind_eq_some_iff.mp parsed with ⟨rest, back, same⟩
  exact ⟨name, after, rest, (Option.some.inj same).symm, front, back⟩

theorem steps?_nil {limit : Nat} {chars : List Char} (read : steps? limit chars = some []) :
    chars = [] := by
  unfold steps? at read
  split at read
  · rfl
  · cases read
  · rcases Option.bind_eq_some_iff.mp read with ⟨_, _, read⟩
    rcases Option.bind_eq_some_iff.mp read with ⟨_, _, same⟩
    cases same
  · rcases Option.bind_eq_some_iff.mp read with ⟨_, _, read⟩
    rcases Option.bind_eq_some_iff.mp read with ⟨_, _, same⟩
    cases same
  · cases read

/-- The names on a path are spelled in the key. -/
theorem steps?_key {limit : Nat} {chars : List Char} {name : String} {rest : List PathStep}
    (read : steps? limit chars = some (.key name :: rest)) :
    ∃ after, chars = '.' :: (name.toList ++ after) := by
  unfold steps? at read
  split at read
  · cases read
  · cases read
  · rcases Option.bind_eq_some_iff.mp read with ⟨⟨first, after⟩, front, read⟩
    rcases Option.bind_eq_some_iff.mp read with ⟨others, _, same⟩
    cases same
    exact ⟨after, congrArg _ (identifier?_some front).2⟩
  · rcases Option.bind_eq_some_iff.mp read with ⟨⟨index, after⟩, _, read⟩
    rcases Option.bind_eq_some_iff.mp read with ⟨others, _, same⟩
    cases same
  · cases read

end KeyPath

namespace Value

/-- The entries of what may be a table. -/
def inside (present : Option Value) : Entries :=
  (present.getD emptyTable).asTable.2

theorem asTable_getD_nil (present : Option Value) :
    (present.getD nil).asTable.2 = inside present := by
  cases present <;> rfl

/-- What a value becomes where another one is: a table is merged into it, any other value takes its
place. -/
def overlay : Value → Option Value → Value
  | table _ entries, present => setEntries (present.getD emptyTable) entries
  | value, _ => value

theorem inside_arrange (order : Order) (present : Option Value) :
    inside (present.map fun value => value.arrange order) =
      Entries.arrange order (inside present) := by
  cases present with
  | none => rfl
  | some value => cases value <;> rfl

theorem setKey_eq (key : String) (target value : Value) :
    setKey key target value =
      table target.asTable.1 (target.asTable.2.alter (Text.lower key) value.overlay) := by
  cases value with
  | scalar origin content => simp only [setKey]; rfl
  | array origin items => simp only [setKey]; rfl
  | table origin entries => simp only [setKey]; rfl

theorem asTable_setEntries (target : Value) (entries : Entries) :
    (setEntries target entries).asTable.2 =
      Entries.build Text.lower (fun _ => overlay) entries target.asTable.2 := by
  induction entries generalizing target with
  | nil => rw [setEntries]; rfl
  | cons entry rest ih =>
      rcases entry with ⟨key, value⟩
      rw [setEntries, setKey_eq, ih]
      rfl

theorem setEntries_emptyTable (entries : Entries) :
    setEntries emptyTable entries =
      table none (Entries.build Text.lower (fun _ => overlay) entries []) := by
  have stays (old : Entries) : ∃ final, setEntries (table none old) entries = table none final := by
    induction entries generalizing old with
    | nil => exact ⟨old, by rw [setEntries]⟩
    | cons entry rest ih =>
        rcases entry with ⟨key, value⟩
        rw [setEntries, setKey_eq]
        exact ih _
  rcases stays [] with ⟨final, same⟩
  have entries := asTable_setEntries emptyTable entries
  rw [emptyTable, same] at entries ⊢
  exact congrArg (table none) entries

/-- Follows the steps of a path below the root. -/
def place (key : String) (value : Value) : Option Value → Value :=
  match KeyPath.parse? key with
  | some (_ :: step :: rest) => fun present => setPath value (step :: rest) (present.getD nil)
  | _ => overlay value

/-- The name of the root under which a key sets its value. -/
def landing (key : String) : String :=
  match KeyPath.parse? key with
  | some (.key name :: _ :: _) => name
  | _ => Text.lower key

theorem landing_of_isName {name : String} (isName : KeyPath.IsName name) :
    landing name = Text.lower name := by
  rw [landing, KeyPath.parse?_of_isName isName]

/-- A key is a single name, a path of several steps or no path at all. -/
theorem parse?_cases (key : String) :
    KeyPath.IsName key ∨
    (∃ name after step rest, KeyPath.parse? key = some (.key name :: step :: rest) ∧
      KeyPath.IsName name ∧ key.toList = name.toList ++ after ∧
      KeyPath.steps? key.toList.length after = some (step :: rest)) ∨
    KeyPath.parse? key = none := by
  cases parsed : KeyPath.parse? key with
  | none => exact .inr (.inr rfl)
  | some steps =>
      rcases KeyPath.parse?_some parsed with ⟨name, after, rest, rfl, front, back⟩
      rcases KeyPath.identifier?_some front with ⟨isName, spelled⟩
      cases rest with
      | nil =>
          obtain rfl := KeyPath.steps?_nil back
          obtain rfl : key = name := by simpa [← String.toList_inj] using spelled
          exact .inl isName
      | cons step rest =>
          exact .inr (.inl ⟨name, after, step, rest, rfl, isName, spelled, back⟩)

theorem set_eq (root : Value) (key : String) (value : Value) :
    root.set key value =
      table root.asTable.1 (root.asTable.2.alter (landing key) (place key value)) := by
  rcases parse?_cases key with isName | ⟨name, after, step, rest, parsed, _⟩ | none
  · have parsed := KeyPath.parse?_of_isName isName
    simp only [set, place, landing, parsed, setPath, setKey_eq]
  · simp only [set, place, landing, parsed, setPath]
  · simp only [set, place, landing, none, setKey_eq]

end Value

namespace Entries

open Value

theorem setAll_eq (origin : Option Origin) (old entries : Entries) :
    setAll (.table origin old) entries = .table origin (build landing place entries old) := by
  induction entries generalizing old with
  | nil => rfl
  | cons entry rest ih =>
      rw [setAll, List.foldl_cons, set_eq]
      exact ih _

/-- The entries of layers, set one after the other. -/
def gathered (layers : List Entries) : Entries :=
  build landing place layers.flatten []

theorem collect_eq (order : Order) (layers : List Entries) :
    collect order layers =
      .table none (build landing place (arrange order (gathered layers)) []) := by
  have first (old : Entries) : layers.foldl setAll (.table none old) =
      .table none (build landing place layers.flatten old) := by
    induction layers generalizing old with
    | nil => rfl
    | cons layer rest ih =>
        rw [List.foldl_cons, setAll_eq, ih, List.flatten_cons, build_append]
  rw [collect, emptyTable, first, setAll_eq]
  rfl

/-! ### Keys that meet in one section -/

/-- The keys of a table are all different and in small letters. -/
structure Tidy (entries : Entries) : Prop where
  nodup : entries.keys.Nodup
  small : ∀ key ∈ entries.keys, Text.lower key = key

theorem tidy_nil : Tidy [] where
  nodup := List.nodup_nil
  small _ member := (List.not_mem_nil member).elim

theorem Tidy.arrange {entries : Entries} (tidy : Tidy entries) (order : Order) :
    Tidy (arrange order entries) where
  nodup := nodup_keys_arrange order tidy.nodup
  small key member := tidy.small key (mem_keys_arrange.1 member)

theorem Tidy.alter {entries : Entries} (tidy : Tidy entries) {key : String}
    (small : Text.lower key = key) (change : Option Value → Value) :
    Tidy (entries.alter key change) where
  nodup := nodup_keys_alter tidy.nodup key change
  small other member := by
    rcases mem_keys_alter.1 member with rfl | old
    · exact small
    · exact tidy.small other old

theorem tidy_overlay (value : Value) {present : Option Value}
    (tidy : Tidy (inside present)) : Tidy (inside (some (value.overlay present))) := by
  cases value with
  | scalar origin content => exact tidy_nil
  | array origin items => exact tidy_nil
  | table origin entries =>
      refine Eq.mpr (congrArg Tidy (asTable_setEntries (present.getD emptyTable) entries)) ?_
      change Tidy (build Text.lower _ entries (inside present))
      generalize inside present = start at tidy
      -- The entries go in one by one, so that the table to start from is any tidy one.
      induction entries generalizing start with
      | nil => exact tidy
      | cons entry rest ih => exact ih _ (tidy.alter (Text.lower_lower entry.1) _)

/-- The name of a section. -/
structure IsSection (name : String) : Prop where
  isName : KeyPath.IsName name
  small : Text.lower name = name

/-- A key that leads into a section is a single name, or it is spelled in small letters. -/
def WellSpelled (title key : String) : Prop :=
  landing (landing key) = title → KeyPath.IsName key ∨ Text.lower key = key

theorem small_of_spelled {key name : String} (small : Text.lower key = key)
    (spelled : name.toList <:+: key.toList) : Text.lower name = name :=
  Text.lower_eq_self_iff.2 fun c member => Text.lower_eq_self_iff.1 small c (spelled.subset member)

variable {title key : String}

theorem landing_eq_of_wellSpelled (wellSpelled : WellSpelled title key)
    (leads : landing (landing key) = title) : landing key = title := by
  rcases parse?_cases key with isName | ⟨name, after, step, rest, parsed, isName, spelled, _⟩ | none
  · rw [landing_of_isName isName] at leads ⊢
    rw [landing_of_isName (KeyPath.isName_lower isName), Text.lower_lower] at leads
    exact leads
  · have lands : landing key = name := by rw [landing, parsed]
    rcases wellSpelled leads with single | small
    · rw [KeyPath.parse?_of_isName single] at parsed
      cases parsed
    · rw [lands] at leads ⊢
      rw [landing_of_isName isName, small_of_spelled small ⟨[], after, by simpa using spelled.symm⟩]
        at leads
      exact leads
  · have lands : landing key = Text.lower key := by rw [landing, none]
    rcases wellSpelled leads with single | small
    · rw [KeyPath.parse?_of_isName single] at none
      cases none
    · rw [lands, small] at leads
      exact leads

theorem tidy_place (wellSpelled : WellSpelled title key)
    (leads : landing (landing key) = title) (value : Value) {present : Option Value}
    (tidy : Tidy (inside present)) : Tidy (inside (some (place key value present))) := by
  rcases parse?_cases key with isName | ⟨name, after, step, rest, parsed, isName, spelled, back⟩ |
    none
  · rw [place, KeyPath.parse?_of_isName isName]
    exact tidy_overlay value tidy
  · have small : Text.lower key = key := by
      rcases wellSpelled leads with single | small
      · rw [KeyPath.parse?_of_isName single] at parsed
        cases parsed
      · exact small
    rw [place, parsed]
    cases step with
    | place index => cases rest <;> exact tidy_nil
    | key second =>
        rcases KeyPath.steps?_key back with ⟨others, spelledAfter⟩
        have infixed : second.toList <:+: key.toList :=
          ⟨name.toList ++ ['.'], others, by simp [spelled, spelledAfter]⟩
        rw [← asTable_getD_nil] at tidy
        cases rest with
        | nil =>
            simp only [setPath, setKey_eq]
            exact tidy.alter (Text.lower_lower second) _
        | cons third rest =>
            simp only [setPath]
            exact tidy.alter (small_of_spelled small infixed) _
  · rw [place, none]
    exact tidy_overlay value tidy

/-! ### A variable on top of the layers -/

theorem IsSection.landing_eq (isSection : IsSection title) : landing title = title :=
  (landing_of_isName isSection.isName).trans isSection.small

theorem IsSection.place_eq (isSection : IsSection title) : place title = overlay := by
  funext value
  rw [place, KeyPath.parse?_of_isName isSection.isName]

variable {layers : List Entries} {order : Order}

/-- Of the gathered entries only one ends up in a section. -/
theorem own_gathered (isSection : IsSection title)
    (wellSpelled : ∀ key ∈ keys layers.flatten, WellSpelled title key) :
    ∀ key ∈ (gathered layers).keys, landing key = title ↔ key = title := by
  intro key member
  constructor
  · intro lands
    rcases mem_keys_build.1 member with impossible | ⟨source, given, rfl⟩
    · cases impossible
    · exact landing_eq_of_wellSpelled (wellSpelled source given) lands
  · rintro rfl
    exact isSection.landing_eq

theorem tidy_gathered (isSection : IsSection title)
    (wellSpelled : ∀ key ∈ keys layers.flatten, WellSpelled title key) :
    Tidy (inside ((gathered layers).get? title)) := by
  rw [gathered, get?_build]
  have start : Tidy (inside (Entries.get? [] title)) := tidy_nil
  generalize layers.flatten = entries at wellSpelled ⊢
  generalize Entries.get? [] title = present at start ⊢
  -- What has been settled so far is tidy, and it stays tidy with each entry that lands there.
  induction entries generalizing present with
  | nil => exact start
  | cons entry rest ih =>
      have others : ∀ key ∈ keys rest, WellSpelled title key :=
        fun key member => wellSpelled key (List.mem_cons_of_mem _ member)
      rw [settle, List.foldl_cons]
      by_cases lands : landing entry.1 = title
      · rw [if_pos lands]
        refine ih others _ (tidy_place (wellSpelled entry.1 List.mem_cons_self) ?_ entry.2 start)
        rw [lands, isSection.landing_eq]
      · rw [if_neg lands]
        exact ih others _ start

theorem get?_collect_section (isSection : IsSection title)
    (wellSpelled : ∀ key ∈ keys layers.flatten, WellSpelled title key) :
    (collect order layers).asTable.2.get? title =
      (((gathered layers).get? title).map fun value => value.arrange (order.below title)).map
        fun value => overlay value none := by
  have nodup : (gathered layers).keys.Nodup := @nodup_build _ _ [] List.nodup_nil _
  have own : ∀ key ∈ keys (arrange order (gathered layers)), landing key = title ↔ key = title :=
    fun key member => own_gathered isSection wellSpelled key (mem_keys_arrange.1 member)
  rw [collect_eq, ← get?_arrange order nodup]
  refine (get?_build _ _ _).trans ?_
  rw [settle_of_own (nodup_keys_arrange order nodup) own, isSection.place_eq]
  exact Option.or_none

/-- What one variable more makes of the settings: its value stands under its field, and everything
else is as it was. A section that was no table becomes one. -/
structure Sets (title field : String) (value : Value) (before after : Entries) : Prop where
  others : ∀ name, name ≠ title → after.get? name = before.get? name
  own : ∃ origin fields, after.get? title = some (.table origin fields) ∧
    ∀ name, Entries.get? fields name =
      if name = field then some value else (inside (before.get? title)).get? name

/-- A key that spells one field of one section, in small letters. -/
structure IsSetting (title field path : String) : Prop where
  isSection : IsSection title
  small : Text.lower field = field
  smallPath : Text.lower path = path
  parsed : KeyPath.parse? path = some [.key title, .key field]

theorem inside_overlay (present : Option Value) :
    inside (present.map fun value => overlay value none) =
      build Text.lower (fun _ => overlay) (inside present) [] := by
  cases present with
  | none => rfl
  | some value =>
      cases value with
      | scalar origin content => rfl
      | array origin items => rfl
      | table origin entries => exact asTable_setEntries emptyTable entries

/-- A value that is placed in a section stands in it under its field. -/
theorem IsSetting.place_eq {path field : String} {origin : Option Origin} {content : Scalar}
    (isSetting : IsSetting title field path) (present : Option Value) :
    place path (.scalar origin content) present =
      .table ((present.getD nil).asTable.1)
        ((inside present).alter field fun _ => .scalar origin content) := by
  rw [place, isSetting.parsed, ← asTable_getD_nil]
  simp only [setPath, setKey_eq, isSetting.small]
  rfl

/-- Copying a tidy table copies what stands under each of its keys. -/
theorem get?_build_of_tidy {entries : Entries} (tidy : Tidy entries) (name : String) :
    (build Text.lower (fun _ => overlay) entries []).get? name =
      (entries.get? name).map (overlay · none) := by
  have own : ∀ key ∈ keys entries, Text.lower key = name ↔ key = name :=
    fun key member => by rw [tidy.small key member]
  rw [get?_build]
  exact (settle_of_own tidy.nodup own _).trans Option.or_none

/-- Copying a tidy table in some order copies what stands under each of its keys. -/
theorem get?_build_arrange {entries : Entries} (tidy : Tidy entries) (order : Order)
    (name : String) :
    (build Text.lower (fun _ => overlay) (arrange order entries) []).get? name =
      ((entries.get? name).map fun value => value.arrange (order.below name)).map
        (overlay · none) := by
  rw [get?_build_of_tidy (tidy.arrange order), get?_arrange order tidy.nodup]

/-- Copying the entries of a section keeps what was set in it last. -/
theorem get?_build_set {entries : Entries} (tidy : Tidy entries) {field : String}
    (small : Text.lower field = field) (origin : Option Origin) (content : Scalar)
    (name : String) :
    (build Text.lower (fun _ => overlay)
        (arrange order (entries.alter field fun _ => .scalar origin content)) []).get? name =
      if name = field then some (.scalar origin content)
      else (build Text.lower (fun _ => overlay) (arrange order entries) []).get? name := by
  rw [get?_build_arrange (tidy.alter small _), get?_build_arrange tidy, get?_alter]
  split <;> rfl

theorem sets_of_variable {further : List Entries} {path field : String} {origin : Option Origin}
    {content : Scalar} (isSetting : IsSetting title field path)
    (wellSpelled : ∀ key ∈ keys layers.flatten, WellSpelled title key)
    (more : further.flatten = layers.flatten ++ [(path, .scalar origin content)]) :
    Sets title field (.scalar origin content) (collect order layers).asTable.2
      (collect order further).asTable.2 := by
  have isSection := isSetting.isSection
  have lands : landing path = title := by rw [landing, isSetting.parsed]
  have wellSpelledMore : ∀ key ∈ keys further.flatten, WellSpelled title key := by
    intro key member
    rw [more, keys, List.map_append] at member
    rcases List.mem_append.mp member with given | last
    · exact wellSpelled key given
    · obtain rfl := List.mem_singleton.mp last
      exact fun _ => .inr isSetting.smallPath
  have gatheredMore : gathered further =
      (gathered layers).alter title (place path (.scalar origin content)) := by
    rw [gathered, more, build_append, ← lands]
    rfl
  constructor
  · intro name other
    rw [collect_eq, collect_eq]
    refine (get?_build _ _ _).trans (Eq.trans ?_ (get?_build _ _ _).symm)
    -- The section itself lands elsewhere, and the other keys keep their order.
    have apart : decide (landing title = name) = false := by
      simp [isSection.landing_eq, Ne.symm other]
    rw [← settle_filter, ← settle_filter name (arrange order (gathered layers)),
      filter_arrange order _ fun key => landing key = name,
      filter_arrange order _ fun key => landing key = name, gatheredMore,
      @filter_alter (fun key => landing key = name) title apart]
  · rw [get?_collect_section isSection wellSpelledMore, get?_collect_section isSection wellSpelled,
      gatheredMore, get?_alter, if_pos rfl, inside_overlay, inside_arrange, isSetting.place_eq]
    refine ⟨none, _, congrArg some (setEntries_emptyTable _), fun name => ?_⟩
    exact get?_build_set (tidy_gathered isSection wellSpelled) isSetting.small origin content name

end Entries

end Settings

end MailProvision
