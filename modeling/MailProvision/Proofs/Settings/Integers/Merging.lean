import MailProvision.Proofs.Settings.Layering

/-!
# The integers and the keys of settings

Every integer in a settings value fits into 64 bits with a sign, and every table in it has each of
its keys once, if this is so in the layers that it was merged from; and the variables give nothing
else.
-/

namespace MailProvision

namespace Settings

open Numeral

/-- What may be a value fits, if it is one. -/
def FitsIfAny (present : Option Value) : Prop :=
  ∀ value ∈ present, value.Fits

@[simp]
theorem Scalar.fits_nil : Scalar.Fits .nil := by
  rintro _ ⟨⟩

@[simp]
theorem Scalar.fits_boolean (b : Bool) : Scalar.Fits (.boolean b) := by
  rintro _ ⟨⟩

@[simp]
theorem Scalar.fits_float (x : Binary64) : Scalar.Fits (.float x) := by
  rintro _ ⟨⟩

@[simp]
theorem Scalar.fits_text (text : String) : Scalar.Fits (.text text) := by
  rintro _ ⟨⟩

theorem Scalar.fits_integer {i : Int} (within : isInt64 i = true) : Scalar.Fits (.integer i) := by
  rintro _ ⟨⟩
  exact within

theorem fitsIfAny_none : FitsIfAny none := by
  rintro _ ⟨⟩

theorem fitsIfAny_some {value : Value} (fits : value.Fits) : FitsIfAny (some value) := by
  rintro _ ⟨⟩
  exact fits

theorem Entries.fits_nil : Entries.Fits [] where
  values _ member := (List.not_mem_nil member).elim
  distinct := List.nodup_nil

namespace Value

theorem fits_nil : Fits nil := .scalar Scalar.fits_nil

theorem fits_table {origin : Option Origin} {entries : Entries} (fits : entries.Fits) :
    Fits (.table origin entries) :=
  .table fits.values fits.distinct

theorem fits_emptyTable : Fits emptyTable := fits_table Entries.fits_nil

theorem Fits.content {origin : Option Origin} {content : Scalar}
    (fits : Fits (.scalar origin content)) : content.Fits := by
  cases fits with
  | scalar fits => exact fits

theorem Fits.asTable {value : Value} (fits : value.Fits) : Entries.Fits value.asTable.2 := by
  cases fits with
  | scalar fits => exact Entries.fits_nil
  | array fits => exact Entries.fits_nil
  | table fits distinct => exact ⟨fits, distinct⟩

theorem Fits.asArray {value : Value} (fits : value.Fits) : ∀ item ∈ value.asArray.2, item.Fits := by
  cases fits with
  | array fits => exact fits
  | scalar fits | table fits => exact fun _ member => (List.not_mem_nil member).elim

theorem fits_getD {present : Option Value} {standard : Value} (fits : FitsIfAny present)
    (otherwise : standard.Fits) : (present.getD standard).Fits := by
  cases present with
  | none => exact otherwise
  | some value => exact fits value rfl

end Value

namespace Entries

theorem fits_get? {entries : Entries} (fits : ∀ entry ∈ entries, entry.2.Fits) (key : String) :
    FitsIfAny (entries.get? key) := by
  intro value found
  rcases List.lookup_eq_some_iff.mp found with ⟨front, back, rfl, _⟩
  exact fits (key, value) (by simp)

theorem values_alter {entries : Entries} (fits : ∀ entry ∈ entries, entry.2.Fits) (key : String)
    {change : Option Value → Value}
    (keeps : ∀ present, FitsIfAny present → (change present).Fits) :
    ∀ entry ∈ entries.alter key change, entry.2.Fits := by
  induction entries with
  | nil =>
      intro entry member
      obtain rfl := List.mem_singleton.mp member
      exact keeps none fitsIfAny_none
  | cons entry rest ih =>
      rcases entry with ⟨name, value⟩
      have first : value.Fits := fits (name, value) List.mem_cons_self
      have others : ∀ entry ∈ rest, entry.2.Fits :=
        fun entry member => fits entry (List.mem_cons_of_mem _ member)
      rw [alter]
      split
      · intro entry member
        rcases List.mem_cons.mp member with rfl | member
        · exact keeps _ (fitsIfAny_some first)
        · exact others entry member
      · intro entry member
        rcases List.mem_cons.mp member with rfl | member
        · exact first
        · exact ih others entry member

theorem fits_alter {entries : Entries} (fits : entries.Fits) (key : String)
    {change : Option Value → Value}
    (keeps : ∀ present, FitsIfAny present → (change present).Fits) :
    (entries.alter key change).Fits where
  values := values_alter fits.values key keeps
  distinct := nodup_keys_alter fits.distinct key change

theorem fits_put {entries : Entries} (fits : entries.Fits) (key : String) {value : Value}
    (fitsToo : value.Fits) : (entries.put key value).Fits :=
  fits_alter fits key fun _ _ => fitsToo

end Entries

/-! ### Merging -/

namespace Value

theorem fits_setKey {target value : Value} (fits : target.Fits) (key : String)
    (keeps : ∀ present, FitsIfAny present → (overlay value present).Fits) :
    (setKey key target value).Fits := by
  rw [setKey_eq]
  exact fits_table (Entries.fits_alter fits.asTable _ keeps)

theorem fits_overlay {value : Value} (fits : value.Fits) {present : Option Value}
    (fitsPresent : FitsIfAny present) : (overlay value present).Fits := by
  induction fits generalizing present with
  | scalar fits => exact .scalar fits
  | array fits => exact .array fits
  | @table origin entries _ _ ih =>
      have sets (others : Entries) (among : others ⊆ entries) {target : Value}
          (fitsTarget : target.Fits) : (setEntries target others).Fits := by
        induction others generalizing target with
        | nil =>
            rw [setEntries]
            exact fitsTarget
        | cons entry rest ihRest =>
            rw [setEntries]
            refine ihRest (fun _ member => among (List.mem_cons_of_mem _ member)) ?_
            exact fits_setKey fitsTarget entry.1 fun _ => ih entry (among List.mem_cons_self)
      exact sets entries (List.Subset.refl entries) (fits_getD fitsPresent fits_emptyTable)

theorem fits_arrange {value : Value} (fits : value.Fits) (order : Order) :
    (value.arrange order).Fits := by
  induction fits generalizing order with
  | scalar fits => exact .scalar fits
  | array fits => exact .array fits
  | table _ distinct ih =>
      refine .table (fun entry member => ?_) (Entries.nodup_keys_arrange order distinct)
      rcases List.mem_map.mp ((Entries.perm_arrange order _).mem_iff.mp member) with
        ⟨old, among, rfl⟩
      exact ih old among _

theorem fits_modify {items : List Value} (fits : ∀ item ∈ items, item.Fits) (place : Nat)
    {change : Value → Value} (keeps : ∀ item, item.Fits → (change item).Fits) :
    ∀ item ∈ items.modify place change, item.Fits := by
  intro item member
  rcases List.mem_iff_getElem?.mp member with ⟨other, found⟩
  rw [List.getElem?_modify] at found
  rcases Option.map_eq_some_iff.mp found with ⟨old, oldFound, rfl⟩
  have oldFits := fits old (List.mem_of_getElem? oldFound)
  split
  · exact keeps old oldFits
  · exact oldFits

theorem fits_alterPlace {target : Value} (fits : target.Fits) (index : Int)
    {change : Value → Value} (keeps : ∀ item, item.Fits → (change item).Fits) :
    (alterPlace index change target).Fits := by
  refine .array (fits_modify (fun item member => ?_) _ keeps)
  rcases List.mem_append.mp member with old | new
  · exact fits.asArray item old
  · rw [List.eq_of_mem_replicate new]
    exact fits_nil

theorem fits_setPath {value : Value} (fits : value.Fits) (steps : List PathStep)
    {target : Value} (fitsTarget : target.Fits) : (setPath value steps target).Fits := by
  induction steps generalizing target with
  | nil => exact fits
  | cons step rest ih =>
      cases step with
      | place index =>
          have changes : setPath value (.place index :: rest) target =
              alterPlace index (setPath value rest) target := by cases rest <;> rfl
          rw [changes]
          exact fits_alterPlace fitsTarget index fun _ => ih
      | key name =>
          cases rest with
          | nil => exact fits_setKey fitsTarget name fun _ => fits_overlay fits
          | cons next others =>
              exact fits_table (Entries.fits_alter fitsTarget.asTable name fun _ fitsPresent =>
                ih (fits_getD fitsPresent fits_nil))

theorem fits_set {root value : Value} (fitsRoot : root.Fits) (key : String)
    (fits : value.Fits) : (root.set key value).Fits := by
  rw [set]
  split
  · exact fits_setPath fits _ fitsRoot
  · exact fits_setKey fitsRoot key fun _ => fits_overlay fits

end Value

namespace Entries

theorem fits_arrange {entries : Entries} (fits : entries.Fits) (order : Order) :
    Entries.Fits (arrange order entries) := by
  have table : Value.Fits (.table none entries) := Value.fits_table fits
  exact (Value.fits_arrange table order).asTable

theorem fits_setAll {root : Value} (fitsRoot : root.Fits) {entries : Entries}
    (fits : ∀ entry ∈ entries, entry.2.Fits) : (setAll root entries).Fits := by
  induction entries generalizing root with
  | nil => exact fitsRoot
  | cons entry rest ih =>
      refine ih ?_ fun other member => fits other (List.mem_cons_of_mem _ member)
      exact Value.fits_set fitsRoot entry.1 (fits entry List.mem_cons_self)

/-- Merging makes no integer that was not there, and puts no key into a table twice. -/
theorem fits_collect {layers : List Entries} (fits : ∀ layer ∈ layers, layer.Fits)
    (order : Order) : (collect order layers).Fits := by
  have gathered (root : Value) (fitsRoot : root.Fits) : (layers.foldl setAll root).Fits := by
    induction layers generalizing root with
    | nil => exact fitsRoot
    | cons layer rest ih =>
        exact ih (fun other member => fits other (List.mem_cons_of_mem _ member)) _
          (fits_setAll fitsRoot (fits layer List.mem_cons_self).values)
  have fitsRoot := gathered _ Value.fits_emptyTable
  exact fits_setAll Value.fits_emptyTable (fits_arrange fitsRoot.asTable order).values

end Entries

/-! ### Variables -/

namespace Environment

theorem fits_content (text : String) : (content text).Fits := by
  unfold content
  split
  · exact Scalar.fits_boolean true
  · exact Scalar.fits_boolean false
  · split
    · rename_i i read
      exact Scalar.fits_integer (Option.filter_eq_some_iff.mp read).2
    · split
      · exact Scalar.fits_float _
      · exact Scalar.fits_text text

theorem fits_layer (environment : List (String × String)) : (layer environment).Fits := by
  unfold layer
  have start := Entries.fits_nil
  generalize ([] : Entries) = before at start ⊢
  induction environment generalizing before with
  | nil => exact start
  | cons entry rest ih =>
      rcases entry with ⟨name, text⟩
      refine ih _ ?_
      dsimp only
      split
      · exact start
      · exact Entries.fits_put start _ (.scalar (fits_content text))

end Environment

end Settings

end MailProvision
