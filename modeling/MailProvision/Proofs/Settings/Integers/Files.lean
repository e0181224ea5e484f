import MailProvision.Proofs.Action
import MailProvision.Proofs.Settings.Integers.Toml
import MailProvision.Proofs.Settings.Integers.Yaml
import MailProvision.Settings.File

/-!
# The integers and the keys of settings files

Every integer that a file gives fits into 64 bits, and every table that it gives has each of its
keys once, whatever the format of the file; here this is shown of JSON texts.
-/

namespace MailProvision

namespace Settings

open Numeral

namespace Json

theorem fits_finish {negative : Bool} {significand : Nat} {shift : Int} {chars rest : List Char}
    {content : Scalar} (read : finish negative significand shift chars = some (content, rest)) :
    content.Fits := by
  unfold finish at read
  split at read
  · split at read
    · rcases Option.bind_eq_some_iff.mp read with ⟨⟨exponent, after⟩, _, read⟩
      rcases Option.bind_eq_some_iff.mp read with ⟨x, _, same⟩
      cases same
      exact Scalar.fits_float x
    · rcases Option.bind_eq_some_iff.mp read with ⟨x, _, same⟩
      cases same
      exact Scalar.fits_float x
  · rcases Option.bind_eq_some_iff.mp read with ⟨x, _, same⟩
    cases same
    exact Scalar.fits_float x

theorem fits_unsigned? {negative : Bool} {chars rest : List Char} {content : Scalar}
    (read : unsigned? negative chars = some (content, rest)) : content.Fits := by
  unfold unsigned? at read
  split at read
  · cases read
  · cases read
  · dsimp only at read
    split at read
    · split at read
      · cases read
      · exact fits_finish read
    · split at read
      · exact fits_finish read
      · generalize (if negative = true then _ else _ : Int) = value at read
        split at read
        · rename_i within
          cases read
          exact Scalar.fits_integer (Bool.and_eq_true_iff.mp within).1
        · rcases Option.bind_eq_some_iff.mp read with ⟨x, _, same⟩
          cases same
          exact Scalar.fits_float x

theorem fits_number? {chars rest : List Char} {content : Scalar}
    (read : number? chars = some (content, rest)) : content.Fits := by
  unfold number? at read
  split at read
  · exact fits_unsigned? read
  · exact fits_unsigned? read

variable {origin : Origin}

/-- What is read with so much work fits. -/
structure Fitting (origin : Origin) (limit : Nat) : Prop where
  value : ∀ {depth chars value rest},
    value? origin limit depth chars = some (value, rest) → value.Fits
  items : ∀ {depth chars items rest},
    items? origin limit depth chars = some (items, rest) → ∀ item ∈ items, item.Fits
  entries : ∀ {depth before chars entries rest}, before.Fits →
    entries? origin limit depth before chars = some (entries, rest) → entries.Fits

theorem Fitting.value_succ {limit : Nat} (fitting : Fitting origin limit)
    {depth : Nat} {chars rest : List Char} {value : Value}
    (read : value? origin (limit + 1) depth chars = some (value, rest)) : value.Fits := by
  unfold value? at read
  split at read
  · rcases Option.bind_eq_some_iff.mp read with ⟨⟨text, after⟩, _, same⟩
    cases same
    exact .scalar (Scalar.fits_text text)
  · split at read
    · cases read
    · split at read
      · cases read
        exact .array fun _ member => (List.not_mem_nil member).elim
      · rcases Option.bind_eq_some_iff.mp read with ⟨⟨_, after⟩, itemsRead, same⟩
        cases same
        exact .array (fitting.items itemsRead)
  · split at read
    · cases read
    · split at read
      · cases read
        exact Value.fits_table Entries.fits_nil
      · rcases Option.bind_eq_some_iff.mp read with ⟨⟨_, after⟩, entriesRead, same⟩
        cases same
        exact Value.fits_table (fitting.entries Entries.fits_nil entriesRead)
  · split at read
    · cases read
      exact .scalar Scalar.fits_nil
    · cases read
      exact .scalar (Scalar.fits_boolean true)
    · cases read
      exact .scalar (Scalar.fits_boolean false)
    · rcases Option.bind_eq_some_iff.mp read with ⟨⟨content, after⟩, numberRead, same⟩
      cases same
      exact .scalar (fits_number? numberRead)

theorem Fitting.items_succ {limit : Nat} (fitting : Fitting origin limit)
    {depth : Nat} {chars rest : List Char} {items : List Value}
    (read : items? origin (limit + 1) depth chars = some (items, rest)) :
    ∀ item ∈ items, item.Fits := by
  unfold items? at read
  rcases Option.bind_eq_some_iff.mp read with ⟨⟨first, after⟩, firstRead, read⟩
  dsimp only at read
  split at read
  · rcases Option.bind_eq_some_iff.mp read with ⟨⟨others, final⟩, othersRead, same⟩
    cases same
    exact List.forall_mem_cons.mpr ⟨fitting.value firstRead, fitting.items othersRead⟩
  · cases read
    exact List.forall_mem_singleton.mpr (fitting.value firstRead)
  · cases read

theorem Fitting.entries_succ {limit : Nat} (fitting : Fitting origin limit)
    {depth : Nat} {chars rest : List Char} {before entries : Entries} (fits : before.Fits)
    (read : entries? origin (limit + 1) depth before chars = some (entries, rest)) :
    entries.Fits := by
  unfold entries? at read
  split at read
  · rcases Option.bind_eq_some_iff.mp read with ⟨⟨key, afterKey⟩, _, read⟩
    dsimp only at read
    split at read
    · rcases Option.bind_eq_some_iff.mp read with ⟨⟨value, after⟩, valueRead, read⟩
      have more := Entries.fits_put fits key (fitting.value valueRead)
      dsimp only at read
      split at read
      · exact fitting.entries more read
      · cases read
        exact more
      · cases read
    · cases read
  · cases read

theorem fitting (origin : Origin) (limit : Nat) : Fitting origin limit := by
  induction limit with
  | zero =>
      constructor
      · intro _ _ _ _ read
        cases read
      · intro _ _ _ _ read
        cases read
      · intro _ _ _ _ _ _ read
        cases read
  | succ limit ih => exact ⟨ih.value_succ, ih.items_succ, ih.entries_succ⟩

theorem fits_read? {chars : List Char} {value : Value} (read : read? origin chars = some value) :
    value.Fits := by
  rcases Option.bind_eq_some_iff.mp read with ⟨⟨whole, rest⟩, wholeRead, read⟩
  dsimp only at read
  split at read
  · cases read
    exact (fitting origin _).value wholeRead
  · cases read

end Json

theorem File.fits_parse {library : Library} {format : Format} {name text : String} {value : Value}
    (read : parse library format name text = .ok value) : value.Fits := by
  cases format with
  | json =>
      cases given : Json.read? (.file name) text.toList with
      | none => simp [parse, given] at read
      | some whole =>
          obtain rfl : whole = value := by simpa [parse, given] using read
          exact Json.fits_read? given
  | toml =>
      cases given : Toml.read? (.file name) text.toList with
      | none => simp [parse, given] at read
      | some whole =>
          obtain rfl : whole = value := by simpa [parse, given] using read
          exact Toml.fits_read? given
  | yaml =>
      unfold parse at read
      dsimp only at read
      split at read
      · cases read
      · cases read
        exact Value.fits_table Entries.fits_nil
      · rename_i given
        cases read
        exact Yaml.fits_documents? given value (by simp)
      · cases read
  | dialect dialect =>
      cases given : library.read? dialect (.file name) text.toList with
      | none => simp [parse, given] at read
      | some whole =>
          obtain rfl : whole = value := by simpa [parse, given] using read
          exact library.fits given

/-- Every integer that a file gives fits into 64 bits, and a file has each key once. -/
theorem File.fits_layer {library : Library} {tree : FileTree} {workingDirectory : Location}
    {path : String} {entries : Entries}
    (read : layer library tree workingDirectory path = .ok entries) : entries.Fits := by
  unfold layer at read
  rcases bind_eq_ok_iff.1 read with ⟨⟨full, format⟩, _, read⟩
  rcases bind_eq_ok_iff.1 read with ⟨content, _, read⟩
  split at read
  · cases read
  · rcases bind_eq_ok_iff.1 read with ⟨value, valueRead, read⟩
    have fits := fits_parse valueRead
    split at read
    · cases read
      exact Entries.fits_arrange fits.asTable library.fileOrder
    · cases read

end Settings

end MailProvision
