import MailProvision.Proofs.Settings.Integers.Merging
import MailProvision.Settings.Toml.Reader

/-!
# The integers and the keys of TOML documents

Every integer that a TOML document gives fits into 64 bits, and every table that it gives has each
of its keys once. The tables under construction are followed line by line.
-/

namespace MailProvision

namespace Settings

open Numeral

namespace Toml

/-- Every integer in the node fits into 64 bits, and every table in it has each of its keys once. -/
inductive Node.Fits : Node → Prop
  | leaf {value : Value} (fits : value.Fits) : Fits (.leaf value)
  | table {making : Making} {entries : List (String × Node)}
      (fits : ∀ entry ∈ entries, Fits entry.2) (distinct : (entries.map Prod.fst).Nodup) :
      Fits (.table making entries)
  | tables {items : List Node} (fits : ∀ item ∈ items, Fits item) : Fits (.tables items)

namespace Node

theorem fits_fresh (making : Making) : Fits (fresh making) :=
  .table (fun _ member => (List.not_mem_nil member).elim) List.nodup_nil

theorem Fits.entries {making : Making} {entries : List (String × Node)}
    (fits : Fits (.table making entries)) : ∀ entry ∈ entries, Fits entry.2 := by
  cases fits with
  | table fits => exact fits

theorem Fits.distinct {making : Making} {entries : List (String × Node)}
    (fits : Fits (.table making entries)) : (entries.map Prod.fst).Nodup := by
  cases fits with
  | table _ distinct => exact distinct

theorem Fits.items {items : List Node} (fits : Fits (.tables items)) :
    ∀ item ∈ items, Fits item := by
  cases fits with
  | tables fits => exact fits

/-- What the change gives fits. -/
def Keeps (change : Node → Option Node) : Prop :=
  ∀ {node changed}, node.Fits → change node = some changed → changed.Fits

/-- What the change of an entry, which may be new, gives fits. -/
def KeepsEntry (change : Option Node → Option Node) : Prop :=
  ∀ {present changed}, (∀ node ∈ present, Fits node) → change present = some changed →
    changed.Fits

theorem fits_alterNode? {key : String} {change : Option Node → Option Node}
    (keeps : KeepsEntry change) {entries altered : List (String × Node)}
    (fits : ∀ entry ∈ entries, Fits entry.2)
    (done : alterNode? key change entries = some altered) : ∀ entry ∈ altered, Fits entry.2 := by
  induction entries generalizing altered with
  | nil =>
      rcases Option.map_eq_some_iff.mp done with ⟨node, changed, rfl⟩
      refine List.forall_mem_singleton.mpr (keeps ?_ changed)
      rintro _ ⟨⟩
  | cons entry rest ih =>
      rcases entry with ⟨name, node⟩
      rcases List.forall_mem_cons.mp fits with ⟨first, others⟩
      rw [alterNode?] at done
      split at done
      · rcases Option.map_eq_some_iff.mp done with ⟨node, changed, rfl⟩
        refine List.forall_mem_cons.mpr ⟨keeps ?_ changed, others⟩
        rintro _ ⟨⟩
        exact first
      · rcases Option.map_eq_some_iff.mp done with ⟨_, changed, rfl⟩
        exact List.forall_mem_cons.mpr ⟨first, ih others changed⟩

theorem keys_alterNode? {key : String} {change : Option Node → Option Node}
    {entries altered : List (String × Node)} (done : alterNode? key change entries = some altered) :
    altered.map Prod.fst =
      if key ∈ entries.map Prod.fst then entries.map Prod.fst
      else entries.map Prod.fst ++ [key] := by
  induction entries generalizing altered with
  | nil =>
      rcases Option.map_eq_some_iff.mp done with ⟨node, _, rfl⟩
      rfl
  | cons entry rest ih =>
      rcases entry with ⟨name, node⟩
      rw [alterNode?] at done
      split at done
      · rename_i found
        rcases Option.map_eq_some_iff.mp done with ⟨node, _, rfl⟩
        simp [found]
      · rename_i other
        rcases Option.map_eq_some_iff.mp done with ⟨_, changed, rfl⟩
        simp only [List.map_cons, ih changed, List.mem_cons, Ne.symm other, false_or]
        split <;> rfl

theorem nodup_alterNode? {key : String} {change : Option Node → Option Node}
    {entries altered : List (String × Node)} (distinct : (entries.map Prod.fst).Nodup)
    (done : alterNode? key change entries = some altered) : (altered.map Prod.fst).Nodup := by
  rw [keys_alterNode? done]
  split
  · exact distinct
  · rename_i new
    exact List.nodup_append_comm.mp (List.nodup_cons.mpr ⟨new, distinct⟩)

theorem fits_alterTable? {key : String} {change : Option Node → Option Node}
    (keeps : KeepsEntry change) {making : Making} {entries : List (String × Node)}
    (fits : Fits (.table making entries)) {changed : Node}
    (done : (alterNode? key change entries).map (table making) = some changed) :
    changed.Fits := by
  rcases Option.map_eq_some_iff.mp done with ⟨altered, entriesDone, rfl⟩
  exact .table (fits_alterNode? keeps fits.entries entriesDone)
    (nodup_alterNode? fits.distinct entriesDone)

theorem fits_alterLast? {change : Node → Option Node} (keeps : Keeps change)
    {items altered : List Node} (fits : ∀ item ∈ items, Fits item)
    (done : alterLast? change items = some altered) : ∀ item ∈ altered, Fits item := by
  induction items generalizing altered with
  | nil => cases done
  | cons item rest ih =>
      rcases List.forall_mem_cons.mp fits with ⟨first, others⟩
      cases rest with
      | nil =>
          rcases Option.map_eq_some_iff.mp done with ⟨node, changed, rfl⟩
          exact List.forall_mem_singleton.mpr (keeps first changed)
      | cons next more =>
          rcases Option.map_eq_some_iff.mp done with ⟨_, changed, rfl⟩
          exact List.forall_mem_cons.mpr ⟨first, ih others changed⟩

theorem keeps_alterUnder? {change : Node → Option Node} (keeps : Keeps change)
    (path : List String) : Keeps (alterUnder? change path) := by
  induction path with
  | nil => exact keeps
  | cons key rest ih =>
      intro node changed fits done
      cases node with
      | leaf value => cases done
      | tables items => cases done
      | table making entries =>
          refine fits_alterTable? ?_ fits done
          intro present changed fitsPresent done
          dsimp only at done
          split at done
          · exact ih (fits_fresh .passed) done
          · rcases Option.map_eq_some_iff.mp done with ⟨_, lastDone, rfl⟩
            exact .tables (fits_alterLast? ih (fitsPresent _ rfl).items lastDone)
          · exact ih (fitsPresent _ rfl) done

theorem keeps_openTable? (key : String) : Keeps (openTable? key) := by
  intro node changed fits done
  cases node with
  | leaf value => cases done
  | tables items => cases done
  | table making entries =>
      refine fits_alterTable? ?_ fits done
      intro present changed fitsPresent done
      dsimp only at done
      split at done
      · cases done
        exact fits_fresh .opened
      · cases done
        exact .table (fitsPresent _ rfl).entries (fitsPresent _ rfl).distinct
      · cases done

theorem keeps_addTable? (key : String) : Keeps (addTable? key) := by
  intro node changed fits done
  cases node with
  | leaf value => cases done
  | tables items => cases done
  | table making entries =>
      refine fits_alterTable? ?_ fits done
      intro present changed fitsPresent done
      dsimp only at done
      split at done
      · cases done
        exact .tables (List.forall_mem_singleton.mpr (fits_fresh .opened))
      · cases done
        refine .tables (List.forall_mem_append.mpr ⟨(fitsPresent _ rfl).items, ?_⟩)
        exact List.forall_mem_singleton.mpr (fits_fresh .opened)
      · cases done

theorem keeps_setDotted? {leafNode : Node} (fits : leafNode.Fits) (path : List String) :
    Keeps (setDotted? leafNode path) := by
  induction path with
  | nil =>
      intro node changed _ done
      cases done
  | cons key rest ih =>
      intro node changed fitsNode done
      cases node with
      | leaf value => cases rest <;> cases done
      | tables items => cases rest <;> cases done
      | table making entries =>
          cases rest with
          | nil =>
              refine fits_alterTable? ?_ fitsNode done
              intro present changed fitsPresent done
              dsimp only at done
              split at done
              · cases done
                exact fits
              · cases done
          | cons next more =>
              refine fits_alterTable? ?_ fitsNode done
              intro present changed fitsPresent done
              dsimp only at done
              split at done
              · exact ih (fits_fresh .dotted) done
              · cases done
              · exact ih (fitsPresent _ rfl) done

theorem keys_toEntries (origin : Origin) (entries : List (String × Node)) :
    (toEntries origin entries).keys = entries.map Prod.fst := by
  induction entries with
  | nil => rfl
  | cons entry rest ih => exact congrArg (entry.1 :: ·) ih

theorem fits_toValue {node : Node} (fits : node.Fits) (origin : Origin) :
    (node.toValue origin).Fits := by
  induction fits with
  | leaf fits => exact fits
  | @table making entries fits distinct ih =>
      refine .table ?_ ?_
      · clear fits distinct
        induction entries with
        | nil => exact Entries.fits_nil.values
        | cons entry rest ihRest =>
            rcases List.forall_mem_cons.mp ih with ⟨first, others⟩
            exact List.forall_mem_cons.mpr ⟨first, ihRest others⟩
      · rw [keys_toEntries]
        exact distinct
  | @tables items fits ih =>
      refine .array ?_
      clear fits
      induction items with
      | nil => exact fun _ member => (List.not_mem_nil member).elim
      | cons item rest ihRest =>
          rcases List.forall_mem_cons.mp ih with ⟨first, others⟩
          exact List.forall_mem_cons.mpr ⟨first, ihRest others⟩

end Node

theorem fits_word? {chars rest : List Char} {content : Scalar}
    (read : word? chars = some (content, rest)) : content.Fits := by
  unfold word? at read
  split at read
  · rcases Option.map_eq_some_iff.mp read with ⟨_, _, same⟩
    cases same
    exact Scalar.fits_text _
  · dsimp only at read
    split at read
    · cases read
      exact Scalar.fits_boolean true
    · split at read
      · cases read
        exact Scalar.fits_boolean false
      · split at read
        · rename_i integerRead
          cases read
          exact Scalar.fits_integer (Option.filter_eq_some_iff.mp integerRead).2
        · cases read
          exact Scalar.fits_float _
        · cases read

/-- What is read with so much work fits. -/
structure Fitting (origin : Origin) (limit : Nat) : Prop where
  value : ∀ {chars value rest}, value? origin limit chars = some (value, rest) → value.Fits
  items : ∀ {chars items rest},
    items? origin limit chars = some (items, rest) → ∀ item ∈ items, item.Fits
  inline : ∀ {before chars node rest}, before.Fits →
    inline? origin limit before chars = some (node, rest) → node.Fits

section Values

variable {origin : Origin} {limit : Nat}

theorem Fitting.value_succ (fitting : Fitting origin limit) {chars rest : List Char}
    {value : Value} (read : value? origin (limit + 1) chars = some (value, rest)) :
    value.Fits := by
  unfold value? at read
  split at read
  · rcases Option.map_eq_some_iff.mp read with ⟨_, _, same⟩
    cases same
    exact .scalar (Scalar.fits_text _)
  · split at read
    · rcases Option.bind_eq_some_iff.mp read with ⟨⟨_, after⟩, itemsRead, same⟩
      cases same
      exact .array (fitting.items itemsRead)
    · split at read
      · cases read
        exact Value.fits_table Entries.fits_nil
      · rcases Option.bind_eq_some_iff.mp read with ⟨⟨node, after⟩, inlineRead, same⟩
        cases same
        exact Node.fits_toValue (fitting.inline (Node.fits_fresh .dotted) inlineRead) origin
    · rcases Option.map_eq_some_iff.mp read with ⟨_, wordRead, same⟩
      cases same
      exact .scalar (fits_word? wordRead)

theorem Fitting.items_succ (fitting : Fitting origin limit) {chars rest : List Char}
    {items : List Value} (read : items? origin (limit + 1) chars = some (items, rest)) :
    ∀ item ∈ items, item.Fits := by
  unfold items? at read
  rcases Option.bind_eq_some_iff.mp read with ⟨start, _, read⟩
  dsimp only at read
  split at read
  · cases read
    exact fun _ member => (List.not_mem_nil member).elim
  · rcases Option.bind_eq_some_iff.mp read with ⟨⟨first, after⟩, firstRead, read⟩
    rcases Option.bind_eq_some_iff.mp read with ⟨next, _, read⟩
    dsimp only at read
    split at read
    · rcases Option.bind_eq_some_iff.mp read with ⟨⟨others, final⟩, othersRead, same⟩
      cases same
      exact List.forall_mem_cons.mpr ⟨fitting.value firstRead, fitting.items othersRead⟩
    · cases read
      exact List.forall_mem_singleton.mpr (fitting.value firstRead)
    · cases read

theorem Fitting.inline_succ (fitting : Fitting origin limit) {chars rest : List Char}
    {before node : Node} (fits : before.Fits)
    (read : inline? origin (limit + 1) before chars = some (node, rest)) : node.Fits := by
  unfold inline? at read
  rcases Option.bind_eq_some_iff.mp read with ⟨⟨path, afterKey⟩, _, read⟩
  dsimp only at read
  split at read
  · rcases Option.bind_eq_some_iff.mp read with ⟨⟨value, after⟩, valueRead, read⟩
    rcases Option.bind_eq_some_iff.mp read with ⟨next, nextRead, read⟩
    have nextFits := Node.keeps_setDotted? (.leaf (fitting.value valueRead)) path fits nextRead
    dsimp only at read
    split at read
    · exact fitting.inline nextFits read
    · cases read
      exact nextFits
    · cases read
  · cases read

theorem fitting (origin : Origin) (limit : Nat) : Fitting origin limit := by
  induction limit with
  | zero =>
      constructor
      · intro _ _ _ read
        cases read
      · intro _ _ _ read
        cases read
      · intro _ _ _ _ _ read
        cases read
  | succ limit ih => exact ⟨ih.value_succ, ih.items_succ, ih.inline_succ⟩

end Values

theorem fits_assignment? {origin : Origin} {document next : Document} {chars rest : List Char}
    (fits : document.root.Fits)
    (read : assignment? origin document chars = some (next, rest)) : next.root.Fits := by
  rcases Option.bind_eq_some_iff.mp read with ⟨⟨path, afterKey⟩, _, read⟩
  dsimp only at read
  split at read
  · rcases Option.bind_eq_some_iff.mp read with ⟨⟨value, after⟩, valueRead, read⟩
    rcases Option.bind_eq_some_iff.mp read with ⟨set, setDone, same⟩
    cases same
    rcases Option.map_eq_some_iff.mp setDone with ⟨root, rootDone, rfl⟩
    have leaf : Node.Fits (.leaf value) := .leaf ((fitting origin _).value valueRead)
    exact Node.keeps_alterUnder? (Node.keeps_setDotted? leaf path) document.header fits rootDone
  · cases read

theorem fits_openHeader? {document next : Document} {path : List String}
    (fits : document.root.Fits) (opened : document.openHeader? path = some next) :
    next.root.Fits := by
  unfold Document.openHeader? at opened
  split at opened
  · cases opened
  · rcases Option.map_eq_some_iff.mp opened with ⟨root, rootDone, rfl⟩
    exact Node.keeps_alterUnder? (Node.keeps_openTable? _) path.dropLast fits rootDone

theorem fits_addHeader? {document next : Document} {path : List String}
    (fits : document.root.Fits) (added : document.addHeader? path = some next) :
    next.root.Fits := by
  unfold Document.addHeader? at added
  split at added
  · cases added
  · rcases Option.map_eq_some_iff.mp added with ⟨root, rootDone, rfl⟩
    exact Node.keeps_alterUnder? (Node.keeps_addTable? _) path.dropLast fits rootDone

theorem fits_header? {document next : Document} {chars rest : List Char}
    (fits : document.root.Fits) (read : header? document chars = some (next, rest)) :
    next.root.Fits := by
  unfold header? at read
  split at read
  · rcases Option.bind_eq_some_iff.mp read with ⟨⟨path, after⟩, _, read⟩
    dsimp only at read
    split at read
    · rcases Option.bind_eq_some_iff.mp read with ⟨_, added, same⟩
      cases same
      exact fits_addHeader? fits added
    · cases read
  · rcases Option.bind_eq_some_iff.mp read with ⟨⟨path, after⟩, _, read⟩
    dsimp only at read
    split at read
    · rcases Option.bind_eq_some_iff.mp read with ⟨_, opened, same⟩
      cases same
      exact fits_openHeader? fits opened
    · cases read

theorem fits_lines? {origin : Origin} {limit : Nat} {document final : Document}
    {chars : List Char} (fits : document.root.Fits)
    (read : lines? origin limit document chars = some final) : final.root.Fits := by
  induction limit generalizing document chars with
  | zero => cases read
  | succ limit ih =>
      unfold lines? at read
      dsimp only at read
      split at read
      case' h_4 => split at read
      all_goals
        rcases Option.bind_eq_some_iff.mp read with ⟨⟨next, after⟩, lineRead, read⟩
        -- What follows the line is read in one way, whatever the line is.
        suffices nextFits : next.root.Fits by
          rcases Option.bind_eq_some_iff.mp read with ⟨rest, _, read⟩
          dsimp only at read
          split at read
          · cases read
            exact nextFits
          · rcases Option.bind_eq_some_iff.mp read with ⟨_, _, read⟩
            exact ih nextFits read
      · cases lineRead
        exact fits
      · exact fits_assignment? fits lineRead
      · cases lineRead
        exact fits
      · cases lineRead
        exact fits
      · exact fits_header? fits lineRead

theorem fits_read? {origin : Origin} {chars : List Char} {value : Value}
    (read : read? origin chars = some value) : value.Fits := by
  rcases Option.map_eq_some_iff.mp read with ⟨document, lines, rfl⟩
  exact Node.fits_toValue (fits_lines? (Node.fits_fresh .opened) lines) origin

end Toml

end Settings

end MailProvision
