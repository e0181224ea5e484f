import Mathlib.Data.Option.Basic
import MailProvision.Proofs.Settings.Integers.Merging
import MailProvision.Settings.Yaml.Reader

/-!
# The integers and the keys of YAML streams

Every integer that a YAML stream gives fits into 64 bits, and every table that it gives has each of
its keys once. The values that have a name so far belong
to the state of the reader, since an alias gives them once more.
-/

namespace MailProvision

namespace Settings

open Numeral

namespace Yaml

theorem isInt64_of_filter {first second : Option Int} {i : Int}
    (read : (first.filter isInt64 <|> second.filter isInt64) = some i) : isInt64 i = true := by
  rcases (Option.orElse_eq_some _ _ _).mp read with read | ⟨_, read⟩
  · exact (Option.filter_eq_some_iff.mp read).2
  · exact (Option.filter_eq_some_iff.mp read).2

theorem isInt64_of_integer? {chars : List Char} {i : Int} (read : integer? chars = some i) :
    isInt64 i = true := by
  unfold integer? at read
  split at read
  · exact isInt64_of_filter read
  · exact isInt64_of_filter read
  · exact isInt64_of_filter read
  · exact (Option.filter_eq_some_iff.mp read).2

theorem fits_plain? {text : String} {content : Scalar} (read : plain? text = some content) :
    content.Fits := by
  unfold plain? at read
  dsimp only at read
  split at read
  · rename_i integerRead
    cases read
    exact Scalar.fits_integer (isInt64_of_integer? integerRead)
  · split at read
    · cases read
      exact Scalar.fits_nil
    · split at read
      · cases read
        exact Scalar.fits_boolean true
      · split at read
        · cases read
          exact Scalar.fits_boolean false
        · split at read
          · cases read
          · split at read
            · cases read
              exact Scalar.fits_float _
            · cases read
              exact Scalar.fits_text text

theorem fits_tagged? {tag text : String} {content : Scalar}
    (read : tagged? tag text = some content) : content.Fits := by
  unfold tagged? at read
  split at read
  · obtain rfl := Option.some.inj read
    split
    · exact Scalar.fits_boolean true
    · split
      · exact Scalar.fits_boolean false
      · exact Scalar.fits_nil
  · obtain rfl := Option.some.inj read
    cases integerRead : int64? text.toList with
    | none => exact Scalar.fits_nil
    | some i => exact Scalar.fits_integer (Option.filter_eq_some_iff.mp integerRead).2
  · split at read
    · cases read
    · obtain rfl := Option.some.inj read
      cases binary64? text.toList with
      | none => exact Scalar.fits_nil
      | some x => exact Scalar.fits_float x
  · obtain rfl := Option.some.inj read
    exact Scalar.fits_nil
  · obtain rfl := Option.some.inj read
    exact Scalar.fits_text text

theorem fits_resolve? {origin : Origin} {tag : Option String} {text : String} {value : Value}
    (read : resolve? origin tag text = some value) : value.Fits := by
  rcases Option.map_eq_some_iff.mp read with ⟨content, contentRead, rfl⟩
  cases tag with
  | none => exact .scalar (fits_plain? contentRead)
  | some tag => exact .scalar (fits_tagged? contentRead)

theorem fits_emptyNode (origin : Origin) (tag : Option String) : (emptyNode origin tag).Fits := by
  refine .scalar ?_
  split
  · exact Scalar.fits_text "~"
  · exact Scalar.fits_nil

theorem named_skipTrivia (limit : Nat) (position : Position) :
    (skipTrivia limit position).named = position.named := by
  induction limit generalizing position with
  | zero => rfl
  | succ limit ih =>
      rw [skipTrivia]
      split
      · exact ih _
      · split
        · rfl
        · exact ih _
      · rfl

theorem named_skip (position : Position) : (skip position).named = position.named :=
  named_skipTrivia _ position

theorem named_plainMore? {flow : Bool} {parent : Int} {limit : Nat} {position final : Position}
    {more : List Char} (read : plainMore? flow parent limit position = some (more, final)) :
    final.named = position.named := by
  induction limit generalizing position more with
  | zero => cases read
  | succ limit ih =>
      unfold plainMore? at read
      dsimp only at read
      split at read
      · split at read
        · cases read
          rfl
        · split at read
          · cases read
          · split at read
            · cases read
              rfl
            · rcases Option.bind_eq_some_iff.mp read with ⟨⟨others, last⟩, moreRead, same⟩
              cases same
              have kept := ih moreRead
              exact kept
      · cases read
        rfl

theorem named_plain {flow : Bool} {parent : Int} {position final : Position} {text : String}
    (read : plain flow parent position = some (text, final)) : final.named = position.named := by
  unfold plain at read
  dsimp only at read
  split at read
  · cases read
  · split at read
    · cases read
    · rcases Option.bind_eq_some_iff.mp read with ⟨⟨more, last⟩, moreRead, same⟩
      cases same
      have kept := named_plainMore? moreRead
      exact kept

theorem named_afterColon? {position final : Position} (read : afterColon? position = some final) :
    final.named = position.named := by
  unfold afterColon? at read
  dsimp only at read
  split at read
  · split at read
    · cases read
      rfl
    · cases read
  · cases read

theorem named_implicitKey? {position final : Position} {key : String}
    (read : implicitKey? position = some (key, final)) : final.named = position.named := by
  unfold implicitKey? at read
  split at read
  · cases read
  · dsimp only at read
    split at read
    · cases read
    · rcases Option.map_eq_some_iff.mp read with ⟨after, colon, same⟩
      cases same
      have kept := named_afterColon? colon
      exact kept
  · split at read
    · rcases Option.bind_eq_some_iff.mp read with ⟨after, colon, read⟩
      rcases Option.bind_eq_some_iff.mp read with ⟨_, _, read⟩
      rcases Option.bind_eq_some_iff.mp read with ⟨_, _, same⟩
      cases same
      have kept := named_afterColon? colon
      exact kept
    · cases read

/-- The values that have a name fit. A name may be given twice; the last value counts. -/
def Position.Fits (position : Position) : Prop :=
  ∀ entry ∈ position.named, entry.2.Fits

/-- What is read inside brackets with so much work fits. -/
structure FlowFitting (origin : Origin) (limit : Nat) : Prop where
  value : ∀ {tag start value final}, start.Fits →
    flow? origin tag limit start = some (value, final) → value.Fits ∧ final.Fits
  items : ∀ {start items final}, start.Fits →
    flowItems? origin limit start = some (items, final) →
      (∀ item ∈ items, Value.Fits item) ∧ final.Fits
  entries : ∀ {before start entries final}, Entries.Fits before → start.Fits →
    flowEntries? origin limit before start = some (entries, final) →
      Entries.Fits entries ∧ final.Fits

section Flow

variable {origin : Origin} {limit : Nat}

theorem fits_skip {position : Position} (fits : position.Fits) : (skip position).Fits := by
  rw [Position.Fits, named_skip]
  exact fits

theorem FlowFitting.value_succ (fitting : FlowFitting origin limit) {tag : Option String}
    {start final : Position} {value : Value} (fits : start.Fits)
    (read : flow? origin tag (limit + 1) start = some (value, final)) :
    value.Fits ∧ final.Fits := by
  have here := fits_skip fits
  unfold flow? at read
  dsimp only at read
  generalize skip start = position at read here
  split at read
  · rcases Option.bind_eq_some_iff.mp read with ⟨⟨items, after⟩, itemsRead, same⟩
    cases same
    have inside := fitting.items (show (position.advance 1).Fits from here) itemsRead
    exact ⟨.array inside.1, inside.2⟩
  · rcases Option.bind_eq_some_iff.mp read with ⟨⟨entries, after⟩, entriesRead, same⟩
    cases same
    have inside := fitting.entries Entries.fits_nil
      (show (position.advance 1).Fits from here) entriesRead
    exact ⟨Value.fits_table inside.1, inside.2⟩
  · rcases Option.bind_eq_some_iff.mp read with ⟨_, found, same⟩
    cases same
    exact ⟨Entries.fits_get? here _ _ found, here⟩
  · rcases Option.bind_eq_some_iff.mp read with ⟨⟨named, after⟩, namedRead, same⟩
    cases same
    have inside := fitting.value (show (word (position.advance 1)).2.Fits from here) namedRead
    exact ⟨inside.1, List.forall_mem_cons.mpr ⟨inside.1, inside.2⟩⟩
  · exact fitting.value (show (word position).2.Fits from here) read
  · split at read
    · cases read
    · cases read
      exact ⟨.scalar (Scalar.fits_text _), here⟩
    · split at read
      · rcases Option.bind_eq_some_iff.mp read with ⟨⟨text, after⟩, plainRead, read⟩
        rcases Option.bind_eq_some_iff.mp read with ⟨_, resolved, same⟩
        cases same
        refine ⟨fits_resolve? resolved, ?_⟩
        rw [Position.Fits, named_plain plainRead]
        exact here
      · cases read
        exact ⟨fits_emptyNode origin tag, here⟩

theorem FlowFitting.items_succ (fitting : FlowFitting origin limit)
    {start final : Position} {items : List Value} (fits : start.Fits)
    (read : flowItems? origin (limit + 1) start = some (items, final)) :
    (∀ item ∈ items, item.Fits) ∧ final.Fits := by
  have here := fits_skip fits
  unfold flowItems? at read
  dsimp only at read
  generalize skip start = position at read here
  split at read
  · cases read
    exact ⟨fun _ member => (List.not_mem_nil member).elim, here⟩
  · cases read
  · rcases Option.bind_eq_some_iff.mp read with ⟨⟨first, afterFirst⟩, firstRead, read⟩
    have firstFits := fitting.value here firstRead
    dsimp only at read
    have next := fits_skip firstFits.2
    split at read
    case' h_1 =>
      rcases Option.bind_eq_some_iff.mp read with ⟨⟨value, afterValue⟩, valueRead, read⟩
      have valueFits :=
        fitting.value (show ((skip afterFirst).advance 1).Fits from next) valueRead
      rcases Option.bind_eq_some_iff.mp read with ⟨key, _, read⟩
    all_goals
      rcases Option.bind_eq_some_iff.mp read with ⟨⟨item, after⟩, itemRead, read⟩
      -- What follows an item is read in one way, whatever the item is.
      suffices itemFits : item.Fits ∧ after.Fits by
        dsimp only at read
        split at read
        · rcases Option.bind_eq_some_iff.mp read with ⟨⟨others, last⟩, othersRead, same⟩
          cases same
          have rest := fitting.items (show (after.advance 1).Fits from itemFits.2) othersRead
          exact ⟨List.forall_mem_cons.mpr ⟨itemFits.1, rest.1⟩, rest.2⟩
        · cases read
          exact ⟨List.forall_mem_singleton.mpr itemFits.1, itemFits.2⟩
        · cases read
    · cases itemRead
      exact ⟨.table (List.forall_mem_singleton.mpr valueFits.1) (List.nodup_singleton _),
        fits_skip valueFits.2⟩
    · cases itemRead
      exact ⟨firstFits.1, next⟩

theorem FlowFitting.entries_succ (fitting : FlowFitting origin limit)
    {before entries : Entries} {start final : Position} (fitsBefore : before.Fits)
    (fits : start.Fits)
    (read : flowEntries? origin (limit + 1) before start = some (entries, final)) :
    entries.Fits ∧ final.Fits := by
  have here := fits_skip fits
  unfold flowEntries? at read
  dsimp only at read
  generalize skip start = position at read here
  split at read
  · cases read
    exact ⟨fitsBefore, here⟩
  · cases read
  · rcases Option.bind_eq_some_iff.mp read with ⟨⟨keyNode, afterKey⟩, keyRead, read⟩
    have next := fits_skip (fitting.value here keyRead).2
    rcases Option.bind_eq_some_iff.mp read with ⟨key, _, read⟩
    dsimp only at read
    split at read
    all_goals
      rcases Option.bind_eq_some_iff.mp read with ⟨⟨value, afterValue⟩, valueRead, read⟩
      suffices valueFits : value.Fits ∧ afterValue.Fits by
        have after := fits_skip valueFits.2
        have more := Entries.fits_put fitsBefore key valueFits.1
        dsimp only at read
        split at read
        · exact fitting.entries more (show ((skip afterValue).advance 1).Fits from after) read
        · cases read
          exact ⟨more, after⟩
        · cases read
    · exact fitting.value (show ((skip afterKey).advance 1).Fits from next) valueRead
    · cases valueRead
      exact ⟨fits_emptyNode origin none, next⟩

theorem flowFitting (origin : Origin) (limit : Nat) : FlowFitting origin limit := by
  -- The readers call one another with less fuel, so one induction has to serve them all.
  induction limit with
  | zero =>
      constructor
      · intro _ _ _ _ _ read
        cases read
      · intro _ _ _ _ read
        cases read
      · intro _ _ _ _ _ _ read
        cases read
  | succ limit ih => exact ⟨ih.value_succ, ih.items_succ, ih.entries_succ⟩

end Flow

/-- What is read with so much work fits. -/
structure Fitting (origin : Origin) (limit : Nat) : Prop where
  block : ∀ {tag parent start value final}, start.Fits →
    block? origin tag limit parent start = some (value, final) → value.Fits ∧ final.Fits
  content : ∀ {tag parent inline position value final}, position.Fits →
    content? origin tag limit parent inline position = some (value, final) →
      value.Fits ∧ final.Fits
  items : ∀ {column position items final}, position.Fits →
    items? origin limit column position = some (items, final) →
      (∀ item ∈ items, Value.Fits item) ∧ final.Fits
  entries : ∀ {column before position entries final}, Entries.Fits before → position.Fits →
    entries? origin limit column before position = some (entries, final) →
      Entries.Fits entries ∧ final.Fits
  entryValue : ∀ {column start value final}, start.Fits →
    entryValue? origin limit column start = some (value, final) → value.Fits ∧ final.Fits

section Block

variable {origin : Origin} {limit : Nat}

theorem Fitting.block_succ (fitting : Fitting origin limit) {tag : Option String} {parent : Int}
    {start final : Position} {value : Value} (fits : start.Fits)
    (read : block? origin tag (limit + 1) parent start = some (value, final)) :
    value.Fits ∧ final.Fits := by
  unfold block? at read
  dsimp only at read
  split at read
  · cases read
    exact ⟨fits_emptyNode origin tag, fits_skip fits⟩
  · exact fitting.content (fits_skip fits) read

theorem Fitting.entryValue_succ (fitting : Fitting origin limit) {column : Nat}
    {start final : Position} {value : Value} (fits : start.Fits)
    (read : entryValue? origin (limit + 1) column start = some (value, final)) :
    value.Fits ∧ final.Fits := by
  unfold entryValue? at read
  dsimp only at read
  split at read
  · cases read
    exact ⟨fits_emptyNode origin none, fits_skip fits⟩
  · split at read
    · exact fitting.content (fits_skip fits) read
    · split at read
      · rcases Option.bind_eq_some_iff.mp read with ⟨⟨items, after⟩, itemsRead, same⟩
        cases same
        have inside := fitting.items (fits_skip fits) itemsRead
        exact ⟨.array inside.1, inside.2⟩
      · exact fitting.block fits read

theorem Fitting.items_succ (fitting : Fitting origin limit) {column : Nat}
    {position final : Position} {items : List Value} (fits : position.Fits)
    (read : items? origin (limit + 1) column position = some (items, final)) :
    (∀ item ∈ items, item.Fits) ∧ final.Fits := by
  unfold items? at read
  rcases Option.bind_eq_some_iff.mp read with ⟨⟨first, afterFirst⟩, firstRead, read⟩
  have firstFits := fitting.block (show (position.advance 1).Fits from fits) firstRead
  have next := fits_skip firstFits.2
  have only := List.forall_mem_singleton.mpr firstFits.1
  dsimp only at read
  split at read
  · cases read
    exact ⟨only, next⟩
  · split at read
    · split at read
      · rcases Option.bind_eq_some_iff.mp read with ⟨⟨others, last⟩, othersRead, same⟩
        cases same
        have rest := fitting.items next othersRead
        exact ⟨List.forall_mem_cons.mpr ⟨firstFits.1, rest.1⟩, rest.2⟩
      · cases read
        exact ⟨only, next⟩
    · cases read

theorem Fitting.content_succ (fitting : Fitting origin limit) {tag : Option String}
    {parent : Int} {inline : Bool} {position final : Position} {value : Value}
    (fits : position.Fits)
    (read : content? origin tag (limit + 1) parent inline position = some (value, final)) :
    value.Fits ∧ final.Fits := by
  unfold content? at read
  dsimp only at read
  split at read
  · rcases Option.bind_eq_some_iff.mp read with ⟨⟨named, after⟩, namedRead, same⟩
    cases same
    have inside : named.Fits ∧ after.Fits := by
      split at namedRead
      · exact fitting.content (fits_skip (show (word (position.advance 1)).2.Fits from fits))
          namedRead
      · exact fitting.block (show (word (position.advance 1)).2.Fits from fits) namedRead
    exact ⟨inside.1, List.forall_mem_cons.mpr ⟨inside.1, inside.2⟩⟩
  · split at read
    · exact fitting.content (fits_skip (show (word position).2.Fits from fits)) read
    · exact fitting.block (show (word position).2.Fits from fits) read
  · rcases Option.bind_eq_some_iff.mp read with ⟨_, found, same⟩
    cases same
    exact ⟨Entries.fits_get? fits _ _ found, fits⟩
  · rcases Option.bind_eq_some_iff.mp read with ⟨⟨header, body⟩, _, same⟩
    cases same
    exact ⟨.scalar (Scalar.fits_text _), fits⟩
  · rcases Option.bind_eq_some_iff.mp read with ⟨⟨header, body⟩, _, same⟩
    cases same
    exact ⟨.scalar (Scalar.fits_text _), fits⟩
  · split at read
    · split at read
      · cases read
      · rcases Option.bind_eq_some_iff.mp read with ⟨⟨items, after⟩, itemsRead, same⟩
        cases same
        have inside := fitting.items fits itemsRead
        exact ⟨.array inside.1, inside.2⟩
    · split at read
      · split at read
        · cases read
        · rcases Option.bind_eq_some_iff.mp read with ⟨⟨entries, after⟩, entriesRead, same⟩
          cases same
          have inside := fitting.entries Entries.fits_nil fits entriesRead
          exact ⟨Value.fits_table inside.1, inside.2⟩
      · split at read
        · cases read
        · cases read
          exact ⟨.scalar (Scalar.fits_text _), fits⟩
        · split at read
          · exact (flowFitting origin _).value fits read
          · rcases Option.bind_eq_some_iff.mp read with ⟨⟨text, after⟩, plainRead, read⟩
            rcases Option.bind_eq_some_iff.mp read with ⟨_, resolved, same⟩
            cases same
            refine ⟨fits_resolve? resolved, ?_⟩
            rw [Position.Fits, named_plain plainRead]
            exact fits

theorem Fitting.entries_succ (fitting : Fitting origin limit) {column : Nat}
    {before entries : Entries} {position final : Position} (fitsBefore : before.Fits)
    (fits : position.Fits)
    (read : entries? origin (limit + 1) column before position = some (entries, final)) :
    entries.Fits ∧ final.Fits := by
  unfold entries? at read
  dsimp only at read
  split at read
  case' isTrue =>
    rcases Option.bind_eq_some_iff.mp read with ⟨⟨keyNode, afterKey⟩, keyRead, read⟩
    have next := fits_skip (fitting.block (show (position.advance 1).Fits from fits) keyRead).2
    rcases Option.bind_eq_some_iff.mp read with ⟨key, _, read⟩
    dsimp only at read
    split at read
    case' isTrue =>
      rcases Option.bind_eq_some_iff.mp read with ⟨⟨value, afterValue⟩, valueRead, read⟩
      have valueFits :=
        fitting.entryValue (show ((skip afterKey).advance 1).Fits from next) valueRead
  case' isFalse =>
    rcases Option.bind_eq_some_iff.mp read with ⟨⟨key, afterKey⟩, keyRead, read⟩
    rcases Option.bind_eq_some_iff.mp read with ⟨⟨value, afterValue⟩, valueRead, read⟩
    have keyFits : afterKey.Fits := by
      rw [Position.Fits, named_implicitKey? keyRead]
      exact fits
    have valueFits := fitting.entryValue keyFits valueRead
  all_goals
    rcases Option.bind_eq_some_iff.mp read with ⟨⟨key, value, after⟩, entryRead, read⟩
    -- What follows an entry is read in one way, whatever the entry is.
    suffices entryFits : value.Fits ∧ after.Fits by
      have more := Entries.fits_put fitsBefore key entryFits.1
      have next := fits_skip entryFits.2
      dsimp only at read
      split at read
      · cases read
        exact ⟨more, next⟩
      · split at read
        · exact fitting.entries more next read
        · cases read
  · cases entryRead
    exact valueFits
  · cases entryRead
    exact valueFits
  · cases entryRead
    exact ⟨fits_emptyNode origin none, next⟩

theorem fitting (origin : Origin) (limit : Nat) : Fitting origin limit := by
  induction limit with
  | zero =>
      constructor
      · intro _ _ _ _ _ _ read
        cases read
      · intro _ _ _ _ _ _ _ read
        cases read
      · intro _ _ _ _ _ read
        cases read
      · intro _ _ _ _ _ _ _ read
        cases read
      · intro _ _ _ _ _ read
        cases read
  | succ limit ih =>
      exact ⟨ih.block_succ, ih.content_succ, ih.items_succ, ih.entries_succ, ih.entryValue_succ⟩

end Block

theorem fits_documents? {origin : Origin} {limit : Nat} {start : Position} {values : List Value}
    (read : documents? origin limit start = some values) : ∀ value ∈ values, value.Fits := by
  induction limit generalizing start values with
  | zero => cases read
  | succ limit ih =>
      unfold documents? at read
      dsimp only at read
      split at read
      · cases read
        exact fun _ member => (List.not_mem_nil member).elim
      · split at read
        · exact ih read
        · rcases Option.bind_eq_some_iff.mp read with ⟨⟨value, after⟩, valueRead, read⟩
          have unnamed (rest : List Char) (column : Nat) :
              Position.Fits { rest, column, named := [] } :=
            fun _ member => (List.not_mem_nil member).elim
          have valueFits := (fitting origin _).block (unnamed _ _) valueRead
          dsimp only at read
          split at read
          · rcases Option.bind_eq_some_iff.mp read with ⟨others, othersRead, same⟩
            cases same
            exact List.forall_mem_cons.mpr ⟨valueFits.1, ih othersRead⟩
          · cases read

end Yaml

end Settings

end MailProvision
