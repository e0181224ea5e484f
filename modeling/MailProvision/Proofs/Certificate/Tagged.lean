import Mathlib.Algebra.GroupWithZero.Nat
import MailProvision.Certificate.Der

/-!
# Reading tagged values back

A value is read back if every tag in it fits its content (`Der.WellTagged`) and its length has at
most 127 digits, which is what the byte in front of the digits can say. The limit of the reader is
used up by one with each value and with each level, and each takes at least one byte, so the number
of bytes is always enough.
-/

namespace MailProvision

namespace Der

/-! ## Digits -/

theorem bigEndianOnto_append (n : Nat) (tail rest : List UInt8) :
    bigEndianOnto n tail ++ rest = bigEndianOnto n (tail ++ rest) := by
  induction n, tail using bigEndianOnto.induct with
  | case1 tail => rw [bigEndianOnto, if_pos rfl, bigEndianOnto, if_pos rfl]
  | case2 n tail positive ih =>
      rw [bigEndianOnto, if_neg positive, ih, List.cons_append]
      exact (bigEndianOnto.eq_1 n _).trans (if_neg positive) |>.symm

theorem bigEndian_zero : bigEndian 0 = [] := by
  rw [bigEndian, bigEndianOnto]
  rfl

/-- The last digit apart. -/
theorem bigEndian_pos {n : Nat} (positive : 0 < n) :
    bigEndian n = bigEndian (n / 256) ++ [UInt8.ofNat n] := by
  rw [bigEndian, bigEndianOnto, if_neg (Nat.ne_of_gt positive), bigEndian, bigEndianOnto_append,
    List.nil_append]

theorem ofBigEndian_concat (front : List UInt8) (last : UInt8) :
    ofBigEndian (front ++ [last]) = ofBigEndian front * 256 + last.toNat := by
  rw [ofBigEndian, List.foldl_append]
  rfl

theorem ofBigEndian_bigEndian (n : Nat) : ofBigEndian (bigEndian n) = n := by
  induction n using Nat.strongRecOn with
  | _ n ih =>
      rcases Nat.eq_zero_or_pos n with rfl | positive
      · rw [bigEndian_zero]
        rfl
      · have smaller : n / 256 < n := Nat.div_lt_self positive (by decide)
        have digit : (UInt8.ofNat n).toNat = n % 256 := UInt8.toNat_ofNat'
        rw [bigEndian_pos positive, ofBigEndian_concat, ih _ smaller, digit]
        omega

theorem length_bigEndian_le {n digits : Nat} (bound : n < 256 ^ digits) :
    (bigEndian n).length ≤ digits := by
  induction digits generalizing n with
  | zero =>
      obtain rfl : n = 0 := by omega
      rw [bigEndian_zero]
      exact Nat.le_refl _
  | succ digits ih =>
      rcases Nat.eq_zero_or_pos n with rfl | positive
      · rw [bigEndian_zero]
        exact Nat.zero_le _
      · have shorter : n / 256 < 256 ^ digits := by
          rw [Nat.pow_succ] at bound
          omega
        have length := ih shorter
        rw [bigEndian_pos positive, List.length_append, List.length_singleton]
        omega

/-! ## Lengths -/

/-- What the bytes of a length can say. -/
def Readable (length : Nat) : Prop :=
  length < 256 ^ 127

theorem readable_of_le {length : Nat} (few : length ≤ 2 ^ 100) : Readable length :=
  Nat.lt_of_le_of_lt few (by decide)

theorem Readable.of_le {shorter length : Nat} (readable : Readable length)
    (shorter_le : shorter ≤ length) : Readable shorter :=
  Nat.lt_of_le_of_lt shorter_le readable

theorem length?_encodeLength {n : Nat} (readable : Readable n) (rest : List UInt8) :
    length? (encodeLength n ++ rest) = some (n, rest) := by
  unfold encodeLength
  by_cases small : n < 128
  · have value : (UInt8.ofNat n).toNat = n := by
      rw [UInt8.toNat_ofNat']
      omega
    have lead : UInt8.ofNat n < 128 := by
      rw [UInt8.lt_iff_toNat_lt, value]
      exact small
    rw [if_pos small, List.singleton_append, length?, if_pos lead, value]
  · have count := length_bigEndian_le readable
    have value : (UInt8.ofNat (128 + (bigEndian n).length)).toNat = 128 + (bigEndian n).length := by
      rw [UInt8.toNat_ofNat']
      omega
    have lead : ¬UInt8.ofNat (128 + (bigEndian n).length) < 128 := by
      rw [UInt8.lt_iff_toNat_lt, value]
      show ¬128 + (bigEndian n).length < 128
      omega
    have enough : ¬(bigEndian n ++ rest).length < (bigEndian n).length := by
      rw [List.length_append]
      omega
    rw [if_neg small]
    simp only [List.cons_append, length?, if_neg lead, value, Nat.add_sub_cancel_left,
      if_neg enough, List.take_left, List.drop_left, ofBigEndian_bigEndian]

theorem length_encodeLength_le (n : Nat) : (encodeLength n).length ≤ n + 1 := by
  unfold encodeLength
  by_cases small : n < 128
  · rw [if_pos small]
    exact Nat.le_add_left _ _
  · have digits : (bigEndian n).length ≤ n := length_bigEndian_le (Nat.lt_pow_self (by decide))
    rw [if_neg small]
    exact Nat.succ_le_succ digits

theorem length_frame_le (tag : UInt8) (content : List UInt8) :
    (frame tag content).length ≤ 2 * content.length + 2 := by
  have length := length_encodeLength_le content.length
  rw [frame, List.length_cons, List.length_append]
  omega

theorem length_lt_length_frame (tag : UInt8) (content : List UInt8) :
    content.length < (frame tag content).length := by
  rw [frame, List.length_cons, List.length_append]
  omega

/-! ## Values -/

mutual

/-- Every tag in the value fits its content. -/
def WellTagged : Der → Prop
  | primitive tag _ => isConstructed tag = false
  | constructed tag parts => isConstructed tag = true ∧ AllWellTagged parts

/-- Every tag in the values fits its content. -/
def AllWellTagged : List Der → Prop
  | [] => True
  | value :: rest => value.WellTagged ∧ AllWellTagged rest

end

theorem allWellTagged_iff {values : List Der} :
    AllWellTagged values ↔ ∀ value ∈ values, value.WellTagged := by
  induction values with
  | nil => simp [AllWellTagged]
  | cons value rest ih => simp [AllWellTagged, ih]

/-- The bytes of a value after the tag and the length. -/
def content : Der → List UInt8
  | primitive _ bytes => bytes
  | constructed _ parts => encodeAll parts

/-- The tag of a value. -/
def tag : Der → UInt8
  | primitive tag _ => tag
  | constructed tag _ => tag

theorem encode_eq_frame (value : Der) : value.encode = frame value.tag value.content := by
  cases value with
  | primitive tag content => rw [encode]; rfl
  | constructed tag parts => rw [encode]; rfl

theorem length_encode_le (value : Der) : value.encode.length ≤ 2 * value.content.length + 2 := by
  rw [encode_eq_frame]
  exact length_frame_le _ _

theorem length_encodeAll_le {values : List Der} {bound : Nat}
    (each : ∀ value ∈ values, value.encode.length ≤ bound) :
    (encodeAll values).length ≤ values.length * bound := by
  induction values with
  | nil =>
      rw [encodeAll]
      exact Nat.zero_le _
  | cons value rest ih =>
      have first := each value (List.mem_cons_self ..)
      have others := ih fun other member => each other (List.mem_cons_of_mem _ member)
      rw [encodeAll, List.length_append, List.length_cons, Nat.succ_mul]
      omega

/-- The reader takes a value off the front: its content is read with what is left of the limit. -/
theorem decodeWithin?_frame {limit : Nat} {tag : UInt8} {content : List UInt8}
    (readable : Readable content.length) (rest : List UInt8) :
    decodeWithin? (limit + 1) (frame tag content ++ rest) = (do
      let value ←
        if isConstructed tag then (decodeWithin? limit content).map (constructed tag)
        else some (primitive tag content)
      let values ← decodeWithin? limit rest
      some (value :: values)) := by
  have enough : ¬(content ++ rest).length < content.length := by
    rw [List.length_append]
    omega
  rw [frame, List.cons_append, List.append_assoc, decodeWithin?, length?_encodeLength readable]
  simp only [bind, Option.bind, if_neg enough, List.take_left, List.drop_left]

theorem decodeWithin?_encodeAll {limit : Nat} {values : List Der} (tagged : AllWellTagged values)
    (readable : Readable (encodeAll values).length) (enough : (encodeAll values).length ≤ limit) :
    decodeWithin? limit (encodeAll values) = some values := by
  -- on the limit rather than on the values: the parts of the first value are read with what is left
  induction limit generalizing values with
  | zero =>
      cases values with
      | nil => rw [encodeAll, decodeWithin?]
      | cons value rest =>
          have positive := length_lt_length_frame value.tag value.content
          rw [encodeAll, List.length_append, encode_eq_frame] at enough
          omega
  | succ limit ih =>
      cases values with
      | nil => rw [encodeAll, decodeWithin?]
      | cons value rest =>
          rcases tagged with ⟨fits, tagged⟩
          rw [encodeAll, encode_eq_frame, List.length_append] at readable enough
          have inner := length_lt_length_frame value.tag value.content
          have later : decodeWithin? limit (encodeAll rest) = some rest :=
            ih tagged (readable.of_le (by omega)) (by omega)
          rw [encodeAll, encode_eq_frame, decodeWithin?_frame (readable.of_le (by omega))]
          cases value with
          | primitive tag bytes =>
              have plain : isConstructed tag = false := fits
              simp [Der.tag, Der.content, plain, later]
          | constructed tag parts =>
              have nested : isConstructed tag = true := fits.1
              have below : decodeWithin? limit (encodeAll parts) = some parts := by
                apply ih fits.2
                · exact readable.of_le (by simp only [Der.content] at inner ⊢; omega)
                · simp only [Der.content] at inner enough; omega
              simp [Der.tag, Der.content, nested, below, later]

/-- A value is read back from its bytes. -/
theorem decode?_encode {value : Der} (tagged : value.WellTagged)
    (readable : Readable value.encode.length) : decode? value.encode = some value := by
  have alone : encodeAll [value] = value.encode := by
    rw [encodeAll, encodeAll, List.append_nil]
  have read : decodeAll? value.encode = some [value] := by
    rw [← alone] at readable ⊢
    exact decodeWithin?_encodeAll ⟨tagged, trivial⟩ readable (Nat.le_refl _)
  rw [decode?, read]

/-- Bytes stand for one value. -/
theorem encode_inj {value other : Der} (tagged : value.WellTagged) (tagged' : other.WellTagged)
    (readable : Readable value.encode.length) (same : value.encode = other.encode) :
    value = other := by
  have read := decode?_encode tagged readable
  rw [same] at read readable
  exact Option.some.inj (read.symm.trans (decode?_encode tagged' readable))

/-! ## Numbers and identifiers -/

theorem ofBigEndian_zero_cons (bytes : List UInt8) : ofBigEndian (0 :: bytes) = ofBigEndian bytes :=
  rfl

theorem integer?_integer (n : Nat) : integer? (integer n) = some n := by
  have value := ofBigEndian_bigEndian n
  rw [integer, integerContent]
  cases digits : bigEndian n with
  | nil =>
      rw [digits] at value
      rw [← value]
      rfl
  | cons first rest =>
      rw [digits] at value
      by_cases plain : first < 128
      · simp [plain, integer?, value]
      · simp [plain, integer?, ofBigEndian_zero_cons, value]

theorem length_integerContent_le (n : Nat) :
    (integerContent n).length ≤ (bigEndian n).length + 1 := by
  rw [integerContent]
  cases bigEndian n with
  | nil => exact Nat.le_refl _
  | cons first rest =>
      by_cases plain : first < 128
      · simp [plain]
      · simp [plain]

theorem base128Onto_append (n : Nat) (tail rest : List UInt8) :
    base128Onto n tail ++ rest = base128Onto n (tail ++ rest) := by
  induction n, tail using base128Onto.induct with
  | case1 tail => rw [base128Onto, if_pos rfl, base128Onto, if_pos rfl]
  | case2 n tail positive ih =>
      rw [base128Onto, if_neg positive, ih, List.cons_append]
      exact (base128Onto.eq_1 n _).trans (if_neg positive) |>.symm

/-- Digits but the last are read into the number that they are of. -/
theorem decodeArcs_base128Onto (n : Nat) (tail : List UInt8) :
    decodeArcs 0 (base128Onto n tail) = decodeArcs n tail := by
  induction n, tail using base128Onto.induct with
  | case1 tail => rw [base128Onto, if_pos rfl]
  | case2 n tail positive ih =>
      have value : (UInt8.ofNat (128 + n % 128)).toNat = 128 + n % 128 := by
        rw [UInt8.toNat_ofNat']
        omega
      have marked : ¬UInt8.ofNat (128 + n % 128) < 128 := by
        rw [UInt8.lt_iff_toNat_lt, value]
        show ¬128 + n % 128 < 128
        omega
      have number : n / 128 * 128 + (128 + n % 128 - 128) = n := by omega
      rw [base128Onto, if_neg positive, ih, decodeArcs, if_neg marked, value, number]

theorem length_base128Onto_le (n : Nat) (tail : List UInt8) :
    (base128Onto n tail).length ≤ n + tail.length := by
  induction n, tail using base128Onto.induct with
  | case1 tail =>
      rw [base128Onto, if_pos rfl]
      exact Nat.le_add_left _ _
  | case2 n tail positive ih =>
      rw [base128Onto, if_neg positive]
      rw [List.length_cons] at ih
      omega

theorem length_encodeArc_le (n : Nat) : (encodeArc n).length ≤ n + 1 := by
  have length := length_base128Onto_le (n / 128) [UInt8.ofNat (n % 128)]
  rw [encodeArc]
  rw [List.length_singleton] at length
  omega

theorem length_flatMap_encodeArc_le (arcs : List Nat) :
    (arcs.flatMap encodeArc).length ≤ arcs.sum + arcs.length := by
  induction arcs with
  | nil => exact Nat.le_refl _
  | cons arc rest ih =>
      have first := length_encodeArc_le arc
      rw [List.flatMap_cons, List.length_append, List.sum_cons, List.length_cons]
      omega

theorem decodeArcs_encodeArc (n : Nat) (rest : List UInt8) :
    decodeArcs 0 (encodeArc n ++ rest) = n :: decodeArcs 0 rest := by
  have value : (UInt8.ofNat (n % 128)).toNat = n % 128 := by
    rw [UInt8.toNat_ofNat']
    omega
  have last : UInt8.ofNat (n % 128) < 128 := by
    rw [UInt8.lt_iff_toNat_lt, value]
    exact Nat.mod_lt n (by decide)
  have number : n / 128 * 128 + n % 128 = n := by omega
  rw [encodeArc, base128Onto_append, List.singleton_append, decodeArcs_base128Onto, decodeArcs,
    if_pos last, value, number]

theorem decodeArcs_flatMap_encodeArc (arcs : List Nat) :
    decodeArcs 0 (arcs.flatMap encodeArc) = arcs := by
  induction arcs with
  | nil => rfl
  | cons arc rest ih => rw [List.flatMap_cons, decodeArcs_encodeArc, ih]

namespace ObjectId

/-- The first two arcs can be told apart, and the arcs are small. -/
def Plain (id : ObjectId) : Prop :=
  id.first ≤ 2 ∧ (id.first < 2 → id.second < 40) ∧
    id.first * 40 + id.second + id.others.sum + id.others.length ≤ 200000

instance (id : ObjectId) : Decidable id.Plain :=
  inferInstanceAs (Decidable (_ ∧ (_ → _) ∧ _))

end ObjectId

theorem objectId?_objectId {id : ObjectId} (plain : id.Plain) :
    objectId? (objectId id) = some id := by
  rcases plain with ⟨first, second, _⟩
  have joined : min ((id.first * 40 + id.second) / 40) 2 = id.first := by omega
  have apart : id.first * 40 + id.second - id.first * 40 = id.second := by omega
  rw [objectId, objectId?, decodeArcs_encodeArc, decodeArcs_flatMap_encodeArc]
  simp only [joined, apart]

theorem length_encode_objectId_le {id : ObjectId} (plain : id.Plain) :
    (objectId id).encode.length ≤ 2 ^ 19 := by
  have first := length_encodeArc_le (id.first * 40 + id.second)
  have others := length_flatMap_encodeArc_le id.others
  have whole := length_encode_le (objectId id)
  have sum := plain.2.2
  simp only [objectId, content, List.length_append] at whole ⊢
  omega

end Der

end MailProvision
