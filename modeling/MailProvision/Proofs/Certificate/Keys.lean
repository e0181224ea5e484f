import MailProvision.Certificate.KeySource
import MailProvision.Proofs.Certificate.Tagged

/-!
# Reading keys back

A modulus and an exponent are read back from the bytes inside a bit string, if these are not too
many. Drawn keys have a modulus that is the product of two numbers not far above the ones that were
drawn, so neither the key nor a signature is too long.
-/

namespace MailProvision

namespace Algorithm

/-- The algorithms that have a name here. -/
def known : List Algorithm :=
  [rsa, rsaWithSha512]

theorem ofId_id : ∀ algorithm ∈ known, ofId algorithm.id = algorithm := by
  decide

theorem plain_id : ∀ algorithm ∈ known, algorithm.id.Plain := by
  decide

theorem ofDer?_toDer {algorithm : Algorithm} (named : algorithm ∈ known) :
    ofDer? algorithm.toDer = some algorithm := by
  rw [toDer, Der.sequence, ofDer?, Der.objectId?_objectId (plain_id _ named), Option.map_some,
    ofId_id _ named]

theorem wellTagged_toDer (algorithm : Algorithm) : algorithm.toDer.WellTagged :=
  ⟨rfl, rfl, rfl, trivial⟩

theorem length_encode_toDer_le {algorithm : Algorithm} (named : algorithm ∈ known) :
    algorithm.toDer.encode.length ≤ 2 ^ 21 := by
  have id := Der.length_encode_objectId_le (plain_id _ named)
  have null := Der.length_encode_le .null
  have whole := Der.length_encode_le algorithm.toDer
  simp only [Der.null, Der.content, List.length_nil] at null
  simp only [toDer, Der.sequence, Der.content, Der.encodeAll, List.append_nil,
    List.length_append, Der.null] at whole ⊢
  omega

end Algorithm

/-! ## Written keys -/

namespace PublicKey

/-- Modulus and exponent as one value. -/
def numbers (key : PublicKey) : Der :=
  .sequence [.integer key.modulus, .integer key.exponent]

/-- The numbers of the key are short enough to be written inside a certificate. -/
structure Sized (key : PublicKey) : Prop where
  positive : 0 < key.modulus
  width : key.width ≤ 2000
  exponent : key.exponent < 256 ^ 4

variable {key : PublicKey}

theorem modulus_lt (key : PublicKey) : key.modulus < 256 ^ key.width := by
  have bits : key.modulus < 2 ^ key.bits := by
    unfold bits
    by_cases zero : key.modulus = 0
    · rw [if_pos zero, zero]
      decide
    · rw [if_neg zero]
      exact Nat.lt_log2_self
  have whole : key.bits ≤ 8 * key.width := by
    unfold width
    omega
  have bytes : (256 : Nat) ^ key.width = 2 ^ (8 * key.width) := by
    rw [Nat.pow_mul]
  rw [bytes]
  exact Nat.lt_of_lt_of_le bits (Nat.pow_le_pow_right (by decide) whole)

theorem length_encode_integer_le {n digits : Nat} (bound : n < 256 ^ digits) :
    (Der.integer n).encode.length ≤ 2 * digits + 4 := by
  have length := Der.length_bigEndian_le bound
  have content := Der.length_integerContent_le n
  have whole := Der.length_encode_le (Der.integer n)
  simp only [Der.integer, Der.content] at whole ⊢
  omega

theorem length_encode_numbers_le (sized : key.Sized) : key.numbers.encode.length ≤ 9000 := by
  have modulus := length_encode_integer_le key.modulus_lt
  have exponent := length_encode_integer_le sized.exponent
  have width := sized.width
  have whole := Der.length_encode_le key.numbers
  simp only [numbers, Der.sequence, Der.content, Der.encodeAll, List.append_nil,
    List.length_append] at whole ⊢
  omega

theorem decode?_numbers (sized : key.Sized) :
    Der.decode? key.numbers.encode = some key.numbers := by
  have tagged : key.numbers.WellTagged := ⟨rfl, rfl, rfl, trivial⟩
  apply Der.decode?_encode tagged
  exact Der.readable_of_le (Nat.le_trans (length_encode_numbers_le sized) (by decide))

theorem ofDer?_toDer {algorithm : Algorithm} (named : algorithm ∈ Algorithm.known)
    (sized : key.Sized) : ofDer? (key.toDer algorithm) = some (algorithm, key) := by
  have read := decode?_numbers sized
  simp only [numbers, Der.sequence] at read
  simp only [toDer, Der.sequence, ofDer?, Algorithm.ofDer?_toDer named, Der.bitString,
    Der.bitString?, read, Der.integer?_integer, bind, Option.bind]

theorem wellTagged_toDer (algorithm : Algorithm) (key : PublicKey) :
    (key.toDer algorithm).WellTagged :=
  ⟨rfl, algorithm.wellTagged_toDer, rfl, trivial⟩

theorem length_encode_toDer_le {algorithm : Algorithm} (named : algorithm ∈ Algorithm.known)
    (sized : key.Sized) : (key.toDer algorithm).encode.length ≤ 2 ^ 23 := by
  have front := Algorithm.length_encode_toDer_le named
  have inner := length_encode_numbers_le sized
  have bits := Der.length_encode_le (Der.bitString key.numbers.encode)
  have whole := Der.length_encode_le (key.toDer algorithm)
  simp only [Der.bitString, Der.content, List.length_cons] at bits
  change
    _ ≤ 2 * (Der.encodeAll [algorithm.toDer, .bitString key.numbers.encode]).length + 2 at whole
  simp only [Der.encodeAll, List.append_nil, List.length_append, Der.bitString] at whole
  omega

/-! ## Signatures -/

theorem length_bytesOfWidth {width n : Nat} (bound : n < 256 ^ width) :
    (bytesOfWidth width n).length = width := by
  have digits := Der.length_bigEndian_le bound
  rw [bytesOfWidth, List.length_append, List.length_replicate]
  omega

end PublicKey

theorem powerMod_lt {modulus : Nat} (positive : 0 < modulus) (base exponent : Nat) :
    powerMod modulus base exponent < modulus := by
  induction base, exponent using powerMod.induct modulus with
  | case1 base =>
      rw [powerMod, if_pos rfl]
      exact Nat.mod_lt _ positive
  | case2 base exponent more odd ih =>
      rw [powerMod, if_neg more]
      simp only [odd, if_true]
      exact Nat.mod_lt _ positive
  | case3 base exponent more even ih =>
      rw [powerMod, if_neg more]
      simp only [if_neg even]
      exact ih

/-- A signature has as many bytes as the modulus. -/
theorem PrivateKey.length_sign {key : PrivateKey} (positive : 0 < key.modulus)
    (message : List UInt8) : (key.sign message).length = key.publicKey.width := by
  apply PublicKey.length_bytesOfWidth
  exact Nat.lt_trans (powerMod_lt positive _ _) key.publicKey.modulus_lt

/-! ## Drawn keys -/

theorem Prime.firstFrom_bounds (suitable : Nat → Bool) (limit n : Nat) :
    n ≤ firstFrom suitable limit n ∧ firstFrom suitable limit n ≤ n + 2 * limit := by
  induction limit generalizing n with
  | zero => exact ⟨Nat.le_refl _, Nat.le_refl _⟩
  | succ limit ih =>
      have later := ih (n + 2)
      rw [firstFrom]
      by_cases found : suitable n = true
      · rw [if_pos found]
        omega
      · rw [if_neg found]
        omega

namespace KeySource

theorem start_bounds (source : KeySource) (purpose : UInt8) {bits : Nat} (enough : 2 ≤ bits) :
    0 < source.start purpose bits ∧ source.start purpose bits < 2 ^ bits := by
  have top : 3 <<< (bits - 2) < 2 ^ bits := by
    obtain ⟨lower, rfl⟩ : ∃ lower, bits = lower + 2 := ⟨bits - 2, by omega⟩
    have positive := Nat.two_pow_pos lower
    rw [Nat.shiftLeft_eq, Nat.add_sub_cancel, Nat.pow_add]
    omega
  have one : 1 < 2 ^ bits := Nat.one_lt_two_pow (by omega)
  refine ⟨Nat.lt_of_lt_of_le Nat.one_pos Nat.right_le_or, ?_⟩
  exact Nat.or_lt_two_pow (Nat.or_lt_two_pow (Nat.mod_lt _ (Nat.two_pow_pos _)) top) one

theorem prime_bounds (source : KeySource) (purpose : UInt8) (suitable : Nat → Bool)
    {bits limit : Nat} (enough : 24 ≤ bits) (few : limit ≤ 2 ^ 20) :
    0 < Prime.firstFrom suitable limit (source.start purpose bits) ∧
      Prime.firstFrom suitable limit (source.start purpose bits) < 2 ^ (bits + 1) := by
  have start := source.start_bounds purpose (by omega : 2 ≤ bits)
  have found := Prime.firstFrom_bounds suitable limit (source.start purpose bits)
  have steps : 2 ^ 24 ≤ 2 ^ bits := Nat.pow_le_pow_right (by decide) enough
  rw [Nat.pow_succ]
  omega

/-- The keys that are drawn can be written. -/
theorem sized_draw (source : KeySource) {bits : Nat} (least : 2048 ≤ bits)
    (greatest : bits ≤ 8192) : (source.draw bits).1.publicKey.Sized := by
  have first := source.prime_bounds 0 isSuitable (by omega : 24 ≤ bits / 2)
    (by omega : 100 * bits ≤ 2 ^ 20)
  generalize drawn : Prime.firstFrom isSuitable (100 * bits) (source.start 0 (bits / 2)) = prime1
    at first
  have second := source.prime_bounds 1 (fun n => n ≠ prime1 && isSuitable n)
    (by omega : 24 ≤ bits - bits / 2) (by omega : 100 * bits ≤ 2 ^ 20)
  generalize drawn' : Prime.firstFrom (fun n => n ≠ prime1 && isSuitable n) (100 * bits)
    (source.start 1 (bits - bits / 2)) = prime2 at second
  have positive : 0 < prime1 * prime2 := Nat.mul_pos first.1 second.1
  have bound : prime1 * prime2 < 2 ^ (bits + 2) := by
    have whole : bits + 2 = (bits / 2 + 1) + (bits - bits / 2 + 1) := by omega
    rw [whole, Nat.pow_add]
    exact Nat.mul_lt_mul'' first.2 second.2
  have digits : (prime1 * prime2).log2 < bits + 2 :=
    (Nat.log2_lt (Nat.ne_of_gt positive)).mpr bound
  have key : (source.draw bits).1.publicKey =
      { modulus := prime1 * prime2, exponent := publicExponent } := by
    simp only [draw, drawn, drawn']
    rfl
  have exponent : publicExponent < 256 ^ 4 := by decide
  rw [key]
  refine { positive, width := ?_, exponent }
  simp only [PublicKey.width, PublicKey.bits, if_neg (Nat.ne_of_gt positive)]
  omega

end KeySource

end MailProvision
