import Mathlib.Tactic

/-!
# Bit fields read most significant bit first

The bits come from any source `ℕ → Bool`; `field bit o w` is the unsigned number in the `w` bits
from offset `o`, `signedField` its two's-complement reading. `field_succ_left` is the step of a
reader that shifts one bit at a time into an accumulator, and `or_highMask_toInt` the usual way to
sign-extend such a number in a machine word.

`pack` is the writer's side: fields one after the other, each with its most significant bit first. A
field is read back at the sum of the widths before it (`field_pack`), signed with
`signedField_eq_toInt`.
-/

namespace MsbBits

/-- The number in the `w` bits from offset `o`, most significant first. -/
def field (bit : ℕ → Bool) (o : ℕ) : ℕ → ℕ
  | 0 => 0
  | w + 1 => 2 * field bit o w + (bit (o + w)).toNat

/-- The two's-complement number in the `w` bits from offset `o`. -/
def signedField (bit : ℕ → Bool) (o w : ℕ) : ℤ :=
  if bit o then (field bit o w : ℤ) - 2 ^ w else field bit o w

variable {bit bit' : ℕ → Bool} {o w : ℕ}

@[simp] theorem field_zero : field bit o 0 = 0 := rfl

theorem field_succ : field bit o (w + 1) = 2 * field bit o w + (bit (o + w)).toNat := rfl

theorem field_lt (bit : ℕ → Bool) (o w : ℕ) : field bit o w < 2 ^ w := by
  induction w with
  | zero => simp
  | succ w ih =>
    have hb : (bit (o + w)).toNat ≤ 1 := Bool.toNat_le _
    rw [field_succ, pow_succ]
    omega

theorem field_congr (h : ∀ i, o ≤ i → i < o + w → bit i = bit' i) :
    field bit o w = field bit' o w := by
  induction w with
  | zero => rfl
  | succ w ih =>
    rw [field_succ, field_succ, ih fun i h1 h2 => h i h1 (by omega),
      h (o + w) (by omega) (by omega)]

/-- Reading the leading bit first. -/
theorem field_succ_left (bit : ℕ → Bool) (o w : ℕ) :
    field bit o (w + 1) = (bit o).toNat * 2 ^ w + field bit (o + 1) w := by
  induction w with
  | zero => simp [field_succ]
  | succ w ih =>
    rw [field_succ, ih, field_succ, pow_succ, show o + 1 + w = o + (w + 1) by omega]
    ring

/-- The leading bit says whether the field reaches the upper half of its range. -/
theorem two_pow_le_field_iff (bit : ℕ → Bool) (o w : ℕ) :
    2 ^ w ≤ field bit o (w + 1) ↔ bit o = true := by
  have hlt := field_lt bit (o + 1) w
  rw [field_succ_left]
  cases bit o with
  | false => simpa using hlt
  | true => simp

/-- The bits of a field are the bits it was read from, in reverse order. -/
theorem testBit_field (bit : ℕ → Bool) (o : ℕ) {w i : ℕ} (hi : i < w) :
    (field bit o w).testBit i = bit (o + (w - 1 - i)) := by
  induction w generalizing i with
  | zero => omega
  | succ w ih =>
    rw [field_succ]
    cases i with
    | zero =>
      rw [Nat.testBit_zero, show o + (w + 1 - 1 - 0) = o + w by omega]
      cases bit (o + w) <;> simp
    | succ i =>
      have hhalf : (2 * field bit o w + (bit (o + w)).toNat) / 2 = field bit o w := by
        have := Bool.toNat_le (bit (o + w))
        omega
      rw [Nat.testBit_succ, hhalf, ih (by omega), show w + 1 - 1 - (i + 1) = w - 1 - i by omega]

/-- A signed field of `w + 1` bits is in the range of its width. -/
theorem signedField_bounds (bit : ℕ → Bool) (o w : ℕ) :
    -2 ^ w ≤ signedField bit o (w + 1) ∧ signedField bit o (w + 1) < 2 ^ w := by
  have hlt : (field bit o (w + 1) : ℤ) < 2 ^ (w + 1) := by exact_mod_cast field_lt bit o (w + 1)
  have htop := two_pow_le_field_iff bit o w
  rw [pow_succ] at hlt
  unfold signedField
  split_ifs with hb
  · have : (2 : ℤ) ^ w ≤ field bit o (w + 1) := by exact_mod_cast htop.2 hb
    rw [pow_succ]
    constructor <;> linarith
  · have : (field bit o (w + 1) : ℤ) < 2 ^ w := by
      exact_mod_cast not_le.1 fun h => hb (htop.1 h)
    have hpos : (0 : ℤ) < 2 ^ w := by positivity
    constructor <;> linarith [Nat.zero_le (field bit o (w + 1))]

/-- A shift in a word of `w` bits leaves room for `k` more bits. -/
theorem shiftLeft_mod_or (x : ℕ) {b k w : ℕ} (hb : b < 2 ^ k) (hk : k ≤ w) :
    (x <<< k % 2 ^ w) ||| b = (x * 2 ^ k + b) % 2 ^ w := by
  have hpow : 2 ^ w = 2 ^ k * 2 ^ (w - k) := by rw [← pow_add, Nat.add_sub_cancel' hk]
  have hdiv : (2 ^ k * x + b) / 2 ^ k = x := by
    rw [Nat.mul_add_div (Nat.two_pow_pos k), Nat.div_eq_of_lt hb, Nat.add_zero]
  have hmod : (2 ^ k * x + b) % 2 ^ k = b := by rw [Nat.mul_add_mod, Nat.mod_eq_of_lt hb]
  rw [Nat.shiftLeft_eq, Nat.mul_comm x, hpow, Nat.mul_mod_mul_left,
    ← Nat.two_pow_add_eq_or_of_lt hb, Nat.mod_mul, hdiv, hmod, Nat.add_comm]

/-- Setting the bits from `n` up in a 32-bit word subtracts `2 ^ n` from its signed value. -/
theorem or_highMask_toInt {v : BitVec 32} {n : ℕ} (hn : n < 32) (hv : v.toNat < 2 ^ n) :
    (v ||| ~~~((1#32 <<< n) - 1#32)).toInt = (v.toNat : ℤ) - 2 ^ n := by
  have hpos : 0 < 2 ^ n := Nat.two_pow_pos n
  have hle : 2 ^ n ≤ 2 ^ 31 := Nat.pow_le_pow_right (by norm_num) (by omega)
  have hone : (1#32 <<< n).toNat = 2 ^ n := by
    rw [BitVec.toNat_shiftLeft, Nat.shiftLeft_eq, Nat.mod_eq_of_lt (by simp; omega)]
    simp
  have hmask : (~~~((1#32 <<< n) - 1#32)).toNat = 2 ^ n * (2 ^ (32 - n) - 1) := by
    rw [BitVec.toNat_not, BitVec.toNat_sub_of_le (by rw [BitVec.le_def, hone]; exact hpos), hone]
    have hsplit : 2 ^ n * 2 ^ (32 - n) = 2 ^ 32 := by rw [← pow_add,
    show n + (32 - n) = 32 by omega]
    rw [Nat.mul_sub, hsplit]
    simp only [BitVec.reduceToNat, mul_one]
    omega
  have hor : (v ||| ~~~((1#32 <<< n) - 1#32)).toNat = v.toNat + (2 ^ 32 - 2 ^ n) := by
    rw [BitVec.toNat_or, hmask, Nat.or_comm, ← Nat.two_pow_add_eq_or_of_lt hv, Nat.mul_sub,
      ← pow_add, show n + (32 - n) = 32 by omega, mul_one, Nat.add_comm]
  have hcast : ((2 ^ n : ℕ) : ℤ) = 2 ^ n := by push_cast; rfl
  rw [BitVec.toInt_eq_toNat_cond, hor, if_neg (by omega), ← hcast]
  omega

/-- Below half of its range a 32-bit word is its own signed value. -/
theorem toInt_of_small {v : BitVec 32} {n : ℕ} (hn : n < 32) (hv : v.toNat < 2 ^ n) :
    v.toInt = v.toNat := by
  have hle : 2 ^ n ≤ 2 ^ 31 := Nat.pow_le_pow_right (by norm_num) (by omega)
  rw [BitVec.toInt_eq_toNat_cond, if_pos (by omega)]

/-! ### Packing -/

/-- Reading from a later bit of the source. -/
theorem field_shift (bit : ℕ → Bool) (a o w : ℕ) :
    field bit (a + o) w = field (fun i => bit (a + i)) o w := by
  induction w with
  | zero => rfl
  | succ w ih => rw [field_succ, field_succ, ih, Nat.add_assoc]

theorem signedField_eq_toInt {v : BitVec w} (hw : 0 < w) (hfield : field bit o w = v.toNat) :
    signedField bit o w = v.toInt := by
  obtain ⟨n, rfl⟩ : ∃ n, w = n + 1 := ⟨w - 1, by omega⟩
  have htop := two_pow_le_field_iff bit o n
  have hpow : (2 : ℕ) ^ (n + 1) = 2 * 2 ^ n := by rw [pow_succ, Nat.mul_comm]
  rw [hfield] at htop
  rw [BitVec.toInt_eq_toNat_cond, signedField, hfield]
  by_cases hbit : bit o = true
  · have hle := htop.2 hbit
    rw [if_pos hbit, if_neg (by omega)]
    push_cast
    rfl
  · have hlt := not_le.1 fun h => hbit (htop.1 h)
    rw [if_neg hbit, if_pos (by omega)]

/-- A field of a packed record. -/
structure Packed where
  width : ℕ
  value : BitVec width

/-- The bits of a field, most significant first. -/
def Packed.bits (f : Packed) : List Bool := List.ofFn fun i : Fin f.width => f.value.getMsbD i

/-- The fields one after the other. -/
def pack (fields : List Packed) : List Bool := fields.flatMap Packed.bits

/-- A list of bits as a source. -/
def bitAt (bits : List Bool) (i : ℕ) : Bool := bits.getD i false

/-- Where field `k` begins. -/
def offset (fields : List Packed) (k : ℕ) : ℕ := ((fields.take k).map Packed.width).sum

@[simp] theorem length_bits (f : Packed) : f.bits.length = f.width := List.length_ofFn

theorem getElem_bits (f : Packed) {i : ℕ} (hi : i < f.bits.length) :
    f.bits[i] = f.value.getMsbD i := List.getElem_ofFn _

theorem bitAt_append_left {xs ys : List Bool} {i : ℕ} (hi : i < xs.length) :
    bitAt (xs ++ ys) i = bitAt xs i := by
  rw [bitAt, bitAt, List.getD_eq_getElem?_getD, List.getD_eq_getElem?_getD,
    List.getElem?_append_left hi]

theorem bitAt_append_right {xs ys : List Bool} {i : ℕ} :
    bitAt (xs ++ ys) (xs.length + i) = bitAt ys i := by
  rw [bitAt, bitAt, List.getD_eq_getElem?_getD, List.getD_eq_getElem?_getD,
    List.getElem?_append_right (Nat.le_add_right _ _), Nat.add_sub_cancel_left]

/-- The bits of a field say its value. -/
theorem field_bits (f : Packed) : field (bitAt f.bits) 0 f.width = f.value.toNat := by
  apply Nat.eq_of_testBit_eq
  intro i
  by_cases hi : i < f.width
  · have hlen : 0 + (f.width - 1 - i) < f.bits.length := by
      rw [length_bits]
      omega
    have hback : f.width - 1 - (0 + (f.width - 1 - i)) = i := by omega
    rw [testBit_field _ _ hi, bitAt, List.getD_eq_getElem?_getD,
      List.getElem?_eq_getElem hlen, Option.getD_some, getElem_bits, BitVec.getMsbD_eq_getLsbD,
      hback, BitVec.testBit_toNat, decide_eq_true (by omega), Bool.true_and]
  · have hle : 2 ^ f.width ≤ 2 ^ i := Nat.pow_le_pow_right (by norm_num) (not_lt.1 hi)
    rw [Nat.testBit_lt_two_pow ((field_lt _ _ _).trans_le hle),
      Nat.testBit_lt_two_pow (f.value.isLt.trans_le hle)]

/-- **A packed field is read back** where the fields before it end. -/
theorem field_pack {fields : List Packed} {k : ℕ} {f : Packed} (h : fields[k]? = some f) :
    field (bitAt (pack fields)) (offset fields k) f.width = f.value.toNat := by
  induction fields generalizing k with
  | nil => cases h
  | cons g fields ih =>
    cases k with
    | zero =>
      obtain rfl := Option.some.inj h
      rw [← field_bits g]
      apply field_congr
      intro i _ hi
      exact bitAt_append_left (by rw [length_bits]; simpa [offset] using hi)
    | succ k =>
      have hshift : (fun i => bitAt (pack (g :: fields)) (g.width + i)) = bitAt (pack fields) := by
        funext i
        rw [← length_bits g]
        exact bitAt_append_right
      rw [offset, List.take_succ_cons, List.map_cons, List.sum_cons, field_shift, hshift]
      exact ih h

/-- A field ends within the record. -/
theorem offset_add_width_le {fields : List Packed} {k : ℕ} {f : Packed} (h : fields[k]? = some f) :
    offset fields k + f.width ≤ (fields.map Packed.width).sum := by
  obtain ⟨hk, rfl⟩ := List.getElem?_eq_some_iff.1 h
  have hsum : (fields.map Packed.width).sum =
      offset fields k + ((fields.drop k).map Packed.width).sum := by
    rw [offset, ← List.sum_append, ← List.map_append, List.take_append_drop]
  rw [hsum, List.drop_eq_getElem_cons hk, List.map_cons, List.sum_cons]
  omega

end MsbBits
