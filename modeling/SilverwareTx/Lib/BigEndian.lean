import Mathlib.Tactic

/-!
# Big-endian bytes of naturals

`toBE w n` is the `w` big-endian bytes of `n`, `ofBE` the number in a byte string, with the round
trips both ways. A reader that shifts bytes into an accumulator computes `ofBE` (`ofBE_concat`).
-/

namespace BigEndian

/-- A byte. -/
abbrev Byte := BitVec 8

/-- The number whose big-endian bytes are given. -/
def ofBE (l : List Byte) : ℕ := l.foldl (fun n b => n * 256 + b.toNat) 0

/-- The `w` big-endian bytes of `n`; higher digits are dropped. -/
def toBE : ℕ → ℕ → List Byte
  | 0, _ => []
  | w + 1, n => toBE w (n / 256) ++ [BitVec.ofNat 8 n]

@[simp] theorem ofBE_nil : ofBE [] = 0 := rfl

theorem ofBE_concat (l : List Byte) (b : Byte) : ofBE (l ++ [b]) = ofBE l * 256 + b.toNat := by
  simp [ofBE]

theorem ofBE_cons (b : Byte) (l : List Byte) :
    ofBE (b :: l) = b.toNat * 256 ^ l.length + ofBE l := by
  induction l using List.reverseRecOn with
  | nil => simp [ofBE]
  | append_singleton l c ih =>
    rw [← List.cons_append, ofBE_concat, ih, ofBE_concat, List.length_append, List.length_singleton,
      pow_succ]
    ring

@[simp] theorem length_toBE (w n : ℕ) : (toBE w n).length = w := by
  induction w generalizing n with
  | zero => rfl
  | succ w ih => simp [toBE, ih]

/-- The leading byte first. -/
theorem toBE_succ_left (w n : ℕ) : toBE (w + 1) n = BitVec.ofNat 8 (n / 256 ^ w) :: toBE w n := by
  induction w generalizing n with
  | zero => simp [toBE]
  | succ w ih =>
    rw [toBE, ih, Nat.div_div_eq_div_mul, ← pow_succ', List.cons_append]
    rfl

/-- Encoding keeps the number modulo its width. -/
theorem ofBE_toBE (w n : ℕ) : ofBE (toBE w n) = n % 256 ^ w := by
  induction w generalizing n with
  | zero => simp [toBE, Nat.mod_one]
  | succ w ih =>
    have hsplit : n % 256 ^ (w + 1) = n % 256 + 256 * (n / 256 % 256 ^ w) := by
      rw [pow_succ', Nat.mod_mul]
    rw [toBE, ofBE_concat, ih, BitVec.toNat_ofNat, hsplit]
    omega

theorem ofBE_toBE_of_lt {w n : ℕ} (h : n < 256 ^ w) : ofBE (toBE w n) = n := by
  rw [ofBE_toBE, Nat.mod_eq_of_lt h]

theorem ofBE_lt (l : List Byte) : ofBE l < 256 ^ l.length := by
  induction l using List.reverseRecOn with
  | nil => simp
  | append_singleton l b ih =>
    have hb := b.isLt
    rw [ofBE_concat, List.length_append, List.length_singleton, pow_succ]
    omega

/-- Every byte string is the encoding of its number. -/
theorem toBE_ofBE (l : List Byte) : toBE l.length (ofBE l) = l := by
  induction l using List.reverseRecOn with
  | nil => rfl
  | append_singleton l b ih =>
    have hb := b.isLt
    rw [List.length_append, List.length_singleton, toBE, ofBE_concat,
      show (ofBE l * 256 + b.toNat) / 256 = ofBE l by omega, ih]
    congr 2
    apply BitVec.eq_of_toNat_eq
    rw [BitVec.toNat_ofNat]
    omega

end BigEndian
