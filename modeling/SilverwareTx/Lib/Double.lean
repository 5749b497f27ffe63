import Mathlib.Data.Int.Log
import Mathlib.Tactic

/-!
# Rounding to a double

`roundDouble` is the double nearest to a positive rational, with ties to even and no limit above,
and `IsDouble` says that a double holds a number. Rounding never crosses such a number
(`roundDouble_le`), so a product with a factor of at most one is rounded to at most the other
factor.
-/

namespace Double

/-- The nearest integer; of two, the even one. -/
def roundHalfEven (x : ℚ) : ℤ :=
  let below := ⌊x⌋
  if x - below < 1 / 2 then below
  else if 1 / 2 < x - below then below + 1
  else if below % 2 = 0 then below
  else below + 1

/-- The exponent of the last bit of the doubles around `q`. -/
def ulpExponent (q : ℚ) : ℤ := max (Int.log 2 q - 52) (-1074)

/-- The double nearest to a rational, ties to even. -/
def roundDouble (q : ℚ) : ℚ := roundHalfEven (q / 2 ^ ulpExponent q) * 2 ^ ulpExponent q

/-- A double holds `q`: 53 bits, the last one not below `2 ^ -1074`. -/
def IsDouble (q : ℚ) : Prop := ∃ (n : ℕ) (k : ℤ), n < 2 ^ 53 ∧ -1074 ≤ k ∧ q = n * 2 ^ k

theorem roundHalfEven_le {x : ℚ} {m : ℤ} (h : x ≤ m) : roundHalfEven x ≤ m := by
  have hbelow : ⌊x⌋ ≤ m := Int.cast_le.1 ((Int.floor_le x).trans h)
  have habove : 0 < x - ⌊x⌋ → ⌊x⌋ + 1 ≤ m := by
    intro hfract
    have hlt : ((⌊x⌋ : ℤ) : ℚ) < m := by linarith
    exact Int.cast_lt.1 hlt
  unfold roundHalfEven
  dsimp only
  split_ifs with hdown hup heven
  · exact hbelow
  · exact habove (by linarith)
  · exact hbelow
  · exact habove (by linarith)

theorem roundHalfEven_intCast (m : ℤ) : roundHalfEven m = m := by
  simp [roundHalfEven]

theorem roundHalfEven_nonneg {x : ℚ} (h : 0 ≤ x) : 0 ≤ roundHalfEven x := by
  have hbelow : 0 ≤ ⌊x⌋ := Int.floor_nonneg.2 h
  unfold roundHalfEven
  dsimp only
  split_ifs <;> omega

/-- A double is a multiple of the last bit of the doubles below it. -/
theorem IsDouble.exists_mul_ulp {q r : ℚ} (hr : IsDouble r) (hq : 0 < q) (h : q ≤ r) :
    ∃ m : ℤ, r = m * 2 ^ ulpExponent q := by
  obtain ⟨n, k, hn, hk, rfl⟩ := hr
  have hexp : ulpExponent q ≤ k := by
    have hlog : Int.log 2 q ≤ Int.log 2 ((n : ℚ) * 2 ^ k) := Int.log_mono_right hq h
    have hlt : (n : ℚ) * 2 ^ k < ((2 : ℕ) : ℚ) ^ (53 + k) := by
      have hcast : (n : ℚ) < 2 ^ (53 : ℤ) := by exact_mod_cast hn
      rw [Nat.cast_ofNat, zpow_add₀ (by norm_num)]
      exact mul_lt_mul_of_pos_right hcast (by positivity)
    have hbound := (Int.lt_zpow_iff_log_lt (by norm_num) (hq.trans_le h)).1 hlt
    unfold ulpExponent
    omega
  obtain ⟨d, hd⟩ := Int.eq_ofNat_of_zero_le (sub_nonneg.2 hexp)
  refine ⟨n * 2 ^ d, ?_⟩
  have hsplit : k = d + ulpExponent q := by omega
  conv_lhs => rw [hsplit, zpow_add₀ (by norm_num), zpow_natCast]
  push_cast
  ring

/-- **Rounding does not cross a double.** -/
theorem roundDouble_le {q r : ℚ} (hq : 0 < q) (h : q ≤ r) (hr : IsDouble r) :
    roundDouble q ≤ r := by
  obtain ⟨m, hm⟩ := hr.exists_mul_ulp hq h
  have hpos : (0 : ℚ) < 2 ^ ulpExponent q := by positivity
  have hscaled : q / 2 ^ ulpExponent q ≤ m := by
    rw [div_le_iff₀ hpos, ← hm]
    exact h
  have hround : (roundHalfEven (q / 2 ^ ulpExponent q) : ℚ) ≤ m := by
    exact_mod_cast roundHalfEven_le hscaled
  calc roundDouble q = roundHalfEven (q / 2 ^ ulpExponent q) * 2 ^ ulpExponent q := rfl
    _ ≤ m * 2 ^ ulpExponent q := mul_le_mul_of_nonneg_right hround hpos.le
    _ = r := hm.symm

theorem roundDouble_of_isDouble {q : ℚ} (hq : 0 < q) (h : IsDouble q) : roundDouble q = q := by
  obtain ⟨m, hm⟩ := h.exists_mul_ulp hq le_rfl
  have hne : (2 : ℚ) ^ ulpExponent q ≠ 0 := by positivity
  have hscaled : q / 2 ^ ulpExponent q = m := (div_eq_iff hne).2 hm
  rw [roundDouble, hscaled, roundHalfEven_intCast]
  exact hm.symm

/-- Rounding gives a double. -/
theorem isDouble_roundDouble {q : ℚ} (hq : 0 < q) : IsDouble (roundDouble q) := by
  have hpos : (0 : ℚ) < 2 ^ ulpExponent q := by positivity
  have hround : 0 ≤ roundHalfEven (q / 2 ^ ulpExponent q) := roundHalfEven_nonneg (by positivity)
  have hle : roundHalfEven (q / 2 ^ ulpExponent q) ≤ (2 ^ 53 : ℕ) := by
    apply roundHalfEven_le
    have hlog := (Int.lt_zpow_succ_log_self (b := 2) (by norm_num) q).le
    have hexp : Int.log 2 q + 1 ≤ 53 + ulpExponent q := by
      unfold ulpExponent
      omega
    rw [div_le_iff₀ hpos]
    calc q ≤ (2 : ℚ) ^ (Int.log 2 q + 1) := by exact_mod_cast hlog
      _ ≤ 2 ^ (53 + ulpExponent q) := zpow_le_zpow_right₀ (by norm_num) hexp
      _ = ((2 ^ 53 : ℕ) : ℤ) * 2 ^ ulpExponent q := by
        rw [zpow_add₀ (by norm_num)]
        norm_num
  obtain ⟨n, hn⟩ := Int.eq_ofNat_of_zero_le hround
  have hexp : -1074 ≤ ulpExponent q := le_max_right _ _
  have hvalue : roundDouble q = n * 2 ^ ulpExponent q := by
    rw [roundDouble, hn]
    norm_cast
  rcases Nat.lt_or_ge n (2 ^ 53) with hlt | hge
  · exact ⟨n, ulpExponent q, hlt, hexp, hvalue⟩
  · -- the significand was rounded up to the next power of two
    obtain rfl : n = 2 ^ 53 := by omega
    refine ⟨2 ^ 52, ulpExponent q + 1, by norm_num, by omega, ?_⟩
    rw [hvalue, zpow_add_one₀ (by norm_num)]
    push_cast
    ring

theorem isDouble_natCast {n : ℕ} (h : n < 2 ^ 53) : IsDouble n :=
  ⟨n, 0, h, by norm_num, by simp⟩

/-- A double holds the whole part of what a double holds. -/
theorem IsDouble.floor {q : ℚ} (h : IsDouble q) : IsDouble (⌊q⌋ : ℤ) := by
  obtain ⟨n, k, hn, hk, rfl⟩ := h
  rcases le_or_gt 0 k with hnonneg | hneg
  · obtain ⟨d, rfl⟩ := Int.eq_ofNat_of_zero_le hnonneg
    refine ⟨n, d, hn, hk, ?_⟩
    have hint : (n : ℚ) * 2 ^ (d : ℤ) = ((n * 2 ^ d : ℕ) : ℚ) := by
      push_cast
      rw [zpow_natCast]
    rw [hint, Int.floor_natCast, Int.cast_natCast]
  · obtain ⟨d, hd⟩ : ∃ d : ℕ, k = -d := ⟨(-k).toNat, by omega⟩
    have hdiv : (n : ℚ) * 2 ^ k = (n : ℚ) / ((2 ^ d : ℕ) : ℚ) := by
      rw [hd, zpow_neg, zpow_natCast]
      push_cast
      rfl
    have hfloor : ⌊(n : ℚ) * 2 ^ k⌋ = ((n / 2 ^ d : ℕ) : ℤ) := by
      rw [hdiv, Rat.floor_natCast_div_natCast]
      norm_cast
    rw [hfloor, Int.cast_natCast]
    exact isDouble_natCast ((Nat.div_le_self _ _).trans_lt hn)

end Double
