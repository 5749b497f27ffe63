import SilverwareTx.Lib.Double

/-!
# Numbers as text

The formats `d`, `.nf`, `7.nf` and `02X` of a number, over exact values.
-/

namespace NumberText

open Double

/-- A text filled up to a width from the left. -/
def padLeft (width : ℕ) (c : Char) (text : List Char) : List Char :=
  List.replicate (width - text.length) c ++ text

/-- The decimal text of a natural number. -/
def natText (n : ℕ) : List Char := Nat.toDigits 10 n

/-- The decimal text of an integer. -/
def intText (n : ℤ) : List Char :=
  if n < 0 then '-' :: natText n.natAbs else natText n.natAbs

/-- The format `02X`. -/
def hexText (n : ℕ) : List Char := padLeft 2 '0' ((Nat.toDigits 16 n).map Char.toUpper)

/-- The format `.nf`, with `n` digits after the point and ties to even. -/
def fixedText (decimals : ℕ) (x : ℚ) : List Char :=
  let n := (roundHalfEven (|x| * 10 ^ decimals)).toNat
  (if x < 0 then ['-'] else []) ++ natText (n / 10 ^ decimals) ++
    (if decimals = 0 then [] else '.' :: padLeft decimals '0' (natText (n % 10 ^ decimals)))

theorem length_padLeft {width : ℕ} (c : Char) {text : List Char} (h : text.length ≤ width) :
    (padLeft width c text).length = width := by
  rw [padLeft, List.length_append, List.length_replicate]
  omega

theorem length_natText_le_iff {n k : ℕ} (hk : 0 < k) : (natText n).length ≤ k ↔ n < 10 ^ k :=
  Nat.length_toDigits_le_iff (by decide) hk

/-- A number with as many decimals as are printed is printed as it is. -/
theorem fixedText_div {decimals : ℕ} (h : 0 < decimals) (n : ℕ) :
    fixedText decimals (n / 10 ^ decimals) =
      natText (n / 10 ^ decimals) ++ '.' :: padLeft decimals '0' (natText (n % 10 ^ decimals)) := by
  have hpow : (10 : ℚ) ^ decimals ≠ 0 := by positivity
  have hvalue : |(n : ℚ) / 10 ^ decimals| * 10 ^ decimals = ((n : ℤ) : ℚ) := by
    rw [abs_of_nonneg (by positivity), div_mul_cancel₀ _ hpow]
    rfl
  have hsign : ¬ (n : ℚ) / 10 ^ decimals < 0 := not_lt.2 (by positivity)
  simp only [fixedText, hvalue, roundHalfEven_intCast, Int.toNat_natCast, if_neg hsign,
    if_neg h.ne', List.nil_append]

theorem length_fixedText_div {decimals : ℕ} (h : 0 < decimals) (n : ℕ) :
    (fixedText decimals (n / 10 ^ decimals)).length =
      (natText (n / 10 ^ decimals)).length + (decimals + 1) := by
  have hfraction : (natText (n % 10 ^ decimals)).length ≤ decimals :=
    (length_natText_le_iff h).2 (Nat.mod_lt n (by positivity))
  rw [fixedText_div h, List.length_append, List.length_cons, length_padLeft '0' hfraction]

/-- The characters of a number. -/
theorem mem_fixedText_div {decimals : ℕ} (h : 0 < decimals) {n : ℕ} {c : Char}
    (hc : c ∈ fixedText decimals (n / 10 ^ decimals)) : c.isDigit = true ∨ c = '.' := by
  have hdigit : ∀ m, c ∈ natText m → c.isDigit = true := fun m hm =>
    Nat.isDigit_of_mem_toDigits (by decide) (by decide) hm
  rw [fixedText_div h] at hc
  simp only [padLeft, List.mem_append, List.mem_cons, List.mem_replicate] at hc
  rcases hc with hc | rfl | ⟨-, rfl⟩ | hc
  · exact .inl (hdigit _ hc)
  · exact .inr rfl
  · exact .inl (by decide)
  · exact .inl (hdigit _ hc)

end NumberText
