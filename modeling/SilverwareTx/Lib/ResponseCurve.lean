import Mathlib.Tactic

/-!
# Response curves of an axis

The pieces that map a centred axis to a command, over any linearly ordered field: `clamp`, the dead
zone around the centre with the rest stretched over the full range (`deadZone`), and the mixture of a
line and a cubic (`expoCurve`). Each is monotone, and so is what they compose to.
-/

namespace ResponseCurve

variable {α : Type*}

/-! ### Clamping -/

section Clamp

variable [LinearOrder α]

/-- A value between two bounds. -/
def clamp (value minimum maximum : α) : α :=
  if value < minimum then minimum else if value > maximum then maximum else value

theorem clamp_eq_max_min {lo hi : α} (h : lo ≤ hi) (x : α) : clamp x lo hi = max lo (min x hi) := by
  unfold clamp
  rcases lt_or_ge x lo with hlo | hlo
  · rw [if_pos hlo, min_eq_left (hlo.le.trans h), max_eq_left hlo.le]
  · rw [if_neg (not_lt.2 hlo)]
    rcases lt_or_ge hi x with hhi | hhi
    · rw [if_pos hhi, min_eq_right hhi.le, max_eq_right h]
    · rw [if_neg (not_lt.2 hhi), min_eq_left hhi, max_eq_right hlo]

theorem monotone_clamp {lo hi : α} (h : lo ≤ hi) : Monotone fun x => clamp x lo hi := by
  intro x y hxy
  simp only [clamp_eq_max_min h]
  exact max_le_max le_rfl (min_le_min_right hi hxy)

theorem le_clamp {lo hi : α} (h : lo ≤ hi) (x : α) : lo ≤ clamp x lo hi := by
  rw [clamp_eq_max_min h]
  exact le_max_left _ _

theorem clamp_le {lo hi : α} (h : lo ≤ hi) (x : α) : clamp x lo hi ≤ hi := by
  rw [clamp_eq_max_min h]
  exact max_le h (min_le_right _ _)

theorem clamp_of_mem {lo hi x : α} (hlo : lo ≤ x) (hhi : x ≤ hi) : clamp x lo hi = x := by
  rw [clamp, if_neg (not_lt.2 hlo), if_neg (not_lt.2 hhi)]

theorem clamp_of_le {lo hi x : α} (h : lo ≤ hi) (hx : x ≤ lo) : clamp x lo hi = lo := by
  rw [clamp_eq_max_min h, min_eq_left (hx.trans h), max_eq_left hx]

end Clamp

variable [Field α] [LinearOrder α] [IsStrictOrderedRing α]

/-! ### The dead zone -/

/-- The dead zone of half-width `d` around the centre, and the rest stretched over the full range. -/
def deadZone (d x : α) : α :=
  if |x| < d then 0 else (if x > 0 then 1 else -1) * ((|x| - d) / (1 - d))

/-- Both sides of the dead zone at once. -/
theorem deadZone_eq {d : α} (hd : 0 ≤ d) (x : α) :
    deadZone d x = (max 0 (x - d) - max 0 (-x - d)) / (1 - d) := by
  unfold deadZone
  rcases lt_or_ge |x| d with hin | hout
  · obtain ⟨hneg, hpos⟩ := abs_lt.1 hin
    rw [if_pos hin, max_eq_left (by linarith), max_eq_left (by linarith), sub_zero, zero_div]
  · rw [if_neg (not_lt.2 hout)]
    rcases lt_or_ge 0 x with hx | hx
    · rw [abs_of_pos hx] at hout ⊢
      rw [if_pos hx, max_eq_right (by linarith), max_eq_left (by linarith)]
      ring
    · rw [abs_of_nonpos hx] at hout ⊢
      rw [if_neg (not_lt.2 hx), max_eq_left (by linarith), max_eq_right (by linarith)]
      ring

theorem monotone_deadZone {d : α} (hd : 0 ≤ d) (hd1 : d < 1) : Monotone (deadZone d) := by
  intro x y hxy
  rw [deadZone_eq hd, deadZone_eq hd]
  have hwidth : 0 < 1 - d := sub_pos.2 hd1
  have hup : max 0 (x - d) ≤ max 0 (y - d) := max_le_max le_rfl (sub_le_sub_right hxy d)
  have hdown : max 0 (-y - d) ≤ max 0 (-x - d) :=
    max_le_max le_rfl (sub_le_sub_right (neg_le_neg hxy) d)
  exact (div_le_div_iff_of_pos_right hwidth).2 (sub_le_sub hup hdown)

omit [IsStrictOrderedRing α] in
theorem deadZone_of_abs_lt {d x : α} (h : |x| < d) : deadZone d x = 0 := if_pos h

@[simp] theorem deadZone_zero {d : α} (hd : 0 ≤ d) : deadZone d 0 = 0 := by
  rw [deadZone_eq hd]
  simp

/-! ### The cubic -/

/-- A mixture of the line and the cubic through the corners. -/
def expoCurve (e x : α) : α := e * x * x * x + (1 - e) * x

theorem monotone_expoCurve {e : α} (he : 0 ≤ e) (he1 : e ≤ 1) : Monotone (expoCurve e) := by
  intro x y hxy
  have hcube : x ^ 3 ≤ y ^ 3 := (Odd.strictMono_pow (by decide : Odd 3)).monotone hxy
  have hcubic : e * x ^ 3 ≤ e * y ^ 3 := mul_le_mul_of_nonneg_left hcube he
  have hline : (1 - e) * x ≤ (1 - e) * y := mul_le_mul_of_nonneg_left hxy (sub_nonneg.2 he1)
  calc expoCurve e x = e * x ^ 3 + (1 - e) * x := by rw [expoCurve]; ring
    _ ≤ e * y ^ 3 + (1 - e) * y := add_le_add hcubic hline
    _ = expoCurve e y := by rw [expoCurve]; ring

omit [IsStrictOrderedRing α] [LinearOrder α] in
@[simp] theorem expoCurve_zero (e : α) : expoCurve e 0 = 0 := by simp [expoCurve]

end ResponseCurve
