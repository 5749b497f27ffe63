import Mathlib.Tactic

/-!
# The integer walk of Bresenham's line

`a` and `b` are the distances on the two axes. A state counts the steps `i` and `j` made on each axis
and carries the error term; `advance` makes the steps that the error term asks for.

* `walk_long`: on the longer axis every turn makes a step, and the error term stays between bounds
  that leave the other axis no choice at the end;
* `walk_end`: after as many turns as the longer distance the walk has made `a` and `b` steps;
* `advance_swap`: the two axes have the same rule, with the error term negated.
-/

namespace LineWalk

/-- The steps taken along either axis, and the error. -/
structure Walk where
  i : ℤ
  j : ℤ
  err : ℤ

@[ext] theorem Walk.ext {v w : Walk} (hi : v.i = w.i) (hj : v.j = w.j) (herr : v.err = w.err) :
    v = w := by
  cases v
  cases w
  simp_all

/-- One turn: a step on the first axis if `2 * err ≥ -b`, one on the second if `2 * err ≤ a`. -/
def advance (a b : ℤ) (w : Walk) : Walk where
  i := if 2 * w.err ≥ -b then w.i + 1 else w.i
  j := if 2 * w.err ≤ a then w.j + 1 else w.j
  err := w.err + (if 2 * w.err ≥ -b then -b else 0) + (if 2 * w.err ≤ a then a else 0)

/-- The state after `k` turns. -/
def walk (a b : ℤ) : ℕ → Walk
  | 0 => ⟨0, 0, a - b⟩
  | k + 1 => advance a b (walk a b k)

/-- The walk with the axes exchanged. -/
def Walk.swap (w : Walk) : Walk := ⟨w.j, w.i, -w.err⟩

variable {a b : ℤ}

theorem advance_swap (w : Walk) : advance b a w.swap = (advance a b w).swap := by
  have hfirst : 2 * -w.err ≥ -a ↔ 2 * w.err ≤ a := by omega
  have hsecond : 2 * -w.err ≤ b ↔ 2 * w.err ≥ -b := by omega
  apply Walk.ext
  · simp only [advance, Walk.swap, hfirst]
  · simp only [advance, Walk.swap, hsecond]
  · simp only [advance, Walk.swap, hfirst, hsecond]
    split_ifs <;> omega

theorem walk_swap (k : ℕ) : walk b a k = (walk a b k).swap := by
  induction k with
  | zero => simp [walk, Walk.swap]
  | succ k ih => rw [walk, ih, advance_swap, walk]

/-- **On the longer axis every turn makes a step**; the error term keeps its bounds. -/
theorem walk_long (hb : 0 ≤ b) (hab : b ≤ a) (k : ℕ) :
    (walk a b k).i = k ∧ 0 ≤ (walk a b k).j ∧
      (walk a b k).err = ((walk a b k).j + 1) * a - (k + 1) * b ∧
      -b ≤ 2 * (walk a b k).err ∧ 2 * (walk a b k).err ≤ 3 * a - 2 * b := by
  induction k with
  | zero =>
    refine ⟨rfl, le_rfl, ?_, ?_, ?_⟩
    · simp only [walk, Nat.cast_zero]
      ring
    · simp only [walk]
      omega
    · simp only [walk]
      omega
  | succ k ih =>
    obtain ⟨hi, hj, herr, hlo, hhi⟩ := ih
    have hstep : 2 * (walk a b k).err ≥ -b := hlo
    simp only [walk, advance, if_pos hstep]
    by_cases hother : 2 * (walk a b k).err ≤ a
    · simp only [if_pos hother, hi]
      refine ⟨by push_cast; rfl, by omega, ?_, by omega, by omega⟩
      rw [herr]
      push_cast
      ring
    · simp only [if_neg hother, hi]
      refine ⟨by push_cast; rfl, hj, ?_, by omega, by omega⟩
      rw [herr]
      push_cast
      ring

/-- After `a` turns of a walk with `a` the longer distance, the other axis has made `b` steps. -/
theorem walk_long_end {a : ℕ} (hb : 0 ≤ b) (hab : b ≤ a) : (walk a b a).j = b := by
  obtain ⟨-, hj, herr, hlo, hhi⟩ := walk_long hb hab a
  rcases Nat.eq_zero_or_pos a with rfl | hpos
  · have hzero : b = 0 := by
      push_cast at hab
      omega
    subst hzero
    rfl
  · have hpos' : (1 : ℤ) ≤ a := by exact_mod_cast hpos
    rcases lt_trichotomy (walk a b a).j b with hlt | heq | hgt
    · nlinarith
    · exact heq
    · nlinarith

variable {a b : ℕ}

/-- **The walk ends at the two distances.** -/
theorem walk_end (a b : ℕ) : (walk a b (max a b)).i = a ∧ (walk a b (max a b)).j = b := by
  rcases le_total b a with h | h
  · have hba : (b : ℤ) ≤ a := by exact_mod_cast h
    rw [max_eq_left h]
    exact ⟨(walk_long (Int.natCast_nonneg b) hba a).1,
      walk_long_end (Int.natCast_nonneg b) hba⟩
  · have hab : (a : ℤ) ≤ b := by exact_mod_cast h
    rw [max_eq_right h, walk_swap]
    exact ⟨walk_long_end (Int.natCast_nonneg a) hab,
      (walk_long (Int.natCast_nonneg a) hab b).1⟩

/-- The steps on the longer axis count the turns. -/
theorem walk_i (h : b ≤ a) (k : ℕ) : (walk a b k).i = k :=
  (walk_long (Int.natCast_nonneg b) (by exact_mod_cast h) k).1

theorem walk_j (h : a ≤ b) (k : ℕ) : (walk a b k).j = k := by
  rw [walk_swap]
  exact (walk_long (Int.natCast_nonneg a) (by exact_mod_cast h) k).1

/-- A turn makes at most one step on each axis. -/
theorem advance_bounds (a b : ℤ) (w : Walk) :
    0 ≤ (advance a b w).i - w.i ∧ (advance a b w).i - w.i ≤ 1 ∧
      0 ≤ (advance a b w).j - w.j ∧ (advance a b w).j - w.j ≤ 1 := by
  unfold advance
  dsimp only
  split_ifs <;> omega

end LineWalk
