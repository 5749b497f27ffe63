import Mathlib.Tactic

/-!
# Edges of a sampled signal

`edges b samples` are the new values at the samples where the signal leaves the value before, `b` at
the start. Edges alternate (`getElem?_edges`), and there are none exactly while the signal keeps its
value (`edges_eq_nil_iff`).
-/

namespace Edges

/-- The new values of the signal at its changes, with the value `b` before the first sample. -/
def edges : Bool → List Bool → List Bool
  | _, [] => []
  | b, x :: samples => if x = b then edges b samples else x :: edges x samples

variable {b x : Bool} {samples : List Bool}

@[simp] theorem edges_nil : edges b [] = [] := rfl

theorem edges_cons_self : edges b (b :: samples) = edges b samples := if_pos rfl

theorem edges_cons_of_ne (h : x ≠ b) : edges b (x :: samples) = x :: edges x samples := if_neg h

/-- **Edges alternate**: the even ones leave the value at the start, the odd ones come back to it. -/
theorem getElem?_edges {i : ℕ} {v : Bool} (h : (edges b samples)[i]? = some v) :
    v = (b ^^ decide (i % 2 = 0)) := by
  induction samples generalizing b i with
  | nil => simp at h
  | cons x samples ih =>
    by_cases hx : x = b
    · subst hx
      rw [edges_cons_self] at h
      exact ih h
    · rw [edges_cons_of_ne hx] at h
      have hnot : x = !b := Bool.eq_not_of_ne hx
      cases i with
      | zero =>
        rw [List.getElem?_cons_zero, Option.some.injEq] at h
        rw [← h, hnot]
        simp
      | succ i =>
        rw [List.getElem?_cons_succ] at h
        rw [ih h, hnot]
        rcases Nat.mod_two_eq_zero_or_one i with hi | hi <;>
          simp [Nat.add_mod, hi]

theorem edges_eq_nil_iff : edges b samples = [] ↔ (!b) ∉ samples := by
  induction samples with
  | nil => simp
  | cons x samples ih =>
    by_cases hx : x = b
    · subst hx
      rw [edges_cons_self, ih, List.mem_cons, not_or]
      exact (and_iff_right (Bool.not_ne_self x)).symm
    · rw [edges_cons_of_ne hx, Bool.eq_not_of_ne hx]
      simp

end Edges
