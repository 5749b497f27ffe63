import Mathlib.Tactic

/-!
# Runs of a machine driven by a stream of inputs

A machine is a function `step : σ → ι → σ`; a run reads one input for each step, so every finite
run is an initial part of the run on some stream `ℕ → ι`.

* `run`, `run_invariant`, `run_absorbing`: the induction over a run, once;
* `exists_last_entry`: a property that holds at `n` and failed at `m` was entered at a last step
  between them and has held since;
* `countSince`: the number of marked steps since the last reset.
-/

namespace InputRun

variable {σ ι : Type*}

/-- The state before step `n` of the run from `s₀` on the stream `ins`. -/
def run (step : σ → ι → σ) (s₀ : σ) (ins : ℕ → ι) : ℕ → σ
  | 0 => s₀
  | n + 1 => step (run step s₀ ins n) (ins n)

section Run

variable {step : σ → ι → σ} {s₀ : σ} {ins : ℕ → ι}

@[simp] theorem run_zero : run step s₀ ins 0 = s₀ := rfl

/-- A property of the start that every step preserves holds in every state of a run. -/
theorem run_invariant {P : σ → Prop} (h0 : P s₀) (hs : ∀ s i, P s → P (step s i)) (n : ℕ) :
    P (run step s₀ ins n) := by
  induction n with
  | zero => exact h0
  | succ n ih => exact hs _ _ ih

/-- A property that every step preserves is never left. -/
theorem run_absorbing {P : σ → Prop} (hs : ∀ s i, P s → P (step s i)) {m n : ℕ} (hmn : m ≤ n)
    (hm : P (run step s₀ ins m)) : P (run step s₀ ins n) := by
  induction n, hmn using Nat.le_induction with
  | base => exact hm
  | succ n _ ih => exact hs _ _ ih

end Run

/-! ### The last entry into a property -/

/-- A property that fails at `m` and holds at `n` has a last step at which it failed. -/
theorem exists_last_entry {P : ℕ → Prop} {m n : ℕ} (hmn : m ≤ n) (hm : ¬ P m) (hn : P n) :
    ∃ k, m ≤ k ∧ k < n ∧ ¬ P k ∧ ∀ j, k < j → j ≤ n → P j := by
  induction n, hmn using Nat.le_induction with
  | base => exact absurd hn hm
  | succ n hle ih =>
    by_cases hP : P n
    · obtain ⟨k, hmk, hkn, hk, hafter⟩ := ih hP
      refine ⟨k, hmk, by omega, hk, fun j hkj hjn => ?_⟩
      rcases Nat.lt_or_eq_of_le hjn with h | rfl
      · exact hafter j hkj (by omega)
      · exact hn
    · refine ⟨n, hle, by omega, hP, fun j hnj hjn => ?_⟩
      obtain rfl : j = n + 1 := by omega
      exact hn

/-! ### Counting since the last reset -/

/-- The number of marked steps before `n` that come after the last reset before `n`. -/
def countSince (reset mark : ℕ → Bool) : ℕ → ℕ
  | 0 => 0
  | n + 1 => if reset n then 0 else countSince reset mark n + (if mark n then 1 else 0)

@[simp] theorem countSince_zero (reset mark : ℕ → Bool) : countSince reset mark 0 = 0 := rfl

theorem countSince_of_reset {reset mark : ℕ → Bool} {n : ℕ} (h : reset n = true) :
    countSince reset mark (n + 1) = 0 := by
  simp [countSince, h]

theorem countSince_of_mark {reset mark : ℕ → Bool} {n : ℕ} (h : reset n = false)
    (hm : mark n = true) : countSince reset mark (n + 1) = countSince reset mark n + 1 := by
  simp [countSince, h, hm]

theorem countSince_of_not_mark {reset mark : ℕ → Bool} {n : ℕ} (h : reset n = false)
    (hm : mark n = false) : countSince reset mark (n + 1) = countSince reset mark n := by
  simp [countSince, h, hm]

end InputRun
