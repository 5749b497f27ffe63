import Mathlib.Tactic

/-!
# Sample and hold

A signal is read at the times `time 0 ≤ time 1 ≤ …`, and between two samples the receiver keeps the
last one (`Held`). When consecutive samples lie at most `gap` apart, the receiver sees a threshold
of the sampled time crossed less than `gap` late: `exists_crossing`.
-/

namespace Sampling

/-- At `t` the last sample is sample `i`. -/
def Held (time : ℕ → ℤ) (t : ℤ) (i : ℕ) : Prop := time i ≤ t ∧ t < time (i + 1)

/-- Throughout `[start, stop)` the receiver holds a sample, and one with the property. -/
def Shows {α : Type*} (time : ℕ → ℤ) (sample : ℕ → α) (P : α → Prop) (start stop : ℤ) : Prop :=
  ∀ t, start ≤ t → t < stop → (∃ i, Held time t i) ∧ ∀ i, Held time t i → P (sample i)

/-- From `a` on, and not before, the receiver holds samples from after the threshold. -/
def Crossing (time : ℕ → ℤ) (threshold a : ℤ) : Prop :=
  ∀ t i, Held time t i → (a ≤ t ↔ threshold ≤ time i)

variable {time : ℕ → ℤ} {gap threshold t : ℤ}

/-- From the first sample to the last one there is a held sample. -/
theorem exists_held {N : ℕ} (hfirst : time 0 ≤ t) (hlast : t < time N) : ∃ i, Held time t i := by
  induction N with
  | zero => omega
  | succ N ih =>
    by_cases h : t < time N
    · exact ih h
    · exact ⟨N, not_lt.1 h, hlast⟩

/-- A first sample reaches the threshold. -/
theorem exists_first {N : ℕ} (hlast : threshold ≤ time N) :
    ∃ j, threshold ≤ time j ∧ ∀ i < j, time i < threshold := by
  classical
  have hex : ∃ j, threshold ≤ time j := ⟨N, hlast⟩
  refine ⟨Nat.find hex, Nat.find_spec hex, ?_⟩
  intro i hi
  exact not_le.1 (Nat.find_min hex hi)

/-- **The crossing of a threshold is seen less than a gap late.** -/
theorem exists_crossing (hmono : Monotone time) (hgap : ∀ i, time (i + 1) - time i ≤ gap)
    (hfirst : time 0 < threshold) {N : ℕ} (hlast : threshold ≤ time N) :
    ∃ a, threshold ≤ a ∧ a < threshold + gap ∧ a ≤ time N ∧ Crossing time threshold a := by
  obtain ⟨j, hj, hbefore⟩ := exists_first hlast
  refine ⟨time j, hj, ?_, ?_, ?_⟩
  · cases j with
    | zero => omega
    | succ j =>
      have := hbefore j (Nat.lt_succ_self j)
      have := hgap j
      omega
  · have hjN : j ≤ N := by
      by_contra h
      have := hbefore N (not_le.1 h)
      omega
    exact hmono hjN
  · rintro t i ⟨hle, hlt⟩
    constructor
    · intro ht
      have hji : j ≤ i := by
        by_contra h
        have := hmono (show i + 1 ≤ j by omega)
        omega
      exact hj.trans (hmono hji)
    · intro hi
      have hji : j ≤ i := by
        by_contra h
        have := hbefore i (not_le.1 h)
        omega
      exact (hmono hji).trans hle

theorem crossing_first (hmono : Monotone time) : Crossing time (time 0) (time 0) := by
  rintro t i ⟨hle, -⟩
  have hzero := hmono (Nat.zero_le i)
  exact iff_of_true (hzero.trans hle) hzero

/-- What the samples between two thresholds have is shown between their crossings. -/
theorem Crossing.shows {α : Type*} {sample : ℕ → α} {P : α → Prop} {lo hi a b : ℤ} {N : ℕ}
    (ha : Crossing time lo a) (hb : Crossing time hi b) (hfirst : time 0 ≤ a)
    (hlast : b ≤ time N) (hP : ∀ i, lo ≤ time i → time i < hi → P (sample i)) :
    Shows time sample P a b := by
  intro t hat htb
  constructor
  · exact exists_held (hfirst.trans hat) (htb.trans_le hlast)
  · intro i hheld
    apply hP i
    · exact (ha t i hheld).1 hat
    · rw [← not_le, ← hb t i hheld]
      exact not_le.2 htb

end Sampling
