import Mathlib.Tactic

/-!
# Gaps in a sequence of numbers

A sender numbers its messages, and the receiver gets some of them in order. `missing` is how many
were skipped on the way, `counted` what a receiver counts that sees the numbers modulo `N` only.

`missing_eq_counted_add`: the count is short by a multiple of `N`; `counted_eq_missing`: it is exact
when no gap reaches `N`; `missing_eq_card`: what `missing` counts.
-/

namespace SequenceGaps

/-- The numbers skipped after `last` on the way through `numbers`. -/
def missing (last : ℕ) : List ℕ → ℕ
  | [] => 0
  | number :: numbers => (number - last - 1) + missing number numbers

/-- What a receiver counts that sees every gap modulo `N`. -/
def counted (N last : ℕ) : List ℕ → ℕ
  | [] => 0
  | number :: numbers => (number - last - 1) % N + counted N number numbers

variable {N last : ℕ} {numbers : List ℕ}

/-- The count is short by a multiple of `N`. -/
theorem missing_eq_counted_add (N last : ℕ) (numbers : List ℕ) :
    ∃ k, missing last numbers = counted N last numbers + N * k := by
  induction numbers generalizing last with
  | nil => exact ⟨0, rfl⟩
  | cons number numbers ih =>
    obtain ⟨k, hk⟩ := ih number
    refine ⟨(number - last - 1) / N + k, ?_⟩
    have hdiv := Nat.mod_add_div (number - last - 1) N
    rw [missing, counted, hk, Nat.mul_add]
    omega

/-- The count is exact when every gap is below `N`. -/
theorem counted_eq_missing (h : List.IsChain (fun a b => b - a - 1 < N) (last :: numbers)) :
    counted N last numbers = missing last numbers := by
  induction numbers generalizing last with
  | nil => rfl
  | cons number numbers ih =>
    obtain ⟨hgap, htail⟩ := List.isChain_cons_cons.1 h
    rw [counted, missing, ih htail, Nat.mod_eq_of_lt hgap]

/-- `missing` counts the numbers between the first and the last one that are not in the list. -/
theorem missing_eq_card (h : (last :: numbers).Pairwise (· < ·)) :
    missing last numbers =
      ((Finset.Ico last (numbers.getLastD last)).filter (· ∉ last :: numbers)).card := by
  induction numbers generalizing last with
  | nil => simp [missing]
  | cons number numbers ih =>
    obtain ⟨hlast, htail⟩ := List.pairwise_cons.1 h
    have hnumber := (List.pairwise_cons.1 htail).1
    have hlt : last < number := hlast number List.mem_cons_self
    have hle : number ≤ numbers.getLastD number := by
      cases numbers with
      | nil => exact le_rfl
      | cons second numbers =>
        apply (hnumber _ _).le
        rw [List.getLastD_cons]
        exact List.getLastD_mem_cons
    -- Up to `number` everything but `last` is missing; from there on `last` is too small to matter.
    have hfirst : (Finset.Ico last number).filter (· ∉ last :: number :: numbers) =
        Finset.Ico (last + 1) number := by
      ext n
      simp only [Finset.mem_filter, Finset.mem_Ico, List.mem_cons, not_or]
      constructor
      · rintro ⟨⟨hlo, hhi⟩, hne, -, -⟩
        omega
      · rintro ⟨hlo, hhi⟩
        refine ⟨⟨by omega, hhi⟩, by omega, by omega, ?_⟩
        intro hmem
        have := hnumber n hmem
        omega
    have hrest : (Finset.Ico number (numbers.getLastD number)).filter
          (· ∉ last :: number :: numbers) =
        (Finset.Ico number (numbers.getLastD number)).filter (· ∉ number :: numbers) := by
      apply Finset.filter_congr
      intro n hn
      have hge := (Finset.mem_Ico.1 hn).1
      rw [List.mem_cons, not_or]
      exact and_iff_right (by omega)
    have hunion := Finset.Ico_union_Ico_eq_Ico hlt.le hle
    have hdisjoint := Finset.Ico_disjoint_Ico_consecutive last number (numbers.getLastD number)
    rw [missing, ih htail, List.getLastD_cons, ← hunion, Finset.filter_union,
      Finset.card_union_of_disjoint (Finset.disjoint_filter_filter hdisjoint), hfirst, hrest,
      Nat.card_Ico]
    omega

end SequenceGaps
