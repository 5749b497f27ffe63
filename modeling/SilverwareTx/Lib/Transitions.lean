import Mathlib.Tactic

/-!
# Transition systems with partial steps

A system is a function `step : σ → α → Option σ`, `none` where the action is not enabled; a run is a
list of actions.

* `exec`: the state that a run reaches, with `exec_invariant` the induction over a run;
* `Along`: every step of a run meets a condition on the state before it, with
  `exec_invariant_along` the induction over such a run.
-/

namespace Transitions

variable {σ α : Type*} {step : σ → α → Option σ} {s s' s'' : σ} {a : α} {as : List α}

/-- The state after the actions `as` from `s`, if each was enabled. -/
def exec (step : σ → α → Option σ) (s : σ) (as : List α) : Option σ := as.foldlM step s

@[simp] theorem exec_nil : exec step s [] = some s := rfl

theorem exec_cons : exec step s (a :: as) = (step s a).bind (exec step · as) := rfl

theorem exec_cons_eq_some_iff :
    exec step s (a :: as) = some s'' ↔ ∃ s', step s a = some s' ∧ exec step s' as = some s'' := by
  rw [exec_cons, Option.bind_eq_some_iff]

/-- A property that every step preserves holds along a run. -/
theorem exec_invariant {P : σ → Prop} (hstep : ∀ s a s', P s → step s a = some s' → P s')
    (h0 : P s) (hrun : exec step s as = some s') : P s' := by
  induction as generalizing s with
  | nil =>
    obtain rfl := Option.some.inj hrun
    exact h0
  | cons a as ih =>
    obtain ⟨t, ht, hrun⟩ := exec_cons_eq_some_iff.1 hrun
    exact ih (hstep s a t h0 ht) hrun

/-- Every step of the run on `as` from `s` meets `C` in the state before it. -/
def Along (step : σ → α → Option σ) (C : σ → α → Prop) : σ → List α → Prop
  | _, [] => True
  | s, a :: as => C s a ∧ ∀ s', step s a = some s' → Along step C s' as

theorem Along.imp {C D : σ → α → Prop} (hC : Along step C s as)
    (himp : ∀ s, ∀ a ∈ as, C s a → D s a) : Along step D s as := by
  induction as generalizing s with
  | nil => trivial
  | cons a as ih =>
    refine ⟨himp s a List.mem_cons_self hC.1, fun t ht => ih (hC.2 t ht) fun s b hb => ?_⟩
    exact himp s b (List.mem_cons_of_mem _ hb)

/-- A property that every step under `C` preserves holds along a run under `C`. -/
theorem exec_invariant_along {P : σ → Prop} {C : σ → α → Prop}
    (hstep : ∀ s a s', P s → C s a → step s a = some s' → P s') (h0 : P s)
    (hC : Along step C s as) (hrun : exec step s as = some s') : P s' := by
  induction as generalizing s with
  | nil =>
    obtain rfl := Option.some.inj hrun
    exact h0
  | cons a as ih =>
    obtain ⟨t, ht, hrun⟩ := exec_cons_eq_some_iff.1 hrun
    exact ih (hstep s a t h0 hC.1 ht) (hC.2 t ht) hrun

end Transitions
