import Mathlib.Tactic

/-!
# The last write to a part of a state

A machine acts on its state with a list of actions, and `writes s a` says which actions may change
some part of the state. The others leave it, so what the part holds goes back to the last write.

* `Quiet`: no action of a list writes;
* `read_after_quiet`: the part is framed over a quiet list;
* `quiet_or_last`: every list is quiet or has a last write.
-/

namespace LastWrite

variable {σ α β : Type*}

/-- The state after a list of actions. -/
def after (act : σ → α → σ) (s : σ) (actions : List α) : σ := actions.foldl act s

/-- No action of the list writes. -/
def Quiet (act : σ → α → σ) (writes : σ → α → Prop) : σ → List α → Prop
  | _, [] => True
  | s, a :: actions => ¬ writes s a ∧ Quiet act writes (act s a) actions

variable {act : σ → α → σ} {writes : σ → α → Prop} {s : σ} {a : α} {actions actions' : List α}

@[simp] theorem after_nil : after act s [] = s := rfl

@[simp] theorem after_cons : after act s (a :: actions) = after act (act s a) actions := rfl

theorem after_append : after act s (actions ++ actions') = after act (after act s actions) actions' :=
  List.foldl_append

/-- What no action writes is the same at the end. -/
theorem read_after_quiet {read : σ → β} (hframe : ∀ s a, ¬ writes s a → read (act s a) = read s)
    (h : Quiet act writes s actions) : read (after act s actions) = read s := by
  induction actions generalizing s with
  | nil => rfl
  | cons a actions ih =>
    obtain ⟨ha, hrest⟩ := h
    rw [after_cons, ih hrest, hframe s a ha]

/-- A list without a write, or a last write. -/
theorem quiet_or_last (act : σ → α → σ) (writes : σ → α → Prop) (s : σ) (actions : List α) :
    Quiet act writes s actions ∨
      ∃ before a since, actions = before ++ a :: since ∧ writes (after act s before) a ∧
        Quiet act writes (act (after act s before) a) since := by
  induction actions generalizing s with
  | nil => exact .inl trivial
  | cons a actions ih =>
    rcases ih (act s a) with hquiet | ⟨before, b, since, rfl, hwrites, hsince⟩
    · by_cases ha : writes s a
      · exact .inr ⟨[], a, actions, rfl, ha, hquiet⟩
      · exact .inl ⟨ha, hquiet⟩
    · exact .inr ⟨a :: before, b, since, rfl, hwrites, hsince⟩

end LastWrite
