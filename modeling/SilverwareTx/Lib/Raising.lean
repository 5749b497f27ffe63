import Mathlib.Tactic

/-!
# Programs that raise

A program of `Raising ε σ` changes a state and may raise, which leaves the state as it is then.
`Returns m s a s'`: run in `s`, it returns `a` and leaves `s'`. One rule for each construct takes
such a run apart, so that a function that has returned is described by what its parts did.
`Succeeds` says that it does return, where the state has a property that its parts keep.
-/

/-- Programs on a state `σ` that raise exceptions `ε`. -/
abbrev Raising (ε σ : Type) := ExceptT ε (StateM σ)

namespace Raising

variable {ε σ α β : Type} {s s' s'' : σ}

/-- A computation returns `a` and leaves the state `s'`. -/
def Returns (m : Raising ε σ α) (s : σ) (a : α) (s' : σ) : Prop := m.run s = (.ok a, s')

theorem returns_bind {m : Raising ε σ α} {f : α → Raising ε σ β} {b : β} :
    Returns (m >>= f) s b s'' ↔ ∃ a s', Returns m s a s' ∧ Returns (f a) s' b s'' := by
  have hrun : (m >>= f).run s = ExceptT.bindCont f (m.run s).1 (m.run s).2 := rfl
  unfold Returns
  rw [hrun]
  rcases m.run s with ⟨_ | a, s'⟩
  · refine iff_of_false nofun ?_
    rintro ⟨a, t, hfirst, -⟩
    cases hfirst
  · constructor
    · exact fun h => ⟨a, s', rfl, h⟩
    · rintro ⟨a, t, hfirst, h⟩
      cases hfirst
      exact h

theorem returns_pure {a b : α} : Returns (pure a : Raising ε σ α) s b s' ↔ b = a ∧ s' = s := by
  constructor
  · intro h
    cases h
    exact ⟨rfl, rfl⟩
  · rintro ⟨rfl, rfl⟩
    rfl

theorem returns_modify {f : σ → σ} {a : PUnit} :
    Returns (modify f : Raising ε σ PUnit) s a s' ↔ s' = f s := by
  constructor
  · intro h
    cases h
    rfl
  · rintro rfl
    rfl

theorem returns_get_bind {f : σ → Raising ε σ β} {b : β} :
    Returns (get >>= f) s b s' ↔ Returns (f s) s b s' := Iff.rfl

theorem returns_modify_bind {g : σ → σ} {f : PUnit → Raising ε σ β} {b : β} :
    Returns (modify g >>= f) s b s' ↔ Returns (f ⟨⟩) (g s) b s' := Iff.rfl

theorem not_returns_throw {e : ε} {a : α} : ¬Returns (throw e : Raising ε σ α) s a s' := nofun

/-! ### Programs that return -/

variable {P : σ → Prop} {m : Raising ε σ α} {f : α → Raising ε σ β}

/-- From `P` the program returns, with `P` again. -/
def Succeeds (P : σ → Prop) (m : Raising ε σ α) : Prop :=
  ∀ s, P s → ∃ a s', Returns m s a s' ∧ P s'

theorem succeeds_bind (hm : Succeeds P m) (hf : ∀ a, Succeeds P (f a)) : Succeeds P (m >>= f) := by
  intro s hs
  obtain ⟨a, s', hfirst, hs'⟩ := hm s hs
  obtain ⟨b, s'', hrest, hs''⟩ := hf a s' hs'
  exact ⟨b, s'', returns_bind.2 ⟨a, s', hfirst, hrest⟩, hs''⟩

theorem succeeds_pure (a : α) : Succeeds P (pure a : Raising ε σ α) :=
  fun s hs => ⟨a, s, returns_pure.2 ⟨rfl, rfl⟩, hs⟩

theorem succeeds_modify {g : σ → σ} (h : ∀ s, P s → P (g s)) :
    Succeeds P (modify g : Raising ε σ PUnit) :=
  fun s hs => ⟨⟨⟩, g s, returns_modify.2 rfl, h s hs⟩

theorem succeeds_get_bind {f : σ → Raising ε σ β} (h : ∀ s, Succeeds P (f s)) :
    Succeeds P (get >>= f) :=
  fun s hs => h s s hs

end Raising
