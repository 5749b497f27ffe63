import Mathlib.Tactic

/-!
# Deleting until enough is free

`pruneUntil` deletes items one after another, passes over those that it cannot delete, and stops
behind the first deletion that brings the usage down to a target. An item may raise instead, which
ends the loop with what is deleted by then. `pruneUntil_spec`: without a raise it deletes the first
items that can be deleted, as many as it takes (`StopsAt`). `pruneUntil_raise`: an item that raises
does no harm where the items before it were enough.
-/

namespace PruneUntil

variable {σ α ε : Type*}

/-- How a loop ends. -/
structure Pruned (ε σ α : Type*) where
  /-- The items deleted. -/
  gone : List α
  /-- The state behind them. -/
  state : σ
  /-- The exception that ended the loop, if any. -/
  raised : Option ε

/-- The loop; `delete` gives `none` where it passes over an item. -/
def pruneUntil (delete : σ → α → Except ε (Option σ)) (done : σ → Bool) : σ → List α → Pruned ε σ α
  | s, [] => ⟨[], s, none⟩
  | s, a :: as =>
    match delete s a with
    | .error e => ⟨[], s, some e⟩
    | .ok none => pruneUntil delete done s as
    | .ok (some s) =>
      if done s then ⟨[a], s, none⟩
      else
        let rest := pruneUntil delete done s as
        { rest with gone := a :: rest.gone }

/-- What the deletions keep holds behind the loop, also where it raises. `I s items` is the loop's
invariant. -/
theorem pruneUntil_invariant {delete : σ → α → Except ε (Option σ)} {I : σ → List α → Prop}
    {P : σ → Prop} (hP : ∀ s items, I s items → P s)
    (hskip : ∀ s a as, I s (a :: as) → delete s a = .ok none → I s as)
    (hdelete : ∀ s a as, I s (a :: as) → ∀ s', delete s a = .ok (some s') → I s' as)
    (done : σ → Bool) {s : σ} {items : List α} (h : I s items) :
    P (pruneUntil delete done s items).state := by
  induction items generalizing s with
  | nil => exact hP s [] h
  | cons a items ih =>
    rcases hs : delete s a with e | _ | s'
    · simp only [pruneUntil, hs]
      exact hP s (a :: items) h
    · simp only [pruneUntil, hs]
      exact ih (hskip s a items h hs)
    · have hnext := hdelete s a items h s' hs
      by_cases hdone : done s' = true
      · simp only [pruneUntil, hs, hdone, if_true]
        exact hP s' items hnext
      · simp only [pruneUntil, hs, hdone, Bool.false_eq_true, if_false]
        exact ih hnext

/-- Without a deletion the state stays. -/
theorem pruneUntil_state_of_gone {delete : σ → α → Except ε (Option σ)} {done : σ → Bool} {s : σ}
    {items : List α} (h : (pruneUntil delete done s items).gone = []) :
    (pruneUntil delete done s items).state = s := by
  induction items generalizing s with
  | nil => rfl
  | cons a items ih =>
    rcases hs : delete s a with e | _ | s'
    · simp only [pruneUntil, hs]
    · simp only [pruneUntil, hs] at h ⊢
      exact ih h
    · by_cases hdone : done s' = true
      · simp [pruneUntil, hs, hdone] at h
      · simp [pruneUntil, hs, hdone] at h

/-- **An item that raises** ends the loop, unless the deletions before it were enough. -/
theorem pruneUntil_raise {delete : σ → α → Except ε (Option σ)} {done : σ → Bool} {s : σ} {a : α}
    {e : ε} {items : List α} (hraise : ∀ s, delete s a = .error e)
    (h : (pruneUntil delete done s items).raised = none) (after : List α) :
    pruneUntil delete done s (items ++ a :: after) =
      { pruneUntil delete done s items with
        raised :=
          if (pruneUntil delete done s items).gone ≠ [] ∧
              done (pruneUntil delete done s items).state = true then none
          else some e } := by
  induction items generalizing s with
  | nil => simp [pruneUntil, hraise]
  | cons b items ih =>
    rcases hs : delete s b with e' | _ | s'
    · simp [pruneUntil, hs] at h
    · simp only [pruneUntil, hs] at h
      simp only [List.cons_append, pruneUntil, hs]
      exact ih h
    · by_cases hdone : done s' = true
      · simp [pruneUntil, hs, hdone]
      · simp only [pruneUntil, hs, hdone, Bool.false_eq_true, if_false] at h
        simp only [List.cons_append, pruneUntil, hs, hdone, Bool.false_eq_true, if_false, ih h]
        by_cases hgone : (pruneUntil delete done s' items).gone = []
        · simp [hgone, pruneUntil_state_of_gone hgone, hdone]
        · simp [hgone]

/-- The state after deleting all of the items. -/
def deleteAll (delete : σ → α → Except ε (Option σ)) (s : σ) (items : List α) : σ :=
  items.foldl (fun s a =>
    match delete s a with
    | .ok (some s') => s'
    | _ => s) s

@[simp] theorem deleteAll_nil (delete : σ → α → Except ε (Option σ)) (s : σ) :
    deleteAll delete s [] = s := rfl

theorem deleteAll_cons {delete : σ → α → Except ε (Option σ)} {s s' : σ} {a : α}
    (h : delete s a = .ok (some s')) (items : List α) :
    deleteAll delete s (a :: items) = deleteAll delete s' items := by
  rw [deleteAll, List.foldl_cons, h]
  rfl

/-- `n` is the first count that brings the usage down to the target, or all there is. -/
structure StopsAt (usage : ℕ → ℕ) (target all n : ℕ) : Prop where
  le : n ≤ all
  before : ∀ k < n, target < usage k
  stop : n = all ∨ usage n ≤ target

theorem StopsAt.zero {usage : ℕ → ℕ} {target : ℕ} : StopsAt usage target 0 0 :=
  ⟨le_rfl, fun _ hk => absurd hk (Nat.not_lt_zero _), .inl rfl⟩

theorem StopsAt.one {usage : ℕ → ℕ} {target all : ℕ} (hall : 0 < all) (h0 : target < usage 0)
    (h1 : usage 1 ≤ target) : StopsAt usage target all 1 := by
  refine ⟨hall, fun k hk => ?_, .inr h1⟩
  obtain rfl : k = 0 := by omega
  exact h0

theorem StopsAt.succ {usage : ℕ → ℕ} {target all n : ℕ} (h0 : target < usage 0)
    (h : StopsAt (fun k => usage (k + 1)) target all n) :
    StopsAt usage target (all + 1) (n + 1) := by
  refine ⟨Nat.succ_le_succ h.le, fun k hk => ?_, ?_⟩
  · cases k with
    | zero => exact h0
    | succ k => exact h.before k (Nat.lt_of_succ_lt_succ hk)
  · rcases h.stop with hall | hdone
    · exact .inl (congrArg Nat.succ hall)
    · exact .inr hdone

/-- A usage at most the target is not passed. -/
theorem StopsAt.le_of_usage_le {usage : ℕ → ℕ} {target all n k : ℕ} (h : StopsAt usage target all n)
    (hk : usage k ≤ target) : n ≤ k := by
  by_contra hlt
  have hbefore := h.before k (by omega)
  omega

/-- **Pruning deletes the first deletable items**, as many as it takes. `I s items` keeps the items
deletable while the ones in front of them go. -/
theorem pruneUntil_spec {delete : σ → α → Except ε (Option σ)} {deletable : α → Bool}
    {I : σ → List α → Prop}
    (hskip : ∀ s a as, I s (a :: as) → deletable a = false → delete s a = .ok none ∧ I s as)
    (hdelete : ∀ s a as, I s (a :: as) → deletable a = true →
      ∃ s', delete s a = .ok (some s') ∧ I s' as)
    (usage : σ → ℕ) (target : ℕ) {s : σ} {items : List α} (hI : I s items)
    (hover : items.filter deletable ≠ [] → target < usage s) :
    ∃ n, StopsAt (fun k => usage (deleteAll delete s ((items.filter deletable).take k))) target
        (items.filter deletable).length n ∧
      pruneUntil delete (fun s => usage s ≤ target) s items =
        ⟨(items.filter deletable).take n,
          deleteAll delete s ((items.filter deletable).take n), none⟩ := by
  induction items generalizing s with
  | nil => exact ⟨0, StopsAt.zero, rfl⟩
  | cons a items ih =>
    by_cases ha : deletable a = true
    · obtain ⟨s', hs', hI'⟩ := hdelete s a items hI ha
      rw [List.filter_cons_of_pos ha] at hover ⊢
      have hover := hover (List.cons_ne_nil _ _)
      by_cases hdone : usage s' ≤ target
      · refine ⟨1, StopsAt.one (by simp) (by simpa using hover) ?_, ?_⟩
        · simpa [deleteAll_cons hs'] using hdone
        · simp [pruneUntil, hs', hdone, deleteAll_cons hs']
      · obtain ⟨n, hn, hpruned⟩ := ih hI' fun _ => not_le.1 hdone
        refine ⟨n + 1, StopsAt.succ (by simpa using hover) ?_, ?_⟩
        · simpa only [List.take_succ_cons, deleteAll_cons hs'] using hn
        · simp only [pruneUntil, hs', hdone, decide_false, Bool.false_eq_true, if_false, hpruned,
            List.take_succ_cons, deleteAll_cons hs']
    · obtain ⟨hnone, hI'⟩ := hskip s a items hI (by simpa using ha)
      rw [List.filter_cons_of_neg ha] at hover ⊢
      simpa only [pruneUntil, hnone] using ih hI' hover

end PruneUntil
