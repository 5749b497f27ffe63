import Mathlib.Tactic

/-!
# Rate limiting by a clock

A limiter remembers when its action is due next. A poll before that time does nothing; the first
poll at or after it fires, and the action is due again one period later, counted from the poll. The
period may change from poll to poll.

* `pairwise_spaced`: whatever the clock does, an action is at least its period after every one
  before it;
* `next_eq`: it is due again when the period of the last action ends.
-/

namespace RateLimiter

variable {τ : Type*} [AddCommGroup τ] [LinearOrder τ]

/-- The time of a poll and the period that an action would have then. -/
structure Poll (τ : Type*) where
  now : τ
  period : τ

/-- When an action of this poll would end its period. -/
def Poll.ends (p : Poll τ) : τ := p.now + p.period

/-- A limiter with the polls at which it has fired. -/
structure Limiter (τ : Type*) where
  next : τ
  fired : List (Poll τ) := []

/-- The limiter after a poll: it fires if it is due. -/
def Limiter.poll (l : Limiter τ) (p : Poll τ) : Limiter τ :=
  if p.now < l.next then l else { next := p.ends, fired := l.fired ++ [p] }

/-- The limiter after a sequence of polls. -/
def pollAll (start : τ) (polls : List (Poll τ)) : Limiter τ :=
  polls.foldl Limiter.poll { next := start }

variable {start : τ} {polls : List (Poll τ)} {p : Poll τ}

@[simp] theorem pollAll_nil : pollAll start [] = { next := start } := rfl

theorem pollAll_concat :
    pollAll start (polls ++ [p]) =
      if p.now < (pollAll start polls).next then pollAll start polls
      else { next := p.ends, fired := (pollAll start polls).fired ++ [p] } := by
  rw [pollAll, List.foldl_append]
  rfl

/-- The next action is due at the start, or when the period of the last one ends. -/
theorem next_eq :
    (pollAll start polls).next = ((pollAll start polls).fired.getLast?.map Poll.ends).getD start := by
  induction polls using List.reverseRecOn with
  | nil => rfl
  | append_singleton polls p ih =>
    rw [pollAll_concat]
    split_ifs
    · exact ih
    · simp

/-- **Actions keep their distance**, for any clock. -/
theorem pairwise_spaced [IsOrderedAddMonoid τ] (hperiod : ∀ p ∈ polls, 0 ≤ p.period) :
    (pollAll start polls).fired.Pairwise (fun p q => p.ends ≤ q.now) ∧
      ∀ p ∈ (pollAll start polls).fired, p.ends ≤ (pollAll start polls).next := by
  induction polls using List.reverseRecOn with
  | nil => exact ⟨List.Pairwise.nil, by simp⟩
  | append_singleton polls p ih =>
    obtain ⟨hspaced, hnext⟩ := ih fun q hq => hperiod q (List.mem_append_left _ hq)
    rw [pollAll_concat]
    split_ifs with hdue
    · exact ⟨hspaced, hnext⟩
    · have hpos := hperiod p (List.mem_append_right _ (List.mem_singleton_self p))
      have hbefore : ∀ q ∈ (pollAll start polls).fired, q.ends ≤ p.now :=
        fun q hq => (hnext q hq).trans (not_lt.1 hdue)
      refine ⟨List.pairwise_append.2 ⟨hspaced, List.pairwise_singleton _ _, ?_⟩, ?_⟩
      · intro q hq r hr
        rw [List.mem_singleton.1 hr]
        exact hbefore q hq
      · intro q hq
        rcases List.mem_append.1 hq with hq | hq
        · exact (hbefore q hq).trans (le_add_of_nonneg_right hpos)
        · rw [List.mem_singleton.1 hq]

end RateLimiter
