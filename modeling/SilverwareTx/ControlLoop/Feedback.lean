import SilverwareTx.ControlLoop.PacketSafety
import SilverwareTx.ControlLoop.RadioFault

/-!
# The LED and the buzzer (`feedback/feedback.cpp`, `feedback/feedback_pattern.cpp`)

The control task publishes its changes of state in one word, and the feedback task shows the
pattern of the change that it finds there, from the time it has found it (`FoundAt`). The two tasks
take their steps in any order (`FeedbackAction`).

* `silent_iff`, `steady_iff`: which states sound on, and in which the light is steady;
* `feedback_shows_state`: what is shown is the state of the control loop.
-/

namespace SilverwareTx

/-! ### Patterns -/

/-- `FeedbackOutput` -/
structure FeedbackOutput where
  ledOn : Bool := false
  buzzerOn : Bool := false
  deriving DecidableEq, Repr

/-- On at the beginning of every period. -/
def pulse (elapsedMs periodMs onMs : ℕ) : Bool := decide (elapsedMs % periodMs < onMs)

/-- `in_window` -/
def inWindow (elapsedMs startMs endMs : ℕ) : Bool :=
  decide (elapsedMs ≥ startMs) && decide (elapsedMs < endMs)

/-- `feedback_pattern` -/
def feedbackPattern (previous current : SystemState) (elapsedMs : ℕ) : FeedbackOutput :=
  match current with
  | .boot =>
    { ledOn := true
      buzzerOn := elapsedMs < 80 }
  | .waitGamepad =>
    { ledOn := pulse elapsedMs 1000 80
      -- One short chirp at startup or when a controller is lost while locked.
      buzzerOn := elapsedMs < 80 }
  | .binding =>
    { ledOn := pulse elapsedMs 200 100
      buzzerOn := inWindow elapsedMs 0 70 || inWindow elapsedMs 140 210 }
  | .locked =>
    { ledOn := pulse elapsedMs 1000 500
      buzzerOn :=
        -- Three quick chirps confirm that the binding window completed.
        if previous = .binding then
          inWindow elapsedMs 0 60 || inWindow elapsedMs 120 180 || inWindow elapsedMs 240 300
        -- A double chirp confirms an intentional disarm.
        else if previous = .active then inWindow elapsedMs 0 70 || inWindow elapsedMs 140 210
        else elapsedMs < 120 }
  | .active =>
    { ledOn := true
      buzzerOn := elapsedMs < 200 }
  | .prearmMode =>
    { ledOn := pulse elapsedMs 200 100
      buzzerOn := elapsedMs < 80 }
  | .gamepadFailsafe =>
    let phaseMs := elapsedMs % 1200
    { ledOn := pulse elapsedMs 200 100
      buzzerOn := inWindow phaseMs 0 80 || inWindow phaseMs 160 240 || inWindow phaseMs 320 400 }
  | .radioError =>
    let phaseMs := elapsedMs % 1000
    { ledOn := inWindow phaseMs 0 100 || inWindow phaseMs 200 300
      buzzerOn := inWindow phaseMs 0 200 || inWindow phaseMs 400 600 }

/-- The states whose sound goes on. -/
def SystemState.alarms (state : SystemState) : Bool :=
  state = .gamepadFailsafe || state = .radioError

/-- A state that is no alarm falls silent after at most 300 ms. -/
theorem silent_of_not_alarms {current : SystemState} (h : current.alarms = false)
    (previous : SystemState) {elapsedMs : ℕ} (helapsed : 300 ≤ elapsedMs) :
    (feedbackPattern previous current elapsedMs).buzzerOn = false := by
  cases current <;> simp [SystemState.alarms] at h <;>
    simp [feedbackPattern, inWindow] <;> grind

/-- An alarm sounds again within 1.2 s. -/
theorem sounds_of_alarms {current : SystemState} (h : current.alarms = true)
    (previous : SystemState) (elapsedMs : ℕ) :
    ∃ later ≥ elapsedMs, later < elapsedMs + 1200 ∧
      (feedbackPattern previous current later).buzzerOn = true := by
  cases current <;> simp [SystemState.alarms] at h
  case gamepadFailsafe =>
    -- the next multiple of the period
    refine ⟨elapsedMs + (1200 - elapsedMs % 1200) % 1200, Nat.le_add_right _ _, by omega, ?_⟩
    have hphase : (elapsedMs + (1200 - elapsedMs % 1200) % 1200) % 1200 = 0 := by omega
    simp [feedbackPattern, hphase, inWindow]
  case radioError =>
    refine ⟨elapsedMs + (1000 - elapsedMs % 1000) % 1000, Nat.le_add_right _ _, by omega, ?_⟩
    have hphase : (elapsedMs + (1000 - elapsedMs % 1000) % 1000) % 1000 = 0 := by omega
    simp [feedbackPattern, hphase, inWindow]

/-- **The buzzer** goes on only in an alarm. -/
theorem silent_iff (previous current : SystemState) :
    (∃ bound, ∀ elapsedMs ≥ bound, (feedbackPattern previous current elapsedMs).buzzerOn = false) ↔
      current.alarms = false := by
  constructor
  · rintro ⟨bound, hsilent⟩
    by_contra halarm
    obtain ⟨later, hlater, -, hsounds⟩ := sounds_of_alarms (by simpa using halarm) previous bound
    rw [hsilent later hlater] at hsounds
    cases hsounds
  · exact fun h => ⟨300, fun _ => silent_of_not_alarms h previous⟩

/-- **The light** is steady only when the motors can run, and before the first state. -/
theorem steady_iff (previous current : SystemState) :
    (∀ elapsedMs, (feedbackPattern previous current elapsedMs).ledOn = true) ↔
      current = .active ∨ current = .boot := by
  constructor
  · intro hsteady
    have hlater := hsteady 700
    cases current <;> simp [feedbackPattern, pulse, inWindow] at hlater ⊢
  · rintro (rfl | rfl) elapsedMs <;> rfl

/-! ### The feedback task -/

/-- The shared word, the local variables of `feedback_task` and the pins. -/
structure FeedbackTask where
  /-- The two states packed in the word, which is loaded and stored at once. -/
  requestedTransition : SystemState × SystemState
  activeTransition : SystemState × SystemState
  transitionStartedMs : U32 := 0
  buzzerOn : Bool := false
  /-- What the pins have been given. -/
  ledPin : Bool := false
  tonePin : Bool := false

/-- `feedback_init` -/
def feedbackInit (initialState : SystemState) : FeedbackTask where
  requestedTransition := (.boot, initialState)
  activeTransition := (.boot, initialState)

/-- `feedback_notify_state` -/
def feedbackNotifyState (previous current : SystemState) (t : FeedbackTask) : FeedbackTask :=
  if previous = current then t else { t with requestedTransition := (previous, current) }

/-- What a turn reads from `millis()`. -/
structure FeedbackInput where
  startedMs : U32
  nowMs : U32

/-- The transition that a turn shows. -/
def FeedbackTask.follow (t : FeedbackTask) (startedMs : U32) : FeedbackTask :=
  if t.requestedTransition ≠ t.activeTransition then
    { t with activeTransition := t.requestedTransition, transitionStartedMs := startedMs }
  else t

/-- A turn of `feedback_task`. -/
def feedbackTurn (input : FeedbackInput) (t : FeedbackTask) : FeedbackTask :=
  let t := t.follow input.startedMs
  let (previous, current) := t.activeTransition
  let output := feedbackPattern previous current (input.nowMs - t.transitionStartedMs).toNat
  { t with
    ledPin := output.ledOn
    tonePin := if output.buzzerOn ≠ t.buzzerOn then output.buzzerOn else t.tonePin
    buzzerOn := output.buzzerOn }

/-- The lines of `feedback_task` in front of its loop. -/
def feedbackStart (startMs : U32) (t : FeedbackTask) : FeedbackTask :=
  { t with activeTransition := t.requestedTransition, transitionStartedMs := startMs }

/-- A step of one of the tasks. -/
inductive FeedbackAction
  | notify (previous current : SystemState)
  | turn (input : FeedbackInput)

/-- What a step does. -/
def feedbackStep (t : FeedbackTask) : FeedbackAction → FeedbackTask
  | .notify previous current => feedbackNotifyState previous current t
  | .turn input => feedbackTurn input t

/-- From the setup on: `early` is published before the feedback task runs. -/
def feedbackRun (early : List (SystemState × SystemState)) (startMs : U32)
    (actions : List FeedbackAction) : FeedbackTask :=
  actions.foldl feedbackStep (feedbackStart startMs
    (early.foldl (fun t both => feedbackNotifyState both.1 both.2 t) (feedbackInit .waitGamepad)))

/-- What a step publishes. -/
def FeedbackAction.notified : FeedbackAction → Option (SystemState × SystemState)
  | .notify previous current => some (previous, current)
  | .turn _ => none

/-- The last change among what was published. -/
def lastTransition (published : List (SystemState × SystemState)) : SystemState × SystemState :=
  ((published.filter fun both => both.1 ≠ both.2).getLast?).getD (.boot, .waitGamepad)

theorem lastTransition_concat (published : List (SystemState × SystemState))
    (both : SystemState × SystemState) :
    lastTransition (published ++ [both]) =
      if both.1 = both.2 then lastTransition published else both := by
  unfold lastTransition
  rw [List.filter_append]
  split_ifs with h <;> simp [h]

/-- What the turns find in the word, each with its `millis()`; `published` is what was published
before. -/
def looks (published : List (SystemState × SystemState)) :
    List FeedbackAction → List ((SystemState × SystemState) × U32)
  | [] => []
  | .notify previous current :: actions => looks (published ++ [(previous, current)]) actions
  | .turn input :: actions => (lastTransition published, input.startedMs) :: looks published actions

/-- What the task has found, its start included. -/
def allLooks (early : List (SystemState × SystemState)) (startMs : U32)
    (actions : List FeedbackAction) : List ((SystemState × SystemState) × U32) :=
  (lastTransition early, startMs) :: looks early actions

/-- `shown` was found at `ms`: not by the look before, and by every look since. -/
def FoundAt (found : List ((SystemState × SystemState) × U32)) (shown : SystemState × SystemState)
    (ms : U32) : Prop :=
  ∃ before after, found = before ++ (shown, ms) :: after ∧ (∀ look ∈ after, look.1 = shown) ∧
    ∀ look ∈ before.getLast?, look.1 ≠ shown

/-- A look that finds the same. -/
theorem FoundAt.same {found : List ((SystemState × SystemState) × U32)}
    {shown : SystemState × SystemState} {ms : U32} (h : FoundAt found shown ms) (nowMs : U32) :
    FoundAt (found ++ [(shown, nowMs)]) shown ms := by
  obtain ⟨before, after, rfl, hafter, hbefore⟩ := h
  refine ⟨before, after ++ [(shown, nowMs)], by simp, fun look hlook => ?_, hbefore⟩
  rcases List.mem_append.1 hlook with hlook | hlook
  · exact hafter look hlook
  · rw [List.mem_singleton.1 hlook]

/-- A look that finds something else. -/
theorem FoundAt.other {found : List ((SystemState × SystemState) × U32)}
    {shown next : SystemState × SystemState} {ms : U32} (h : FoundAt found shown ms)
    (hnext : next ≠ shown) (nowMs : U32) : FoundAt (found ++ [(next, nowMs)]) next nowMs := by
  obtain ⟨before, after, rfl, hafter, -⟩ := h
  refine ⟨before ++ (shown, ms) :: after, [], rfl, by simp, fun look hlook => ?_⟩
  have hlast : look.1 = shown := by
    rcases List.eq_nil_or_concat after with rfl | ⟨rest, last, rfl⟩
    · rw [List.getLast?_concat, Option.mem_some_iff] at hlook
      rw [← hlook]
    · rw [List.concat_eq_append, ← List.cons_append, ← List.append_assoc, List.getLast?_concat,
        Option.mem_some_iff] at hlook
      rw [← hlook]
      exact hafter last (by simp)
  rw [hlast]
  exact hnext.symm

section Task

variable {early : List (SystemState × SystemState)} {startMs : U32}
  {actions : List FeedbackAction}

theorem feedbackRun_concat (early : List (SystemState × SystemState)) (startMs : U32)
    (actions : List FeedbackAction) (action : FeedbackAction) :
    feedbackRun early startMs (actions ++ [action]) =
      feedbackStep (feedbackRun early startMs actions) action := by
  rw [feedbackRun, List.foldl_append]
  rfl

theorem looks_append (published : List (SystemState × SystemState))
    (actions more : List FeedbackAction) :
    looks published (actions ++ more) = looks published actions ++
      looks (published ++ actions.filterMap FeedbackAction.notified) more := by
  induction actions generalizing published with
  | nil => simp [looks]
  | cons action actions ih =>
    cases action with
    | notify previous current => simp [looks, ih, FeedbackAction.notified]
    | turn input =>
      rw [List.cons_append, looks, looks, ih, List.cons_append]
      rfl

/-- A turn publishes nothing. -/
theorem notified_turn (actions : List FeedbackAction) (input : FeedbackInput) :
    (actions ++ [FeedbackAction.turn input]).filterMap FeedbackAction.notified =
      actions.filterMap FeedbackAction.notified := by
  rw [List.filterMap_append]
  exact List.append_nil _

theorem allLooks_turn (early : List (SystemState × SystemState)) (startMs : U32)
    (actions : List FeedbackAction) (input : FeedbackInput) :
    allLooks early startMs (actions ++ [.turn input]) = allLooks early startMs actions ++
      [(lastTransition (early ++ actions.filterMap FeedbackAction.notified), input.startedMs)] := by
  rw [allLooks, looks_append]
  rfl

theorem allLooks_notify (early : List (SystemState × SystemState)) (startMs : U32)
    (actions : List FeedbackAction) (previous current : SystemState) :
    allLooks early startMs (actions ++ [.notify previous current]) =
      allLooks early startMs actions := by
  rw [allLooks, looks_append, looks, looks, List.append_nil, allLooks]

@[simp] theorem requestedTransition_follow (t : FeedbackTask) (startedMs : U32) :
    (t.follow startedMs).requestedTransition = t.requestedTransition := by
  unfold FeedbackTask.follow
  split_ifs <;> rfl

@[simp] theorem activeTransition_follow (t : FeedbackTask) (startedMs : U32) :
    (t.follow startedMs).activeTransition = t.requestedTransition := by
  unfold FeedbackTask.follow
  split_ifs with h
  · rfl
  · exact (not_not.1 h).symm

/-- Publishing keeps the last change in the word, and touches nothing else. -/
theorem feedbackNotifyState_spec {t : FeedbackTask}
    {published : List (SystemState × SystemState)}
    (h : t.requestedTransition = lastTransition published) (previous current : SystemState) :
    feedbackNotifyState previous current t =
      { t with requestedTransition := lastTransition (published ++ [(previous, current)]) } := by
  rw [lastTransition_concat, feedbackNotifyState]
  split_ifs
  · rw [← h]
  · rfl

theorem requestedTransition_early (early : List (SystemState × SystemState)) :
    (early.foldl (fun t both => feedbackNotifyState both.1 both.2 t)
      (feedbackInit .waitGamepad)).requestedTransition = lastTransition early := by
  induction early using List.reverseRecOn with
  | nil => rfl
  | append_singleton early both ih =>
    rw [List.foldl_append, List.foldl_cons, List.foldl_nil, feedbackNotifyState_spec ih]

theorem pins_early (early : List (SystemState × SystemState)) :
    let t := early.foldl (fun t both => feedbackNotifyState both.1 both.2 t)
      (feedbackInit .waitGamepad)
    t.tonePin = t.buzzerOn := by
  induction early using List.reverseRecOn with
  | nil => rfl
  | append_singleton early both ih =>
    simp only [List.foldl_append, List.foldl_cons, List.foldl_nil] at ih ⊢
    rw [feedbackNotifyState_spec (requestedTransition_early early)]
    exact ih

/-- The word holds the last change, the tone is the one that the task believes it plays, and the
change that it shows was found at `transition_started_ms`. -/
structure TaskInv (early : List (SystemState × SystemState)) (startMs : U32)
    (actions : List FeedbackAction) (t : FeedbackTask) : Prop where
  requested : t.requestedTransition =
    lastTransition (early ++ actions.filterMap FeedbackAction.notified)
  tone : t.tonePin = t.buzzerOn
  found : FoundAt (allLooks early startMs actions) t.activeTransition t.transitionStartedMs

theorem taskInv_follow {t : FeedbackTask} (h : TaskInv early startMs actions t)
    (input : FeedbackInput) :
    FoundAt (allLooks early startMs (actions ++ [.turn input]))
      (t.follow input.startedMs).activeTransition
      (t.follow input.startedMs).transitionStartedMs := by
  rw [allLooks_turn, ← h.requested]
  unfold FeedbackTask.follow
  split_ifs with hchange
  · exact h.found.other hchange input.startedMs
  · rw [not_not.1 hchange]
    exact h.found.same input.startedMs

/-- **Every step** of either task keeps this. -/
theorem feedbackRun_inv (early : List (SystemState × SystemState)) (startMs : U32)
    (actions : List FeedbackAction) :
    TaskInv early startMs actions (feedbackRun early startMs actions) := by
  induction actions using List.reverseRecOn with
  | nil =>
    refine ⟨?_, pins_early early, [], [], ?_, by simp, by simp⟩
    · rw [List.filterMap_nil, List.append_nil]
      exact requestedTransition_early early
    · exact congrArg (fun shown => [(shown, startMs)]) (requestedTransition_early early).symm
  | append_singleton actions action ih =>
    rw [feedbackRun_concat]
    cases action with
    | notify previous current =>
      rw [feedbackStep, feedbackNotifyState_spec ih.requested]
      refine ⟨?_, ih.tone, ?_⟩
      · rw [List.filterMap_append, ← List.append_assoc]
        rfl
      · rw [allLooks_notify]
        exact ih.found
    | turn input =>
      refine ⟨?_, ?_, taskInv_follow ih input⟩
      · rw [notified_turn]
        exact (requestedTransition_follow _ _).trans ih.requested
      · have hkeep : ((feedbackRun early startMs actions).follow input.startedMs).tonePin =
            ((feedbackRun early startMs actions).follow input.startedMs).buzzerOn := by
          unfold FeedbackTask.follow
          split_ifs <;> exact ih.tone
        simp only [feedbackStep, feedbackTurn]
        split_ifs with hchange
        · rfl
        · rw [hkeep]
          exact (not_not.1 hchange).symm

/-- A turn shows the last change. -/
theorem feedbackRun_turn (early : List (SystemState × SystemState)) (startMs : U32)
    (actions : List FeedbackAction) (input : FeedbackInput) :
    let t := feedbackRun early startMs (actions ++ [.turn input])
    let shown := lastTransition (early ++ actions.filterMap FeedbackAction.notified)
    let output := feedbackPattern shown.1 shown.2 (input.nowMs - t.transitionStartedMs).toNat
    t.activeTransition = shown ∧ t.ledPin = output.ledOn ∧ t.tonePin = output.buzzerOn := by
  have htone := (feedbackRun_inv early startMs (actions ++ [.turn input])).tone
  have hrequested := (feedbackRun_inv early startMs actions).requested
  rw [feedbackRun_concat] at htone ⊢
  refine ⟨?_, ?_, htone.trans ?_⟩ <;>
    simp [feedbackStep, feedbackTurn, hrequested]

/-- While nothing new is published, the pattern runs on. -/
theorem transitionStartedMs_of_unchanged {more : List FeedbackAction}
    (hactive : (feedbackRun early startMs actions).activeTransition =
      (feedbackRun early startMs actions).requestedTransition)
    (hmore : ∀ both ∈ more.filterMap FeedbackAction.notified, both.1 = both.2) :
    (feedbackRun early startMs (actions ++ more)).transitionStartedMs =
        (feedbackRun early startMs actions).transitionStartedMs ∧
      (feedbackRun early startMs (actions ++ more)).activeTransition =
        (feedbackRun early startMs (actions ++ more)).requestedTransition := by
  induction more using List.reverseRecOn with
  | nil => simpa using hactive
  | append_singleton more action ih =>
    obtain ⟨hstarted, hsame⟩ := ih fun both hboth =>
      hmore both (by rw [List.filterMap_append]; exact List.mem_append_left _ hboth)
    rw [← List.append_assoc, feedbackRun_concat]
    cases action with
    | notify previous current =>
      have hequal : previous = current := hmore (previous, current) (by simp [FeedbackAction.notified])
      rw [feedbackStep, feedbackNotifyState, if_pos hequal]
      exact ⟨hstarted, hsame⟩
    | turn input =>
      have hfollow : (feedbackRun early startMs (actions ++ more)).follow input.startedMs =
          feedbackRun early startMs (actions ++ more) := if_neg (not_not.2 hsame.symm)
      simp only [feedbackStep, feedbackTurn, hfollow]
      exact ⟨hstarted, hsame⟩

end Task

/-! ### The control loop -/

/-- What the prologue of the control task publishes. -/
def startTransitions (c : Setup) : List (SystemState × SystemState) :=
  if failsafeGetState (failsafeAtStart c) = .radioError then [(.waitGamepad, .radioError)] else []

/-- What a cycle publishes. -/
def cycleTransitions (c : Setup) (s : LoopState) (i : CycleInput) :
    List (SystemState × SystemState) :=
  (s.previousState, stateAtBuild s i) ::
    if packetFailed c s i ∧ (consecutiveFailuresAfter c s i).toNat ≥ radioFailureLimit then
      [(stateAtBuild s i, .radioError)]
    else []

/-- What the control task has published before cycle `n`. -/
def transitions (c : Setup) (ins : ℕ → CycleInput) : ℕ → List (SystemState × SystemState)
  | 0 => startTransitions c
  | n + 1 => transitions c ins n ++ cycleTransitions c (loopState c ins n) (ins n)

section Loop

variable (c : Setup) (ins : ℕ → CycleInput)

/-- The last of these states that is another one than `current`. -/
def lastOther (states : List SystemState) (current : SystemState) : Option SystemState :=
  (states.filter fun state => state ≠ current).getLast?

/-- The word holds the last state of a history, and the one before it that differs. -/
def Tells (states : List SystemState) (shown : SystemState × SystemState) : Prop :=
  states.getLast? = some shown.2 ∧ lastOther states shown.2 = some shown.1

instance (states : List SystemState) (shown : SystemState × SystemState) :
    Decidable (Tells states shown) :=
  inferInstanceAs (Decidable (_ ∧ _))

theorem Tells.step {published : List (SystemState × SystemState)} {states : List SystemState}
    {a : SystemState} (h : Tells states (lastTransition published))
    (ha : (lastTransition published).2 = a) (b : SystemState) :
    Tells (states ++ [b]) (lastTransition (published ++ [(a, b)])) ∧
      (lastTransition (published ++ [(a, b)])).2 = b := by
  rw [lastTransition_concat]
  by_cases hab : a = b
  · rw [if_pos hab, ha]
    refine ⟨⟨?_, ?_⟩, hab⟩
    · rw [List.getLast?_concat, ha, hab]
    · rw [lastOther, List.filter_append, ha, List.filter_cons_of_neg (by simp [hab]),
        List.filter_nil, List.append_nil, ← ha]
      exact h.2
  · rw [if_neg hab]
    refine ⟨⟨List.getLast?_concat, ?_⟩, rfl⟩
    -- the last state differs from the next one
    obtain ⟨before, hbefore⟩ := List.getLast?_eq_some_iff.1 h.1
    rw [lastOther, hbefore, ha]
    simp [List.filter_append, hab]

/-- The states that the control task has gone through before cycle `n`, from the initial word on. -/
def stateHistory (c : Setup) (ins : ℕ → CycleInput) : ℕ → List SystemState
  | 0 => [.boot, .waitGamepad, systemState c ins 0]
  | n + 1 =>
    stateHistory c ins n ++ [stateAtBuild (loopState c ins n) (ins n), systemState c ins (n + 1)]

/-- The last change that was published led to the state of the loop, from the last other state. -/
theorem tells_transitions (n : ℕ) :
    Tells (stateHistory c ins n) (lastTransition (transitions c ins n)) ∧
      (lastTransition (transitions c ins n)).2 = systemState c ins n := by
  induction n with
  | zero =>
    rw [transitions, startTransitions, stateHistory]
    rcases systemState_zero c ins with h | h
    · have hstart : failsafeGetState (failsafeAtStart c) = .waitGamepad := h
      rw [h, hstart]
      exact ⟨by decide, by decide⟩
    · have hstart : failsafeGetState (failsafeAtStart c) = .radioError := h
      rw [h, hstart]
      exact ⟨by decide, by decide⟩
  | succ n ih =>
    obtain ⟨htells, hstate⟩ := ih
    rw [← (loopState_inv c ins n).2] at hstate
    obtain ⟨hbuild, hbuilt⟩ := htells.step hstate (stateAtBuild (loopState c ins n) (ins n))
    rw [transitions, cycleTransitions, stateHistory, systemState_succ, stateAfter_eq]
    split_ifs
    · have hfault := hbuild.step hbuilt .radioError
      rw [List.append_assoc, List.append_assoc] at hfault
      exact hfault
    · -- the state is listed twice, which changes nothing
      have hsame := hbuild.step hbuilt (stateAtBuild (loopState c ins n) (ins n))
      rw [lastTransition_concat, if_pos rfl, List.append_assoc] at hsame
      exact hsame

/-- Cycles that leave the state as it is publish no change. -/
theorem cycleTransitions_of_same {n : ℕ} (h : systemState c ins (n + 1) = systemState c ins n) :
    ∀ both ∈ cycleTransitions c (loopState c ins n) (ins n), both.1 = both.2 := by
  rw [systemState_succ, stateAfter_eq] at h
  unfold cycleTransitions
  rw [(loopState_inv c ins n).2]
  split_ifs at h ⊢ with hfault
  · -- the state was the radio fault before the cycle
    have hbuild : stateAtBuild (loopState c ins n) (ins n) = .radioError :=
      stateAtBuild_eq_radioError_iff.2 h.symm
    simp [hbuild, ← h]
  · simp [h]

theorem exists_transitions {n m : ℕ} (hnm : n ≤ m)
    (h : ∀ k, n ≤ k → k ≤ m → systemState c ins k = systemState c ins n) :
    ∃ rest, transitions c ins m = transitions c ins n ++ rest ∧ ∀ both ∈ rest, both.1 = both.2 := by
  induction m, hnm using Nat.le_induction with
  | base => exact ⟨[], (List.append_nil _).symm, by simp⟩
  | succ m hnm ih =>
    obtain ⟨rest, hrest, hsame⟩ := ih fun k hnk hkm => h k hnk (Nat.le_succ_of_le hkm)
    have hcycle := cycleTransitions_of_same c ins
      ((h (m + 1) (Nat.le_succ_of_le hnm) le_rfl).trans (h m hnm (Nat.le_succ m)).symm)
    refine ⟨rest ++ cycleTransitions c (loopState c ins m) (ins m), ?_, ?_⟩
    · rw [transitions, hrest, List.append_assoc]
    · intro both hboth
      rcases List.mem_append.1 hboth with hboth | hboth
      · exact hsame both hboth
      · exact hcycle both hboth

theorem lastTransition_append {published rest : List (SystemState × SystemState)}
    (h : ∀ both ∈ rest, both.1 = both.2) :
    lastTransition (published ++ rest) = lastTransition published := by
  have hnone : rest.filter (fun both => both.1 ≠ both.2) = [] := by simpa using h
  rw [lastTransition, List.filter_append, hnone, List.append_nil, lastTransition]

end Loop

/-- **What is shown is the state of the loop.** A turn between two cycles shows the pattern of the
loop's state and the last other state before it, from the time at which the task found the change
on; and while the state stays, later turns show the same pattern, run on from the same time. -/
theorem feedback_shows_state (c : Setup) (ins : ℕ → CycleInput) (n : ℕ)
    (early : List (SystemState × SystemState)) (startMs : U32) (actions : List FeedbackAction)
    (input : FeedbackInput)
    (h : early ++ actions.filterMap FeedbackAction.notified = transitions c ins n) :
    let t := feedbackRun early startMs (actions ++ [.turn input])
    ∃ previous, lastOther (stateHistory c ins n) (systemState c ins n) = some previous ∧
      FoundAt (allLooks early startMs (actions ++ [.turn input])) (previous, systemState c ins n)
        t.transitionStartedMs ∧
      let output (nowMs : U32) : FeedbackOutput :=
        feedbackPattern previous (systemState c ins n) (nowMs - t.transitionStartedMs).toNat
      t.ledPin = (output input.nowMs).ledOn ∧ t.tonePin = (output input.nowMs).buzzerOn ∧
        ∀ (m : ℕ) (more : List FeedbackAction) (later : FeedbackInput), n ≤ m →
          (∀ k, n ≤ k → k ≤ m → systemState c ins k = systemState c ins n) →
          early ++ (actions ++ [FeedbackAction.turn input] ++ more).filterMap
            FeedbackAction.notified = transitions c ins m →
          let t' := feedbackRun early startMs (actions ++ [.turn input] ++ more ++ [.turn later])
          t'.ledPin = (output later.nowMs).ledOn ∧ t'.tonePin = (output later.nowMs).buzzerOn := by
  intro t
  obtain ⟨htells, hcurrent⟩ := tells_transitions c ins n
  obtain ⟨hactive, hled, htone⟩ := feedbackRun_turn early startMs actions input
  have hinv := feedbackRun_inv early startMs (actions ++ [.turn input])
  have hfound := hinv.found
  rw [hactive, h] at hfound
  rw [h, hcurrent] at hled htone
  have hshown : lastTransition (transitions c ins n) =
      ((lastTransition (transitions c ins n)).1, systemState c ins n) := Prod.ext rfl hcurrent
  refine ⟨(lastTransition (transitions c ins n)).1, ?_, hshown ▸ hfound, hled, htone, ?_⟩
  · rw [← hcurrent]
    exact htells.2
  intro m more later hnm hstate hmore
  obtain ⟨rest, hrest, hsame⟩ := exists_transitions c ins hnm hstate
  have hpublished : more.filterMap FeedbackAction.notified = rest := by
    rw [List.filterMap_append, notified_turn, ← List.append_assoc, h, hrest] at hmore
    exact List.append_cancel_left hmore
  have hfollowed : t.activeTransition = t.requestedTransition := by
    rw [hinv.requested, notified_turn]
    exact hactive
  obtain ⟨hstarted, hunchanged⟩ := transitionStartedMs_of_unchanged hfollowed (hpublished ▸ hsame)
  obtain ⟨-, hled', htone'⟩ :=
    feedbackRun_turn early startMs (actions ++ [.turn input] ++ more) later
  have hstarted' : (feedbackRun early startMs (actions ++ [.turn input] ++ more ++
      [.turn later])).transitionStartedMs = t.transitionStartedMs := by
    rw [feedbackRun_concat]
    have hfollow : (feedbackRun early startMs (actions ++ [.turn input] ++ more)).follow
        later.startedMs = feedbackRun early startMs (actions ++ [.turn input] ++ more) :=
      if_neg (not_not.2 hunchanged.symm)
    simp only [feedbackStep, feedbackTurn, hfollow]
    exact hstarted
  rw [hmore, hrest, lastTransition_append hsame, hcurrent, hstarted'] at hled' htone'
  exact ⟨hled', htone'⟩

/-- The controller is there in cycle 0, and the task finds the change 10 ms later. -/
theorem feedback_shows_state_sampleFlight :
    let t := feedbackRun [] 0 ([.turn ⟨5, 5⟩, .notify .waitGamepad .locked] ++ [.turn ⟨10, 90⟩])
    systemState sampleSetup sampleFlight 1 = .locked ∧
      FoundAt (allLooks [] 0 ([.turn ⟨5, 5⟩, .notify .waitGamepad .locked] ++ [.turn ⟨10, 90⟩]))
        (.waitGamepad, .locked) t.transitionStartedMs ∧ t.ledPin = true ∧ t.tonePin = true := by
  obtain ⟨previous, hprevious, hfound, hled, htone, -⟩ := feedback_shows_state sampleSetup
    sampleFlight 1 [] 0 [.turn ⟨5, 5⟩, .notify .waitGamepad .locked] ⟨10, 90⟩ (by decide)
  have hstate : systemState sampleSetup sampleFlight 1 = .locked := by decide
  have hother : lastOther (stateHistory sampleSetup sampleFlight 1)
      (systemState sampleSetup sampleFlight 1) = some .waitGamepad := by decide
  obtain rfl := Option.some.inj (hother.symm.trans hprevious)
  rw [hstate] at hfound hled htone
  exact ⟨hstate, hfound, hled.trans (by decide), htone.trans (by decide)⟩

end SilverwareTx
