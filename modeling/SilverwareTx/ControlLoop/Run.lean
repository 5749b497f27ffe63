import SilverwareTx.ControlLoop.Cycle
import SilverwareTx.Lib.InputRun

/-!
# Runs of the control loop

`loopState c ins n` is the state before cycle `n` of the run on the inputs `ins`, `loopOutput` what
cycle `n` does.

* `stateAtBuild_eq_*_iff` say once how a cycle reaches each state;
* `failsafeAfter_*` what the transmission can change after that;
* `loopState_inv` is the invariant of the loop's bookkeeping.
-/

namespace SilverwareTx

/-- The state before cycle `n`. -/
def loopState (c : Setup) (ins : ℕ → CycleInput) (n : ℕ) : LoopState :=
  InputRun.run (controlCycle c) (startState c) ins n

/-- What cycle `n` does. -/
def loopOutput (c : Setup) (ins : ℕ → CycleInput) (n : ℕ) : CycleOutput :=
  cycleOutput c (loopState c ins n) (ins n)

/-- The failsafe state before cycle `n`, which is the state at the end of the cycle before. -/
def systemState (c : Setup) (ins : ℕ → CycleInput) (n : ℕ) : SystemState :=
  (loopState c ins n).failsafe.currentState

theorem loopState_succ (c : Setup) (ins : ℕ → CycleInput) (n : ℕ) :
    loopState c ins (n + 1) = controlCycle c (loopState c ins n) (ins n) := rfl

theorem systemState_succ (c : Setup) (ins : ℕ → CycleInput) (n : ℕ) :
    systemState c ins (n + 1) = stateAfter c (loopState c ins n) (ins n) := rfl

/-- A gamepad that is connected and was updated in the last half second. -/
def gamepadLive (i : CycleInput) : Prop :=
  i.controls.connected = true ∧ i.cycleStartUs - i.controls.lastUpdateUs ≤ 500000

instance (i : CycleInput) : Decidable (gamepadLive i) :=
  inferInstanceAs (Decidable (_ ∧ _))

/-! ### How a cycle reaches its state -/

section Cycle

variable {c : Setup} {s : LoopState} {i : CycleInput}

theorem gamepadTimeout_eq_false_iff_live :
    gamepadTimeout i.cycleStartUs i.controls.connected i.controls.lastUpdateUs = false ↔
      gamepadLive i := gamepadTimeout_eq_false_iff

theorem throttleIdle_iff : throttleIdle i = true ↔ i.controls.throttleRaw.toNat ≤ 10 :=
  decide_eq_true_iff

/-- `PREARM_MODE` is entered from `LOCKED` by Start, and kept, only with a live gamepad and the
throttle at idle; B and Start end it. -/
theorem failsafeUpdated_eq_prearmMode_iff :
    (failsafeUpdated s i).currentState = .prearmMode ↔
      gamepadLive i ∧ i.controls.throttleRaw.toNat ≤ 10 ∧
        ((s.failsafe.currentState = .prearmMode ∧ (cycleEdges s i).bClicked = false ∧
            (cycleEdges s i).startClicked = false) ∨
          (s.failsafe.currentState = .locked ∧ (cycleEdges s i).startClicked = true ∧
            (cycleEdges s i).viewClicked = false)) := by
  rw [failsafeUpdated, failsafeUpdateAt_eq_prearmMode_iff, gamepadTimeout_eq_false_iff_live,
    throttleIdle_iff]
  refine and_congr_right fun _ => and_congr_right fun _ => or_congr ?_ Iff.rfl
  refine and_congr_right fun hstate => ?_
  simp [failsafeGetState, hstate]

/-- The armed state is kept while the gamepad is live and neither B nor Start is pressed, and
entered by a confirmed pre-arm only. -/
theorem stateAtBuild_eq_active_iff :
    stateAtBuild s i = .active ↔
      (s.failsafe.currentState = .active ∧ gamepadLive i ∧ (cycleEdges s i).bClicked = false ∧
          (cycleEdges s i).startClicked = false) ∨
        ((failsafeUpdated s i).currentState = .prearmMode ∧ prearmConfirmed s i = true) := by
  have hupdate : (failsafeUpdated s i).currentState = .active ↔
      s.failsafe.currentState = .active ∧ gamepadLive i ∧ (cycleEdges s i).bClicked = false ∧
        (cycleEdges s i).startClicked = false := by
    rw [failsafeUpdated, failsafeUpdateAt_eq_active_iff, gamepadTimeout_eq_false_iff_live]
    refine and_congr_right fun hstate => and_congr_right fun _ => ?_
    simp [failsafeGetState, hstate]
  rw [← hupdate]
  unfold stateAtBuild failsafeAtBuild failsafeGetState
  split_ifs with hprearm hconfirmed htimeout
  · simp [failsafeCompletePrearm_of_prearmMode hprearm, hprearm, hconfirmed]
  · simp [failsafeCancelPrearm_of_prearmMode hprearm, hprearm, hconfirmed]
  · simp [hprearm, hconfirmed]
  · simp [hprearm]

theorem stateAtBuild_eq_prearmMode_iff :
    stateAtBuild s i = .prearmMode ↔
      (failsafeUpdated s i).currentState = .prearmMode ∧ prearmConfirmed s i = false ∧
        i.cycleStartUs - prearmStarted s i < prearmModeTimeoutUs := by
  unfold stateAtBuild failsafeAtBuild failsafeGetState
  split_ifs with hprearm hconfirmed htimeout
  · simp [failsafeCompletePrearm_of_prearmMode hprearm, hconfirmed]
  · simp [failsafeCancelPrearm_of_prearmMode hprearm]
    omega
  · simp only [hprearm, true_and]
    exact iff_of_true trivial ⟨by simpa using hconfirmed, by omega⟩
  · simp [hprearm]

/-- Outside a pre-arm the state is the one of the update. -/
theorem failsafeAtBuild_of_ne_prearmMode (h : (failsafeUpdated s i).currentState ≠ .prearmMode) :
    failsafeAtBuild s i = failsafeUpdated s i := if_neg h

/-- From a pre-arm the packet is built in `ACTIVE`, `LOCKED` or `PREARM_MODE`. -/
theorem stateAtBuild_of_prearmMode (h : (failsafeUpdated s i).currentState = .prearmMode) :
    stateAtBuild s i = .active ∨ stateAtBuild s i = .locked ∨ stateAtBuild s i = .prearmMode := by
  unfold stateAtBuild failsafeAtBuild failsafeGetState
  split_ifs with hconfirmed htimeout
  · exact .inl (by rw [failsafeCompletePrearm_of_prearmMode h])
  · exact .inr (.inl (by rw [failsafeCancelPrearm_of_prearmMode h]))
  · exact .inr (.inr h)

/-- A state other than the three of a pre-arm is the one of the update. -/
theorem stateAtBuild_eq_iff_updated {state : SystemState} (ha : state ≠ .active)
    (hl : state ≠ .locked) (hp : state ≠ .prearmMode) :
    stateAtBuild s i = state ↔ (failsafeUpdated s i).currentState = state := by
  by_cases h : (failsafeUpdated s i).currentState = .prearmMode
  · rcases stateAtBuild_of_prearmMode h with h' | h' | h' <;> rw [h, h']
    · exact iff_of_false ha.symm hp.symm
    · exact iff_of_false hl.symm hp.symm
  · rw [stateAtBuild, failsafeAtBuild_of_ne_prearmMode h, failsafeGetState]

/-- `BINDING` is entered from `LOCKED` by View, with a live gamepad and the throttle at idle, and
kept while the gamepad is live and the bind time has not passed. -/
theorem stateAtBuild_eq_binding_iff :
    stateAtBuild s i = .binding ↔
      gamepadLive i ∧
        ((s.failsafe.currentState = .binding ∧
            i.cycleStartUs - s.failsafe.bindStart ≤ bindDurationUs) ∨
          (s.failsafe.currentState = .locked ∧ (cycleEdges s i).viewClicked = true ∧
            i.controls.throttleRaw.toNat ≤ 10)) := by
  rw [stateAtBuild_eq_iff_updated (by simp) (by simp) (by simp), failsafeUpdated,
    failsafeUpdateAt_eq_binding_iff, gamepadTimeout_eq_false_iff_live, throttleIdle_iff]

/-- The part of the cycle before the packet neither raises nor clears the radio fault. -/
theorem stateAtBuild_eq_radioError_iff :
    stateAtBuild s i = .radioError ↔ s.failsafe.currentState = .radioError := by
  rw [stateAtBuild_eq_iff_updated (by simp) (by simp) (by simp), failsafeUpdated,
    failsafeUpdateAt_eq_radioError_iff]

theorem stateAtBuild_eq_boot_iff : stateAtBuild s i = .boot ↔ s.failsafe.currentState = .boot := by
  rw [stateAtBuild_eq_iff_updated (by simp) (by simp) (by simp), failsafeUpdated,
    failsafeUpdateAt_eq_boot_iff]

/-! ### What the transmission changes -/

/-- A packet goes out in every state but the radio fault. -/
theorem isSome_transmission :
    (transmission c s i).isSome = true ↔ s.failsafe.currentState ≠ .radioError := by
  rw [Ne, ← stateAtBuild_eq_radioError_iff (i := i)]
  unfold transmission
  split_ifs with hbind herr
  · simp [hbind]
  · simp [herr]
  · simpa using herr

/-- The end of the cycle keeps the state or raises the radio fault. -/
theorem stateAfter_eq : stateAfter c s i =
    if packetFailed c s i = true ∧ (consecutiveFailuresAfter c s i).toNat ≥ radioFailureLimit
    then .radioError else stateAtBuild s i := by
  unfold stateAfter failsafeAfter failsafeGetState
  split_ifs
  · rfl
  · rfl

/-- A state other than the radio fault at the end of a cycle is the state of its packet. -/
theorem stateAtBuild_of_stateAfter {state : SystemState} (h : stateAfter c s i = state)
    (hne : state ≠ .radioError) : stateAtBuild s i = state := by
  rw [stateAfter_eq] at h
  split_ifs at h
  · exact absurd h.symm hne
  · exact h

/-- The end of the cycle leaves the bind time. -/
theorem bindStart_failsafeAfter : (failsafeAfter c s i).bindStart =
    if s.failsafe.currentState = .locked ∧ stateAtBuild s i = .binding then i.cycleStartUs
    else s.failsafe.bindStart := by
  have hafter : (failsafeAfter c s i).bindStart = (failsafeUpdated s i).bindStart := by
    unfold failsafeAfter failsafeAtBuild failsafeReportRadioError failsafeCompletePrearm
      failsafeCancelPrearm
    split_ifs <;> rfl
  have hbinding : stateAtBuild s i = .binding ↔ (failsafeUpdated s i).currentState = .binding :=
    stateAtBuild_eq_iff_updated (by simp) (by simp) (by simp)
  rw [hafter, failsafeUpdated, failsafeUpdateAt_bindStart]
  exact if_congr (and_congr_right fun _ => hbinding.symm) rfl rfl

/-! ### The telemetry module -/

/-- Only an accepted packet changes the telemetry module. -/
theorem telemetryAfter_eq : telemetryAfter c s i =
    telemetryFeed s.telemetry (acceptedPacket c s i).toList := by
  unfold telemetryAfter acceptedPacket
  cases servedPacket c s i with
  | none => rfl
  | some r =>
    cases h : bayangCheckTelemetry r.packet with
    | false =>
      rw [Option.filter_some_neg (by rw [telemetryParse_fst, h])]
      exact congrArg Prod.snd (telemetryParse_of_invalid h)
    | true =>
      rw [Option.filter_some_pos (by rw [telemetryParse_fst, h])]
      rfl

theorem check_of_acceptedPacket {r : Reception} (h : acceptedPacket c s i = some r) :
    bayangCheckTelemetry r.packet = true := by
  rw [acceptedPacket, Option.filter_eq_some_iff, telemetryParse_fst] at h
  exact h.2

theorem mem_of_receiveLoop {deadline : ℤ} {polls : List RxPoll} {poll : RxPoll}
    (h : receiveLoop deadline polls = some poll) : poll ∈ polls := by
  induction polls with
  | nil => simp [receiveLoop] at h
  | cons head polls ih =>
    rw [receiveLoop] at h
    split_ifs at h
    · obtain rfl := Option.some.inj h
      exact List.mem_cons_self
    · exact List.mem_cons_of_mem _ (ih h)

/-- An accepted packet was read in a turn of the receive loop, which stamped it. -/
theorem mem_rxPolls_of_acceptedPacket {r : Reception} (h : acceptedPacket c s i = some r) :
    ∃ poll ∈ i.rxPolls, poll.receivedUs = r.receivedUs := by
  have hserved : servedPacket c s i = some r := Option.eq_some_of_filter_eq_some h
  unfold servedPacket at hserved
  cases hpoll : servedPoll c s i with
  | none => simp [hpoll] at hserved
  | some poll =>
    simp only [hpoll, Option.map_eq_some_iff] at hserved
    obtain ⟨packet, -, rfl⟩ := hserved
    unfold servedPoll at hpoll
    split_ifs at hpoll
    exact ⟨poll, mem_of_receiveLoop hpoll, rfl⟩

end Cycle

/-- The packets accepted before cycle `n`, in order. -/
def acceptedBefore (c : Setup) (ins : ℕ → CycleInput) : ℕ → List Reception
  | 0 => []
  | n + 1 => acceptedBefore c ins n ++ (loopOutput c ins n).accepted.toList

section Run

variable (c : Setup) (ins : ℕ → CycleInput)

/-- **The telemetry of a run** is what the packets accepted so far say. -/
theorem telemetry_loopState (n : ℕ) :
    (loopState c ins n).telemetry = telemetryFeed telemetryInit (acceptedBefore c ins n) := by
  induction n with
  | zero => rfl
  | succ n ih =>
    have hstep : (loopState c ins (n + 1)).telemetry =
        telemetryAfter c (loopState c ins n) (ins n) := rfl
    rw [hstep, telemetryAfter_eq, ih, acceptedBefore, telemetryFeed, telemetryFeed, telemetryFeed,
      List.foldl_append]
    rfl

theorem failsafeAtStart_of_initialized {c : Setup} (h : c.radioInitialized = true) :
    (failsafeAtStart c).currentState = .waitGamepad := by
  simp [failsafeAtStart, h, failsafeInit, xn297SetRxAddress, nrf24PayloadLengthValid,
    bayangPacketSize]

theorem failsafeAtStart_of_not_initialized {c : Setup} (h : c.radioInitialized = false) :
    (failsafeAtStart c).currentState = .radioError := by
  simp [failsafeAtStart, h, failsafeReportRadioError]

/-- A run starts waiting for the gamepad, or in the fault. -/
theorem systemState_zero (c : Setup) (ins : ℕ → CycleInput) :
    systemState c ins 0 = .waitGamepad ∨ systemState c ins 0 = .radioError := by
  cases h : c.radioInitialized with
  | true => exact .inl (failsafeAtStart_of_initialized h)
  | false => exact .inr (failsafeAtStart_of_not_initialized h)

/-- The loop's bookkeeping: the boot state is over, and `previous_state` is the state. -/
theorem loopState_inv (n : ℕ) :
    systemState c ins n ≠ .boot ∧ (loopState c ins n).previousState = systemState c ins n := by
  refine InputRun.run_invariant (P := fun s : LoopState =>
    s.failsafe.currentState ≠ .boot ∧ s.previousState = s.failsafe.currentState) ?_ ?_ n
  · refine ⟨fun h => ?_, rfl⟩
    rcases systemState_zero c ins with hstart | hstart <;> cases h.symm.trans hstart
  · rintro s i ⟨hboot, -⟩
    refine ⟨fun h => hboot ?_, rfl⟩
    exact stateAtBuild_eq_boot_iff.1 (stateAtBuild_of_stateAfter h (by simp))

end Run

end SilverwareTx
