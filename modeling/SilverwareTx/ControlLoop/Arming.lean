import SilverwareTx.ControlLoop.PacketSafety

/-!
# Arming

* `arming_interlock`: with a clock that does not go back, a run reaches `ACTIVE` only through a
  pre-arm that a Start press began, that nothing interrupted and that telemetry received since
  confirmed;
* `armed_selections_iff`: when the packet of the arming cycle carries the confirmed selections.
-/

namespace SilverwareTx

/-- The clock does not go back: cycles start in order, and an accepted packet is stamped between the
start of its cycle and the start of the next. -/
structure MonotoneClock (c : Setup) (ins : ℕ → CycleInput) : Prop where
  start_le_succ : ∀ n, (ins n).cycleStartUs ≤ (ins (n + 1)).cycleStartUs
  start_le_received : ∀ n r, (loopOutput c ins n).accepted = some r →
    (ins n).cycleStartUs ≤ r.receivedUs
  received_le_next : ∀ n r, (loopOutput c ins n).accepted = some r →
    r.receivedUs ≤ (ins (n + 1)).cycleStartUs

theorem mem_acceptedBefore_iff {c : Setup} {ins : ℕ → CycleInput} {n : ℕ} {r : Reception} :
    r ∈ acceptedBefore c ins n ↔ ∃ k < n, (loopOutput c ins k).accepted = some r := by
  induction n with
  | zero => simp [acceptedBefore]
  | succ n ih =>
    rw [acceptedBefore, List.mem_append, ih, Option.mem_toList]
    constructor
    · rintro (⟨k, hk, hr⟩ | hr)
      · exact ⟨k, by omega, hr⟩
      · exact ⟨n, by omega, hr⟩
    · rintro ⟨k, hk, hr⟩
      rcases Nat.lt_or_eq_of_le (Nat.le_of_lt_succ hk) with hlt | rfl
      · exact .inl ⟨k, hlt, hr⟩
      · exact .inr hr

section Clock

variable {c : Setup} {ins : ℕ → CycleInput}

theorem MonotoneClock.start_le (hclock : MonotoneClock c ins) {j k : ℕ} (hjk : j ≤ k) :
    (ins j).cycleStartUs ≤ (ins k).cycleStartUs :=
  monotone_nat_of_le_succ (f := fun n => (ins n).cycleStartUs) hclock.start_le_succ hjk

/-- A packet accepted before cycle `n` and stamped after the start of cycle `m` was accepted in a
cycle from `m` on. -/
theorem MonotoneClock.accepted_since (hclock : MonotoneClock c ins) {m n : ℕ} {r : Reception}
    (hr : r ∈ acceptedBefore c ins n) (hstamp : (ins m).cycleStartUs < r.receivedUs) :
    ∃ k, m ≤ k ∧ k < n ∧ (loopOutput c ins k).accepted = some r := by
  obtain ⟨k, hkn, hk⟩ := mem_acceptedBefore_iff.1 hr
  refine ⟨k, ?_, hkn, hk⟩
  by_contra hlt
  have hnext := hclock.received_le_next k r hk
  have hle := hclock.start_le (show k + 1 ≤ m by omega)
  omega

end Clock

/-! ### The interlock -/

/-- What precedes cycle `n` when it enters `ACTIVE`: the pre-arm that began in cycle `m`. -/
structure Interlock (c : Setup) (ins : ℕ → CycleInput) (m n : ℕ) : Prop where
  earlier : m < n
  /-- Cycle `m` went from `LOCKED` to `PREARM_MODE` on a Start edge. -/
  begun : systemState c ins m = .locked ∧ (loopOutput c ins m).state = .prearmMode ∧
    (loopOutput c ins m).edges.startClicked = true
  /-- The throttle stayed at idle and the gamepad live. -/
  idle : ∀ j, m ≤ j → j ≤ n → (ins j).controls.throttleRaw.toNat ≤ 10 ∧ gamepadLive (ins j)
  /-- Neither Start nor B was pressed since. -/
  untouched : ∀ j, m < j → j ≤ n →
    (loopOutput c ins j).edges.startClicked = false ∧ (loopOutput c ins j).edges.bClicked = false
  /-- Every cycle from `m` on ended in `PREARM_MODE`. -/
  uninterrupted : ∀ j, m ≤ j → j < n → systemState c ins (j + 1) = .prearmMode
  /-- A telemetry packet was accepted since; if the last one is extended it reports disarmed, and
  the most recent flight page was accepted since too and reports the selections. -/
  confirmed : ∃ k r, m ≤ k ∧ k < n ∧ (loopOutput c ins k).accepted = some r ∧
    bayangCheckTelemetry r.packet = true ∧ (acceptedBefore c ins n).getLast? = some r ∧
    (ins m).cycleStartUs < r.receivedUs ∧
    (packetProtocol r.packet = .extendedV1 →
      flagSet (r.packet.byte 1) 0x20 = false ∧
      ∃ k' f, m ≤ k' ∧ k' < n ∧ (loopOutput c ins k').accepted = some f ∧
        lastFlightPage (acceptedBefore c ins n) = some f ∧ (ins m).cycleStartUs < f.receivedUs ∧
        decodeFlightMode (f.packet.byte 13) = selectedFlightMode (loopState c ins n).auxState ∧
        flagSet (f.packet.byte 13) 0x40 = (loopState c ins n).auxState.pidProfile)

section Interlock

variable {c : Setup} {ins : ℕ → CycleInput} {m n : ℕ}

/-- The start time of a pre-arm is kept while the pre-arm lasts. -/
theorem prearmStarted_since (hm : systemState c ins m ≠ .prearmMode)
    (hafter : ∀ j, m < j → j ≤ n → systemState c ins j = .prearmMode) {j : ℕ} (hmj : m < j)
    (hjn : j ≤ n) : (loopState c ins j).prearmStartedUs = (ins m).cycleStartUs := by
  induction j, hmj using Nat.le_induction with
  | base =>
    have hbuild : stateAtBuild (loopState c ins m) (ins m) = .prearmMode :=
      stateAtBuild_of_stateAfter (hafter (m + 1) (by omega) hjn) (by simp)
    exact if_pos ⟨hm, (stateAtBuild_eq_prearmMode_iff.1 hbuild).1⟩
  | succ j hmj ih =>
    have hj := hafter j hmj (by omega)
    exact (if_neg (not_and_of_not_left _ (not_not.2 hj))).trans (ih (by omega))

/-- The cycle that enters `ACTIVE` was already in `PREARM_MODE` before. -/
theorem systemState_of_arming (hclock : MonotoneClock c ins)
    (hprearm : (failsafeUpdated (loopState c ins n) (ins n)).currentState = .prearmMode)
    (hconfirmed : prearmConfirmed (loopState c ins n) (ins n) = true) :
    systemState c ins n = .prearmMode := by
  by_contra hne
  have hstarted : prearmStarted (loopState c ins n) (ins n) = (ins n).cycleStartUs :=
    if_pos ⟨hne, hprearm⟩
  obtain ⟨r, hr, hstamp, -⟩ := confirmed_spec hconfirmed
  obtain ⟨k, hnk, hkn, -⟩ :=
    hclock.accepted_since (List.mem_of_getLast? hr) (hstarted ▸ hstamp)
  omega

end Interlock

/-- **The arming interlock.** With a clock that does not go back, a cycle that enters `ACTIVE` is
the end of one pre-arm; what ended outside `PREARM_MODE` came before it. -/
theorem arming_interlock (c : Setup) (ins : ℕ → CycleInput) (hclock : MonotoneClock c ins) (n : ℕ)
    (hbefore : systemState c ins n ≠ .active) (hactive : (loopOutput c ins n).state = .active) :
    ∃ m, Interlock c ins m n ∧ ∀ d < n, systemState c ins (d + 1) ≠ .prearmMode → d < m := by
  obtain ⟨hupdated, hconfirmed⟩ :
      (failsafeUpdated (loopState c ins n) (ins n)).currentState = .prearmMode ∧
        prearmConfirmed (loopState c ins n) (ins n) = true := by
    rcases stateAtBuild_eq_active_iff.1 hactive with ⟨h, -⟩ | h
    · exact absurd h hbefore
    · exact h
  have hn := systemState_of_arming hclock hupdated hconfirmed
  have hstart : systemState c ins 0 ≠ .prearmMode := by
    rcases systemState_zero c ins with h | h <;> simp [h]
  -- `m` is the cycle that entered `PREARM_MODE` last
  obtain ⟨m, -, hmn, hm, hafter⟩ := InputRun.exists_last_entry
    (P := fun j => systemState c ins j = .prearmMode) (Nat.zero_le n) hstart hn
  have hbuild : ∀ j, m ≤ j → j < n →
      stateAtBuild (loopState c ins j) (ins j) = .prearmMode := fun j hmj hjn =>
    stateAtBuild_of_stateAfter (hafter (j + 1) (by omega) (by omega)) (by simp)
  have hcycle : ∀ j, m ≤ j → j ≤ n →
      (failsafeUpdated (loopState c ins j) (ins j)).currentState = .prearmMode := by
    intro j hmj hjn
    rcases Nat.lt_or_eq_of_le hjn with hlt | rfl
    · exact (stateAtBuild_eq_prearmMode_iff.1 (hbuild j hmj hlt)).1
    · exact hupdated
  have hstarted : prearmStarted (loopState c ins n) (ins n) = (ins m).cycleStartUs :=
    (if_neg (not_and_of_not_left _ (not_not.2 hn))).trans
      (prearmStarted_since hm hafter hmn le_rfl)
  refine ⟨m, ⟨hmn, ?_, ?_, ?_, ?_, ?_⟩, ?_⟩
  · obtain ⟨-, -, hcase⟩ := failsafeUpdated_eq_prearmMode_iff.1 (hcycle m le_rfl hmn.le)
    rcases hcase with ⟨h, -⟩ | ⟨hlocked, hclick, -⟩
    · exact absurd h hm
    · exact ⟨hlocked, hbuild m le_rfl hmn, hclick⟩
  · intro j hmj hjn
    obtain ⟨hlive, hidle, -⟩ := failsafeUpdated_eq_prearmMode_iff.1 (hcycle j hmj hjn)
    exact ⟨hidle, hlive⟩
  · intro j hmj hjn
    obtain ⟨-, -, hcase⟩ := failsafeUpdated_eq_prearmMode_iff.1 (hcycle j hmj.le hjn)
    rcases hcase with ⟨-, hb, hs⟩ | ⟨hlocked, -⟩
    · exact ⟨hs, hb⟩
    · have hj : systemState c ins j = .prearmMode := hafter j hmj hjn
      rw [systemState, hlocked] at hj
      exact SystemState.noConfusion hj
  · exact fun j hmj hjn => hafter (j + 1) (by omega) (by omega)
  -- the clock makes a stamp after the entry the stamp of a cycle after it
  · obtain ⟨r, hr, hstamp, hext⟩ := confirmed_spec hconfirmed
    rw [hstarted] at hstamp hext
    have hmem := List.mem_of_getLast? hr
    obtain ⟨k, hmk, hkn, hk⟩ := hclock.accepted_since hmem hstamp
    refine ⟨k, r, hmk, hkn, hk, check_of_mem_acceptedBefore hmem, hr, hstamp, fun hre => ?_⟩
    obtain ⟨hdisarmed, f, hf, hfstamp, hmode, hprofile⟩ := hext hre
    obtain ⟨k', hmk', hkn', hk'⟩ := hclock.accepted_since (mem_of_lastFlightPage hf) hfstamp
    exact ⟨hdisarmed, k', f, hmk', hkn', hk', hf, hfstamp, hmode, hprofile⟩
  · intro d hdn hd
    by_contra hmd
    exact hd (hafter (d + 1) (by omega) (by omega))

theorem monotoneClock_sampleFlight : MonotoneClock sampleSetup sampleFlight := by
  have hreceived : ∀ n r, (loopOutput sampleSetup sampleFlight n).accepted = some r →
      n = 1 ∧ r.receivedUs = 6000 := by
    intro n r hr
    obtain ⟨poll, hmem, hstamp⟩ := mem_rxPolls_of_acceptedPacket hr
    simp only [sampleFlight, sampleCycle] at hmem
    split_ifs at hmem with hn
    · simp only [List.mem_singleton] at hmem
      subst hmem
      exact ⟨hn, hstamp.symm⟩
    · simp at hmem
  refine ⟨fun n => ?_, fun n r hr => ?_, fun n r hr => ?_⟩
  · simp only [sampleFlight, sampleCycle]
    omega
  · obtain ⟨rfl, hstamp⟩ := hreceived n r hr
    rw [hstamp]
    decide
  · obtain ⟨rfl, hstamp⟩ := hreceived n r hr
    rw [hstamp]
    decide

/-- The flight arms in cycle 2, after the pre-arm of cycle 1. -/
theorem arming_interlock_sampleFlight : ∃ m, Interlock sampleSetup sampleFlight m 2 ∧
    ∀ d < 2, systemState sampleSetup sampleFlight (d + 1) ≠ .prearmMode → d < m :=
  arming_interlock sampleSetup sampleFlight monotoneClock_sampleFlight 2 (by decide) (by decide)

/-! ### The selections of the arming cycle -/

/-- The selections that a data packet carries on CH6 to CH10. -/
def carriesSelections (packet : Packet) (auxState : NfeSilverwareAuxState) : Prop :=
  flagSet (packet.byte 2) bayangFlagRth = auxState.levelMode ∧
  flagSet (packet.byte 2) bayangFlagPicture = auxState.raceMode ∧
  flagSet (packet.byte 2) bayangFlagVideo = auxState.horizonMode ∧
  flagSet (packet.byte 2) bayangFlagHeadless = auxState.pidProfile ∧
  flagSet (packet.byte 3) bayangFlagInverted = auxState.leds

/-- No AUX button is down whose bit in the history of the last active cycle is clear. -/
def noFreshToggle (auxState : NfeSilverwareAuxState) (controls : ControlState) : Prop :=
  ¬ (controls.btnA = true ∧ auxState.previousA = false) ∧
  ¬ (controls.btnX = true ∧ auxState.previousX = false) ∧
  ¬ (controls.btnY = true ∧ auxState.previousY = false) ∧
  ¬ (controls.btnRB = true ∧ auxState.previousRB = false) ∧
  ¬ (controls.btnLB = true ∧ auxState.previousLB = false)

/-- The cycle goes from `PREARM_MODE` to `ACTIVE`. -/
def armsInCycle (s : LoopState) (i : CycleInput) : Prop :=
  (failsafeUpdated s i).currentState = .prearmMode ∧ stateAtBuild s i = .active

theorem carriesSelections_of_active {c : Setup} {s : LoopState} {i : CycleInput} {tx : Transmission}
    (htx : transmission c s i = some tx) (h : stateAtBuild s i = .active) :
    carriesSelections tx.packet (auxAtBuild s i) := by
  have hcontrol := controlAtBuild_of_active (c := c) h
  obtain ⟨-, hrth, hheadless, hpicture, hvideo⟩ := flagSet_dataFlags2 (controlAtBuild c s i)
  obtain ⟨-, hinverted, -⟩ := flagSet_dataFlags3 (controlAtBuild c s i)
  rw [packet_of_transmission htx (by simp [h])]
  unfold carriesSelections
  rw [bayangBuildDataPacket_flags2, bayangBuildDataPacket_flags3, hrth, hheadless, hpicture, hvideo,
    hinverted, hcontrol]
  exact ⟨rfl, rfl, rfl, rfl, rfl⟩

/-- Two selections that one packet carries are the same. -/
theorem carriesSelections_iff {packet : Packet} {aux aux' : NfeSilverwareAuxState}
    (h : carriesSelections packet aux) : carriesSelections packet aux' ↔
      aux.levelMode = aux'.levelMode ∧ aux.raceMode = aux'.raceMode ∧
        aux.horizonMode = aux'.horizonMode ∧ aux.pidProfile = aux'.pidProfile ∧
        aux.leds = aux'.leds := by
  obtain ⟨hlevel, hrace, hhorizon, hprofile, hleds⟩ := h
  rw [carriesSelections, hlevel, hrace, hhorizon, hprofile, hleds]

/-- **The confirmed selections.** In every run, the packet of a cycle that goes from `PREARM_MODE`
to `ACTIVE` carries the selections the confirmation was given for exactly when the cycle has no
fresh toggle. -/
theorem armed_selections_iff (c : Setup) (ins : ℕ → CycleInput) (n : ℕ)
    (harms : armsInCycle (loopState c ins n) (ins n)) (tx : Transmission)
    (htx : (loopOutput c ins n).transmission = some tx) :
    carriesSelections tx.packet (loopState c ins n).auxState ↔
      noFreshToggle (loopState c ins n).auxState (ins n).controls := by
  obtain ⟨-, hactive⟩ := harms
  rw [carriesSelections_iff (carriesSelections_of_active htx hactive), auxAtBuild, hactive]
  simp only [nfeSilverwareUpdateAux, decide_true, Bool.not_true, Bool.false_eq_true, if_false,
    toggleOnRisingEdge_eq_iff, noFreshToggle]

theorem armed_selections_iff_sampleFlight : ∃ tx,
    (loopOutput sampleSetup sampleFlight 2).transmission = some tx ∧
      (carriesSelections tx.packet (loopState sampleSetup sampleFlight 2).auxState ↔
        noFreshToggle (loopState sampleSetup sampleFlight 2).auxState (sampleFlight 2).controls) := by
  obtain ⟨tx, htx⟩ := Option.isSome_iff_exists.1
    (show (loopOutput sampleSetup sampleFlight 2).transmission.isSome = true by decide)
  exact ⟨tx, htx, armed_selections_iff sampleSetup sampleFlight 2 ⟨by decide, by decide⟩ tx htx⟩

/-- The sample flight with X held down from the start. -/
def heldX (n : ℕ) : CycleInput :=
  { sampleFlight n with controls := { (sampleFlight n).controls with btnX := true } }

/-- With X held down the armed packet carries race mode, which was not confirmed. -/
theorem unconfirmed_race_mode :
    ¬ ∀ (c : Setup) (ins : ℕ → CycleInput) (n : ℕ),
      armsInCycle (loopState c ins n) (ins n) → ∀ tx,
      (loopOutput c ins n).transmission = some tx →
      carriesSelections tx.packet (loopState c ins n).auxState := by
  intro h
  obtain ⟨tx, htx⟩ := Option.isSome_iff_exists.1
    (show (loopOutput sampleSetup heldX 2).transmission.isSome = true by decide)
  have hactive : stateAtBuild (loopState sampleSetup heldX 2) (heldX 2) = .active := by decide
  have hcarried := carriesSelections_of_active (c := sampleSetup)
    (s := loopState sampleSetup heldX 2) (i := heldX 2) htx hactive
  have hrace := ((carriesSelections_iff hcarried).1
    (h sampleSetup heldX 2 ⟨by decide, hactive⟩ tx htx)).2.1
  revert hrace
  decide

end SilverwareTx
