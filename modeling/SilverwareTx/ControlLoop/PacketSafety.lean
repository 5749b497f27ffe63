import SilverwareTx.ControlLoop.Run
import SilverwareTx.Telemetry.History

/-!
# What the packets of a run can command

`controlAtBuild_*` say what control state each state puts in a packet, `confirmed_spec` what a
confirmed pre-arm rests on. Together: only the armed state commands thrust
(`thrust_only_when_armed`).
-/

namespace SilverwareTx

/-! ### Confirmations -/

theorem check_of_mem_acceptedBefore {c : Setup} {ins : ℕ → CycleInput} {n : ℕ} {r : Reception}
    (h : r ∈ acceptedBefore c ins n) : bayangCheckTelemetry r.packet = true := by
  induction n with
  | zero => simp [acceptedBefore] at h
  | succ n ih =>
    rw [acceptedBefore, List.mem_append, Option.mem_toList] at h
    rcases h with h | h
    · exact ih h
    · exact check_of_acceptedPacket h

/-- A confirmation in cycle `n` rests on packets accepted before the cycle and stamped after the
start of the pre-arm: the last one, and for an extended one the last flight page too, which reports
the selections. -/
theorem confirmed_spec {c : Setup} {ins : ℕ → CycleInput} {n : ℕ}
    (h : prearmConfirmed (loopState c ins n) (ins n) = true) :
    ∃ r, (acceptedBefore c ins n).getLast? = some r ∧
      prearmStarted (loopState c ins n) (ins n) < r.receivedUs ∧
      (packetProtocol r.packet = .extendedV1 →
        flagSet (r.packet.byte 1) 0x20 = false ∧
        ∃ f, lastFlightPage (acceptedBefore c ins n) = some f ∧
          prearmStarted (loopState c ins n) (ins n) < f.receivedUs ∧
          decodeFlightMode (f.packet.byte 13) = selectedFlightMode (loopState c ins n).auxState ∧
          flagSet (f.packet.byte 13) 0x40 = (loopState c ins n).auxState.pidProfile) := by
  have hvalid : ∀ r ∈ acceptedBefore c ins n, bayangCheckTelemetry r.packet = true :=
    fun r hr => check_of_mem_acceptedBefore hr
  rw [prearmConfirmed, telemetry_loopState, prearmConfigurationConfirmed_iff] at h
  obtain ⟨hfresh, hlast, hext⟩ := h
  have hhas : (telemetryFeed telemetryInit (acceptedBefore c ins n)).hasTelemetry = true :=
    hasTelemetry_of_fresh hfresh
  rw [telemetryGetSnapshot_data] at hlast hext
  obtain ⟨r, hr, hstamp, hprotocol, harmed⟩ := telemetryFeed_stamp hvalid hhas
  refine ⟨r, hr, hstamp ▸ hlast, fun hre => ?_⟩
  obtain ⟨hpage, hdisarmed, hmode, hprofile⟩ := hext (hprotocol.trans hre)
  refine ⟨(harmed hre).symm.trans hdisarmed, ?_⟩
  obtain ⟨f, hf, hstatus⟩ :=
    flightPage_of_flightMode hvalid (hmode ▸ selectedFlightMode_ne_unknown _)
  simp only [TelemetryData.flightStatus, Prod.mk.injEq] at hstatus
  obtain ⟨hfmode, hfprofile, hftime⟩ := hstatus
  exact ⟨f, hf, hftime ▸ hpage, hfmode ▸ hmode, hfprofile ▸ hprofile⟩

/-! ### The control state of a packet -/

section Control

variable {c : Setup} {s : LoopState} {i : CycleInput}

theorem controlAtBuild_of_locked (h : stateAtBuild s i = .locked) :
    ∃ enabled roll pitch,
      controlAtBuild c s i = nfeSilverwareMakeLockedControl enabled roll pitch := by
  rw [controlAtBuild, h]
  simp only [lockedControl]
  split_ifs
  · exact ⟨_, _, _, rfl⟩
  · exact ⟨_, _, _, rfl⟩
  · exact ⟨_, _, _, rfl⟩

theorem controlAtBuild_of_prearmMode (h : stateAtBuild s i = .prearmMode) :
    controlAtBuild c s i = prearmControl (auxAtBuild s i) := by
  rw [controlAtBuild, h]

theorem controlAtBuild_of_active (h : stateAtBuild s i = .active) :
    controlAtBuild c s i = activeControl c.channelMap i.controls (auxAtBuild s i) := by
  rw [controlAtBuild, h]

theorem controlAtBuild_of_neutral (ha : stateAtBuild s i ≠ .active)
    (hl : stateAtBuild s i ≠ .locked) (hp : stateAtBuild s i ≠ .prearmMode) :
    controlAtBuild c s i = neutralControl := by
  rw [controlAtBuild]
  split <;> simp_all

/-- Only the armed state sets CH5 or a throttle. -/
theorem controlAtBuild_safe (h : stateAtBuild s i ≠ .active) :
    (controlAtBuild c s i).auxFlip = false ∧ (controlAtBuild c s i).throttle = 0 := by
  by_cases hl : stateAtBuild s i = .locked
  · obtain ⟨enabled, roll, pitch, hcontrol⟩ := controlAtBuild_of_locked (c := c) hl
    rw [hcontrol]
    exact ⟨rfl, rfl⟩
  · by_cases hp : stateAtBuild s i = .prearmMode
    · rw [controlAtBuild_of_prearmMode hp]
      exact ⟨rfl, rfl⟩
    · rw [controlAtBuild_of_neutral h hl hp]
      exact ⟨rfl, rfl⟩

/-- The packet of a cycle outside binding is the data packet of its control state. -/
theorem packet_of_transmission {tx : Transmission} (htx : transmission c s i = some tx)
    (h : stateAtBuild s i ≠ .binding) :
    tx.packet = bayangBuildDataPacket (bayangInit c.txId) (controlAtBuild c s i) := by
  unfold transmission at htx
  rw [if_neg h] at htx
  split_ifs at htx
  obtain rfl := Option.some.inj htx
  rfl

theorem packet_of_binding {tx : Transmission} (htx : transmission c s i = some tx)
    (h : stateAtBuild s i = .binding) :
    tx.packet = bayangBuildBindPacket (bayangInit c.txId) bayangBindA3 := by
  unfold transmission at htx
  rw [if_pos h] at htx
  obtain rfl := Option.some.inj htx
  rfl

end Control

/-! ### The safety of a run's packets -/

/-- A data packet that sets CH5 or has a throttle. -/
def commandsThrust (packet : Packet) : Prop :=
  packet.byte 0 = bayangData ∧
    (flagSet (packet.byte 2) bayangFlagFlip = true ∨ packetThrottle packet ≠ 0)

/-- Throttle and both flag bytes are zero. -/
def noCommand (packet : Packet) : Prop :=
  packetThrottle packet = 0 ∧ packet.byte 2 = 0 ∧ packet.byte 3 = 0

/-- Roll, pitch and yaw are at the centre. -/
def sticksCentred (packet : Packet) : Prop :=
  packetRoll packet = 512 ∧ packetPitch packet = 512 ∧ packetYaw packet = 512

theorem noCommand_bayangBuildDataPacket {b : BayangModule} {state : BayangControlState}
    (ht : state.throttle = 0) (h2 : dataFlags2 state = 0) (h3 : dataFlags3 state = 0) :
    noCommand (bayangBuildDataPacket b state) := by
  refine ⟨?_, ?_, ?_⟩
  · rw [packetThrottle_bayangBuildDataPacket, ht]
    rfl
  · rw [bayangBuildDataPacket_flags2, h2]
  · rw [bayangBuildDataPacket_flags3, h3]

theorem sticksCentred_bayangBuildDataPacket {b : BayangModule} {state : BayangControlState}
    (hr : state.roll = 512) (hp : state.pitch = 512) (hy : state.yaw = 512) :
    sticksCentred (bayangBuildDataPacket b state) := by
  refine ⟨?_, ?_, ?_⟩
  · rw [packetRoll_bayangBuildDataPacket, hr]
    rfl
  · rw [packetPitch_bayangBuildDataPacket, hp]
    rfl
  · rw [packetYaw_bayangBuildDataPacket, hy]
    rfl

theorem not_commandsThrust_of_not_active {c : Setup} {s : LoopState} {i : CycleInput}
    {tx : Transmission} (htx : transmission c s i = some tx) (h : stateAtBuild s i ≠ .active) :
    ¬ commandsThrust tx.packet := by
  rintro ⟨hdata, hthrust⟩
  by_cases hbind : stateAtBuild s i = .binding
  · rw [packet_of_binding htx hbind, bayangBuildBindPacket, setChecksum_get (by omega)] at hdata
    exact absurd hdata (by decide : ¬ bayangBindA3 = bayangData)
  · obtain ⟨hflip, hthrottle⟩ := controlAtBuild_safe (c := c) h
    rw [packet_of_transmission htx hbind, bayangBuildDataPacket_flags2, (flagSet_dataFlags2 _).1,
      packetThrottle_bayangBuildDataPacket, hflip, hthrottle] at hthrust
    simp at hthrust

/-- An armed cycle sets CH5. -/
theorem commandsThrust_of_active {c : Setup} {s : LoopState} {i : CycleInput}
    {tx : Transmission} (htx : transmission c s i = some tx) (h : stateAtBuild s i = .active) :
    commandsThrust tx.packet := by
  rw [packet_of_transmission htx (by simp [h]), controlAtBuild_of_active h]
  refine ⟨bayangBuildDataPacket_header _ _, .inl ?_⟩
  rw [bayangBuildDataPacket_flags2, (flagSet_dataFlags2 _).1]
  rfl

/-- A B or Start edge in an armed cycle: the cycle itself went from `LOCKED` through the pre-arm, on
a packet stamped after its start. -/
theorem edge_of_active {c : Setup} {ins : ℕ → CycleInput} {n : ℕ}
    (h : stateAtBuild (loopState c ins n) (ins n) = .active)
    (hedge : (cycleEdges (loopState c ins n) (ins n)).bClicked = true ∨
      (cycleEdges (loopState c ins n) (ins n)).startClicked = true) :
    systemState c ins n = .locked ∧
      (cycleEdges (loopState c ins n) (ins n)).startClicked = true ∧
      ∃ r, (acceptedBefore c ins n).getLast? = some r ∧ (ins n).cycleStartUs < r.receivedUs := by
  have hclear : ¬ ((cycleEdges (loopState c ins n) (ins n)).bClicked = false ∧
      (cycleEdges (loopState c ins n) (ins n)).startClicked = false) := by
    rintro ⟨hb, hs⟩
    rw [hb, hs] at hedge
    simp at hedge
  rcases stateAtBuild_eq_active_iff.1 h with ⟨-, -, hedges⟩ | ⟨hprearm, hconfirmed⟩
  · exact absurd hedges hclear
  · rcases (failsafeUpdated_eq_prearmMode_iff.1 hprearm).2.2 with
      ⟨-, hedges⟩ | ⟨hlocked, hstart, -⟩
    · exact absurd hedges hclear
    · obtain ⟨r, hr, hstamp, -⟩ := confirmed_spec hconfirmed
      have hstarted : prearmStarted (loopState c ins n) (ins n) = (ins n).cycleStartUs := by
        refine if_pos ⟨?_, hprearm⟩
        rw [failsafeGetState, hlocked]
        simp
      exact ⟨hlocked, hstart, r, hr, hstarted ▸ hstamp⟩

/-- The gamepad of an armed cycle is live. -/
theorem live_of_active {s : LoopState} {i : CycleInput} (h : stateAtBuild s i = .active) :
    gamepadLive i := by
  rcases stateAtBuild_eq_active_iff.1 h with ⟨-, hlive, -⟩ | ⟨hprearm, -⟩
  · exact hlive
  · exact (failsafeUpdated_eq_prearmMode_iff.1 hprearm).1

/-- A packet that commands thrust is built in `ACTIVE`. -/
theorem active_of_commandsThrust {c : Setup} {s : LoopState} {i : CycleInput} {tx : Transmission}
    (htx : transmission c s i = some tx) (hthrust : commandsThrust tx.packet) :
    stateAtBuild s i = .active := by
  by_contra hne
  exact not_commandsThrust_of_not_active htx hne hthrust

/-- **Only the armed state commands thrust.** In every run, a packet with CH5 or a throttle comes
from a cycle in `ACTIVE` with a live gamepad and no B or Start edge, unless the cycle itself went
from `LOCKED` to `ACTIVE` on a packet stamped after its start; and the packets of the other states
carry no command. -/
theorem thrust_only_when_armed (c : Setup) (ins : ℕ → CycleInput) (n : ℕ) (tx : Transmission)
    (htx : (loopOutput c ins n).transmission = some tx) :
    (commandsThrust tx.packet →
      (loopOutput c ins n).state = .active ∧ gamepadLive (ins n) ∧
        ((loopOutput c ins n).edges.bClicked = true ∨
            (loopOutput c ins n).edges.startClicked = true →
          systemState c ins n = .locked ∧ (loopOutput c ins n).edges.startClicked = true ∧
            ∃ r, (acceptedBefore c ins n).getLast? = some r ∧
              (ins n).cycleStartUs < r.receivedUs)) ∧
    ((loopOutput c ins n).state = .waitGamepad ∨ (loopOutput c ins n).state = .gamepadFailsafe →
      sticksCentred tx.packet ∧ noCommand tx.packet) ∧
    ((loopOutput c ins n).state = .locked → packetYaw tx.packet = 512 ∧ noCommand tx.packet) ∧
    ((loopOutput c ins n).state = .prearmMode →
      sticksCentred tx.packet ∧ packetThrottle tx.packet = 0 ∧
        flagSet (tx.packet.byte 2) bayangFlagFlip = false ∧
        flagSet (tx.packet.byte 3) bayangFlagTakeOff = false ∧
        flagSet (tx.packet.byte 3) bayangFlagEmgStop = false) := by
  set s := loopState c ins n with hs
  set i := ins n with hi
  have hstate : (loopOutput c ins n).state = stateAtBuild s i := rfl
  have htx' : transmission c s i = some tx := htx
  rw [hstate]
  refine ⟨fun hthrust => ?_, fun hwait => ?_, fun hlocked => ?_, fun hprearm => ?_⟩
  · have hactive : stateAtBuild s i = .active := active_of_commandsThrust htx' hthrust
    exact ⟨hactive, live_of_active hactive, edge_of_active hactive⟩
  · have hbind : stateAtBuild s i ≠ .binding := by rcases hwait with h | h <;> simp [h]
    -- both waiting states send the neutral control
    have hneutral : controlAtBuild c s i = neutralControl := by
      refine controlAtBuild_of_neutral ?_ ?_ ?_ <;> rcases hwait with h | h <;> simp [h]
    rw [packet_of_transmission htx' hbind, hneutral]
    exact ⟨sticksCentred_bayangBuildDataPacket rfl rfl rfl,
      noCommand_bayangBuildDataPacket rfl rfl rfl⟩
  · obtain ⟨enabled, roll, pitch, hcontrol⟩ := controlAtBuild_of_locked (c := c) hlocked
    rw [packet_of_transmission htx' (by simp [hlocked]), hcontrol]
    refine ⟨packetYaw_bayangBuildDataPacket _ _, noCommand_bayangBuildDataPacket rfl ?_ ?_⟩
    · simp [dataFlags2, nfeSilverwareMakeLockedControl]
    · simp [dataFlags3, nfeSilverwareMakeLockedControl]
  · rw [packet_of_transmission htx' (by simp [hprearm]), controlAtBuild_of_prearmMode hprearm]
    rw [bayangBuildDataPacket_flags2, bayangBuildDataPacket_flags3]
    exact ⟨sticksCentred_bayangBuildDataPacket rfl rfl rfl,
      packetThrottle_bayangBuildDataPacket _ _, (flagSet_dataFlags2 _).1,
      (flagSet_dataFlags3 _).1, (flagSet_dataFlags3 _).2.2⟩

/-- A transmitter with a working radio and nothing stored. -/
def sampleSetup : Setup where
  txId := #v[1, 2, 3, 4, 5]
  radioInitialized := true
  storedAux := none
  channelMap := mapBayangChannel

/-- A cycle with a live gamepad, the throttle at idle and a packet that is sent. -/
def sampleCycle (startUs : ℤ) (btnStart : Bool) (rxPolls : List RxPoll) : CycleInput where
  cycleStartUs := startUs
  controls := { connected := true, lastUpdateUs := startUs, btnStart := btnStart }
  txStartUs := startUs
  txPolls := [(startUs, 0x20)]
  rxPolls := rxPolls
  cycleEndUs := startUs + 4000

/-- A legacy telemetry packet. -/
def sampleLegacy : Packet := #v[0x85, 0, 0, 0, 0, 0, 0, 0, 0, 0, 0, 0, 0, 0, 0x85]

/-- A flight page of a disarmed controller in acro mode. -/
def sampleFlightPage : Packet := #v[0x86, 0x40, 0, 0, 0, 0, 0, 0, 0, 0, 0, 0, 0, 0, 0xC6]

/-- Start in cycle 1, and a flight page in that cycle. -/
def sampleFlight (n : ℕ) : CycleInput :=
  sampleCycle (5000 * n) (n = 1)
    (if n = 1 then [⟨6000, true, 0x40, 6000, some sampleFlightPage⟩] else [])

/-- Cycle 2 of that flight is armed. -/
theorem thrust_only_when_armed_sampleFlight : ∃ tx,
    (loopOutput sampleSetup sampleFlight 2).transmission = some tx ∧ commandsThrust tx.packet ∧
      (loopOutput sampleSetup sampleFlight 2).state = .active ∧ gamepadLive (sampleFlight 2) := by
  obtain ⟨tx, htx⟩ := Option.isSome_iff_exists.1
    (show (loopOutput sampleSetup sampleFlight 2).transmission.isSome = true by decide)
  have hactive : (loopOutput sampleSetup sampleFlight 2).state = .active := by decide
  have hthrust : commandsThrust tx.packet :=
    commandsThrust_of_active (c := sampleSetup) (s := loopState sampleSetup sampleFlight 2)
      (i := sampleFlight 2) htx hactive
  have hsafe := (thrust_only_when_armed sampleSetup sampleFlight 2 tx htx).1 hthrust
  exact ⟨tx, htx, hthrust, hsafe.1, hsafe.2.1⟩

/-- A legacy packet stamped after the start of the next cycle, and Start in that cycle. -/
def stampedLate : ℕ → CycleInput
  | 0 => sampleCycle 0 false [⟨1000, true, 0x40, 2000000, some sampleLegacy⟩]
  | _ => sampleCycle 1000000 true []

/-- Arming in one cycle: the armed cycle has a Start edge. -/
theorem start_edge_while_armed :
    ¬ ∀ (c : Setup) (ins : ℕ → CycleInput) (n : ℕ) (tx : Transmission),
      (loopOutput c ins n).transmission = some tx → commandsThrust tx.packet →
      (loopOutput c ins n).state = .active ∧ gamepadLive (ins n) ∧
        (loopOutput c ins n).edges.bClicked = false ∧
        (loopOutput c ins n).edges.startClicked = false := by
  intro h
  have hactive : stateAtBuild (loopState sampleSetup stampedLate 1) (stampedLate 1) = .active := by
    decide
  obtain ⟨tx, htx⟩ := Option.isSome_iff_exists.1
    (show (loopOutput sampleSetup stampedLate 1).transmission.isSome = true by decide)
  have hthrust : commandsThrust tx.packet :=
    commandsThrust_of_active (c := sampleSetup) (s := loopState sampleSetup stampedLate 1)
      (i := stampedLate 1) htx hactive
  have hedge := (h sampleSetup stampedLate 1 tx htx hthrust).2.2.2
  revert hedge
  decide

end SilverwareTx
