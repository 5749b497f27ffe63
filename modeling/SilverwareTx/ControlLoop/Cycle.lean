import SilverwareTx.Gamepad.ControlMapping
import SilverwareTx.Radio.Xn297
import SilverwareTx.Safety.PrearmGuard
import SilverwareTx.Storage.Settings
import SilverwareTx.Telemetry.PcTelemetryState

/-!
# One cycle of the control loop (`app_main.cpp`)

`controlCycle` is the body of the `for (;;)` of `control_radio_task`, for the build that exports PC
telemetry. What the cycle reads is its `CycleInput`: the gamepad snapshot, every clock value, what
the radio and the storage answer. The values the body computes on its way have a definition each, in
the order of the source; `LoopState` is what lives across cycles, `CycleOutput` what a cycle does.

Console events, log texts and `next_status_us` are left out; nothing reads them back. What the cycle
publishes for the LED and the buzzer is `cycleTransitions`, in `ControlLoop.Feedback`.
-/

namespace SilverwareTx

/-- What `setup` leaves and the loop never changes. -/
structure Setup where
  txId : Vector U8 5
  radioInitialized : Bool
  /-- The stored AUX byte at start. -/
  storedAux : Option U8
  /-- `gamepad_get_bayang_channel` -/
  channelMap : ChannelMap

/-- `RadioStats`, the counters of the control loop. -/
structure RadioStats where
  txPackets : U32 := 0
  txFailures : U32 := 0
  telemetryAccepted : U32 := 0
  telemetryRejected : U32 := 0
  deadlineMisses : U32 := 0
  deriving DecidableEq

/-- The modules' statics and the locals of `control_radio_task` that live across cycles. -/
structure LoopState where
  failsafe : FailsafeModule
  telemetry : TelemetryModule
  storedAux : Option U8
  channelIndex : Fin 4 := 0
  consecutiveTxFailures : U8 := 0
  stats : RadioStats := {}
  previousButtons : ButtonEdgeState := {}
  auxState : NfeSilverwareAuxState
  gesturePlayer : NfeSilverwareGesturePlayer := {}
  previousState : SystemState
  prearmStartedUs : ℤ := 0
  nextLocalStateUs : ℤ := 0

/-- One turn of the receive loop: the clock, the IRQ pin, `STATUS`, the receive time and what
`nrf24_read_payload` decodes to. -/
structure RxPoll where
  nowUs : ℤ
  irqAsserted : Bool
  status : U8
  receivedUs : ℤ
  payload : Option Packet

/-- What a cycle reads. A list of polls ends where the clock runs past the loop's limit. -/
structure CycleInput where
  cycleStartUs : ℤ
  controls : ControlState := {}
  auxWriteOk : Bool := true
  nrf24WriteOk : Bool := true
  txStartUs : ℤ := 0
  /-- The clock and `STATUS` in each turn of the loop of `transmit_packet`. -/
  txPolls : List (ℤ × U8) := []
  rxPolls : List RxPoll := []
  cycleEndUs : ℤ := 0
  exportQueueDrops : U32 := 0

/-- A packet on the air. -/
structure Transmission where
  packet : Packet
  address : Vector U8 5
  rfChannel : U8
  bindingPacket : Bool
  deriving DecidableEq

/-- A call of one of the two publishing functions. -/
inductive ExportRequest
  | bayang (packet : Packet) (timestampUs : ℤ) (overlaySavedFlightConfig : Bool) (savedAuxFlags : U8)
  | localState (state : PcTelemetryLocalState) (timestampUs : ℤ)

/-- What a cycle does. -/
structure CycleOutput where
  edges : ButtonEdges
  /-- The state when the packet is built. -/
  state : SystemState
  transmission : Option Transmission
  /-- Whether `transmit_packet` succeeded. -/
  sent : Bool
  accepted : Option Reception
  exports : List ExportRequest

/-! ### Control states -/

/-- `neutral_control`: centered sticks without throttle. -/
def neutralControl : BayangControlState where
  roll := 512
  pitch := 512
  yaw := 512
  throttle := 0

/-- `gesture_request`: with R3 held, the first shortcut in this order. -/
def gestureRequest (controls : ControlState) : NfeSilverwareGesture :=
  if !controls.btnR3 then .none
  else if controls.btnDPadDown then .save
  else if controls.btnDPadUp then .toggleBindStorage
  else if controls.btnDPadLeft then .toggleLowVoltageLanding
  else if controls.btnDPadRight then .toggleFeature1
  else if controls.btnA then .togglePropsDirection
  else if controls.btnB then .stickTravelOff
  else if controls.btnX then .stickTravelOn
  else if controls.btnY then .nextPidTerm
  else if controls.btnL3 then .nextPidAxis
  else if controls.btnRB then .increasePid
  else if controls.btnLB then .decreasePid
  else .none

/-- Locked gestures can move roll and pitch, but throttle and CH5 remain off. -/
def lockedControl (channelMap : ChannelMap) (controls : ControlState)
    (automaticGesture : NfeSilverwareGestureOutput) : BayangControlState :=
  let manualGesture := controls.connected && controls.btnL3
  if !automaticGesture.active && !manualGesture then nfeSilverwareMakeLockedControl false 512 512
  else
    let roll :=
      if automaticGesture.active then automaticGesture.roll
      else channelMap controls.rollRaw.toInt false rollReversed stickDeadband rollExpo
    let pitch :=
      if automaticGesture.active then automaticGesture.pitch
      else channelMap controls.pitchRaw.toInt false pitchReversed stickDeadband pitchExpo
    nfeSilverwareMakeLockedControl true roll pitch

/-- `active_control`: the mapped sticks, with the AUX selections. -/
def activeControl (channelMap : ChannelMap) (controls : ControlState)
    (auxState : NfeSilverwareAuxState) : BayangControlState :=
  nfeSilverwareApplyMultiAux
    { roll := channelMap controls.rollRaw.toInt false rollReversed stickDeadband rollExpo
      pitch := channelMap controls.pitchRaw.toInt false pitchReversed stickDeadband pitchExpo
      yaw := channelMap controls.yawRaw.toInt false yawReversed stickDeadband yawExpo
      throttle := channelMap controls.throttleRaw.toNat true false 0 0 }
    true auxState

/-- `prearm_control`: centered sticks without throttle, with the AUX selections. -/
def prearmControl (auxState : NfeSilverwareAuxState) : BayangControlState :=
  nfeSilverwareApplyMultiAux { roll := 512, pitch := 512, yaw := 512, throttle := 0 } false auxState

/-! ### The transmit and the receive loop -/

/-- The loop of `transmit_packet`. -/
def transmitLoop (startUs : ℤ) : List (ℤ × U8) → Bool
  | [] => false
  | (nowUs, status) :: polls =>
    if nowUs - startUs ≤ radioTxTimeoutUs then
      match xn297DecodeTxStatus status with
      | .sent => true
      | .error => false
      | .pending => transmitLoop startUs polls
    else false

/-- The result of `transmit_packet`. -/
def transmitPacket (i : CycleInput) : Bool :=
  if !xn297WritePayload bayangPacketSize i.nrf24WriteOk then false
  else transmitLoop i.txStartUs i.txPolls

/-- The receive loop: the turn in which a payload was ready, if any was before the deadline. -/
def receiveLoop (receiveDeadlineUs : ℤ) : List RxPoll → Option RxPoll
  | [] => none
  | poll :: polls =>
    if poll.nowUs < receiveDeadlineUs then
      if poll.irqAsserted && xn297IsRxReady poll.status then some poll
      else receiveLoop receiveDeadlineUs polls
    else none

/-! ### The cycle, up to the packet -/

section Cycle

variable (c : Setup) (s : LoopState) (i : CycleInput)

/-- `edges`: the buttons that went down since the cycle before. -/
def cycleEdges : ButtonEdges :=
  (detectButtonEdges s.previousButtons i.controls.btnStart i.controls.btnView i.controls.btnB).1

/-- `throttle_idle`: a raw throttle up to `ARM_THROTTLE_MAX`. -/
def throttleIdle : Bool := decide (i.controls.throttleRaw.toNat ≤ armThrottleMax)

/-- The module after `failsafe_update_at`. -/
def failsafeUpdated : FailsafeModule :=
  let edges := cycleEdges s i
  let beforeUpdate := failsafeGetState s.failsafe
  failsafeUpdateAt s.failsafe i.cycleStartUs i.controls.connected i.controls.lastUpdateUs
    (throttleIdle i) edges.startClicked edges.viewClicked
    (edges.bClicked ||
      (edges.startClicked && (beforeUpdate = .active || beforeUpdate = .prearmMode)))

/-- `prearm_started_us` after the update. -/
def prearmStarted : ℤ :=
  if failsafeGetState s.failsafe ≠ .prearmMode ∧
      failsafeGetState (failsafeUpdated s i) = .prearmMode then i.cycleStartUs
  else s.prearmStartedUs

/-- `prearm_configuration_confirmed`, of the telemetry as the cycle begins. -/
def prearmConfirmed : Bool :=
  prearmConfigurationConfirmed (telemetryGetSnapshot s.telemetry i.cycleStartUs) s.auxState
    (prearmStarted s i)

/-- The module when the packet is built. -/
def failsafeAtBuild : FailsafeModule :=
  if failsafeGetState (failsafeUpdated s i) = .prearmMode then
    if prearmConfirmed s i then failsafeCompletePrearm (failsafeUpdated s i)
    else if i.cycleStartUs - prearmStarted s i ≥ prearmModeTimeoutUs then
      failsafeCancelPrearm (failsafeUpdated s i)
    else failsafeUpdated s i
  else failsafeUpdated s i

/-- `state` when the packet is built. -/
def stateAtBuild : SystemState := failsafeGetState (failsafeAtBuild s i)

/-- `channel_index` after the check for the end of binding. -/
def channelAtBuild : Fin 4 :=
  if s.previousState = .binding ∧ stateAtBuild s i ≠ .binding then 0 else s.channelIndex

/-- `aux_state` when the packet is built: only an armed cycle changes it. -/
def auxAtBuild : NfeSilverwareAuxState :=
  nfeSilverwareUpdateAux s.auxState (stateAtBuild s i = .active) i.controls.btnA i.controls.btnX
    i.controls.btnY i.controls.btnRB i.controls.btnLB

/-- The stored AUX byte: a change of the flags is saved. -/
def storedAuxAtBuild : Option U8 :=
  let currentAuxFlags := nfeSilverwareAuxFlags (auxAtBuild s i)
  if currentAuxFlags ≠ nfeSilverwareAuxFlags s.auxState then
    (saveAuxFlagsTo s.storedAux i.auxWriteOk currentAuxFlags).2
  else s.storedAux

/-- The automatic gesture and the player after it. -/
def gestureAtBuild : NfeSilverwareGestureOutput × NfeSilverwareGesturePlayer :=
  if stateAtBuild s i = .locked then
    nfeSilverwareUpdateGesture s.gesturePlayer (gestureRequest i.controls) i.cycleStartUs
  else ({}, nfeSilverwareCancelGesture s.gesturePlayer)

/-- The control state of a data packet. -/
def controlAtBuild : BayangControlState :=
  match stateAtBuild s i with
  | .active => activeControl c.channelMap i.controls (auxAtBuild s i)
  | .prearmMode => prearmControl (auxAtBuild s i)
  | .locked => lockedControl c.channelMap i.controls (gestureAtBuild s i).1
  | _ => neutralControl

/-- The packet of the cycle with its address and channel. -/
def transmission : Option Transmission :=
  let bayang := bayangInit c.txId
  if stateAtBuild s i = .binding then
    some {
      packet := bayangBuildBindPacket bayang
        (bayangSelectBindHeader bayangEnableTelemetry bayangEnableAnalogAux)
      address := #v[0, 0, 0, 0, 0]
      rfChannel := 0
      bindingPacket := true }
  else if stateAtBuild s i ≠ .radioError then
    some {
      packet := bayangBuildDataPacket bayang (controlAtBuild c s i)
      address := c.txId
      rfChannel := bayang.hoppingChannels.get (channelAtBuild s i)
      bindingPacket := false }
  else none

/-! ### The cycle, from the packet on -/

/-- Whether a packet was transmitted with success. -/
def packetSent : Bool := (transmission c s i).isSome && transmitPacket i

/-- Whether a packet was transmitted without success. -/
def packetFailed : Bool := (transmission c s i).isSome && !transmitPacket i

/-- The turn of the receive loop that serves a payload; only a data packet is answered. -/
def servedPoll : Option RxPoll :=
  if packetSent c s i && !(stateAtBuild s i = .binding) then
    receiveLoop (i.cycleStartUs + telemetryRxDeadlineUs) i.rxPolls
  else none

/-- What the served turn hands to `telemetry_parse`. -/
def servedPacket : Option Reception :=
  match servedPoll c s i with
  | none => none
  | some poll =>
    (xn297ReadPayload bayangPacketSize poll.payload).map fun packet => ⟨packet, poll.receivedUs⟩

/-- The packet that `telemetry_parse` accepted. -/
def acceptedPacket : Option Reception :=
  (servedPacket c s i).filter fun r => (telemetryParse s.telemetry r.packet r.receivedUs).1

/-- The telemetry module after the packets of the cycle. -/
def telemetryAfter : TelemetryModule :=
  match servedPacket c s i with
  | none => s.telemetry
  | some r => (telemetryParse s.telemetry r.packet r.receivedUs).2

/-- `consecutive_tx_failures` after the transmission. -/
def consecutiveFailuresAfter : U8 :=
  if packetSent c s i then 0
  else if packetFailed c s i then s.consecutiveTxFailures + 1
  else s.consecutiveTxFailures

/-- The module at the end of the cycle: the limit of failures is a radio error. -/
def failsafeAfter : FailsafeModule :=
  if packetFailed c s i ∧ (consecutiveFailuresAfter c s i).toNat ≥ radioFailureLimit then
    failsafeReportRadioError (failsafeAtBuild s i)
  else failsafeAtBuild s i

/-- `state` at the end of the cycle. -/
def stateAfter : SystemState := failsafeGetState (failsafeAfter c s i)

/-- `if (condition) ++counter` -/
def countIf (condition : Bool) (counter : U32) : U32 := if condition then counter + 1 else counter

/-- `stats` as the cycle ends. -/
def statsAfter : RadioStats where
  txPackets := countIf (transmission c s i).isSome s.stats.txPackets
  txFailures := countIf (packetFailed c s i) s.stats.txFailures
  telemetryAccepted := countIf (acceptedPacket c s i).isSome s.stats.telemetryAccepted
  telemetryRejected :=
    countIf ((servedPoll c s i).isSome && !(acceptedPacket c s i).isSome) s.stats.telemetryRejected
  deadlineMisses :=
    countIf (i.cycleEndUs - i.cycleStartUs > controlLoopPeriodMs * 1000) s.stats.deadlineMisses

/-- `channel_index` after the cycle: a data packet moves it on. -/
def channelAfter : Fin 4 :=
  if stateAtBuild s i ≠ .binding ∧ stateAtBuild s i ≠ .radioError then channelAtBuild s i + 1
  else channelAtBuild s i

/-- The export of an accepted packet. -/
def bayangExport : List ExportRequest :=
  match acceptedPacket c s i with
  | none => []
  | some r =>
    let showSavedFlightConfig := stateAtBuild s i = .locked || stateAtBuild s i = .waitGamepad ||
      stateAtBuild s i = .gamepadFailsafe
    [.bayang r.packet r.receivedUs showSavedFlightConfig (nfeSilverwareAuxFlags (auxAtBuild s i))]

/-- The export of the local state, when it is due. -/
def localStateExport : List ExportRequest :=
  if (pcTelemetryLocalStateDue i.cycleEndUs s.nextLocalStateUs).1 then
    let stats := statsAfter c s i
    [.localState
      (pcTelemetryMakeLocalState {
        nowUs := i.cycleEndUs
        systemState := stateAfter c s i
        controls := i.controls
        auxState := auxAtBuild s i
        radioInitialized := c.radioInitialized
        consecutiveTxFailures := consecutiveFailuresAfter c s i
        nextHoppingChannelIndex := BitVec.ofNat 8 (channelAfter s i).val
        telemetry := telemetryGetSnapshot (telemetryAfter c s i) i.cycleEndUs
        txPackets := stats.txPackets
        txFailures := stats.txFailures
        telemetryAccepted := stats.telemetryAccepted
        telemetryRejected := stats.telemetryRejected
        deadlineMisses := stats.deadlineMisses
        exportQueueDrops := i.exportQueueDrops })
      i.cycleEndUs]
  else []

/-- What the cycle does. -/
def cycleOutput : CycleOutput where
  edges := cycleEdges s i
  state := stateAtBuild s i
  transmission := transmission c s i
  sent := packetSent c s i
  accepted := acceptedPacket c s i
  exports := bayangExport c s i ++ localStateExport c s i

/-- The body of the loop. -/
def controlCycle : LoopState where
  failsafe := failsafeAfter c s i
  telemetry := telemetryAfter c s i
  storedAux := storedAuxAtBuild s i
  channelIndex := channelAfter s i
  consecutiveTxFailures := consecutiveFailuresAfter c s i
  stats := statsAfter c s i
  previousButtons :=
    (detectButtonEdges s.previousButtons i.controls.btnStart i.controls.btnView i.controls.btnB).2
  auxState := auxAtBuild s i
  gesturePlayer := (gestureAtBuild s i).2
  previousState := stateAfter c s i
  prearmStartedUs := prearmStarted s i
  nextLocalStateUs := (pcTelemetryLocalStateDue i.cycleEndUs s.nextLocalStateUs).2

end Cycle

/-! ### The start of the task -/

/-- The failsafe module that the prologue of the task leaves: without a working radio the fault is
raised at once. -/
def failsafeAtStart (c : Setup) : FailsafeModule :=
  let failsafe := failsafeInit {}
  if !c.radioInitialized then failsafeReportRadioError failsafe
  else if bayangEnableTelemetry && !xn297SetRxAddress bayangPacketSize then
    failsafeReportRadioError failsafe
  else failsafe

/-- The state before the first cycle. -/
def startState (c : Setup) : LoopState where
  failsafe := failsafeAtStart c
  telemetry := telemetryInit
  storedAux := c.storedAux
  auxState :=
    match loadAuxFlagsFrom c.storedAux with
    | none => {}
    | some flags => nfeSilverwareRestoreAux flags
  previousState := failsafeGetState (failsafeAtStart c)

end SilverwareTx
