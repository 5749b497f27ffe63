import SilverwareTx.Gamepad.ControlMapping
import SilverwareTx.Safety.Failsafe
import SilverwareTx.Telemetry.PcTelemetryProtocol
import SilverwareTx.Telemetry.Telemetry

/-!
# The local state message (`telemetry/pc_telemetry_state.cpp`)
-/

namespace SilverwareTx

/-- `PC_TELEMETRY_LOCAL_STATE_PERIOD_US` -/
def pcTelemetryLocalStatePeriodUs : ℤ := 50000

/-- `PC_TELEMETRY_AGE_NEVER` -/
def pcTelemetryAgeNever : U16 := 0xFFFF

/-- `PC_TELEMETRY_AGE_MAX` -/
def pcTelemetryAgeMax : U16 := 0xFFFE

/-- The wire value of a `SystemState`. -/
def SystemState.wire : SystemState → U8
  | .boot => 0
  | .waitGamepad => 1
  | .binding => 2
  | .locked => 3
  | .active => 4
  | .gamepadFailsafe => 5
  | .radioError => 6
  | .prearmMode => 7

/-- `PcTelemetryLocalStateInput` -/
structure PcTelemetryLocalStateInput where
  nowUs : ℤ
  systemState : SystemState
  controls : ControlState
  auxState : NfeSilverwareAuxState
  radioInitialized : Bool
  consecutiveTxFailures : U8
  nextHoppingChannelIndex : U8
  telemetry : TelemetrySnapshot
  txPackets : U32
  txFailures : U32
  telemetryAccepted : U32
  telemetryRejected : U32
  deadlineMisses : U32
  exportQueueDrops : U32

/-- `elapsed_age_ms`: an age in whole milliseconds. -/
def elapsedAgeMs (ageUs : ℤ) (hasUpdate : Bool) : U16 :=
  if !hasUpdate then pcTelemetryAgeNever
  else
    let ageUs := if ageUs < 0 then 0 else ageUs
    let milliseconds := ageUs.toNat / 1000
    if milliseconds > pcTelemetryAgeMax.toNat then pcTelemetryAgeMax else BitVec.ofNat 16 milliseconds

/-- `age_ms`: the age of an update in whole milliseconds. -/
def ageMs (nowUs updateUs : ℤ) (hasUpdate : Bool) : U16 := elapsedAgeMs (nowUs - updateUs) hasUpdate

/-- A flag word with bit `i` set when the `i`-th condition holds. -/
def flagWord (w : ℕ) (conditions : List Bool) : BitVec w :=
  (conditions.mapIdx fun i condition => if condition then 1#w <<< i else 0).foldl (· ||| ·) 0

/-- `button_flags`, bits 0 to 13. -/
def buttonFlags (controls : ControlState) : U16 :=
  flagWord 16 [controls.btnA, controls.btnB, controls.btnX, controls.btnY, controls.btnLB,
    controls.btnRB, controls.btnL3, controls.btnR3, controls.btnStart, controls.btnView,
    controls.btnDPadUp, controls.btnDPadDown, controls.btnDPadLeft, controls.btnDPadRight]

/-- `aux_flags`, bits 0 to 4. -/
def auxFlags (aux : NfeSilverwareAuxState) : U8 :=
  flagWord 8 [aux.levelMode, aux.raceMode, aux.horizonMode, aux.pidProfile, aux.leds]

/-- `status_flags`, bits 0 to 10. -/
def statusFlags (input : PcTelemetryLocalStateInput) (gamepadAge : U16) : U16 :=
  let gamepadFresh := input.controls.connected && decide (gamepadAge ≠ pcTelemetryAgeNever) &&
    decide ((gamepadAge.toNat : ℤ) ≤ gamepadTimeoutMs)
  flagWord 16 [input.controls.connected, gamepadFresh, input.systemState ≠ .active,
    input.systemState = .active, input.systemState = .binding, input.systemState = .gamepadFailsafe,
    input.systemState = .radioError, input.radioInitialized, input.telemetry.freshness ≠ .never,
    input.telemetry.freshness = .fresh, input.telemetry.freshness = .stale]

/-- `pc_telemetry_make_local_state` -/
def pcTelemetryMakeLocalState (input : PcTelemetryLocalStateInput) : PcTelemetryLocalState :=
  let gamepadAge :=
    ageMs input.nowUs input.controls.lastUpdateUs (input.controls.lastUpdateUs > 0)
  let telemetryAge := elapsedAgeMs input.telemetry.ageUs (input.telemetry.freshness ≠ .never)
  { systemState := input.systemState.wire
    statusFlags := statusFlags input gamepadAge
    buttons := buttonFlags input.controls
    auxModes := auxFlags input.auxState
    consecutiveTxFailures := input.consecutiveTxFailures
    nextHoppingChannelIndex := input.nextHoppingChannelIndex &&& 0x03
    rollRaw := input.controls.rollRaw
    pitchRaw := input.controls.pitchRaw
    yawRaw := input.controls.yawRaw
    throttleRaw := input.controls.throttleRaw
    gamepadAgeMs := gamepadAge
    fcTelemetryAgeMs := telemetryAge
    txPackets := input.txPackets
    txFailures := input.txFailures
    telemetryAccepted := input.telemetryAccepted
    telemetryRejected := input.telemetryRejected
    deadlineMisses := input.deadlineMisses
    exportQueueDrops := input.exportQueueDrops }

/-- `pc_telemetry_local_state_due`: its result and the new `*next_publish_us`. -/
def pcTelemetryLocalStateDue (nowUs nextPublishUs : ℤ) : Bool × ℤ :=
  if nowUs < nextPublishUs then (false, nextPublishUs)
  else (true, nowUs + pcTelemetryLocalStatePeriodUs)

end SilverwareTx
