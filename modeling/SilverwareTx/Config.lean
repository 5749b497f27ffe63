import Mathlib.Tactic

/-!
# Compile-time configuration (`config.h`)
-/

namespace SilverwareTx

/-- `BAYANG_ENABLE_TELEMETRY` -/
def bayangEnableTelemetry : Bool := true

/-- `BAYANG_ENABLE_ANALOG_AUX` -/
def bayangEnableAnalogAux : Bool := false

/-- `ROLL_REVERSED`: whether the roll stick is turned around. -/
def rollReversed : Bool := false

/-- `PITCH_REVERSED`: whether the pitch stick is turned around. -/
def pitchReversed : Bool := false

/-- `YAW_REVERSED`: whether the yaw stick is turned around. -/
def yawReversed : Bool := false

/-- `STICK_DEADBAND`: the share of the travel around the center that reads as centered. -/
def stickDeadband : ℚ := 5 / 100

/-- `ROLL_EXPO`: the share of the cubic curve on roll. -/
def rollExpo : ℚ := 0

/-- `PITCH_EXPO`: the share of the cubic curve on pitch. -/
def pitchExpo : ℚ := 0

/-- `YAW_EXPO`: the share of the cubic curve on yaw. -/
def yawExpo : ℚ := 0

/-- `GAMEPAD_TIMEOUT_MS`: how old the last report of the gamepad may be. -/
def gamepadTimeoutMs : ℤ := 500

/-- `TELEMETRY_TIMEOUT_MS`: how old the last telemetry may be. -/
def telemetryTimeoutMs : ℤ := 500

/-- `RADIO_TX_TIMEOUT_US`: how long a transmission may take. -/
def radioTxTimeoutUs : ℤ := 1000

/-- `RADIO_FAILURE_LIMIT`: the failures in a row that are a fault. -/
def radioFailureLimit : ℕ := 3

/-- `CONTROL_LOOP_PERIOD_MS`: the period that a cycle should keep. -/
def controlLoopPeriodMs : ℤ := 5

/-- `ARM_THROTTLE_MAX`: the raw throttle that still counts as idle. -/
def armThrottleMax : ℕ := 10

/-- `BIND_DURATION_US`: how long binding lasts. -/
def bindDurationUs : ℤ := 2000000

/-- `PREARM_MODE_TIMEOUT_US`: how long the confirmation of the mode may take. -/
def prearmModeTimeoutUs : ℤ := 2000000

/-- `TELEMETRY_RX_DEADLINE_US`: the time in a cycle from which it no longer receives. -/
def telemetryRxDeadlineUs : ℤ := 4400

end SilverwareTx
