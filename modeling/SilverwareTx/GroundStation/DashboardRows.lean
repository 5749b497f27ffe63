import Mathlib.Data.Int.Bitwise
import SilverwareTx.GroundStation.HealthEvents
import SilverwareTx.GroundStation.Visualizer
import SilverwareTx.Lib.NumberText

/-!
# The rows of the panels (`Dashboard._flight_rows` to `_telemetry_rows` in
`tools/ground_station/ground_station.py`)

The texts that the dashboard shows of a model. Clock values and the floats of the telemetry are
exact numbers.
-/

namespace SilverwareTx.GroundStation

open NumberText

/-- `SYSTEM_STATES`: the names of the transmitter's states. -/
def systemStates : List (ℤ × String) :=
  [(0, "BOOT"), (1, "WAIT GAMEPAD"), (2, "BINDING"), (3, "LOCKED"), (4, "ACTIVE"),
    (5, "GAMEPAD FAILSAFE"), (6, "RADIO ERROR"), (7, "PREARM MODE")]

/-- `STATUS_FLAGS`: the names of the bits of `status_flags`. -/
def statusFlags : List String :=
  ["GAMEPAD CONNECTED", "GAMEPAD FRESH", "SAFETY LOCKED", "CONTROL ENABLED", "BINDING",
    "GAMEPAD FAILSAFE", "RADIO ERROR", "RADIO INITIALIZED", "FC TELEMETRY SEEN",
    "FC TELEMETRY FRESH", "FC TELEMETRY STALE"]

/-- `BUTTON_NAMES`: the names of the bits of `buttons`. -/
def buttonNames : List String :=
  ["A", "B", "X", "Y", "LB", "RB", "L3", "R3", "Start", "View", "D-pad Up", "D-pad Down",
    "D-pad Left", "D-pad Right"]

/-- `AUX_NAMES`: the names of the AUX selections. -/
def auxNames : List String := ["Level", "Race", "Horizon", "PID 2", "LEDs"]

/-- `PAGE_NAMES`: the names of the pages. -/
def pageNames : List String := ["A/control", "B/flight", "C/power", "D/system"]

/-- The value of `FcTelemetry.protocol`. -/
def FcProtocol.name : FcProtocol → String
  | .never => "Never"
  | .original => "Original"
  | .extendedV1 => "Extended V1"

/-- The values of `FcTelemetry.flight_mode`. -/
def flightModeName : FlightMode → String
  | .unknown => "Unknown"
  | .acro => "Acro"
  | .level => "Level"
  | .race => "Race"
  | .horizon => "Horizon"
  | .raceHorizon => "RaceHorizon"

/-! ### Texts -/

/-- `", ".join(texts)`, or `"none"` -/
def joinNames (texts : List (List Char)) : List Char :=
  if texts = [] then "none".toList else ", ".toList.intercalate texts

/-- `set_names`: the names of the bits that are set. -/
def setNames (value : ℤ) (names : List String) : List Char :=
  joinNames ((names.zipIdx.filter fun name => value.testBit name.2).map fun name => name.1.toList)

/-- `age_text` -/
def ageText (value : ℤ) : List Char :=
  if value = 0xFFFF then "never".toList else intText value ++ " ms".toList

/-- `flight_time_text` -/
def flightTimeText (seconds : ℕ) : List Char :=
  padLeft 2 '0' (natText (seconds / 3600)) ++ [':'] ++
    padLeft 2 '0' (natText (seconds / 60 % 60)) ++ [':'] ++ padLeft 2 '0' (natText (seconds % 60))

/-- `monotonic_age_text` -/
def monotonicAgeText (lastAt : Option ℚ) (now : ℚ) : List Char :=
  match lastAt with
  | none => "never".toList
  | some lastAt =>
    let age := max 0 (now - lastAt)
    if age < 1 then fixedText 0 (age * 1000) ++ " ms".toList
    else if age < 60 then fixedText 1 age ++ " s".toList
    else fixedText 1 (age / 60) ++ " min".toList

/-- The loop of `human_bytes`. -/
def humanBytesLoop (amount : ℚ) : List String → List Char
  | [] => fixedText 1 amount ++ " TiB".toList
  | unit :: units =>
    if amount < 1024 ∨ unit = "TiB" then
      fixedText (if unit = "B" ∨ unit = "KiB" then 0 else 1) amount ++ [' '] ++ unit.toList
    else humanBytesLoop (amount / 1024) units

/-- `human_bytes` -/
def humanBytes (value : ℤ) : List Char :=
  humanBytesLoop (Double.roundDouble (max 0 value : ℤ)) ["B", "KiB", "MiB", "GiB", "TiB"]

/-- The format `7.nf`. -/
def number7 (decimals : ℕ) (x : Scaled) : List Char := padLeft 7 ' ' (fixedText decimals x.value)

/-- `"YES"` or `"NO"`. -/
def yesNo (value : Bool) : List Char := (if value then "YES" else "NO").toList

namespace Dashboard

/-- Three numbers with their letters. -/
def triple (letters : String × String × String) (decimals : ℕ) (x y z : Scaled) : List Char :=
  letters.1.toList ++ [' '] ++ number7 decimals x ++ "   ".toList ++ letters.2.1.toList ++ [' '] ++
    number7 decimals y ++ "   ".toList ++ letters.2.2.toList ++ [' '] ++ number7 decimals z

/-- The row of the PID terms. -/
def pidRow (fc : FcTelemetry) : List Char :=
  field "PID P / I / D"
    (natText fc.pidP ++ " / ".toList ++ natText fc.pidI ++ " / ".toList ++ natText fc.pidD)

/-- The row of the battery alarm. -/
def lowVoltageRow (self : Dashboard) (fc : FcTelemetry) : List Char :=
  field "Low voltage" (self.boolText fc.lowVoltage "ACTIVE" "clear" true)

/-- `_flight_rows` -/
def flightRows (self : Dashboard) (fc : FcTelemetry) : List (List Char) :=
  match fc.protocol with
  | .never => ["Waiting for the first flight-controller telemetry packet...".toList]
  | .original =>
    ["Original Bayang telemetry does not include attitude/control pages.".toList,
      self.lowVoltageRow fc,
      pidRow fc]
  | .extendedV1 =>
    [field "Mode / profile"
        ((flightModeName fc.flightMode).toList ++ " / PID ".toList ++
          natText (if fc.pidProfile then 2 else 1)),
      field "Armed / failsafe"
        (yesNo fc.armed ++ " / ".toList ++ self.boolText fc.failsafe "YES" "NO" true),
      field "Ground / idle-up" (yesNo fc.onGround ++ " / ".toList ++ yesNo fc.idleUp),
      field "Flight time" (flightTimeText fc.flightTimeSeconds),
      [],
      field "Attitude deg" (triple ("R", "P", "Y") 1 fc.rollDeg fc.pitchDeg fc.relativeYawDeg),
      field "Gyro deg/s" (triple ("R", "P", "Y") 0 fc.gyroRollDps fc.gyroPitchDps fc.gyroYawDps),
      field "Setpoint deg/s"
        (triple ("R", "P", "Y") 0 fc.setpointRollDps fc.setpointPitchDps fc.setpointYawDps),
      field "Accel g" (triple ("X", "Y", "Z") 3 fc.accelXG fc.accelYG fc.accelZG)]

/-- `_power_rows` -/
def powerRows (self : Dashboard) (fc : FcTelemetry) : List (List Char) :=
  if fc.protocol = .never then ["No FC power/link telemetry received yet.".toList]
  else
    [field "Battery raw" (fixedText 3 fc.batteryRawV.value ++ " V".toList),
      field "Battery comp" (fixedText 3 fc.batteryCompensatedV.value ++ " V".toList),
      self.lowVoltageRow fc,
      field "RX packet rate" (natText fc.receiverPacketsPerSecond ++ " /s".toList)] ++
    if fc.protocol ≠ .original then
      [field "Lost packet rate" (natText fc.packetsLostPerSecond ++ " /s".toList),
        field "Link quality" (natText fc.linkQualityPercent ++ " %".toList),
        field "RX gap current" (fixedText 1 fc.currentRxGapMs.value ++ " ms".toList),
        field "RX gap maximum" (fixedText 1 fc.maximumRxGapMs.value ++ " ms".toList),
        field "Failsafe count" (natText fc.failsafeCount),
        field "RX total" (natText fc.receiverPacketTotal),
        field "Estimated lost" (natText fc.estimatedLostPacketTotal)]
    else []

/-- The percentages of two motors. -/
def motorPair (fc : FcTelemetry) (first second : ℕ) : List Char :=
  fixedText 1 (fc.motorsPercent.getD first {}).value ++ " / ".toList ++
    fixedText 1 (fc.motorsPercent.getD second {}).value ++ " %".toList

/-- `_control_rows` -/
def controlRows (fc : FcTelemetry) (localState : Option LocalState) : List (List Char) :=
  (match fc.protocol with
    | .never => ["FC output telemetry unavailable.".toList]
    | .original => ["Motor/throttle output is unavailable in Original telemetry.".toList]
    | .extendedV1 =>
      [field "Throttle command" (fixedText 1 fc.commandedThrottlePercent.value ++ " %".toList),
        field "Throttle applied" (fixedText 1 fc.appliedThrottlePercent.value ++ " %".toList),
        field "Motors M1 / M2" (motorPair fc 0 1),
        field "Motors M3 / M4" (motorPair fc 2 3)]) ++
  match localState with
  | none => []
  | some st =>
    [[],
      field "Input roll" (intText st.rollRaw),
      field "Input pitch" (intText st.pitchRaw),
      field "Input yaw" (intText st.yawRaw),
      field "Input throttle" (intText st.throttleRaw)]

/-- `_transmitter_rows` -/
def transmitterRows (localState : Option LocalState) : List (List Char) :=
  match localState with
  | none => ["Waiting for the first ESP32 local-state snapshot...".toList]
  | some st =>
    let state :=
      match systemStates.lookup st.systemState with
      | some name => name.toList
      | none => "UNKNOWN(".toList ++ intText st.systemState ++ [')']
    let controlEnabled := st.statusFlags.testBit 3
    [field "System state" state,
      field "Control" (if controlEnabled then "ENABLED" else "SAFETY LOCKED").toList,
      field "Gamepad age" (ageText st.gamepadAgeMs),
      field "FC telemetry age" (ageText st.fcTelemetryAgeMs),
      field "Buttons" (setNames st.buttons buttonNames),
      field "Aux modes" (setNames st.auxModes auxNames),
      field "Status flags" (setNames st.statusFlags statusFlags),
      field "Radio TX packets" (intText st.txPackets),
      field "Radio TX failures" (intText st.txFailures),
      field "Consecutive fail" (intText st.consecutiveTxFailures),
      field "Next hop channel" (intText st.nextHoppingChannel),
      field "FC accepted/reject"
        (intText st.telemetryAccepted ++ " / ".toList ++ intText st.telemetryRejected),
      field "Deadline misses" (intText st.deadlineMisses),
      field "Exporter drops" (intText st.exportQueueDrops)]

/-- `_system_rows` -/
def systemRows (fc : FcTelemetry) : List (List Char) :=
  match fc.protocol with
  | .never => ["No FC system telemetry received yet.".toList]
  | .original =>
    [pidRow fc, "Extended loop/IMU/CPU counters are not carried by Original telemetry.".toList]
  | .extendedV1 =>
    [field "Loop avg / max"
        (natText fc.loopTimeAverageUs ++ " / ".toList ++ natText fc.loopTimeMaximumUs ++
          " us".toList),
      field "Loop overruns" (natText fc.loopOverrunCount),
      field "CPU load" (natText fc.cpuLoadPercent ++ " %".toList),
      field "IMU type" ("0x".toList ++ hexText fc.imuType),
      field "IMU temp raw" (intText fc.imuTemperatureRaw),
      field "Telemetry TX" (natText fc.telemetryTxCount),
      field "System subpages" ("0x".toList ++ hexText fc.systemSubpageMask)]

/-- The age of a page, as `_telemetry_rows` shows it. -/
def pageAge (fc : FcTelemetry) (page : ℕ) (now : ℚ) : List Char :=
  monotonicAgeText (fc.pageReceivedAt page) now

/-- `_telemetry_rows` -/
def telemetryRows (model : TelemetryModel) (now : ℚ) : List (List Char) :=
  let fc := model.fc
  let pages := ((List.range 4).filter fun page => fc.pageMask.testBit page).map fun page =>
    (pageNames.getD page "").toList
  [field "Protocol" fc.protocol.name.toList,
    field "Page mask" ("0x".toList ++ hexText fc.pageMask),
    field "Pages received" (joinNames pages)] ++
  (match fc.protocol with
    | .never => []
    | .original => [field "FC sequence" "n/a (Original protocol)".toList]
    | .extendedV1 =>
      [field "FC sequence" (natText fc.sequence),
        field "FC seq losses" (natText fc.telemetryPacketLosses),
        field "Page A/control age" (pageAge fc 0 now),
        field "Page B/flight age" (pageAge fc 1 now),
        field "Page C/power age" (pageAge fc 2 now),
        field "Page D/system age" (pageAge fc 3 now)]) ++
  [[],
    field "Frames valid" (natText model.stats.validFrames),
    field "Frames malformed" (natText model.stats.malformedFrames),
    field "Bayang invalid" (natText model.stats.invalidBayangPackets),
    field "Bridge gaps FC" (natText model.stats.type1SequenceGaps),
    field "Bridge gaps local" (natText model.stats.type2SequenceGaps)]

end Dashboard

end SilverwareTx.GroundStation
