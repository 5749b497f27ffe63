import SilverwareTx.Config
import SilverwareTx.Radio.Bayang
import SilverwareTx.Lib.MsbBits

/-!
# FC telemetry in the transmitter (`telemetry/telemetry.cpp`)

`telemetryParse` keeps the latest value of every field, for the original (`0x85`) and the extended
(`0x86`) packets; `telemetryGetSnapshot` adds the freshness. A `float` field is kept as the integer
count it was computed from together with its constant factor (`Scaled`), so equal `Scaled` values
are equal floats.
-/

namespace SilverwareTx

/-- A count times the constant factor `mul / div`. -/
structure Scaled where
  count : ℤ := 0
  mul : ℕ := 1
  div : ℕ := 1
  deriving DecidableEq

/-- `enum class TelemetryProtocol` -/
inductive TelemetryProtocol
  | original
  | extendedV1
  deriving DecidableEq, Repr

/-- `enum class FlightMode` -/
inductive FlightMode
  | unknown
  | acro
  | level
  | race
  | horizon
  | raceHorizon
  deriving DecidableEq, Repr

/-- `TELEMETRY_EXTENDED_PAGE_CONTROL` -/
def telemetryExtendedPageControl : U16 := 1#16 <<< 0

/-- `TELEMETRY_EXTENDED_PAGE_FLIGHT` -/
def telemetryExtendedPageFlight : U16 := 1#16 <<< 1

/-- `TELEMETRY_EXTENDED_PAGE_POWER` -/
def telemetryExtendedPagePower : U16 := 1#16 <<< 2

/-- `TELEMETRY_EXTENDED_PAGE_SYSTEM` -/
def telemetryExtendedPageSystem : U16 := 1#16 <<< 3

/-- `TELEMETRY_SYSTEM_SUBPAGE_HEALTH` -/
def telemetrySystemSubpageHealth : U8 := 1#8 <<< 0

/-- `TELEMETRY_SYSTEM_SUBPAGE_COUNTERS` -/
def telemetrySystemSubpageCounters : U8 := 1#8 <<< 1

/-- `struct TelemetryData`; the defaults are those of `= {}`. -/
structure TelemetryData where
  batteryRawV : Scaled := {}
  batteryCompensatedV : Scaled := {}
  lowVoltage : Bool := false
  receiverPacketsPerSecond : U16 := 0
  pidP : U16 := 0
  pidI : U16 := 0
  pidD : U16 := 0
  protocol : TelemetryProtocol := .original
  flightMode : FlightMode := .unknown
  extendedPagesSeen : U16 := 0
  systemSubpagesSeen : U8 := 0
  sequence : U8 := 0
  telemetryPacketsLost : U32 := 0
  rollDeg : Scaled := {}
  pitchDeg : Scaled := {}
  relativeYawDeg : Scaled := {}
  accelXG : Scaled := {}
  accelYG : Scaled := {}
  accelZG : Scaled := {}
  gyroRollDps : Scaled := {}
  gyroPitchDps : Scaled := {}
  gyroYawDps : Scaled := {}
  setpointRollDps : Scaled := {}
  setpointPitchDps : Scaled := {}
  setpointYawDps : Scaled := {}
  armed : Bool := false
  onGround : Bool := false
  failsafe : Bool := false
  idleUp : Bool := false
  pidProfile : Bool := false
  commandedThrottlePercent : Scaled := {}
  appliedThrottlePercent : Scaled := {}
  motorOutputPercent : Vector Scaled 4 := #v[{}, {}, {}, {}]
  flightTimeSeconds : U16 := 0
  lastFlightPageUs : ℤ := 0
  packetsLostPerSecond : U8 := 0
  linkQualityPercent : U8 := 0
  maximumRxGapMs : Scaled := {}
  currentRxGapMs : Scaled := {}
  failsafeCount : U8 := 0
  loopTimeAverageUs : U16 := 0
  loopTimeMaximumUs : U16 := 0
  loopOverrunCount : U16 := 0
  imuTemperatureRaw : I16 := 0
  imuType : U8 := 0
  cpuLoadPercent : U8 := 0
  telemetryTxCount : U32 := 0
  receiverPacketTotal : U32 := 0
  estimatedLostPacketTotal : U32 := 0
  lastValidUs : ℤ := 0

/-- The statics of `telemetry.cpp`. -/
structure TelemetryModule where
  currentTelemetry : TelemetryData := {}
  hasTelemetry : Bool := false
  hasSequence : Bool := false
  lastSequence : U8 := 0

/-! ### Bit fields -/

/-- The loop of `read_bits`, with `value` and `*bit_offset`. -/
def readBitsLoop (packet : Packet) : (bitsLeft : ℕ) → (value : U32) → (bitOffset : ℕ) → U32 × ℕ
  | 0, value, bitOffset => (value, bitOffset)
  | bitsLeft + 1, value, bitOffset =>
    let byteIndex := 2 + (bitOffset >>> 3)
    let byteBit := 7 - (bitOffset &&& 7)
    let bit : U32 := ((packet.toList.getD byteIndex 0 >>> byteBit) &&& 1).setWidth 32
    readBitsLoop packet bitsLeft ((value <<< 1) ||| bit) (bitOffset + 1)

/-- `read_bits`: the value and the new `*bit_offset`. -/
def readBits (packet : Packet) (bitOffset bitCount : ℕ) : U32 × ℕ :=
  readBitsLoop packet bitCount 0 bitOffset

/-- `read_signed_bits`, whose result is the `int32_t` the bits stand for. -/
def readSignedBits (packet : Packet) (bitOffset bitCount : ℕ) : ℤ × ℕ :=
  let read := readBits packet bitOffset bitCount
  let signBit : U32 := 1#32 <<< (bitCount - 1)
  let value : U32 :=
    if read.1 &&& signBit ≠ 0 then read.1 ||| ~~~((1#32 <<< bitCount) - 1#32) else read.1
  (value.toInt, read.2)

/-- `unit_value_to_percent` -/
def unitValueToPercent (value : U32) (bits : ℕ) : Scaled := ⟨value.toNat, 100, 2 ^ bits - 1⟩

/-- `decode_flight_mode` -/
def decodeFlightMode (flags : U8) : FlightMode :=
  let level := flagSet flags (1#8 <<< 3)
  let race := flagSet flags (1#8 <<< 4)
  let horizon := flagSet flags (1#8 <<< 5)
  if !level then .acro
  else if race && horizon then .raceHorizon
  else if horizon then .horizon
  else if race then .race
  else .level

/-! ### Pages -/

/-- `clear_extended_data` on the data it resets: every field but `pidP`, `pidI`, `pidD`, `protocol`
and `lastValidUs`. -/
def clearExtendedFields (t : TelemetryData) : TelemetryData :=
  { t with
    batteryRawV := {}, batteryCompensatedV := {}, lowVoltage := false
    receiverPacketsPerSecond := 0
    flightMode := .unknown
    extendedPagesSeen := 0, systemSubpagesSeen := 0
    sequence := 0, telemetryPacketsLost := 0
    rollDeg := {}, pitchDeg := {}, relativeYawDeg := {}
    accelXG := {}, accelYG := {}, accelZG := {}
    gyroRollDps := {}, gyroPitchDps := {}, gyroYawDps := {}
    setpointRollDps := {}, setpointPitchDps := {}, setpointYawDps := {}
    armed := false, onGround := false, failsafe := false, idleUp := false, pidProfile := false
    commandedThrottlePercent := {}, appliedThrottlePercent := {}
    motorOutputPercent := #v[{}, {}, {}, {}]
    flightTimeSeconds := 0, lastFlightPageUs := 0
    packetsLostPerSecond := 0, linkQualityPercent := 0
    maximumRxGapMs := {}, currentRxGapMs := {}
    failsafeCount := 0
    loopTimeAverageUs := 0, loopTimeMaximumUs := 0, loopOverrunCount := 0
    imuTemperatureRaw := 0, imuType := 0, cpuLoadPercent := 0
    telemetryTxCount := 0, receiverPacketTotal := 0, estimatedLostPacketTotal := 0 }

/-- `clear_extended_data`: all but the PID terms. -/
def clearExtendedData (m : TelemetryModule) : TelemetryModule :=
  { m with currentTelemetry := clearExtendedFields m.currentTelemetry, hasSequence := false }

/-- `parse_control`: page A. -/
def parseControl (packet : Packet) (t : TelemetryData) : TelemetryData :=
  let gyroRoll := readSignedBits packet 0 10
  let gyroPitch := readSignedBits packet gyroRoll.2 10
  let gyroYaw := readSignedBits packet gyroPitch.2 10
  let setpointRoll := readSignedBits packet gyroYaw.2 10
  let setpointPitch := readSignedBits packet setpointRoll.2 10
  let setpointYaw := readSignedBits packet setpointPitch.2 10
  let commanded := readBits packet setpointYaw.2 6
  let applied := readBits packet commanded.2 6
  let motor1 := readBits packet applied.2 6
  let motor2 := readBits packet motor1.2 6
  let motor3 := readBits packet motor2.2 6
  let motor4 := readBits packet motor3.2 6
  { t with
    gyroRollDps := ⟨gyroRoll.1, 4, 1⟩
    gyroPitchDps := ⟨gyroPitch.1, 4, 1⟩
    gyroYawDps := ⟨gyroYaw.1, 4, 1⟩
    setpointRollDps := ⟨setpointRoll.1, 4, 1⟩
    setpointPitchDps := ⟨setpointPitch.1, 4, 1⟩
    setpointYawDps := ⟨setpointYaw.1, 4, 1⟩
    commandedThrottlePercent := unitValueToPercent commanded.1 6
    appliedThrottlePercent := unitValueToPercent applied.1 6
    motorOutputPercent := #v[unitValueToPercent motor1.1 6, unitValueToPercent motor2.1 6,
      unitValueToPercent motor3.1 6, unitValueToPercent motor4.1 6]
    extendedPagesSeen := t.extendedPagesSeen ||| telemetryExtendedPageControl }

/-- `parse_flight`: page B. -/
def parseFlight (packet : Packet) (currentTimeUs : ℤ) (t : TelemetryData) : TelemetryData :=
  let roll := readSignedBits packet 0 12
  let pitch := readSignedBits packet roll.2 12
  let relativeYaw := readSignedBits packet pitch.2 12
  let accelX := readSignedBits packet relativeYaw.2 12
  let accelY := readSignedBits packet accelX.2 12
  let accelZ := readSignedBits packet accelY.2 12
  let flightTime := readBits packet accelZ.2 16
  let flags : U8 := (readBits packet flightTime.2 8).1.setWidth 8
  { t with
    rollDeg := ⟨roll.1, 1, 10⟩
    pitchDeg := ⟨pitch.1, 1, 10⟩
    relativeYawDeg := ⟨relativeYaw.1, 1, 10⟩
    accelXG := ⟨accelX.1, 1, 256⟩
    accelYG := ⟨accelY.1, 1, 256⟩
    accelZG := ⟨accelZ.1, 1, 256⟩
    flightTimeSeconds := flightTime.1.setWidth 16
    onGround := flagSet flags (1#8 <<< 0)
    idleUp := flagSet flags (1#8 <<< 1)
    lowVoltage := flagSet flags (1#8 <<< 2)
    pidProfile := flagSet flags (1#8 <<< 6)
    flightMode := decodeFlightMode flags
    lastFlightPageUs := currentTimeUs
    extendedPagesSeen := t.extendedPagesSeen ||| telemetryExtendedPageFlight }

/-- `parse_power`: page C. -/
def parsePower (packet : Packet) (t : TelemetryData) : TelemetryData :=
  let batteryRaw := readBits packet 0 16
  let batteryCompensated := readBits packet batteryRaw.2 16
  let receiverPackets := readBits packet batteryCompensated.2 8
  let packetsLost := readBits packet receiverPackets.2 8
  let linkQuality := readBits packet packetsLost.2 8
  let flags := readBits packet linkQuality.2 8
  let maximumRxGap := readBits packet flags.2 16
  let currentRxGap := readBits packet maximumRxGap.2 8
  let failsafeCount := readBits packet currentRxGap.2 8
  { t with
    batteryRawV := ⟨batteryRaw.1.toNat, 1, 1000⟩
    batteryCompensatedV := ⟨batteryCompensated.1.toNat, 1, 1000⟩
    receiverPacketsPerSecond := receiverPackets.1.setWidth 16
    packetsLostPerSecond := packetsLost.1.setWidth 8
    linkQualityPercent := linkQuality.1.setWidth 8
    lowVoltage := flagSet (flags.1.setWidth 8) 1
    maximumRxGapMs := ⟨maximumRxGap.1.toNat, 1, 10⟩
    currentRxGapMs := ⟨currentRxGap.1.toNat, 1, 10⟩
    failsafeCount := failsafeCount.1.setWidth 8
    extendedPagesSeen := t.extendedPagesSeen ||| telemetryExtendedPagePower }

/-- `parse_system`: page D, health. -/
def parseSystemHealth (packet : Packet) (t : TelemetryData) : TelemetryData :=
  let loopTimeAverage := readBits packet 1 16
  let loopTimeMaximum := readBits packet loopTimeAverage.2 16
  let loopOverrun := readBits packet loopTimeMaximum.2 16
  let imuTemperature := readSignedBits packet loopOverrun.2 16
  let imuType := readBits packet imuTemperature.2 8
  let cpuLoad := readBits packet imuType.2 8
  let telemetryTx := readBits packet cpuLoad.2 15
  { t with
    loopTimeAverageUs := loopTimeAverage.1.setWidth 16
    loopTimeMaximumUs := loopTimeMaximum.1.setWidth 16
    loopOverrunCount := loopOverrun.1.setWidth 16
    imuTemperatureRaw := BitVec.ofInt 16 imuTemperature.1
    imuType := imuType.1.setWidth 8
    cpuLoadPercent := cpuLoad.1.setWidth 8
    telemetryTxCount := telemetryTx.1
    systemSubpagesSeen := t.systemSubpagesSeen ||| telemetrySystemSubpageHealth }

/-- `parse_system`: page D, counters. -/
def parseSystemCounters (packet : Packet) (t : TelemetryData) : TelemetryData :=
  let receiverTotal := readBits packet 1 32
  let lostTotal := readBits packet receiverTotal.2 32
  let telemetryTx := readBits packet lostTotal.2 31
  { t with
    receiverPacketTotal := receiverTotal.1
    estimatedLostPacketTotal := lostTotal.1
    telemetryTxCount := telemetryTx.1
    systemSubpagesSeen := t.systemSubpagesSeen ||| telemetrySystemSubpageCounters }

/-- `parse_system`: page D. -/
def parseSystem (packet : Packet) (t : TelemetryData) : TelemetryData :=
  let counters := readBits packet 0 1
  let t := if counters.1 = 0 then parseSystemHealth packet t else parseSystemCounters packet t
  { t with extendedPagesSeen := t.extendedPagesSeen ||| telemetryExtendedPageSystem }

/-- The common status header of an extended packet: armed, failsafe and the sequence nibble. -/
def parseExtendedHeader (packet : Packet) (m : TelemetryModule) : TelemetryModule :=
  let common := packet.byte 1
  let sequence := common &&& 0x0F
  let t := m.currentTelemetry
  let expected : U8 := (m.lastSequence + 1) &&& 0x0F
  let missed : U32 := (sequence.setWidth 32 - expected.setWidth 32) &&& 0x0F
  { m with
    currentTelemetry :=
      { t with
        armed := flagSet common (1#8 <<< 5)
        failsafe := flagSet common (1#8 <<< 4)
        telemetryPacketsLost :=
          if m.hasSequence then t.telemetryPacketsLost + missed else t.telemetryPacketsLost
        sequence := sequence }
    lastSequence := sequence
    hasSequence := true }

/-- The page of an extended packet, by the two high bits of its header. -/
def parsePage (packet : Packet) (currentTimeUs : ℤ) (t : TelemetryData) : TelemetryData :=
  let page := packet.byte 1 >>> 6
  if page = 0 then parseControl packet t
  else if page = 1 then parseFlight packet currentTimeUs t
  else if page = 2 then parsePower packet t
  else parseSystem packet t

/-- `parse_extended` -/
def parseExtended (packet : Packet) (currentTimeUs : ℤ) (m : TelemetryModule) : TelemetryModule :=
  let m := parseExtendedHeader packet m
  { m with currentTelemetry := parsePage packet currentTimeUs m.currentTelemetry }

/-- The two bits that name the PID term of an original packet. -/
def pidTerm (packet : Packet) : U8 := packet.byte 8 >>> 6

/-- The value of the PID term of an original packet. -/
def pidValue (packet : Packet) : U16 :=
  ((packet.byte 8 &&& 0x3F).setWidth 16 <<< 8) ||| (packet.byte 9).setWidth 16

/-- The fields of an original packet. -/
def parseOriginal (packet : Packet) (t : TelemetryData) : TelemetryData :=
  let rawCentivolts : U16 :=
    ((packet.byte 3 &&& 0x07).setWidth 16 <<< 8) ||| (packet.byte 4).setWidth 16
  let compCentivolts : U16 :=
    ((packet.byte 5 &&& 0x07).setWidth 16 <<< 8) ||| (packet.byte 6).setWidth 16
  { t with
    batteryRawV := ⟨rawCentivolts.toNat, 1, 100⟩
    batteryCompensatedV := ⟨compCentivolts.toNat, 1, 100⟩
    lowVoltage := flagSet (packet.byte 3 >>> 3) 1
    receiverPacketsPerSecond := (packet.byte 7).setWidth 16 * 2
    pidP := if pidTerm packet = 0 then pidValue packet else t.pidP
    pidI := if pidTerm packet = 1 then pidValue packet else t.pidI
    pidD := if pidTerm packet = 2 then pidValue packet else t.pidD }

/-! ### The module's functions -/

/-- `telemetry_init` -/
def telemetryInit : TelemetryModule := {}

/-- The protocol a valid packet belongs to. -/
def packetProtocol (packet : Packet) : TelemetryProtocol :=
  if packet.byte 0 = 0x86 then .extendedV1 else .original

/-- Another protocol clears the extended data. -/
def switchProtocol (m : TelemetryModule) (protocol : TelemetryProtocol) : TelemetryModule :=
  if m.currentTelemetry.protocol ≠ protocol then
    let m := clearExtendedData m
    { m with currentTelemetry := { m.currentTelemetry with protocol := protocol } }
  else m

/-- The body of a packet, after the protocol is settled. -/
def parseBody (packet : Packet) (currentTimeUs : ℤ) (m : TelemetryModule) : TelemetryModule :=
  match packetProtocol packet with
  | .extendedV1 => parseExtended packet currentTimeUs m
  | .original => { m with currentTelemetry := parseOriginal packet m.currentTelemetry }

/-- `telemetry_parse`: whether the packet was accepted, and the module after it. -/
def telemetryParse (m : TelemetryModule) (packet : Packet) (currentTimeUs : ℤ) :
    Bool × TelemetryModule :=
  if !bayangCheckTelemetry packet then (false, m)
  else
    let m := parseBody packet currentTimeUs (switchProtocol m (packetProtocol packet))
    (true, { m with
      currentTelemetry := { m.currentTelemetry with lastValidUs := currentTimeUs }
      hasTelemetry := true })

/-- `enum class TelemetryFreshness` -/
inductive TelemetryFreshness
  | never
  | fresh
  | stale
  deriving DecidableEq, Repr

/-- `TelemetrySnapshot` -/
structure TelemetrySnapshot where
  data : TelemetryData
  freshness : TelemetryFreshness
  ageUs : ℤ

/-- `telemetry_get_snapshot` -/
def telemetryGetSnapshot (m : TelemetryModule) (currentTimeUs : ℤ) : TelemetrySnapshot :=
  if !m.hasTelemetry then { data := m.currentTelemetry, freshness := .never, ageUs := 0 }
  else
    let age := currentTimeUs - m.currentTelemetry.lastValidUs
    let age := if age < 0 then 0 else age
    { data := m.currentTelemetry
      freshness := if age ≤ telemetryTimeoutMs * 1000 then .fresh else .stale
      ageUs := age }

/-- A received packet with its receive time. -/
structure Reception where
  packet : Packet
  receivedUs : ℤ
  deriving DecidableEq

/-- The module after a history of received packets. -/
def telemetryFeed (m : TelemetryModule) (history : List Reception) : TelemetryModule :=
  history.foldl (fun m r => (telemetryParse m r.packet r.receivedUs).2) m

/-! ### Equations -/

theorem switchProtocol_of_eq {m : TelemetryModule} {protocol : TelemetryProtocol}
    (h : m.currentTelemetry.protocol = protocol) : switchProtocol m protocol = m :=
  if_neg (not_not.2 h)

theorem switchProtocol_of_ne {m : TelemetryModule} {protocol : TelemetryProtocol}
    (h : m.currentTelemetry.protocol ≠ protocol) :
    switchProtocol m protocol =
      { clearExtendedData m with
        currentTelemetry := { clearExtendedFields m.currentTelemetry with protocol := protocol } } :=
  if_pos h

/-- A page has one of five layouts, whatever the module holds: the flight page, and the four that
leave its fields alone. -/
theorem parsePage_cases (packet : Packet) (t : ℤ) :
    (packet.byte 1 >>> 6 = 1 ∧ parsePage packet t = parseFlight packet t) ∨
    (packet.byte 1 >>> 6 ≠ 1 ∧
      (parsePage packet t = parseControl packet ∨
        parsePage packet t = parsePower packet ∨
        (parsePage packet t = fun data =>
          { parseSystemHealth packet data with
            extendedPagesSeen := (parseSystemHealth packet data).extendedPagesSeen |||
              telemetryExtendedPageSystem }) ∨
        parsePage packet t = fun data =>
          { parseSystemCounters packet data with
            extendedPagesSeen := (parseSystemCounters packet data).extendedPagesSeen |||
              telemetryExtendedPageSystem })) := by
  by_cases h0 : packet.byte 1 >>> 6 = 0
  · exact .inr ⟨by simp [h0], .inl (funext fun _ => if_pos h0)⟩
  by_cases h1 : packet.byte 1 >>> 6 = 1
  · exact .inl ⟨h1, funext fun _ => (if_neg h0).trans (if_pos h1)⟩
  refine .inr ⟨h1, ?_⟩
  by_cases h2 : packet.byte 1 >>> 6 = 2
  · exact .inr (.inl (funext fun _ => (if_neg h0).trans ((if_neg h1).trans (if_pos h2))))
  have hsystem : parsePage packet t = parseSystem packet :=
    funext fun _ => (if_neg h0).trans ((if_neg h1).trans (if_neg h2))
  rw [hsystem]
  by_cases hcounters : (readBits packet 0 1).1 = 0
  · refine .inr (.inr (.inl (funext fun data => ?_)))
    rw [parseSystem, if_pos hcounters]
  · refine .inr (.inr (.inr (funext fun data => ?_)))
    rw [parseSystem, if_neg hcounters]

theorem telemetryParse_of_invalid {m : TelemetryModule} {packet : Packet} {t : ℤ}
    (h : bayangCheckTelemetry packet = false) : telemetryParse m packet t = (false, m) := by
  simp [telemetryParse, h]

theorem telemetryParse_of_valid {m : TelemetryModule} {packet : Packet} {t : ℤ}
    (h : bayangCheckTelemetry packet = true) :
    telemetryParse m packet t =
      (true, { parseBody packet t (switchProtocol m (packetProtocol packet)) with
        currentTelemetry :=
          { (parseBody packet t (switchProtocol m (packetProtocol packet))).currentTelemetry with
            lastValidUs := t }
        hasTelemetry := true }) := by
  simp [telemetryParse, h]

/-- The parser accepts exactly the packets with a good header and checksum. -/
theorem telemetryParse_fst (m : TelemetryModule) (packet : Packet) (t : ℤ) :
    (telemetryParse m packet t).1 = bayangCheckTelemetry packet := by
  cases h : bayangCheckTelemetry packet with
  | false => rw [telemetryParse_of_invalid h]
  | true => rw [telemetryParse_of_valid h]

theorem telemetryFeed_append (m : TelemetryModule) (h₁ h₂ : List Reception) :
    telemetryFeed m (h₁ ++ h₂) = telemetryFeed (telemetryFeed m h₁) h₂ := List.foldl_append

theorem telemetryFeed_cons (m : TelemetryModule) (r : Reception) (history : List Reception) :
    telemetryFeed m (r :: history) =
      telemetryFeed (telemetryParse m r.packet r.receivedUs).2 history := rfl

theorem telemetryFeed_concat (m : TelemetryModule) (history : List Reception) (r : Reception) :
    telemetryFeed m (history ++ [r]) =
      (telemetryParse (telemetryFeed m history) r.packet r.receivedUs).2 :=
  telemetryFeed_append m history [r]

@[simp] theorem telemetryGetSnapshot_data (m : TelemetryModule) (now : ℤ) :
    (telemetryGetSnapshot m now).data = m.currentTelemetry := by
  unfold telemetryGetSnapshot
  split_ifs <;> rfl

/-- Only telemetry that was seen is fresh. -/
theorem hasTelemetry_of_fresh {m : TelemetryModule} {now : ℤ}
    (h : (telemetryGetSnapshot m now).freshness = .fresh) : m.hasTelemetry = true := by
  unfold telemetryGetSnapshot at h
  cases hseen : m.hasTelemetry with
  | false => rw [hseen] at h; exact TelemetryFreshness.noConfusion h
  | true => rfl

end SilverwareTx
