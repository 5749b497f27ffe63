import Mathlib.Data.Nat.Bitwise
import SilverwareTx.GroundStation.BridgeFrame
import SilverwareTx.Telemetry.FcView

/-!
# FC telemetry in the ground station (`FcTelemetry` in `tools/ground_station/ground_station.py`)

`FcTelemetry.update` mutates its object and may raise `DecodeError`; it is modelled as the result of
the call and the object after it, in `Update` with the bit reader's offset. Float fields are counts
with their constant factor (`Scaled`), as in the transmitter.
-/

namespace SilverwareTx.GroundStation

open MsbBits

/-- The values of `FcTelemetry.protocol`. -/
inductive FcProtocol
  | never
  | original
  | extendedV1
  deriving DecidableEq

/-- `class FcTelemetry` with its defaults. -/
structure FcTelemetry where
  protocol : FcProtocol := .never
  pageMask : ℕ := 0
  systemSubpageMask : ℕ := 0
  armed : Bool := false
  failsafe : Bool := false
  onGround : Bool := false
  idleUp : Bool := false
  lowVoltage : Bool := false
  pidProfile : Bool := false
  flightMode : FlightMode := .unknown
  sequence : ℕ := 0
  telemetryPacketLosses : ℕ := 0
  batteryRawV : Scaled := {}
  batteryCompensatedV : Scaled := {}
  receiverPacketsPerSecond : ℕ := 0
  pidP : ℕ := 0
  pidI : ℕ := 0
  pidD : ℕ := 0
  rollDeg : Scaled := {}
  pitchDeg : Scaled := {}
  relativeYawDeg : Scaled := {}
  accelXG : Scaled := {}
  accelYG : Scaled := {}
  accelZG : Scaled := {}
  gyroRollDps : Scaled := {}
  gyroPitchDps : Scaled := {}
  gyroYawDps : Scaled := {}
  setpointRollDps : Scaled := {}
  setpointPitchDps : Scaled := {}
  setpointYawDps : Scaled := {}
  commandedThrottlePercent : Scaled := {}
  appliedThrottlePercent : Scaled := {}
  motorsPercent : List Scaled := [{}, {}, {}, {}]
  flightTimeSeconds : ℕ := 0
  packetsLostPerSecond : ℕ := 0
  linkQualityPercent : ℕ := 0
  maximumRxGapMs : Scaled := {}
  currentRxGapMs : Scaled := {}
  failsafeCount : ℕ := 0
  loopTimeAverageUs : ℕ := 0
  loopTimeMaximumUs : ℕ := 0
  loopOverrunCount : ℕ := 0
  imuTemperatureRaw : ℤ := 0
  imuType : ℕ := 0
  cpuLoadPercent : ℕ := 0
  telemetryTxCount : ℕ := 0
  receiverPacketTotal : ℕ := 0
  estimatedLostPacketTotal : ℕ := 0
  /-- The last receive time of each page. -/
  pageReceivedAt : ℕ → Option ℚ := fun _ => none
  hasFcSequence : Bool := false
  lastFcSequence : ℕ := 0

/-- `class BitReader` -/
structure BitReader where
  data : List U8
  offset : ℕ := 0

/-- A computation on the object and a bit reader that may raise. -/
abbrev Update := ExceptT DecodeError (StateM (FcTelemetry × BitReader))

/-- An assignment to fields of the object. -/
def assign (f : FcTelemetry → FcTelemetry) : Update Unit := modify fun s => (f s.1, s.2)

/-- One turn of the loop of `BitReader.read`: the next bit. -/
def readBit : Update ℕ := ExceptT.mk fun s =>
  let reader := s.2
  let byteIndex := reader.offset >>> 3
  let bitIndex := 7 - (reader.offset &&& 7)
  if byteIndex ≥ reader.data.length then
    (.error ⟨"telemetry bit field exceeds payload"⟩, s)
  else
    (.ok (((reader.data.getD byteIndex 0).toNat >>> bitIndex) &&& 1),
      s.1, { reader with offset := reader.offset + 1 })

/-- The loop of `BitReader.read`. -/
def readLoop : (width value : ℕ) → Update ℕ
  | 0, value => pure value
  | width + 1, value => do
    let bit ← readBit
    readLoop width ((value <<< 1) ||| bit)

/-- `BitReader.read` -/
def read (width : ℕ) : Update ℕ := readLoop width 0

/-- `BitReader.signed`: two's complement. -/
def signed (width : ℕ) : Update ℤ := do
  let value ← read width
  pure (if value &&& (1 <<< (width - 1)) ≠ 0 then (value : ℤ) - (1 <<< width : ℕ) else value)

/-- The percentage of a six-bit count. -/
def percent63 (count : ℕ) : Scaled := ⟨count, 100, 63⟩

namespace FcTelemetry

/-- The control page: gyro, sticks and motors. -/
def parseControl : Update Unit := do
  let gyroRoll ← signed 10
  let gyroPitch ← signed 10
  let gyroYaw ← signed 10
  assign fun s =>
    { s with
      gyroRollDps := ⟨gyroRoll, 4, 1⟩
      gyroPitchDps := ⟨gyroPitch, 4, 1⟩
      gyroYawDps := ⟨gyroYaw, 4, 1⟩ }
  let setpointRoll ← signed 10
  let setpointPitch ← signed 10
  let setpointYaw ← signed 10
  assign fun s =>
    { s with
      setpointRollDps := ⟨setpointRoll, 4, 1⟩
      setpointPitchDps := ⟨setpointPitch, 4, 1⟩
      setpointYawDps := ⟨setpointYaw, 4, 1⟩ }
  let commanded ← read 6
  assign fun s => { s with commandedThrottlePercent := percent63 commanded }
  let applied ← read 6
  assign fun s => { s with appliedThrottlePercent := percent63 applied }
  let motor1 ← read 6
  let motor2 ← read 6
  let motor3 ← read 6
  let motor4 ← read 6
  assign fun s =>
    { s with
      motorsPercent := [percent63 motor1, percent63 motor2, percent63 motor3, percent63 motor4] }

/-- The flight mode of the flight flags. -/
def flightModeOfFlags (flags : ℕ) : FlightMode :=
  let level := decide (flags &&& 0x08 ≠ 0)
  let race := decide (flags &&& 0x10 ≠ 0)
  let horizon := decide (flags &&& 0x20 ≠ 0)
  if !level then .acro
  else if race && horizon then .raceHorizon
  else if horizon then .horizon
  else if race then .race
  else .level

/-- The flight page. -/
def parseFlight : Update Unit := do
  let roll ← signed 12
  assign fun s => { s with rollDeg := ⟨roll, 1, 10⟩ }
  let pitch ← signed 12
  assign fun s => { s with pitchDeg := ⟨pitch, 1, 10⟩ }
  let relativeYaw ← signed 12
  assign fun s => { s with relativeYawDeg := ⟨relativeYaw, 1, 10⟩ }
  let accelX ← signed 12
  assign fun s => { s with accelXG := ⟨accelX, 1, 256⟩ }
  let accelY ← signed 12
  assign fun s => { s with accelYG := ⟨accelY, 1, 256⟩ }
  let accelZ ← signed 12
  assign fun s => { s with accelZG := ⟨accelZ, 1, 256⟩ }
  let flightTime ← read 16
  assign fun s => { s with flightTimeSeconds := flightTime }
  let flags ← read 8
  assign fun s =>
    { s with
      onGround := flags &&& 0x01 ≠ 0
      idleUp := flags &&& 0x02 ≠ 0
      lowVoltage := flags &&& 0x04 ≠ 0
      pidProfile := flags &&& 0x40 ≠ 0
      flightMode := flightModeOfFlags flags }

/-- The power page. -/
def parsePower : Update Unit := do
  let batteryRaw ← read 16
  assign fun s => { s with batteryRawV := ⟨batteryRaw, 1, 1000⟩ }
  let batteryCompensated ← read 16
  assign fun s => { s with batteryCompensatedV := ⟨batteryCompensated, 1, 1000⟩ }
  let receiverPackets ← read 8
  assign fun s => { s with receiverPacketsPerSecond := receiverPackets }
  let packetsLost ← read 8
  assign fun s => { s with packetsLostPerSecond := packetsLost }
  let linkQuality ← read 8
  assign fun s => { s with linkQualityPercent := linkQuality }
  let flags ← read 8
  assign fun s => { s with lowVoltage := flags &&& 1 ≠ 0 }
  let maximumRxGap ← read 16
  assign fun s => { s with maximumRxGapMs := ⟨maximumRxGap, 1, 10⟩ }
  let currentRxGap ← read 8
  assign fun s => { s with currentRxGapMs := ⟨currentRxGap, 1, 10⟩ }
  let failsafeCount ← read 8
  assign fun s => { s with failsafeCount := failsafeCount }

/-- The system page, without its counters bit. -/
def parseSystemHealth : Update Unit := do
  let loopTimeAverage ← read 16
  assign fun s => { s with loopTimeAverageUs := loopTimeAverage }
  let loopTimeMaximum ← read 16
  assign fun s => { s with loopTimeMaximumUs := loopTimeMaximum }
  let loopOverrun ← read 16
  assign fun s => { s with loopOverrunCount := loopOverrun }
  let imuTemperature ← signed 16
  assign fun s => { s with imuTemperatureRaw := imuTemperature }
  let imuType ← read 8
  assign fun s => { s with imuType := imuType }
  let cpuLoad ← read 8
  assign fun s => { s with cpuLoadPercent := cpuLoad }
  let telemetryTx ← read 15
  assign fun s => { s with telemetryTxCount := telemetryTx }
  assign fun s => { s with systemSubpageMask := s.systemSubpageMask ||| 1 }

/-- The system page, with its counters bit. -/
def parseSystemCounters : Update Unit := do
  let receiverTotal ← read 32
  assign fun s => { s with receiverPacketTotal := receiverTotal }
  let lostTotal ← read 32
  assign fun s => { s with estimatedLostPacketTotal := lostTotal }
  let telemetryTx ← read 31
  assign fun s => { s with telemetryTxCount := telemetryTx }
  assign fun s => { s with systemSubpageMask := s.systemSubpageMask ||| 2 }

/-- The system page: its first bit chooses the subpage. -/
def parseSystem : Update Unit := do
  let counters ← read 1
  if counters = 0 then parseSystemHealth else parseSystemCounters

/-- The part of `update` for a `0x85` packet. -/
def updateOriginal (packet : List U8) (self : FcTelemetry) : FcTelemetry :=
  let byte (i : ℕ) : ℕ := (packet.getD i 0).toNat
  let pidTerm := byte 8 >>> 6
  let pidValue := ((byte 8 &&& 0x3F) <<< 8) ||| byte 9
  { self with
    batteryRawV := ⟨(((byte 3 &&& 0x07) <<< 8) ||| byte 4 : ℕ), 1, 100⟩
    batteryCompensatedV := ⟨(((byte 5 &&& 0x07) <<< 8) ||| byte 6 : ℕ), 1, 100⟩
    lowVoltage := (byte 3 >>> 3) &&& 1 ≠ 0
    receiverPacketsPerSecond := byte 7 * 2
    pidP := if pidTerm = 0 then pidValue else self.pidP
    pidI := if pidTerm = 1 then pidValue else self.pidI
    pidD := if pidTerm = 2 then pidValue else self.pidD }

/-- The common status header of a `0x86` packet. `& 0x0F` of a difference is its remainder. -/
def updateHeader (common : ℕ) (self : FcTelemetry) : FcTelemetry :=
  let sequence := common &&& 0x0F
  let expected := (self.lastFcSequence + 1) &&& 0x0F
  { self with
    armed := common &&& 0x20 ≠ 0
    failsafe := common &&& 0x10 ≠ 0
    telemetryPacketLosses :=
      if self.hasFcSequence then
        self.telemetryPacketLosses + (((sequence : ℤ) - expected) % 16).toNat
      else self.telemetryPacketLosses
    sequence := sequence
    lastFcSequence := sequence
    hasFcSequence := true }

/-- The page parser that a `0x86` packet selects. -/
def parsePage (page : ℕ) : Update Unit :=
  if page = 0 then parseControl
  else if page = 1 then parseFlight
  else if page = 2 then parsePower
  else parseSystem

/-- The part of `update` for a `0x86` packet. -/
def updateExtended (packet : List U8) (receivedAt : ℚ) (self : FcTelemetry) :
    Except DecodeError Unit × FcTelemetry :=
  let common := (packet.getD 1 0).toNat
  let page := common >>> 6
  let self := updateHeader common self
  match (parsePage page).run.run (self, { data := slice packet 2 12 }) with
  | (.error e, self, _) => (.error e, self)
  | (.ok (), self, _) =>
    (.ok (),
      { self with
        pageMask := self.pageMask ||| (1 <<< page)
        pageReceivedAt := Function.update self.pageReceivedAt page (some receivedAt) })

/-- `_clear_extended`: every field but the protocol is as at first. -/
def clearExtended (self : FcTelemetry) : FcTelemetry := { protocol := self.protocol }

/-- Another protocol clears the object. -/
def switchProtocol (self : FcTelemetry) (protocol : FcProtocol) : FcTelemetry :=
  if protocol ≠ self.protocol then clearExtended { self with protocol := protocol } else self

/-- `update`: how the call ends, and the object after it. -/
def update (self : FcTelemetry) (packet : List U8) (receivedAt : ℚ) :
    Except DecodeError Unit × FcTelemetry :=
  if packet.length ≠ rawFcLength ∨ (packet.getD 0 0 ≠ 0x85 ∧ packet.getD 0 0 ≠ 0x86) then
    (.error ⟨"unknown Bayang telemetry packet"⟩, self)
  else if ((packet.take 14).map BitVec.toNat).sum &&& 0xFF ≠ (packet.getD 14 0).toNat then
    (.error ⟨"Bayang checksum mismatch"⟩, self)
  else
    let protocol : FcProtocol := if packet.getD 0 0 = 0x86 then .extendedV1 else .original
    let self := switchProtocol self protocol
    if packet.getD 0 0 = 0x85 then (.ok (), updateOriginal packet self)
    else updateExtended packet receivedAt self

end FcTelemetry

/-! ### Running an update -/

/-- How an update ends on an object and a reader. -/
def Update.exec {α : Type} (p : Update α) (s : FcTelemetry × BitReader) :
    Except DecodeError α × FcTelemetry × BitReader := p.run.run s

theorem exec_bind {α β : Type} (p : Update α) (f : α → Update β) (s : FcTelemetry × BitReader) :
    (p >>= f).exec s =
      match p.exec s with
      | (.ok a, s') => (f a).exec s'
      | (.error e, s') => (.error e, s') := by
  simp only [Update.exec, ExceptT.run_bind, StateT.run_bind]
  generalize (p.run.run s) = r
  obtain ⟨r, s'⟩ := r
  cases r <;> rfl

theorem exec_pure {α : Type} (a : α) (s : FcTelemetry × BitReader) :
    (pure a : Update α).exec s = (.ok a, s) := rfl

theorem exec_assign (f : FcTelemetry → FcTelemetry) (s : FcTelemetry × BitReader) :
    (assign f).exec s = (.ok (), f s.1, s.2) := rfl

theorem and_two_pow_ne_zero (n k : ℕ) : n &&& 2 ^ k ≠ 0 ↔ n.testBit k = true := by
  rw [Nat.and_two_pow]
  cases n.testBit k <;> simp

/-- Bit `i` of a byte string, most significant bit first. -/
def dataBit (data : List U8) (i : ℕ) : Bool := (data.getD (i / 8) 0).getLsbD (7 - i % 8)

section Read

variable (fc : FcTelemetry) (data : List U8)

theorem exec_readBit {o : ℕ} (h : o < 8 * data.length) :
    readBit.exec (fc, ⟨data, o⟩) = (.ok (dataBit data o).toNat, fc, ⟨data, o + 1⟩) := by
  have hshift : o >>> 3 = o / 8 := Nat.shiftRight_eq_div_pow o 3
  have hand : o &&& 7 = o % 8 := Nat.and_two_pow_sub_one_eq_mod o 3
  have hbyte : ¬ o / 8 ≥ data.length := by omega
  have hbit : ∀ b k : ℕ, (b >>> k) &&& 1 = (b.testBit k).toNat := by
    intro b k
    rw [show (1 : ℕ) = 2 ^ 1 - 1 from rfl, Nat.and_two_pow_sub_one_eq_mod, pow_one,
      Nat.shiftRight_eq_div_pow, Nat.toNat_testBit]
  have heval : readBit.exec (fc, ⟨data, o⟩) =
      if o >>> 3 ≥ data.length then
        (.error ⟨"telemetry bit field exceeds payload"⟩, fc, ⟨data, o⟩)
      else
        (.ok (((data.getD (o >>> 3) 0).toNat >>> (7 - (o &&& 7))) &&& 1), fc, ⟨data, o + 1⟩) := rfl
  rw [heval, hshift, hand, if_neg hbyte, hbit]
  rfl

theorem exec_readLoop {w : ℕ} (value : ℕ) {o : ℕ} (h : o + w ≤ 8 * data.length) :
    (readLoop w value).exec (fc, ⟨data, o⟩) =
      (.ok (value * 2 ^ w + field (dataBit data) o w), fc, ⟨data, o + w⟩) := by
  induction w generalizing value o with
  | zero => simp [readLoop, exec_pure]
  | succ w ih =>
    have hle := Bool.toNat_le (dataBit data o)
    have hor :
        (value <<< 1) ||| (dataBit data o).toNat = 2 ^ 1 * value + (dataBit data o).toNat := by
      rw [Nat.shiftLeft_eq, Nat.mul_comm, Nat.two_pow_add_eq_or_of_lt (by omega)]
    rw [readLoop, exec_bind, exec_readBit fc data (by omega)]
    simp only
    have hval : (2 ^ 1 * value + (dataBit data o).toNat) * 2 ^ w + field (dataBit data) (o + 1) w =
        value * 2 ^ (w + 1) + ((dataBit data o).toNat * 2 ^ w + field (dataBit data) (o + 1) w) := by
      ring
    rw [ih _ (by omega), hor, hval, ← field_succ_left, show o + 1 + w = o + (w + 1) by omega]

theorem exec_read {w o : ℕ} (h : o + w ≤ 8 * data.length) :
    (read w).exec (fc, ⟨data, o⟩) = (.ok (field (dataBit data) o w), fc, ⟨data, o + w⟩) := by
  rw [read, exec_readLoop fc data 0 h, Nat.zero_mul, Nat.zero_add]

theorem exec_signed {w o : ℕ} (h : o + (w + 1) ≤ 8 * data.length) :
    (signed (w + 1)).exec (fc, ⟨data, o⟩) =
      (.ok (signedField (dataBit data) o (w + 1)), fc, ⟨data, o + (w + 1)⟩) := by
  have hsign :
      field (dataBit data) o (w + 1) &&& (1 <<< (w + 1 - 1)) ≠ 0 ↔ dataBit data o = true := by
    rw [Nat.shiftLeft_eq, Nat.one_mul, Nat.add_sub_cancel, and_two_pow_ne_zero,
      testBit_field _ _ (Nat.lt_succ_self w), show o + (w + 1 - 1 - w) = o by omega]
  have hpow : ((1 <<< (w + 1) : ℕ) : ℤ) = 2 ^ (w + 1) := by
    rw [Nat.shiftLeft_eq, Nat.one_mul]
    push_cast
    rfl
  rw [signed, exec_bind, exec_read fc data h]
  simp only [exec_pure, hsign, hpow, signedField]

end Read

section Payload

variable (fc : FcTelemetry) (packet : Packet)

/-- The bits of the reader that `update` makes are the payload bits of the packet. -/
theorem dataBit_slice {i : ℕ} (h : i < 96) :
    dataBit (slice packet.toList 2 12) i = payloadBit packet i := by
  have hget : (slice packet.toList 2 12).getD (i / 8) 0 = packet.toList.getD (2 + i / 8) 0 := by
    rw [slice, List.getD_eq_getElem?_getD, List.getD_eq_getElem?_getD,
      List.getElem?_take_of_lt (by omega), List.getElem?_drop]
  rw [dataBit, hget, payloadBit]

theorem length_payload : (slice packet.toList 2 12).length = 12 := by simp [slice]

theorem exec_read_payload {w o : ℕ} (h : o + w ≤ 96) :
    (read w).exec (fc, ⟨slice packet.toList 2 12, o⟩) =
      (.ok (field (payloadBit packet) o w), fc, ⟨slice packet.toList 2 12, o + w⟩) := by
  rw [exec_read fc _ (by rw [length_payload]; omega),
    field_congr fun i _ hi => dataBit_slice packet (by omega)]

theorem exec_signed_payload {w o : ℕ} (h : o + (w + 1) ≤ 96) :
    (signed (w + 1)).exec (fc, ⟨slice packet.toList 2 12, o⟩) =
      (.ok (signedField (payloadBit packet) o (w + 1)), fc,
        ⟨slice packet.toList 2 12, o + (w + 1)⟩) := by
  rw [exec_signed fc _ (by rw [length_payload]; omega), signedField, signedField,
    field_congr fun i _ hi => dataBit_slice packet (by omega), dataBit_slice packet (by omega)]

end Payload

/-! ### The view of the object -/

/-- What the object says. -/
def FcTelemetry.view (s : FcTelemetry) : FcView where
  protocol :=
    match s.protocol with
    | .never => none
    | .original => some .original
    | .extendedV1 => some .extendedV1
  pageMask := s.pageMask
  systemSubpageMask := s.systemSubpageMask
  armed := s.armed
  failsafe := s.failsafe
  onGround := s.onGround
  idleUp := s.idleUp
  lowVoltage := s.lowVoltage
  pidProfile := s.pidProfile
  flightMode := s.flightMode
  sequence := s.sequence
  lastSequence := if s.hasFcSequence then some s.lastFcSequence else none
  telemetryPacketLosses := BitVec.ofNat 32 s.telemetryPacketLosses
  batteryRawV := s.batteryRawV
  batteryCompensatedV := s.batteryCompensatedV
  receiverPacketsPerSecond := s.receiverPacketsPerSecond
  rollDeg := s.rollDeg
  pitchDeg := s.pitchDeg
  relativeYawDeg := s.relativeYawDeg
  accelXG := s.accelXG
  accelYG := s.accelYG
  accelZG := s.accelZG
  gyroRollDps := s.gyroRollDps
  gyroPitchDps := s.gyroPitchDps
  gyroYawDps := s.gyroYawDps
  setpointRollDps := s.setpointRollDps
  setpointPitchDps := s.setpointPitchDps
  setpointYawDps := s.setpointYawDps
  commandedThrottlePercent := s.commandedThrottlePercent
  appliedThrottlePercent := s.appliedThrottlePercent
  motorsPercent := s.motorsPercent
  flightTimeSeconds := s.flightTimeSeconds
  packetsLostPerSecond := s.packetsLostPerSecond
  linkQualityPercent := s.linkQualityPercent
  maximumRxGapMs := s.maximumRxGapMs
  currentRxGapMs := s.currentRxGapMs
  failsafeCount := s.failsafeCount
  loopTimeAverageUs := s.loopTimeAverageUs
  loopTimeMaximumUs := s.loopTimeMaximumUs
  loopOverrunCount := s.loopOverrunCount
  imuTemperatureRaw := s.imuTemperatureRaw
  imuType := s.imuType
  cpuLoadPercent := s.cpuLoadPercent
  telemetryTxCount := s.telemetryTxCount
  receiverPacketTotal := s.receiverPacketTotal
  estimatedLostPacketTotal := s.estimatedLostPacketTotal

/-- The object with a page added to its mask, as `update` leaves it. -/
def FcTelemetry.withPage (s : FcTelemetry) (page : ℕ) (receivedAt : ℚ) : FcTelemetry :=
  { s with
    pageMask := s.pageMask ||| (1 <<< page)
    pageReceivedAt := Function.update s.pageReceivedAt page (some receivedAt) }

/-- A flag bit of a byte of the payload. -/
theorem field_flag (bit : ℕ → Bool) (o : ℕ) {k mask : ℕ} (hk : k < 8) (hmask : mask = 2 ^ k) :
    (field bit o 8 &&& mask ≠ 0) = (bit (o + (7 - k)) = true) := by
  rw [hmask, and_two_pow_ne_zero, testBit_field bit o hk]

namespace FcTelemetry

section Pages

variable (s : FcTelemetry) (packet : Packet)

theorem exec_parseControl : ∃ s' reader,
    parseControl.exec (s, ⟨slice packet.toList 2 12, 0⟩) = (.ok (), s', reader) ∧
      s'.telemetryPacketLosses = s.telemetryPacketLosses ∧
      ∀ receivedAt, (s'.withPage 0 receivedAt).view =
        FcView.receiveControl (payloadBit packet) s.view := by
  simp (disch := omega) only [parseControl, exec_bind, exec_read_payload, exec_signed_payload,
    exec_assign, Nat.reduceAdd]
  exact ⟨_, _, rfl, rfl, fun _ => rfl⟩

theorem exec_parseFlight : ∃ s' reader,
    parseFlight.exec (s, ⟨slice packet.toList 2 12, 0⟩) = (.ok (), s', reader) ∧
      s'.telemetryPacketLosses = s.telemetryPacketLosses ∧
      ∀ receivedAt, (s'.withPage 1 receivedAt).view =
        FcView.receiveFlight (payloadBit packet) s.view := by
  simp (disch := omega) only [parseFlight, exec_bind, exec_read_payload, exec_signed_payload,
    exec_assign, Nat.reduceAdd]
  refine ⟨_, _, rfl, rfl, fun receivedAt => ?_⟩
  have hmode : flightModeOfFlags (field (payloadBit packet) 88 8) =
      FcView.flightModeOf (payloadBit packet 92) (payloadBit packet 91) (payloadBit packet 90) := by
    simp only [flightModeOfFlags, field_flag _ 88 (show 3 < 8 by omega) (show 0x08 = 2 ^ 3 by rfl),
      field_flag _ 88 (show 4 < 8 by omega) (show 0x10 = 2 ^ 4 by rfl),
      field_flag _ 88 (show 5 < 8 by omega) (show 0x20 = 2 ^ 5 by rfl), Nat.reduceSub,
      Nat.reduceAdd]
    cases payloadBit packet 92 <;> cases payloadBit packet 91 <;> cases payloadBit packet 90 <;> rfl
  simp only [withPage, view, FcView.receiveFlight, hmode,
    field_flag _ 88 (show 0 < 8 by omega) (show 0x01 = 2 ^ 0 by rfl),
    field_flag _ 88 (show 1 < 8 by omega) (show 0x02 = 2 ^ 1 by rfl),
    field_flag _ 88 (show 2 < 8 by omega) (show 0x04 = 2 ^ 2 by rfl),
    field_flag _ 88 (show 6 < 8 by omega) (show 0x40 = 2 ^ 6 by rfl), Nat.reduceSub, Nat.reduceAdd,
    Bool.decide_eq_true]
  rfl

theorem exec_parsePower : ∃ s' reader,
    parsePower.exec (s, ⟨slice packet.toList 2 12, 0⟩) = (.ok (), s', reader) ∧
      s'.telemetryPacketLosses = s.telemetryPacketLosses ∧
      ∀ receivedAt, (s'.withPage 2 receivedAt).view =
        FcView.receivePower (payloadBit packet) s.view := by
  simp (disch := omega) only [parsePower, exec_bind, exec_read_payload, exec_assign, Nat.reduceAdd]
  refine ⟨_, _, rfl, rfl, fun receivedAt => ?_⟩
  simp only [withPage, view, FcView.receivePower,
    field_flag _ 56 (show 0 < 8 by omega) (show 1 = 2 ^ 0 by rfl), Nat.reduceSub, Nat.reduceAdd,
    Bool.decide_eq_true]
  rfl

theorem exec_parseSystem : ∃ s' reader,
    parseSystem.exec (s, ⟨slice packet.toList 2 12, 0⟩) = (.ok (), s', reader) ∧
      s'.telemetryPacketLosses = s.telemetryPacketLosses ∧
      ∀ receivedAt, (s'.withPage 3 receivedAt).view =
        FcView.receiveSystem (payloadBit packet) s.view := by
  have hbit : field (payloadBit packet) 0 1 = 0 ↔ payloadBit packet 0 = false := by
    rw [field_succ]
    cases payloadBit packet 0 <;> simp
  simp (disch := omega) only [parseSystem, exec_bind, exec_read_payload, Nat.reduceAdd, hbit]
  unfold FcView.receiveSystem
  cases payloadBit packet 0 with
  | false =>
    rw [if_pos rfl, if_neg Bool.false_ne_true]
    simp (disch := omega) only [parseSystemHealth, exec_bind, exec_read_payload,
      exec_signed_payload, exec_assign, Nat.reduceAdd]
    exact ⟨_, _, rfl, rfl, fun _ => rfl⟩
  | true =>
    rw [if_neg (by simp), if_pos rfl]
    simp (disch := omega) only [parseSystemCounters, exec_bind, exec_read_payload, exec_assign,
      Nat.reduceAdd]
    exact ⟨_, _, rfl, rfl, fun _ => rfl⟩

end Pages

theorem and_0x0F (n : ℕ) : n &&& 0x0F = n % 16 := Nat.and_two_pow_sub_one_eq_mod n 4

/-- The common status header. -/
theorem view_updateHeader (common : U8) (s : FcTelemetry) :
    (updateHeader common.toNat s).view = FcView.receiveHeader common s.view := by
  have hbit : ∀ {k mask : ℕ}, mask = 2 ^ k →
      (common.toNat &&& mask ≠ 0) = (common.getLsbD k = true) := by
    rintro k mask rfl
    rw [and_two_pow_ne_zero, BitVec.getLsbD]
  have hlost : ∀ (has : Bool) (lost last : ℕ),
      BitVec.ofNat 32 (if has then
          lost + (((common.toNat % 16 : ℕ) - ((last + 1) % 16 : ℕ) : ℤ) % 16).toNat else lost) =
        BitVec.ofNat 32 lost + BitVec.ofNat 32 (((if has then some last else none).map
          (FcView.missed · (common.toNat % 16))).getD 0) := by
    intro has lost last
    cases has with
    | false => simp
    | true =>
      have hmissed : (((common.toNat % 16 : ℕ) - ((last + 1) % 16 : ℕ) : ℤ) % 16).toNat =
          FcView.missed last (common.toNat % 16) := by
        rw [FcView.missed]
        omega
      rw [if_pos rfl, if_pos rfl, hmissed, BitVec.ofNat_add]
      rfl
  simp only [updateHeader, view, FcView.receiveHeader, and_0x0F, hbit (show 0x20 = 2 ^ 5 by rfl),
    hbit (show 0x10 = 2 ^ 4 by rfl), Bool.decide_eq_true, hlost, if_true]

theorem centivolts_eq (hi lo : U8) :
    ((hi.toNat &&& 0x07) <<< 8) ||| lo.toNat = hi.toNat % 8 * 256 + lo.toNat := by
  have hmask : hi.toNat &&& 0x07 = hi.toNat % 8 := Nat.and_two_pow_sub_one_eq_mod hi.toNat 3
  rw [hmask, Nat.shiftLeft_eq, Nat.mul_comm, ← Nat.two_pow_add_eq_or_of_lt lo.isLt]

theorem view_updateOriginal (packet : Packet) (s : FcTelemetry) :
    (updateOriginal packet.toList s).view = FcView.receiveOriginal packet s.view := by
  have hlow : (((packet.byte 3).toNat >>> 3) &&& 1 ≠ 0) = ((packet.byte 3).getLsbD 3 = true) := by
    rw [show (1 : ℕ) = 2 ^ 0 from rfl, and_two_pow_ne_zero, Nat.testBit_shiftRight]
    rfl
  simp (disch := omega) only [updateOriginal, view, FcView.receiveOriginal, getD_toList,
    centivolts_eq, hlow, Bool.decide_eq_true]

/-! ### The object refines the view -/

theorem sum_eq_checksum (packet : Packet) :
    ((packet.toList.take 14).map BitVec.toNat).sum &&& 0xFF =
      (bayangCalculateChecksum packet).toNat := by
  rw [toNat_bayangCalculateChecksum]
  exact Nat.and_two_pow_sub_one_eq_mod _ 8

/-- The two checks of `update` are `bayang_check_telemetry`. -/
theorem bayangCheckTelemetry_eq_false_iff (packet : Packet) :
    bayangCheckTelemetry packet = false ↔
      (packet.toList.length ≠ rawFcLength ∨
        (packet.toList.getD 0 0 ≠ 0x85 ∧ packet.toList.getD 0 0 ≠ 0x86)) ∨
      ((packet.toList.take 14).map BitVec.toNat).sum &&& 0xFF ≠
        (packet.toList.getD 14 0).toNat := by
  have hlen : packet.toList.length = rawFcLength := Vector.length_toList
  rw [sum_eq_checksum, getD_toList packet 0, getD_toList packet 14,
    BitVec.toNat_inj.ne, bayangCheckTelemetry]
  split_ifs with h1 h2
  · exact iff_of_true rfl (.inl (.inr h1))
  · exact iff_of_true rfl (.inr h2)
  · simp only [false_iff]
    tauto

theorem update_of_invalid {packet : Packet} (h : bayangCheckTelemetry packet = false)
    (s : FcTelemetry) (receivedAt : ℚ) : ∃ e, update s packet.toList receivedAt = (.error e, s) := by
  rw [bayangCheckTelemetry_eq_false_iff] at h
  unfold update
  split_ifs with h1 h2
  · exact ⟨_, rfl⟩
  · exact ⟨_, rfl⟩
  all_goals tauto

theorem exec_parsePage (s : FcTelemetry) (packet : Packet) (page : ℕ) (hpage : page < 4) :
    ∃ s' reader, (parsePage page).exec (s, ⟨slice packet.toList 2 12, 0⟩) = (.ok (), s', reader) ∧
      s'.telemetryPacketLosses = s.telemetryPacketLosses ∧
      ∀ receivedAt, (s'.withPage page receivedAt).view =
        FcView.receivePage (payloadBit packet) page s.view := by
  interval_cases page
  · exact exec_parseControl s packet
  · exact exec_parseFlight s packet
  · exact exec_parsePower s packet
  · exact exec_parseSystem s packet

theorem updateExtended_spec (s : FcTelemetry) (packet : Packet) (receivedAt : ℚ) :
    (updateExtended packet.toList receivedAt s).1 = .ok () ∧
      (updateExtended packet.toList receivedAt s).2.telemetryPacketLosses =
        (updateHeader (packet.byte 1).toNat s).telemetryPacketLosses ∧
      (updateExtended packet.toList receivedAt s).2.view = FcView.receiveExtended packet s.view := by
  have hpage : (packet.byte 1).toNat >>> 6 < 4 := by
    have := (packet.byte 1).isLt
    rw [Nat.shiftRight_eq_div_pow]
    omega
  obtain ⟨s', reader, hexec, hlosses, hview⟩ :=
    exec_parsePage (updateHeader (packet.byte 1).toNat s) packet ((packet.byte 1).toNat >>> 6) hpage
  have heval : updateExtended packet.toList receivedAt s =
      (.ok (), s'.withPage ((packet.byte 1).toNat >>> 6) receivedAt) := by
    rw [updateExtended, getD_toList packet 1]
    rw [Update.exec] at hexec
    simp only [hexec]
    rfl
  rw [heval]
  refine ⟨rfl, hlosses, ?_⟩
  rw [hview, view_updateHeader, Nat.shiftRight_eq_div_pow]
  rfl

/-- The protocol of an object that has seen packets. -/
def protocolOf : TelemetryProtocol → FcProtocol
  | .original => .original
  | .extendedV1 => .extendedV1

theorem view_switchProtocol (s : FcTelemetry) (protocol : TelemetryProtocol) :
    (s.switchProtocol (protocolOf protocol)).view = FcView.switchTo protocol s.view := by
  obtain ⟨sp⟩ := s
  rw [FcView.switchTo]
  cases protocol <;> cases sp <;> rfl

/-- A valid packet goes to the branch of its header. -/
theorem update_eq {packet : Packet} (h : bayangCheckTelemetry packet = true) (s : FcTelemetry)
    (receivedAt : ℚ) :
    update s packet.toList receivedAt =
      match packetProtocol packet with
      | .extendedV1 => updateExtended packet.toList receivedAt (s.switchProtocol .extendedV1)
      | .original => (.ok (), updateOriginal packet.toList (s.switchProtocol .original)) := by
  have hcheck := (not_congr (bayangCheckTelemetry_eq_false_iff packet)).1 (by simp [h])
  have hhead : packet.toList.getD 0 0 = packet.byte 0 := getD_toList packet 0
  unfold update
  rw [if_neg fun hbad => hcheck (.inl hbad), if_neg fun hbad => hcheck (.inr hbad), hhead]
  rcases bayangCheckTelemetry_header h with horig | hext
  · have hproto : packetProtocol packet = .original := if_neg (by rw [horig]; decide)
    rw [if_pos horig, if_neg (show packet.byte 0 ≠ 0x86 by rw [horig]; decide), hproto]
  · have hproto : packetProtocol packet = .extendedV1 := if_pos hext
    rw [if_pos hext, if_neg (by rw [hext]; decide), hproto]

/-- **One packet**: `update` accepts a valid packet, and the view of the object is then the view
that received it. -/
theorem update_of_valid {packet : Packet} (h : bayangCheckTelemetry packet = true)
    (s : FcTelemetry) (receivedAt : ℚ) :
    (update s packet.toList receivedAt).1 = .ok () ∧
      (update s packet.toList receivedAt).2.view = FcView.receive packet s.view := by
  rw [update_eq h, FcView.receive]
  cases packetProtocol packet with
  | original =>
    refine ⟨rfl, ?_⟩
    rw [view_updateOriginal]
    exact congrArg _ (view_switchProtocol s .original)
  | extendedV1 =>
    have hspec := updateExtended_spec (s.switchProtocol (protocolOf .extendedV1)) packet receivedAt
    rw [view_switchProtocol] at hspec
    exact ⟨hspec.1, hspec.2.2⟩

/-- The object after a history of packets with their receive times. -/
def feed (s : FcTelemetry) (history : List (Packet × ℚ)) : FcTelemetry :=
  history.foldl (fun s r => (update s r.1.toList r.2).2) s

/-- **A history**: the view of the object is the view that received the valid packets. -/
theorem view_feed (s : FcTelemetry) (history : List (Packet × ℚ)) :
    (feed s history).view = s.view.receiveAll (history.map Prod.fst) := by
  induction history generalizing s with
  | nil => rfl
  | cons r history ih =>
    have hfeed : feed s (r :: history) = feed (update s r.1.toList r.2).2 history := rfl
    rw [hfeed, ih, List.map_cons, FcView.receiveAll, FcView.receiveAll]
    cases h : bayangCheckTelemetry r.1 with
    | false =>
      obtain ⟨e, he⟩ := update_of_invalid h s r.2
      rw [he, List.filter_cons_of_neg (by simp [h])]
    | true => rw [(update_of_valid h s r.2).2, List.filter_cons_of_pos h, List.foldl_cons]

end FcTelemetry

end SilverwareTx.GroundStation
