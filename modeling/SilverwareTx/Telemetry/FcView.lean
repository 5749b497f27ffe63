import SilverwareTx.Telemetry.Telemetry

/-!
# What FC telemetry says

An abstract decoder of the telemetry format: `FcView` is what the packets received so far say about
the flight controller, `FcView.receive` takes one more packet into account. Every field is a bit
field of the payload (`MsbBits.field`) at its place in the page layouts.

The transmitter's parser refines it: `view_telemetryParse` for one packet, `view_telemetryFeed` for
a history. The legacy PID terms are outside the view.
-/

namespace SilverwareTx

open MsbBits

/-- Bit `i` of the 96-bit page payload, most significant bit of byte 2 first. -/
def payloadBit (packet : Packet) (i : ℕ) : Bool :=
  (packet.toList.getD (2 + i / 8) 0).getLsbD (7 - i % 8)

/-- What the packets received so far say; the defaults are those of a source that just appeared. -/
structure FcView where
  protocol : Option TelemetryProtocol := none
  pageMask : ℕ := 0
  systemSubpageMask : ℕ := 0
  armed : Bool := false
  failsafe : Bool := false
  onGround : Bool := false
  idleUp : Bool := false
  lowVoltage : Bool := false
  pidProfile : Bool := false
  flightMode : FlightMode := .unknown
  sequence : ℕ := 0
  /-- The sequence number of the last extended packet since the source appeared. -/
  lastSequence : Option ℕ := none
  telemetryPacketLosses : U32 := 0
  batteryRawV : Scaled := {}
  batteryCompensatedV : Scaled := {}
  receiverPacketsPerSecond : ℕ := 0
  rollDeg : Scaled := {}
  pitchDeg : Scaled := {}
  relativeYawDeg : Scaled := {}
  accelXG : Scaled := {}
  accelYG : Scaled := {}
  accelZG : Scaled := {}
  gyroRollDps : Scaled := {}
  gyroPitchDps : Scaled := {}
  gyroYawDps : Scaled := {}
  setpointRollDps : Scaled := {}
  setpointPitchDps : Scaled := {}
  setpointYawDps : Scaled := {}
  commandedThrottlePercent : Scaled := {}
  appliedThrottlePercent : Scaled := {}
  motorsPercent : List Scaled := [{}, {}, {}, {}]
  flightTimeSeconds : ℕ := 0
  packetsLostPerSecond : ℕ := 0
  linkQualityPercent : ℕ := 0
  maximumRxGapMs : Scaled := {}
  currentRxGapMs : Scaled := {}
  failsafeCount : ℕ := 0
  loopTimeAverageUs : ℕ := 0
  loopTimeMaximumUs : ℕ := 0
  loopOverrunCount : ℕ := 0
  imuTemperatureRaw : ℤ := 0
  imuType : ℕ := 0
  cpuLoadPercent : ℕ := 0
  telemetryTxCount : ℕ := 0
  receiverPacketTotal : ℕ := 0
  estimatedLostPacketTotal : ℕ := 0

namespace FcView

/-- The number of sequence numbers skipped from `last` to `sequence`, modulo 16. -/
def missed (last sequence : ℕ) : ℕ := (((sequence : ℤ) - (last + 1)) % 16).toNat

/-- The flight mode that the level, race and horizon bits say. -/
def flightModeOf : (level race horizon : Bool) → FlightMode
  | false, _, _ => .acro
  | true, true, true => .raceHorizon
  | true, false, true => .horizon
  | true, true, false => .race
  | true, false, false => .level

/-- The common status header. -/
def receiveHeader (common : U8) (v : FcView) : FcView :=
  let sequence := common.toNat % 16
  { v with
    armed := common.getLsbD 5
    failsafe := common.getLsbD 4
    telemetryPacketLosses :=
      v.telemetryPacketLosses + BitVec.ofNat 32 ((v.lastSequence.map (missed · sequence)).getD 0)
    sequence := sequence
    lastSequence := some sequence }

/-- Page A. -/
def receiveControl (bit : ℕ → Bool) (v : FcView) : FcView :=
  { v with
    gyroRollDps := ⟨signedField bit 0 10, 4, 1⟩
    gyroPitchDps := ⟨signedField bit 10 10, 4, 1⟩
    gyroYawDps := ⟨signedField bit 20 10, 4, 1⟩
    setpointRollDps := ⟨signedField bit 30 10, 4, 1⟩
    setpointPitchDps := ⟨signedField bit 40 10, 4, 1⟩
    setpointYawDps := ⟨signedField bit 50 10, 4, 1⟩
    commandedThrottlePercent := ⟨field bit 60 6, 100, 63⟩
    appliedThrottlePercent := ⟨field bit 66 6, 100, 63⟩
    motorsPercent := [⟨field bit 72 6, 100, 63⟩, ⟨field bit 78 6, 100, 63⟩,
      ⟨field bit 84 6, 100, 63⟩, ⟨field bit 90 6, 100, 63⟩]
    pageMask := v.pageMask ||| 1 }

/-- Page B. -/
def receiveFlight (bit : ℕ → Bool) (v : FcView) : FcView :=
  { v with
    rollDeg := ⟨signedField bit 0 12, 1, 10⟩
    pitchDeg := ⟨signedField bit 12 12, 1, 10⟩
    relativeYawDeg := ⟨signedField bit 24 12, 1, 10⟩
    accelXG := ⟨signedField bit 36 12, 1, 256⟩
    accelYG := ⟨signedField bit 48 12, 1, 256⟩
    accelZG := ⟨signedField bit 60 12, 1, 256⟩
    flightTimeSeconds := field bit 72 16
    onGround := bit 95
    idleUp := bit 94
    lowVoltage := bit 93
    flightMode := flightModeOf (bit 92) (bit 91) (bit 90)
    pidProfile := bit 89
    pageMask := v.pageMask ||| 2 }

/-- Page C. -/
def receivePower (bit : ℕ → Bool) (v : FcView) : FcView :=
  { v with
    batteryRawV := ⟨field bit 0 16, 1, 1000⟩
    batteryCompensatedV := ⟨field bit 16 16, 1, 1000⟩
    receiverPacketsPerSecond := field bit 32 8
    packetsLostPerSecond := field bit 40 8
    linkQualityPercent := field bit 48 8
    lowVoltage := bit 63
    maximumRxGapMs := ⟨field bit 64 16, 1, 10⟩
    currentRxGapMs := ⟨field bit 80 8, 1, 10⟩
    failsafeCount := field bit 88 8
    pageMask := v.pageMask ||| 4 }

/-- Page D, whose first bit chooses between health and counters. -/
def receiveSystem (bit : ℕ → Bool) (v : FcView) : FcView :=
  if bit 0 then
    { v with
      receiverPacketTotal := field bit 1 32
      estimatedLostPacketTotal := field bit 33 32
      telemetryTxCount := field bit 65 31
      systemSubpageMask := v.systemSubpageMask ||| 2
      pageMask := v.pageMask ||| 8 }
  else
    { v with
      loopTimeAverageUs := field bit 1 16
      loopTimeMaximumUs := field bit 17 16
      loopOverrunCount := field bit 33 16
      imuTemperatureRaw := signedField bit 49 16
      imuType := field bit 65 8
      cpuLoadPercent := field bit 73 8
      telemetryTxCount := field bit 81 15
      systemSubpageMask := v.systemSubpageMask ||| 1
      pageMask := v.pageMask ||| 8 }

/-- The page of an extended packet. -/
def receivePage (bit : ℕ → Bool) (page : ℕ) (v : FcView) : FcView :=
  match page with
  | 0 => receiveControl bit v
  | 1 => receiveFlight bit v
  | 2 => receivePower bit v
  | _ => receiveSystem bit v

/-- An extended packet. -/
def receiveExtended (packet : Packet) (v : FcView) : FcView :=
  receivePage (payloadBit packet) ((packet.byte 1).toNat / 64) (receiveHeader (packet.byte 1) v)

/-- An original packet. -/
def receiveOriginal (packet : Packet) (v : FcView) : FcView :=
  { v with
    batteryRawV := ⟨((packet.byte 3).toNat % 8 * 256 + (packet.byte 4).toNat : ℕ), 1, 100⟩
    batteryCompensatedV := ⟨((packet.byte 5).toNat % 8 * 256 + (packet.byte 6).toNat : ℕ), 1, 100⟩
    lowVoltage := (packet.byte 3).getLsbD 3
    receiverPacketsPerSecond := (packet.byte 7).toNat * 2 }

/-- A packet of another protocol is a new source. -/
def switchTo (protocol : TelemetryProtocol) (v : FcView) : FcView :=
  if v.protocol = some protocol then v else { protocol := some protocol }

/-- One more valid packet. -/
def receive (packet : Packet) (v : FcView) : FcView :=
  let protocol := packetProtocol packet
  let v := switchTo protocol v
  match protocol with
  | .original => receiveOriginal packet v
  | .extendedV1 => receiveExtended packet v

/-- An extended packet leaves its protocol and its sequence number. -/
theorem receive_extended {packet : Packet} {v : FcView} (h : packet.byte 0 = 0x86) :
    (receive packet v).protocol = some .extendedV1 ∧
      (receive packet v).lastSequence = some ((packet.byte 1).toNat % 16) := by
  have hpage : ∀ (page : ℕ) (w : FcView),
      (receivePage (payloadBit packet) page w).protocol = w.protocol ∧
        (receivePage (payloadBit packet) page w).lastSequence = w.lastSequence := by
    intro page w
    unfold receivePage
    split
    · exact ⟨rfl, rfl⟩
    · exact ⟨rfl, rfl⟩
    · exact ⟨rfl, rfl⟩
    · unfold receiveSystem
      split_ifs <;> exact ⟨rfl, rfl⟩
  have hproto : packetProtocol packet = .extendedV1 := if_pos h
  have hswitch : (switchTo .extendedV1 v).protocol = some .extendedV1 := by
    unfold switchTo
    split_ifs with hsame
    · exact hsame
    · rfl
  simp only [receive, hproto, receiveExtended]
  exact ⟨(hpage _ _).1.trans hswitch, (hpage _ _).2⟩

/-- The valid packets of a history, in order. -/
def receiveAll (v : FcView) (packets : List Packet) : FcView :=
  (packets.filter bayangCheckTelemetry).foldl (fun v packet => receive packet v) v

end FcView

/-! ### The parser's bit reader -/

theorem readBitsLoop_snd (packet : Packet) (n : ℕ) (value : U32) (o : ℕ) :
    (readBitsLoop packet n value o).2 = o + n := by
  induction n generalizing value o with
  | zero => rfl
  | succ n ih => rw [readBitsLoop, ih]; omega

@[simp] theorem readBits_snd (packet : Packet) (o n : ℕ) : (readBits packet o n).2 = o + n :=
  readBitsLoop_snd packet n 0 o

@[simp] theorem readSignedBits_snd (packet : Packet) (o n : ℕ) :
    (readSignedBits packet o n).2 = o + n := readBits_snd packet o n

/-- The bit that one turn of the loop extracts. -/
theorem extracted_bit (packet : Packet) (o : ℕ) :
    (((packet.toList.getD (2 + (o >>> 3)) 0 >>> (7 - (o &&& 7))) &&& 1).setWidth 32 : U32).toNat =
      (payloadBit packet o).toNat := by
  have hbit : ∀ (b : U8) (k : ℕ), ((b >>> k) &&& 1).toNat = (b.getLsbD k).toNat := by
    intro b k
    rw [BitVec.toNat_and, BitVec.toNat_ushiftRight, BitVec.getLsbD,
      show (1 : U8).toNat = 2 ^ 1 - 1 from rfl, Nat.and_two_pow_sub_one_eq_mod, pow_one,
      Nat.shiftRight_eq_div_pow, Nat.toNat_testBit]
  have hand : o &&& 7 = o % 8 := Nat.and_two_pow_sub_one_eq_mod o 3
  have hle := Bool.toNat_le (payloadBit packet o)
  rw [BitVec.toNat_setWidth, hbit, hand, Nat.shiftRight_eq_div_pow, ← payloadBit,
    Nat.mod_eq_of_lt (by omega)]

/-- The accumulator shifts the bits of the field in, modulo its 32 bits. -/
theorem toNat_readBitsLoop (packet : Packet) (n : ℕ) (value : U32) (o : ℕ) :
    (readBitsLoop packet n value o).1.toNat =
      (value.toNat * 2 ^ n + field (payloadBit packet) o n) % 2 ^ 32 := by
  induction n generalizing value o with
  | zero =>
    rw [readBitsLoop, field_zero, pow_zero, mul_one, Nat.add_zero, Nat.mod_eq_of_lt value.isLt]
  | succ n ih =>
    have hle := Bool.toNat_le (payloadBit packet o)
    rw [readBitsLoop, ih, field_succ_left, BitVec.toNat_or, BitVec.toNat_shiftLeft,
      extracted_bit, shiftLeft_mod_or _ (by omega) (by omega), Nat.add_mod, Nat.mul_mod,
      Nat.mod_mod, ← Nat.mul_mod, ← Nat.add_mod, pow_succ]
    congr 1
    ring

/-- A field of at most 32 bits is read exactly. -/
theorem toNat_readBits (packet : Packet) (o : ℕ) {n : ℕ} (hn : n ≤ 32) :
    (readBits packet o n).1.toNat = field (payloadBit packet) o n := by
  have hlt := field_lt (payloadBit packet) o n
  have hle : 2 ^ n ≤ 2 ^ 32 := Nat.pow_le_pow_right (by norm_num) hn
  rw [readBits, toNat_readBitsLoop, show (0 : U32).toNat = 0 from rfl, Nat.zero_mul, Nat.zero_add]
  exact Nat.mod_eq_of_lt (by omega)

/-- A field stored in a narrower integer that it fits. -/
theorem toNat_setWidth_readBits (packet : Packet) (o : ℕ) {n k : ℕ} (hn : n ≤ 32) (hk : n ≤ k) :
    ((readBits packet o n).1.setWidth k).toNat = field (payloadBit packet) o n := by
  have hlt := field_lt (payloadBit packet) o n
  have hle : 2 ^ n ≤ 2 ^ k := Nat.pow_le_pow_right (by norm_num) hk
  rw [BitVec.toNat_setWidth, toNat_readBits packet o hn, Nat.mod_eq_of_lt (by omega)]

/-- A mask of one bit tests that bit. -/
theorem and_oneBit_ne_zero {w : ℕ} (v : BitVec w) {i : ℕ} (hi : i < w) :
    v &&& (1#w <<< i) ≠ 0 ↔ v.getLsbD i = true := by
  have hone : BitVec.twoPow w i ≠ 0 := by
    intro h
    have := congrArg (BitVec.getLsbD · i) h
    simp [hi] at this
  rw [← BitVec.twoPow_eq, BitVec.and_twoPow]
  cases v.getLsbD i with
  | true => simpa using hone
  | false => simp

/-- A signed field is read exactly. -/
theorem readSignedBits_fst (packet : Packet) (o : ℕ) {n : ℕ} (hn : n + 1 < 32) :
    (readSignedBits packet o (n + 1)).1 = signedField (payloadBit packet) o (n + 1) := by
  have hval := toNat_readBits packet o hn.le
  have hlt := field_lt (payloadBit packet) o (n + 1)
  have hsign : (readBits packet o (n + 1)).1 &&& (1#32 <<< n) ≠ 0 ↔ payloadBit packet o = true := by
    rw [and_oneBit_ne_zero _ (by omega), BitVec.getLsbD, hval,
      testBit_field _ _ (Nat.lt_succ_self n), show o + (n + 1 - 1 - n) = o by omega]
  unfold readSignedBits signedField
  simp only [Nat.add_sub_cancel, hsign]
  split_ifs with hbit
  · rw [or_highMask_toInt hn (by omega), hval]
  · rw [toInt_of_small hn (by omega), hval]

theorem flagSet_oneBit (v : U8) {i : ℕ} (hi : i < 8) : flagSet v (1#8 <<< i) = v.getLsbD i := by
  rw [Bool.eq_iff_iff, flagSet, bne_iff_ne]
  exact and_oneBit_ne_zero v hi

theorem flagSet_one (v : U8) : flagSet v 1 = v.getLsbD 0 :=
  flagSet_oneBit v (show 0 < 8 by norm_num)

/-- A flag bit of a byte read from the payload. -/
theorem getLsbD_readBits (packet : Packet) (o : ℕ) {k : ℕ} (hk : k < 8) :
    ((readBits packet o 8).1.setWidth 8 : U8).getLsbD k = payloadBit packet (o + (7 - k)) := by
  rw [BitVec.getLsbD, toNat_setWidth_readBits packet o (by norm_num) le_rfl, testBit_field _ _ hk]

/-- An aligned byte of the payload. -/
theorem field_byte (packet : Packet) (k : ℕ) :
    field (payloadBit packet) (8 * k) 8 = (packet.byte (2 + k)).toNat := by
  apply Nat.eq_of_testBit_eq
  intro i
  by_cases hi : i < 8
  · have hindex : (8 * k + (8 - 1 - i)) / 8 = k := by omega
    have hbit : 7 - (8 * k + (8 - 1 - i)) % 8 = i := by omega
    rw [testBit_field _ _ hi, payloadBit, hindex, hbit]
    rfl
  · have hle : 2 ^ 8 ≤ 2 ^ i := Nat.pow_le_pow_right (by norm_num) (not_lt.1 hi)
    rw [Nat.testBit_lt_two_pow ((field_lt _ _ 8).trans_le hle),
      Nat.testBit_lt_two_pow ((packet.byte (2 + k)).isLt.trans_le hle)]

/-- An aligned byte of the payload is read as it is. -/
theorem readBits_byte (packet : Packet) (k : ℕ) :
    ((readBits packet (8 * k) 8).1.setWidth 8 : U8) = packet.byte (2 + k) := by
  apply BitVec.eq_of_toNat_eq
  rw [toNat_setWidth_readBits packet _ (by norm_num) le_rfl, field_byte]

/-! ### The view of the module -/

/-- What the telemetry module says. -/
def TelemetryModule.view (m : TelemetryModule) : FcView :=
  let t := m.currentTelemetry
  { protocol := if m.hasTelemetry then some t.protocol else none
    pageMask := t.extendedPagesSeen.toNat
    systemSubpageMask := t.systemSubpagesSeen.toNat
    armed := t.armed
    failsafe := t.failsafe
    onGround := t.onGround
    idleUp := t.idleUp
    lowVoltage := t.lowVoltage
    pidProfile := t.pidProfile
    flightMode := t.flightMode
    sequence := t.sequence.toNat
    lastSequence := if m.hasSequence then some m.lastSequence.toNat else none
    telemetryPacketLosses := t.telemetryPacketsLost
    batteryRawV := t.batteryRawV
    batteryCompensatedV := t.batteryCompensatedV
    receiverPacketsPerSecond := t.receiverPacketsPerSecond.toNat
    rollDeg := t.rollDeg
    pitchDeg := t.pitchDeg
    relativeYawDeg := t.relativeYawDeg
    accelXG := t.accelXG
    accelYG := t.accelYG
    accelZG := t.accelZG
    gyroRollDps := t.gyroRollDps
    gyroPitchDps := t.gyroPitchDps
    gyroYawDps := t.gyroYawDps
    setpointRollDps := t.setpointRollDps
    setpointPitchDps := t.setpointPitchDps
    setpointYawDps := t.setpointYawDps
    commandedThrottlePercent := t.commandedThrottlePercent
    appliedThrottlePercent := t.appliedThrottlePercent
    motorsPercent := t.motorOutputPercent.toList
    flightTimeSeconds := t.flightTimeSeconds.toNat
    packetsLostPerSecond := t.packetsLostPerSecond.toNat
    linkQualityPercent := t.linkQualityPercent.toNat
    maximumRxGapMs := t.maximumRxGapMs
    currentRxGapMs := t.currentRxGapMs
    failsafeCount := t.failsafeCount.toNat
    loopTimeAverageUs := t.loopTimeAverageUs.toNat
    loopTimeMaximumUs := t.loopTimeMaximumUs.toNat
    loopOverrunCount := t.loopOverrunCount.toNat
    imuTemperatureRaw := t.imuTemperatureRaw.toInt
    imuType := t.imuType.toNat
    cpuLoadPercent := t.cpuLoadPercent.toNat
    telemetryTxCount := t.telemetryTxCount.toNat
    receiverPacketTotal := t.receiverPacketTotal.toNat
    estimatedLostPacketTotal := t.estimatedLostPacketTotal.toNat }

section Pages

variable (packet : Packet) (t : TelemetryData) (m : TelemetryModule)

theorem decodeFlightMode_eq (flags : U8) :
    decodeFlightMode flags =
      FcView.flightModeOf (flags.getLsbD 3) (flags.getLsbD 4) (flags.getLsbD 5) := by
  simp only [decodeFlightMode, flagSet_oneBit flags (show 3 < 8 by omega),
    flagSet_oneBit flags (show 4 < 8 by omega), flagSet_oneBit flags (show 5 < 8 by omega)]
  cases flags.getLsbD 3 <;> cases flags.getLsbD 4 <;> cases flags.getLsbD 5 <;> rfl

theorem view_parseControl :
    { m with currentTelemetry := parseControl packet t }.view =
      FcView.receiveControl (payloadBit packet) { m with currentTelemetry := t }.view := by
  simp [parseControl, FcView.receiveControl, TelemetryModule.view, readSignedBits_fst,
    unitValueToPercent, toNat_readBits, telemetryExtendedPageControl]

theorem view_parseFlight (currentTimeUs : ℤ) :
    { m with currentTelemetry := parseFlight packet currentTimeUs t }.view =
      FcView.receiveFlight (payloadBit packet) { m with currentTelemetry := t }.view := by
  simp (disch := omega) only [parseFlight, FcView.receiveFlight, TelemetryModule.view,
    readBits_snd, readSignedBits_snd, Nat.reduceAdd, Nat.reduceSub, readSignedBits_fst,
    toNat_setWidth_readBits, decodeFlightMode_eq, flagSet_oneBit, getLsbD_readBits,
    BitVec.toNat_or, telemetryExtendedPageFlight]
  rfl

theorem view_parsePower :
    { m with currentTelemetry := parsePower packet t }.view =
      FcView.receivePower (payloadBit packet) { m with currentTelemetry := t }.view := by
  simp (disch := omega) only [parsePower, FcView.receivePower, TelemetryModule.view, readBits_snd,
    Nat.reduceAdd, Nat.reduceSub, toNat_readBits, toNat_setWidth_readBits, flagSet_one,
    getLsbD_readBits, BitVec.toNat_or, telemetryExtendedPagePower]
  rfl

theorem readBits_one_eq_zero_iff : (readBits packet 0 1).1 = 0 ↔ payloadBit packet 0 = false := by
  rw [← BitVec.toNat_inj, toNat_readBits packet 0 (by norm_num), field_succ]
  cases payloadBit packet 0 <;> simp

theorem view_parseSystem :
    { m with currentTelemetry := parseSystem packet t }.view =
      FcView.receiveSystem (payloadBit packet) { m with currentTelemetry := t }.view := by
  have himu : ∀ o, (BitVec.ofInt 16 (signedField (payloadBit packet) o 16)).toInt =
      signedField (payloadBit packet) o 16 := fun o =>
    BitVec.toInt_ofInt_eq_self (by norm_num) (signedField_bounds _ o 15).1
      (signedField_bounds _ o 15).2
  unfold parseSystem FcView.receiveSystem
  simp only [readBits_one_eq_zero_iff]
  cases payloadBit packet 0 with
  | false =>
    rw [if_pos rfl, if_neg Bool.false_ne_true]
    simp (disch := omega) only [parseSystemHealth, TelemetryModule.view, readBits_snd,
      readSignedBits_snd, Nat.reduceAdd, readSignedBits_fst, toNat_readBits,
      toNat_setWidth_readBits, himu, BitVec.toNat_or]
    rfl
  | true =>
    rw [if_neg Bool.true_eq_false.mp, if_pos rfl]
    simp (disch := omega) only [parseSystemCounters, TelemetryModule.view, readBits_snd,
      Nat.reduceAdd, toNat_readBits, BitVec.toNat_or]
    rfl

theorem toNat_sequence (common : U8) : (common &&& 0x0F).toNat = common.toNat % 16 :=
  Nat.and_two_pow_sub_one_eq_mod common.toNat 4

/-- The sequence numbers skipped, as the parser counts them in 32 bits. -/
theorem missed_eq (common last : U8) :
    ((common &&& 0x0F).setWidth 32 - (((last + 1) &&& 0x0F).setWidth 32) : U32) &&& 0x0F =
      BitVec.ofNat 32 (FcView.missed last.toNat (common.toNat % 16)) := by
  have hone : (1 : U8).toNat = 1 := rfl
  apply BitVec.eq_of_toNat_eq
  rw [BitVec.toNat_and, show (0x0F : U32).toNat = 2 ^ 4 - 1 from rfl,
    Nat.and_two_pow_sub_one_eq_mod, BitVec.toNat_sub, BitVec.toNat_setWidth,
    BitVec.toNat_setWidth, toNat_sequence, toNat_sequence, BitVec.toNat_add, hone,
    BitVec.toNat_ofNat, FcView.missed]
  omega

/-- The common status header. -/
theorem view_parseExtendedHeader :
    (parseExtendedHeader packet m).view = FcView.receiveHeader (packet.byte 1) m.view := by
  have hlost : ∀ (has : Bool) (lost : U32) (last : U8),
      (if has then lost + (((packet.byte 1 &&& 0x0F).setWidth 32 -
          (((last + 1) &&& 0x0F).setWidth 32) : U32) &&& 0x0F) else lost) =
        lost + BitVec.ofNat 32 (((if has then some last.toNat else none).map
          (FcView.missed · ((packet.byte 1).toNat % 16))).getD 0) := by
    intro has lost last
    cases has with
    | false => simp
    | true => rw [if_pos rfl, if_pos rfl, missed_eq]; rfl
  simp (disch := omega) only [parseExtendedHeader, FcView.receiveHeader, TelemetryModule.view,
    flagSet_oneBit, hlost, toNat_sequence, if_true]

theorem toNat_centivolts (hi lo : U8) :
    (((hi &&& 0x07).setWidth 16 <<< 8) ||| lo.setWidth 16 : U16).toNat =
      hi.toNat % 8 * 256 + lo.toNat := by
  have hmask : (hi &&& 0x07).toNat = hi.toNat % 8 := Nat.and_two_pow_sub_one_eq_mod hi.toNat 3
  have hlo : lo.toNat < 2 ^ 8 := lo.isLt
  rw [BitVec.toNat_or, BitVec.toNat_shiftLeft, BitVec.toNat_setWidth, BitVec.toNat_setWidth, hmask,
    Nat.shiftLeft_eq, Nat.mod_eq_of_lt (show hi.toNat % 8 < 2 ^ 16 by omega),
    Nat.mod_eq_of_lt (show hi.toNat % 8 * 2 ^ 8 < 2 ^ 16 by omega),
    Nat.mod_eq_of_lt (show lo.toNat < 2 ^ 16 by omega), Nat.mul_comm,
    ← Nat.two_pow_add_eq_or_of_lt hlo]
  omega

theorem view_parseOriginal :
    { m with currentTelemetry := parseOriginal packet t }.view =
      FcView.receiveOriginal packet { m with currentTelemetry := t }.view := by
  have hrate : ((packet.byte 7).setWidth 16 * 2 : U16).toNat = (packet.byte 7).toNat * 2 := by
    have hlt := (packet.byte 7).isLt
    rw [BitVec.toNat_mul, BitVec.toNat_setWidth, show (2 : U16).toNat = 2 from rfl]
    omega
  have hlow : flagSet (packet.byte 3 >>> 3) 1 = (packet.byte 3).getLsbD 3 := by
    rw [flagSet_one, BitVec.getLsbD_ushiftRight]
  simp only [parseOriginal, FcView.receiveOriginal, TelemetryModule.view, toNat_centivolts, hrate,
    hlow]

end Pages

/-! ### The parser refines the view -/

/-- Until the first valid packet the module is as `telemetry_init` left it. -/
def TelemetryModule.FreshUntilSeen (m : TelemetryModule) : Prop :=
  m.hasTelemetry = false → m = telemetryInit

theorem freshUntilSeen_telemetryInit : telemetryInit.FreshUntilSeen := fun _ => rfl

theorem freshUntilSeen_telemetryParse {m : TelemetryModule} (hm : m.FreshUntilSeen)
    (packet : Packet) (t : ℤ) : (telemetryParse m packet t).2.FreshUntilSeen := by
  cases h : bayangCheckTelemetry packet with
  | false => rwa [telemetryParse_of_invalid h]
  | true =>
    intro hseen
    rw [telemetryParse_of_valid h] at hseen
    cases hseen

theorem view_switchProtocol {m : TelemetryModule} (hm : m.FreshUntilSeen)
    (protocol : TelemetryProtocol) :
    { switchProtocol m protocol with hasTelemetry := true }.view =
      FcView.switchTo protocol m.view := by
  unfold switchProtocol FcView.switchTo
  cases hseen : m.hasTelemetry with
  | false =>
    obtain rfl := hm hseen
    cases protocol <;> rfl
  | true =>
    have hproto : m.view.protocol = some m.currentTelemetry.protocol := by
      simp [TelemetryModule.view, hseen]
    rw [hproto]
    by_cases hp : m.currentTelemetry.protocol = protocol
    · rw [if_neg (not_not.2 hp), if_pos (congrArg some hp), ← hseen]
    · rw [if_pos hp, if_neg (by simpa using hp)]
      rfl

theorem view_parsePage (packet : Packet) (t : ℤ) (m : TelemetryModule) :
    { m with currentTelemetry := parsePage packet t m.currentTelemetry }.view =
      FcView.receivePage (payloadBit packet) ((packet.byte 1).toNat / 64) m.view := by
  have hpage : ∀ k : U8, packet.byte 1 >>> 6 = k ↔ (packet.byte 1).toNat / 64 = k.toNat := by
    intro k
    rw [← BitVec.toNat_inj, BitVec.toNat_ushiftRight, Nat.shiftRight_eq_div_pow]
  have hlt : (packet.byte 1).toNat / 64 < 4 := by have := (packet.byte 1).isLt; omega
  unfold parsePage
  simp only [hpage]
  generalize (packet.byte 1).toNat / 64 = page at hlt
  interval_cases page
  · exact view_parseControl packet _ m
  · exact view_parseFlight packet _ m t
  · exact view_parsePower packet _ m
  · exact view_parseSystem packet _ m

/-- **One packet**: the view of the parser after a valid packet is the view that received it. -/
theorem view_telemetryParse {m : TelemetryModule} (hm : m.FreshUntilSeen) {packet : Packet} (t : ℤ)
    (h : bayangCheckTelemetry packet = true) :
    (telemetryParse m packet t).2.view = FcView.receive packet m.view := by
  rw [telemetryParse_of_valid h, FcView.receive, ← view_switchProtocol hm]
  generalize switchProtocol m (packetProtocol packet) = s
  unfold parseBody
  cases packetProtocol packet with
  | original => exact view_parseOriginal packet _ { s with hasTelemetry := true }
  | extendedV1 =>
    have hheader := view_parseExtendedHeader packet { s with hasTelemetry := true }
    have hpage := view_parsePage packet t (parseExtendedHeader packet { s with hasTelemetry := true })
    rw [hheader] at hpage
    exact hpage

/-- **A history**: the view of the parser is the view that received the valid packets. -/
theorem view_telemetryFeed {m : TelemetryModule} (hm : m.FreshUntilSeen)
    (history : List Reception) :
    (telemetryFeed m history).view = m.view.receiveAll (history.map Reception.packet) := by
  induction history generalizing m with
  | nil => rfl
  | cons r history ih =>
    rw [telemetryFeed_cons, ih (freshUntilSeen_telemetryParse hm _ _), List.map_cons,
      FcView.receiveAll, FcView.receiveAll]
    cases h : bayangCheckTelemetry r.packet with
    | false => rw [telemetryParse_of_invalid h, List.filter_cons_of_neg (by simp [h])]
    | true => rw [view_telemetryParse hm _ h, List.filter_cons_of_pos h, List.foldl_cons]

end SilverwareTx
