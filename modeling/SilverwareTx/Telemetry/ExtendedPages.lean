import SilverwareTx.Telemetry.FcView

/-!
# The pages of an extended packet (`docs/extended-telemetry.md`)

The documented layouts, written from the sender's side: a page is the values of its fields
(`ExtendedPage`), `extendedPacket` packs one with its status header and checksum, and
`ExtendedPage.decode` is what a receiver should then hold. `extended_decoding_inverts_packing`: the
parser holds exactly that, after reading all 96 payload bits.
-/

namespace SilverwareTx

open MsbBits

/-! ### The layouts -/

/-- Page A. -/
structure ControlPage where
  gyroRoll : BitVec 10
  gyroPitch : BitVec 10
  gyroYaw : BitVec 10
  setpointRoll : BitVec 10
  setpointPitch : BitVec 10
  setpointYaw : BitVec 10
  commandedThrottle : BitVec 6
  appliedThrottle : BitVec 6
  motor1 : BitVec 6
  motor2 : BitVec 6
  motor3 : BitVec 6
  motor4 : BitVec 6

/-- Page B. -/
structure FlightPage where
  roll : BitVec 12
  pitch : BitVec 12
  relativeYaw : BitVec 12
  accelerationX : BitVec 12
  accelerationY : BitVec 12
  accelerationZ : BitVec 12
  flightTime : BitVec 16
  flags : BitVec 8

/-- Page C. -/
structure PowerPage where
  rawBattery : BitVec 16
  compensatedBattery : BitVec 16
  rxPacketRate : BitVec 8
  lostPackets : BitVec 8
  linkQuality : BitVec 8
  flags : BitVec 8
  maximumRxGap : BitVec 16
  latestRxGap : BitVec 8
  failsafeCount : BitVec 8

/-- Page D0. -/
structure HealthPage where
  loopTimeAverage : BitVec 16
  loopTimeMaximum : BitVec 16
  loopOverruns : BitVec 16
  imuTemperature : BitVec 16
  imuType : BitVec 8
  cpuLoad : BitVec 8
  telemetryTxCounter : BitVec 15

/-- Page D1. -/
structure CountersPage where
  validRxPackets : BitVec 32
  estimatedLostPackets : BitVec 32
  telemetryTxCounter : BitVec 31

/-- The pages and subpages of extended telemetry. -/
inductive ExtendedPage
  | control (page : ControlPage)
  | flight (page : FlightPage)
  | power (page : PowerPage)
  | health (page : HealthPage)
  | counters (page : CountersPage)

/-- Bits 7 and 6 of the status header. -/
def ExtendedPage.number : ExtendedPage → BitVec 2
  | .control _ => 0
  | .flight _ => 1
  | .power _ => 2
  | .health _ => 3
  | .counters _ => 3

/-- The fields in the documented order. -/
def ExtendedPage.fields : ExtendedPage → List Packed
  | .control page =>
    [⟨10, page.gyroRoll⟩, ⟨10, page.gyroPitch⟩, ⟨10, page.gyroYaw⟩, ⟨10, page.setpointRoll⟩,
      ⟨10, page.setpointPitch⟩, ⟨10, page.setpointYaw⟩, ⟨6, page.commandedThrottle⟩,
      ⟨6, page.appliedThrottle⟩, ⟨6, page.motor1⟩, ⟨6, page.motor2⟩, ⟨6, page.motor3⟩,
      ⟨6, page.motor4⟩]
  | .flight page =>
    [⟨12, page.roll⟩, ⟨12, page.pitch⟩, ⟨12, page.relativeYaw⟩, ⟨12, page.accelerationX⟩,
      ⟨12, page.accelerationY⟩, ⟨12, page.accelerationZ⟩, ⟨16, page.flightTime⟩, ⟨8, page.flags⟩]
  | .power page =>
    [⟨16, page.rawBattery⟩, ⟨16, page.compensatedBattery⟩, ⟨8, page.rxPacketRate⟩,
      ⟨8, page.lostPackets⟩, ⟨8, page.linkQuality⟩, ⟨8, page.flags⟩, ⟨16, page.maximumRxGap⟩,
      ⟨8, page.latestRxGap⟩, ⟨8, page.failsafeCount⟩]
  | .health page =>
    [⟨1, 0⟩, ⟨16, page.loopTimeAverage⟩, ⟨16, page.loopTimeMaximum⟩, ⟨16, page.loopOverruns⟩,
      ⟨16, page.imuTemperature⟩, ⟨8, page.imuType⟩, ⟨8, page.cpuLoad⟩,
      ⟨15, page.telemetryTxCounter⟩]
  | .counters page =>
    [⟨1, 1⟩, ⟨32, page.validRxPackets⟩, ⟨32, page.estimatedLostPackets⟩,
      ⟨31, page.telemetryTxCounter⟩]

/-- Byte `k` of packed fields. -/
def packedByte (fields : List Packed) (k : ℕ) : U8 :=
  BitVec.ofNat 8 (field (bitAt (pack fields)) (8 * k) 8)

/-- The common status header. -/
def statusHeader (page : BitVec 2) (armed failsafe : Bool) (sequence : BitVec 4) : U8 :=
  packedByte [⟨2, page⟩, ⟨1, BitVec.ofBool armed⟩, ⟨1, BitVec.ofBool failsafe⟩, ⟨4, sequence⟩] 0

/-- An extended packet. -/
def extendedPacket (page : ExtendedPage) (armed failsafe : Bool) (sequence : BitVec 4) : Packet :=
  let byte := packedByte page.fields
  setChecksum #v[0x86, statusHeader page.number armed failsafe sequence, byte 0, byte 1, byte 2,
    byte 3, byte 4, byte 5, byte 6, byte 7, byte 8, byte 9, byte 10, byte 11, 0]

/-! ### What a receiver should hold -/

/-- The fields of a page, and that the page was seen. -/
def ExtendedPage.decode (currentTimeUs : ℤ) (t : TelemetryData) : ExtendedPage → TelemetryData
  | .control page =>
    { t with
      gyroRollDps := ⟨page.gyroRoll.toInt, 4, 1⟩
      gyroPitchDps := ⟨page.gyroPitch.toInt, 4, 1⟩
      gyroYawDps := ⟨page.gyroYaw.toInt, 4, 1⟩
      setpointRollDps := ⟨page.setpointRoll.toInt, 4, 1⟩
      setpointPitchDps := ⟨page.setpointPitch.toInt, 4, 1⟩
      setpointYawDps := ⟨page.setpointYaw.toInt, 4, 1⟩
      commandedThrottlePercent := ⟨page.commandedThrottle.toNat, 100, 63⟩
      appliedThrottlePercent := ⟨page.appliedThrottle.toNat, 100, 63⟩
      motorOutputPercent := #v[⟨page.motor1.toNat, 100, 63⟩, ⟨page.motor2.toNat, 100, 63⟩,
        ⟨page.motor3.toNat, 100, 63⟩, ⟨page.motor4.toNat, 100, 63⟩]
      extendedPagesSeen := t.extendedPagesSeen ||| telemetryExtendedPageControl }
  | .flight page =>
    { t with
      rollDeg := ⟨page.roll.toInt, 1, 10⟩
      pitchDeg := ⟨page.pitch.toInt, 1, 10⟩
      relativeYawDeg := ⟨page.relativeYaw.toInt, 1, 10⟩
      accelXG := ⟨page.accelerationX.toInt, 1, 256⟩
      accelYG := ⟨page.accelerationY.toInt, 1, 256⟩
      accelZG := ⟨page.accelerationZ.toInt, 1, 256⟩
      flightTimeSeconds := page.flightTime
      onGround := page.flags.getLsbD 0
      idleUp := page.flags.getLsbD 1
      lowVoltage := page.flags.getLsbD 2
      flightMode := FcView.flightModeOf (page.flags.getLsbD 3) (page.flags.getLsbD 4)
        (page.flags.getLsbD 5)
      pidProfile := page.flags.getLsbD 6
      lastFlightPageUs := currentTimeUs
      extendedPagesSeen := t.extendedPagesSeen ||| telemetryExtendedPageFlight }
  | .power page =>
    { t with
      batteryRawV := ⟨page.rawBattery.toNat, 1, 1000⟩
      batteryCompensatedV := ⟨page.compensatedBattery.toNat, 1, 1000⟩
      receiverPacketsPerSecond := page.rxPacketRate.setWidth 16
      packetsLostPerSecond := page.lostPackets
      linkQualityPercent := page.linkQuality
      lowVoltage := page.flags.getLsbD 0
      maximumRxGapMs := ⟨page.maximumRxGap.toNat, 1, 10⟩
      currentRxGapMs := ⟨page.latestRxGap.toNat, 1, 10⟩
      failsafeCount := page.failsafeCount
      extendedPagesSeen := t.extendedPagesSeen ||| telemetryExtendedPagePower }
  | .health page =>
    { t with
      loopTimeAverageUs := page.loopTimeAverage
      loopTimeMaximumUs := page.loopTimeMaximum
      loopOverrunCount := page.loopOverruns
      imuTemperatureRaw := page.imuTemperature
      imuType := page.imuType
      cpuLoadPercent := page.cpuLoad
      telemetryTxCount := page.telemetryTxCounter.setWidth 32
      systemSubpagesSeen := t.systemSubpagesSeen ||| telemetrySystemSubpageHealth
      extendedPagesSeen := t.extendedPagesSeen ||| telemetryExtendedPageSystem }
  | .counters page =>
    { t with
      receiverPacketTotal := page.validRxPackets
      estimatedLostPacketTotal := page.estimatedLostPackets
      telemetryTxCount := page.telemetryTxCounter.setWidth 32
      systemSubpagesSeen := t.systemSubpagesSeen ||| telemetrySystemSubpageCounters
      extendedPagesSeen := t.extendedPagesSeen ||| telemetryExtendedPageSystem }

/-- The fields that every extended packet sets. -/
def decodeStatus (m : TelemetryModule) (armed failsafe : Bool) (sequence : BitVec 4)
    (currentTimeUs : ℤ) : TelemetryData :=
  { m.currentTelemetry with
    armed := armed
    failsafe := failsafe
    sequence := sequence.setWidth 8
    telemetryPacketsLost :=
      if m.hasSequence then
        m.currentTelemetry.telemetryPacketsLost +
          BitVec.ofNat 32 (FcView.missed m.lastSequence.toNat sequence.toNat)
      else m.currentTelemetry.telemetryPacketsLost
    lastValidUs := currentTimeUs }

/-! ### The parser's reads -/

/-- The widths that the parser reads from a page, in order. -/
def ExtendedPage.reads : ExtendedPage → List ℕ
  | .control _ => [10, 10, 10, 10, 10, 10, 6, 6, 6, 6, 6, 6]
  | .flight _ => [12, 12, 12, 12, 12, 12, 16, 8]
  | .power _ => [16, 16, 8, 8, 8, 8, 16, 8, 8]
  | .health _ => [1, 16, 16, 16, 16, 8, 8, 15]
  | .counters _ => [1, 32, 32, 31]

/-- `*bit_offset` after reads of the given widths. -/
def offsetAfter (packet : Packet) (widths : List ℕ) : ℕ :=
  widths.foldl (fun bitOffset width => (readBits packet bitOffset width).2) 0

/-- Read `k` of a page. -/
def nthRead (packet : Packet) (widths : List ℕ) (k : ℕ) : U32 :=
  (readBits packet (offsetAfter packet (widths.take k)) (widths.getD k 0)).1

/-- Read `k` of a page, signed. -/
def nthSignedRead (packet : Packet) (widths : List ℕ) (k : ℕ) : ℤ :=
  (readSignedBits packet (offsetAfter packet (widths.take k)) (widths.getD k 0)).1

theorem offsetAfter_eq (packet : Packet) (widths : List ℕ) :
    offsetAfter packet widths = widths.sum := by
  have hfold : ∀ o, widths.foldl (fun bitOffset width => (readBits packet bitOffset width).2) o =
      o + widths.sum := by
    induction widths with
    | nil => exact fun o => rfl
    | cons width widths ih =>
      intro o
      rw [List.foldl_cons, readBits_snd, ih, List.sum_cons, Nat.add_assoc]
  rw [offsetAfter, hfold, Nat.zero_add]

theorem parseControl_reads (packet : Packet) (t : TelemetryData) (page : ControlPage) :
    parseControl packet t =
      let read := nthRead packet (ExtendedPage.control page).reads
      let signed := nthSignedRead packet (ExtendedPage.control page).reads
      { t with
        gyroRollDps := ⟨signed 0, 4, 1⟩
        gyroPitchDps := ⟨signed 1, 4, 1⟩
        gyroYawDps := ⟨signed 2, 4, 1⟩
        setpointRollDps := ⟨signed 3, 4, 1⟩
        setpointPitchDps := ⟨signed 4, 4, 1⟩
        setpointYawDps := ⟨signed 5, 4, 1⟩
        commandedThrottlePercent := unitValueToPercent (read 6) 6
        appliedThrottlePercent := unitValueToPercent (read 7) 6
        motorOutputPercent := #v[unitValueToPercent (read 8) 6, unitValueToPercent (read 9) 6,
          unitValueToPercent (read 10) 6, unitValueToPercent (read 11) 6]
        extendedPagesSeen := t.extendedPagesSeen ||| telemetryExtendedPageControl } := rfl

theorem parseFlight_reads (packet : Packet) (currentTimeUs : ℤ) (t : TelemetryData)
    (page : FlightPage) :
    parseFlight packet currentTimeUs t =
      let read := nthRead packet (ExtendedPage.flight page).reads
      let signed := nthSignedRead packet (ExtendedPage.flight page).reads
      let flags : U8 := (read 7).setWidth 8
      { t with
        rollDeg := ⟨signed 0, 1, 10⟩
        pitchDeg := ⟨signed 1, 1, 10⟩
        relativeYawDeg := ⟨signed 2, 1, 10⟩
        accelXG := ⟨signed 3, 1, 256⟩
        accelYG := ⟨signed 4, 1, 256⟩
        accelZG := ⟨signed 5, 1, 256⟩
        flightTimeSeconds := (read 6).setWidth 16
        onGround := flagSet flags (1#8 <<< 0)
        idleUp := flagSet flags (1#8 <<< 1)
        lowVoltage := flagSet flags (1#8 <<< 2)
        pidProfile := flagSet flags (1#8 <<< 6)
        flightMode := decodeFlightMode flags
        lastFlightPageUs := currentTimeUs
        extendedPagesSeen := t.extendedPagesSeen ||| telemetryExtendedPageFlight } := rfl

theorem parsePower_reads (packet : Packet) (t : TelemetryData) (page : PowerPage) :
    parsePower packet t =
      let read := nthRead packet (ExtendedPage.power page).reads
      { t with
        batteryRawV := ⟨(read 0).toNat, 1, 1000⟩
        batteryCompensatedV := ⟨(read 1).toNat, 1, 1000⟩
        receiverPacketsPerSecond := (read 2).setWidth 16
        packetsLostPerSecond := (read 3).setWidth 8
        linkQualityPercent := (read 4).setWidth 8
        lowVoltage := flagSet ((read 5).setWidth 8) 1
        maximumRxGapMs := ⟨(read 6).toNat, 1, 10⟩
        currentRxGapMs := ⟨(read 7).toNat, 1, 10⟩
        failsafeCount := (read 8).setWidth 8
        extendedPagesSeen := t.extendedPagesSeen ||| telemetryExtendedPagePower } := rfl

theorem parseSystem_reads_health (packet : Packet) (t : TelemetryData) (page : HealthPage)
    (hsubpage : nthRead packet (ExtendedPage.health page).reads 0 = 0) :
    parseSystem packet t =
      let read := nthRead packet (ExtendedPage.health page).reads
      let signed := nthSignedRead packet (ExtendedPage.health page).reads
      { t with
        loopTimeAverageUs := (read 1).setWidth 16
        loopTimeMaximumUs := (read 2).setWidth 16
        loopOverrunCount := (read 3).setWidth 16
        imuTemperatureRaw := BitVec.ofInt 16 (signed 4)
        imuType := (read 5).setWidth 8
        cpuLoadPercent := (read 6).setWidth 8
        telemetryTxCount := read 7
        systemSubpagesSeen := t.systemSubpagesSeen ||| telemetrySystemSubpageHealth
        extendedPagesSeen := t.extendedPagesSeen ||| telemetryExtendedPageSystem } := by
  have hcounters : (readBits packet 0 1).1 = 0 := hsubpage
  simp only [parseSystem, hcounters, if_true]
  rfl

theorem parseSystem_reads_counters (packet : Packet) (t : TelemetryData) (page : CountersPage)
    (hsubpage : nthRead packet (ExtendedPage.counters page).reads 0 ≠ 0) :
    parseSystem packet t =
      let read := nthRead packet (ExtendedPage.counters page).reads
      { t with
        receiverPacketTotal := read 1
        estimatedLostPacketTotal := read 2
        telemetryTxCount := read 3
        systemSubpagesSeen := t.systemSubpagesSeen ||| telemetrySystemSubpageCounters
        extendedPagesSeen := t.extendedPagesSeen ||| telemetryExtendedPageSystem } := by
  have hcounters : (readBits packet 0 1).1 ≠ 0 := hsubpage
  simp only [parseSystem, if_neg hcounters]
  rfl

/-! ### Reading a packed page -/

/-- The payload of `packet` is these fields. -/
def Carries (packet : Packet) (fields : List Packed) : Prop :=
  ∀ i < 96, payloadBit packet i = bitAt (pack fields) i

section Carries

variable {packet : Packet} {fields : List Packed} {k : ℕ}

/-- A carried field lies in the payload at its offset. -/
theorem Carries.field_eq (h : Carries packet fields) (hsum : (fields.map Packed.width).sum = 96)
    {f : Packed} (hf : fields[k]? = some f) :
    field (payloadBit packet) (offset fields k) f.width = f.value.toNat := by
  have hle := offset_add_width_le hf
  rw [← field_pack hf]
  exact field_congr fun i _ hi => h i (by omega)

end Carries

section Reads

variable {packet : Packet} {page : ExtendedPage} {k : ℕ}

/-- The parser reads the documented fields. -/
theorem ExtendedPage.reads_eq (page : ExtendedPage) :
    page.reads = page.fields.map Packed.width := by
  cases page <;> rfl

theorem ExtendedPage.sum_reads (page : ExtendedPage) : page.reads.sum = 96 := by
  cases page <;> rfl

theorem ExtendedPage.reads_bounds (page : ExtendedPage) :
    ∀ width ∈ page.reads, 0 < width ∧ width ≤ 32 := by
  cases page <;> simp [ExtendedPage.reads]

theorem ExtendedPage.nthRead_bounds (page : ExtendedPage) {k : ℕ} (hk : k < page.reads.length) :
    0 < page.reads.getD k 0 ∧ page.reads.getD k 0 ≤ 32 := by
  apply page.reads_bounds
  rw [List.getD_eq_getElem?_getD, List.getElem?_eq_getElem hk]
  exact List.getElem_mem hk

/-- Field `k` of a page. -/
def ExtendedPage.nthField (page : ExtendedPage) (k : ℕ) : Packed := page.fields.getD k ⟨0, 0⟩

theorem ExtendedPage.getElem?_fields (hk : k < page.reads.length) :
    page.fields[k]? = some (page.nthField k) := by
  rw [page.reads_eq, List.length_map] at hk
  rw [nthField, List.getD_eq_getElem?_getD, List.getElem?_eq_getElem hk, Option.getD_some]

theorem ExtendedPage.getD_reads (hk : k < page.reads.length) :
    page.reads.getD k 0 = (page.nthField k).width := by
  rw [page.reads_eq, List.getD_eq_getElem?_getD, List.getElem?_map, getElem?_fields hk]
  rfl

theorem ExtendedPage.offsetAfter_take :
    offsetAfter packet (page.reads.take k) = offset page.fields k := by
  rw [offsetAfter_eq, page.reads_eq, ← List.map_take]
  rfl

/-- What read `k` finds. -/
theorem Carries.field_nth (h : Carries packet page.fields) (hk : k < page.reads.length) :
    field (payloadBit packet) (offset page.fields k) (page.nthField k).width =
      (page.nthField k).value.toNat :=
  h.field_eq (page.reads_eq ▸ page.sum_reads) (ExtendedPage.getElem?_fields hk)

theorem toNat_nthRead (h : Carries packet page.fields) (hk : k < page.reads.length) :
    (nthRead packet page.reads k).toNat = (page.nthField k).value.toNat := by
  have hwidth := (page.nthRead_bounds hk).2
  rw [nthRead, ExtendedPage.offsetAfter_take, toNat_readBits packet _ hwidth,
    ExtendedPage.getD_reads hk, h.field_nth hk]

/-- A read that is stored in a narrower integer. -/
theorem setWidth_nthRead (h : Carries packet page.fields) (hk : k < page.reads.length) {n : ℕ} :
    (nthRead packet page.reads k).setWidth n = (page.nthField k).value.setWidth n := by
  apply BitVec.eq_of_toNat_eq
  rw [BitVec.toNat_setWidth, BitVec.toNat_setWidth, toNat_nthRead h hk]

theorem setWidth_nthRead_self (h : Carries packet page.fields) (hk : k < page.reads.length) :
    (nthRead packet page.reads k).setWidth (page.nthField k).width = (page.nthField k).value :=
  (setWidth_nthRead h hk).trans (BitVec.setWidth_eq _)

theorem nthSignedRead_eq (h : Carries packet page.fields) (hk : k < page.reads.length)
    (hlt : page.reads.getD k 0 < 32) :
    nthSignedRead packet page.reads k = (page.nthField k).value.toInt := by
  have hpos := (page.nthRead_bounds hk).1
  rw [ExtendedPage.getD_reads hk] at hpos hlt
  have hread : ∀ {o w : ℕ}, 0 < w → w < 32 →
      (readSignedBits packet o w).1 = signedField (payloadBit packet) o w := by
    intro o w hw hw'
    obtain ⟨n, rfl⟩ : ∃ n, w = n + 1 := ⟨w - 1, by omega⟩
    exact readSignedBits_fst packet o hw'
  rw [nthSignedRead, ExtendedPage.offsetAfter_take, ExtendedPage.getD_reads hk, hread hpos hlt]
  exact signedField_eq_toInt hpos (h.field_nth hk)

end Reads

/-! ### Decoding a packed page -/

section Decode

variable {packet : Packet}

theorem decode_control {page : ControlPage} (h : Carries packet (ExtendedPage.control page).fields)
    (t : TelemetryData) (currentTimeUs : ℤ) :
    parseControl packet t = (ExtendedPage.control page).decode currentTimeUs t := by
  rw [parseControl_reads packet t page]
  simp (disch := simp [ExtendedPage.reads]) only [nthSignedRead_eq h, unitValueToPercent,
    toNat_nthRead h]
  rfl

theorem decode_flight {page : FlightPage} (h : Carries packet (ExtendedPage.flight page).fields)
    (t : TelemetryData) (currentTimeUs : ℤ) :
    parseFlight packet currentTimeUs t = (ExtendedPage.flight page).decode currentTimeUs t := by
  have hread : ∀ k < 8, k < (ExtendedPage.flight page).reads.length := fun k hk => hk
  have htime : ((nthRead packet (ExtendedPage.flight page).reads 6).setWidth 16 : U16) =
      page.flightTime := setWidth_nthRead_self h (hread 6 (by omega))
  have hflags : ((nthRead packet (ExtendedPage.flight page).reads 7).setWidth 8 : U8) =
      page.flags := setWidth_nthRead_self h (hread 7 (by omega))
  rw [parseFlight_reads packet currentTimeUs t page]
  simp (disch := simp [ExtendedPage.reads]) only [nthSignedRead_eq h, hflags, htime,
    flagSet_oneBit, decodeFlightMode_eq]
  rfl

theorem decode_power {page : PowerPage} (h : Carries packet (ExtendedPage.power page).fields)
    (t : TelemetryData) (currentTimeUs : ℤ) :
    parsePower packet t = (ExtendedPage.power page).decode currentTimeUs t := by
  have hread : ∀ k < 9, k < (ExtendedPage.power page).reads.length := fun k hk => hk
  have hlost : ((nthRead packet (ExtendedPage.power page).reads 3).setWidth 8 : U8) =
      page.lostPackets := setWidth_nthRead_self h (hread 3 (by omega))
  have hquality : ((nthRead packet (ExtendedPage.power page).reads 4).setWidth 8 : U8) =
      page.linkQuality := setWidth_nthRead_self h (hread 4 (by omega))
  have hflags : ((nthRead packet (ExtendedPage.power page).reads 5).setWidth 8 : U8) =
      page.flags := setWidth_nthRead_self h (hread 5 (by omega))
  have hfailsafe : ((nthRead packet (ExtendedPage.power page).reads 8).setWidth 8 : U8) =
      page.failsafeCount := setWidth_nthRead_self h (hread 8 (by omega))
  rw [parsePower_reads packet t page]
  simp (disch := simp [ExtendedPage.reads]) only [toNat_nthRead h, setWidth_nthRead h (hread 2 _),
    hlost, hquality, hflags, hfailsafe, flagSet_one]
  rfl

theorem decode_health {page : HealthPage} (h : Carries packet (ExtendedPage.health page).fields)
    (t : TelemetryData) (currentTimeUs : ℤ) :
    parseSystem packet t = (ExtendedPage.health page).decode currentTimeUs t := by
  have hread : ∀ k < 8, k < (ExtendedPage.health page).reads.length := fun k hk => hk
  have hsubpage : nthRead packet (ExtendedPage.health page).reads 0 = 0 :=
    BitVec.eq_of_toNat_eq (toNat_nthRead h (hread 0 (by omega)))
  have haverage : ((nthRead packet (ExtendedPage.health page).reads 1).setWidth 16 : U16) =
      page.loopTimeAverage := setWidth_nthRead_self h (hread 1 (by omega))
  have hmaximum : ((nthRead packet (ExtendedPage.health page).reads 2).setWidth 16 : U16) =
      page.loopTimeMaximum := setWidth_nthRead_self h (hread 2 (by omega))
  have hoverruns : ((nthRead packet (ExtendedPage.health page).reads 3).setWidth 16 : U16) =
      page.loopOverruns := setWidth_nthRead_self h (hread 3 (by omega))
  have himu : nthSignedRead packet (ExtendedPage.health page).reads 4 = page.imuTemperature.toInt :=
    nthSignedRead_eq h (hread 4 (by omega)) (by simp [ExtendedPage.reads])
  have htype : ((nthRead packet (ExtendedPage.health page).reads 5).setWidth 8 : U8) =
      page.imuType := setWidth_nthRead_self h (hread 5 (by omega))
  have hload : ((nthRead packet (ExtendedPage.health page).reads 6).setWidth 8 : U8) =
      page.cpuLoad := setWidth_nthRead_self h (hread 6 (by omega))
  have htx : nthRead packet (ExtendedPage.health page).reads 7 =
      page.telemetryTxCounter.setWidth 32 :=
    (BitVec.setWidth_eq _).symm.trans (setWidth_nthRead h (hread 7 (by omega)))
  rw [parseSystem_reads_health packet t page hsubpage]
  simp only [haverage, hmaximum, hoverruns, himu, BitVec.ofInt_toInt, htype, hload, htx]
  rfl

theorem decode_counters {page : CountersPage}
    (h : Carries packet (ExtendedPage.counters page).fields) (t : TelemetryData)
    (currentTimeUs : ℤ) :
    parseSystem packet t = (ExtendedPage.counters page).decode currentTimeUs t := by
  have hread : ∀ k < 4, k < (ExtendedPage.counters page).reads.length := fun k hk => hk
  have hsubpage : nthRead packet (ExtendedPage.counters page).reads 0 = 1 :=
    BitVec.eq_of_toNat_eq (toNat_nthRead h (hread 0 (by omega)))
  have hvalid : nthRead packet (ExtendedPage.counters page).reads 1 = page.validRxPackets :=
    BitVec.eq_of_toNat_eq (toNat_nthRead h (hread 1 (by omega)))
  have hlost : nthRead packet (ExtendedPage.counters page).reads 2 = page.estimatedLostPackets :=
    BitVec.eq_of_toNat_eq (toNat_nthRead h (hread 2 (by omega)))
  have htx : nthRead packet (ExtendedPage.counters page).reads 3 =
      page.telemetryTxCounter.setWidth 32 :=
    (BitVec.setWidth_eq _).symm.trans (setWidth_nthRead h (hread 3 (by omega)))
  rw [parseSystem_reads_counters packet t page (by rw [hsubpage]; decide)]
  simp only [hvalid, hlost, htx]
  rfl

end Decode

/-! ### The packet -/

section Packet

variable (page : ExtendedPage) (armed failsafe : Bool) (sequence : BitVec 4)

theorem byte_zero_extendedPacket : (extendedPacket page armed failsafe sequence).byte 0 = 0x86 :=
  setChecksum_get (by omega)

theorem byte_one_extendedPacket : (extendedPacket page armed failsafe sequence).byte 1 =
    statusHeader page.number armed failsafe sequence :=
  setChecksum_get (by omega)

theorem byte_payload_extendedPacket {k : ℕ} (hk : k < 12) :
    (extendedPacket page armed failsafe sequence).byte (2 + k) = packedByte page.fields k := by
  rw [extendedPacket, setChecksum_get (by omega)]
  interval_cases k <;> rfl

theorem check_extendedPacket :
    bayangCheckTelemetry (extendedPacket page armed failsafe sequence) = true :=
  bayangCheckTelemetry_setChecksum (Or.inr rfl)

/-- The packet carries the fields of its page. -/
theorem carries_extendedPacket :
    Carries (extendedPacket page armed failsafe sequence) page.fields := by
  intro i hi
  have hbyte : payloadBit (extendedPacket page armed failsafe sequence) i =
      (packedByte page.fields (i / 8)).getLsbD (7 - i % 8) := by
    rw [← byte_payload_extendedPacket page armed failsafe sequence (by omega)]
    rfl
  rw [hbyte, packedByte, BitVec.getLsbD_ofNat, testBit_field _ _ (by omega),
    decide_eq_true (by omega), Bool.true_and]
  congr 1
  omega

/-- The status header reads back. -/
theorem statusHeader_spec : ∀ (page : BitVec 2) (armed failsafe : Bool) (sequence : BitVec 4),
    statusHeader page armed failsafe sequence >>> 6 = page.setWidth 8 ∧
      flagSet (statusHeader page armed failsafe sequence) (1#8 <<< 5) = armed ∧
      flagSet (statusHeader page armed failsafe sequence) (1#8 <<< 4) = failsafe ∧
      statusHeader page armed failsafe sequence &&& 0x0F = sequence.setWidth 8 := by
  decide +kernel

variable {page armed failsafe sequence}

/-- The parser's page is the packed one. -/
theorem parsePage_extendedPacket (currentTimeUs : ℤ) (t : TelemetryData) :
    parsePage (extendedPacket page armed failsafe sequence) currentTimeUs t =
      page.decode currentTimeUs t := by
  have hcarries := carries_extendedPacket page armed failsafe sequence
  have hnumber := (statusHeader_spec page.number armed failsafe sequence).1
  unfold parsePage
  simp only [byte_one_extendedPacket, hnumber]
  cases page with
  | control page => exact decode_control hcarries t currentTimeUs
  | flight page => exact decode_flight hcarries t currentTimeUs
  | power page => exact decode_power hcarries t currentTimeUs
  | health page => exact decode_health hcarries t currentTimeUs
  | counters page => exact decode_counters hcarries t currentTimeUs

/-- The status header sets its own fields. -/
theorem parseExtendedHeader_extendedPacket (m : TelemetryModule) (currentTimeUs : ℤ) :
    parseExtendedHeader (extendedPacket page armed failsafe sequence) m =
      { m with
        currentTelemetry :=
          { decodeStatus m armed failsafe sequence currentTimeUs with
            lastValidUs := m.currentTelemetry.lastValidUs }
        lastSequence := sequence.setWidth 8
        hasSequence := true } := by
  obtain ⟨-, harmed, hfailsafe, hsequence⟩ :=
    statusHeader_spec page.number armed failsafe sequence
  have hmissed := missed_eq (statusHeader page.number armed failsafe sequence) m.lastSequence
  rw [← toNat_sequence, hsequence, BitVec.toNat_setWidth,
    Nat.mod_eq_of_lt (show sequence.toNat < 2 ^ 8 by omega)] at hmissed
  simp only [parseExtendedHeader, byte_one_extendedPacket, harmed, hfailsafe, hsequence, hmissed,
    decodeStatus]

/-- A page leaves the receive time. -/
theorem ExtendedPage.decode_lastValidUs (page : ExtendedPage) (currentTimeUs lastValidUs : ℤ)
    (t : TelemetryData) :
    { page.decode currentTimeUs t with lastValidUs := lastValidUs } =
      page.decode currentTimeUs { t with lastValidUs := lastValidUs } := by
  cases page <;> rfl

/-- **Decoding inverts the documented packing**: a packed page is accepted, its fields and the
status fields hold the packed values and no other field changes, and all 96 payload bits are read.
-/
theorem extended_decoding_inverts_packing (m : TelemetryModule) (page : ExtendedPage)
    (armed failsafe : Bool) (sequence : BitVec 4) (currentTimeUs : ℤ)
    (hprotocol : m.currentTelemetry.protocol = .extendedV1) :
    telemetryParse m (extendedPacket page armed failsafe sequence) currentTimeUs =
        (true,
          { currentTelemetry :=
              page.decode currentTimeUs (decodeStatus m armed failsafe sequence currentTimeUs)
            hasTelemetry := true
            hasSequence := true
            lastSequence := sequence.setWidth 8 }) ∧
      offsetAfter (extendedPacket page armed failsafe sequence) page.reads = 96 := by
  constructor
  · have hextended : packetProtocol (extendedPacket page armed failsafe sequence) = .extendedV1 :=
      if_pos (byte_zero_extendedPacket page armed failsafe sequence)
    rw [telemetryParse_of_valid (check_extendedPacket page armed failsafe sequence), hextended,
      switchProtocol_of_eq hprotocol]
    simp only [parseBody, hextended, parseExtended,
      parseExtendedHeader_extendedPacket m currentTimeUs, parsePage_extendedPacket,
      ExtendedPage.decode_lastValidUs]
    rfl
  · rw [offsetAfter_eq, page.sum_reads]

end Packet

/-- The first D0 page of a run. -/
theorem extended_decoding_inverts_packing_health :
    telemetryParse { currentTelemetry := { protocol := .extendedV1 } }
        (extendedPacket (.health ⟨1001, 1150, 3, -321, 0x68, 73, 12345⟩) true false 5) 2000 =
      (true,
        { currentTelemetry :=
            { protocol := .extendedV1
              armed := true
              sequence := 5
              loopTimeAverageUs := 1001
              loopTimeMaximumUs := 1150
              loopOverrunCount := 3
              imuTemperatureRaw := -321
              imuType := 0x68
              cpuLoadPercent := 73
              telemetryTxCount := 12345
              systemSubpagesSeen := 1
              extendedPagesSeen := 8
              lastValidUs := 2000 }
          hasTelemetry := true
          hasSequence := true
          lastSequence := 5 }) :=
  (extended_decoding_inverts_packing _ _ _ _ _ _ rfl).1

end SilverwareTx
