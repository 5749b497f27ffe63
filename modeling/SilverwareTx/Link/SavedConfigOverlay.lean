import SilverwareTx.GroundStation.FcTelemetry
import SilverwareTx.Safety.PrearmGuard
import SilverwareTx.Telemetry.PcTelemetryProtocol

/-!
# The saved flight configuration in exported telemetry

`pcTelemetryOverlaySavedFlightConfig` writes the saved AUX selections over the configuration bits of
a flight page. Both decoders then say the mode and the profile that the pre-arm guard would ask for,
and everything else as before (`overlay_saved_flight_config`).
-/

namespace SilverwareTx

open MsbBits GroundStation

/-! ### The overlaid packet -/

/-- The configuration bits of the saved flags. -/
def savedFlightFlags (savedAuxFlags : U8) : U8 :=
  (if flagSet savedAuxFlags nfeSilverwareAuxLevel then flightFlagLevel else 0) |||
  (if flagSet savedAuxFlags nfeSilverwareAuxRace then flightFlagRace else 0) |||
  (if flagSet savedAuxFlags nfeSilverwareAuxHorizon then flightFlagHorizon else 0) |||
  (if flagSet savedAuxFlags nfeSilverwareAuxPidProfile then flightFlagPidProfile else 0)

/-- Flight flags with the saved configuration. -/
def overlayFlags (flags savedAuxFlags : U8) : U8 :=
  (flags &&& ~~~flightConfigMask) ||| savedFlightFlags savedAuxFlags

/-- A packet with the saved configuration. -/
def overlaidPacket (packet : Packet) (savedAuxFlags : U8) : Packet :=
  setChecksum (packet.setByte 13 (overlayFlags (packet.byte 13) savedAuxFlags))

/-- A valid flight page. -/
structure FlightPacket (packet : Packet) : Prop where
  valid : bayangCheckTelemetry packet = true
  extended : packet.byte 0 = 0x86
  page : packet.byte 1 >>> 6 = 1

section Flags

variable (flags savedAuxFlags : U8)

theorem flagSet_aux :
    flagSet savedAuxFlags nfeSilverwareAuxLevel = savedAuxFlags.getLsbD 0 ∧
      flagSet savedAuxFlags nfeSilverwareAuxRace = savedAuxFlags.getLsbD 1 ∧
      flagSet savedAuxFlags nfeSilverwareAuxHorizon = savedAuxFlags.getLsbD 2 ∧
      flagSet savedAuxFlags nfeSilverwareAuxPidProfile = savedAuxFlags.getLsbD 3 :=
  ⟨flagSet_oneBit _ (by omega), flagSet_oneBit _ (by omega), flagSet_oneBit _ (by omega),
    flagSet_oneBit _ (by omega)⟩

/-- The configuration bits come from the saved flags, the others from the packet. -/
theorem getLsbD_overlayFlags (k : Fin 8) :
    (overlayFlags flags savedAuxFlags).getLsbD k.val =
      if 3 ≤ k.val ∧ k.val ≤ 6 then savedAuxFlags.getLsbD (k.val - 3) else flags.getLsbD k.val := by
  have hsaved : ∀ (level race horizon profile : Bool) (k : Fin 8),
      ((if level then flightFlagLevel else 0) ||| (if race then flightFlagRace else 0) |||
        (if horizon then flightFlagHorizon else 0) |||
        (if profile then flightFlagPidProfile else 0)).getLsbD k.val =
      ![false, false, false, level, race, horizon, profile, false] k := by decide
  have hmask : ∀ k : Fin 8, (~~~flightConfigMask).getLsbD k.val =
      decide ¬(3 ≤ k.val ∧ k.val ≤ 6) := by decide
  obtain ⟨hlevel, hrace, hhorizon, hprofile⟩ := flagSet_aux savedAuxFlags
  rw [overlayFlags, savedFlightFlags, BitVec.getLsbD_or, BitVec.getLsbD_and, hmask, hsaved, hlevel,
    hrace, hhorizon, hprofile]
  fin_cases k <;> simp

/-- Only the last overlay counts. -/
theorem overlayFlags_overlayFlags (savedAuxFlags' : U8) :
    overlayFlags (overlayFlags flags savedAuxFlags) savedAuxFlags' =
      overlayFlags flags savedAuxFlags' := by
  apply BitVec.eq_of_getLsbD_eq
  intro k hk
  have hbit := fun flags savedAuxFlags => getLsbD_overlayFlags flags savedAuxFlags ⟨k, hk⟩
  simp only at hbit
  rw [hbit, hbit, hbit]
  split_ifs <;> rfl

/-- The mode bits after an overlay are those of the guard. -/
theorem decodeFlightMode_overlayFlags : decodeFlightMode (overlayFlags flags savedAuxFlags) =
    selectedFlightMode (nfeSilverwareRestoreAux savedAuxFlags) := by
  have hselected : ∀ state, selectedFlightMode state =
      FcView.flightModeOf state.levelMode state.raceMode state.horizonMode := by
    intro state
    unfold selectedFlightMode
    cases state.levelMode <;> cases state.raceMode <;> cases state.horizonMode <;> rfl
  have hbit := getLsbD_overlayFlags flags savedAuxFlags
  obtain ⟨hlevel, hrace, hhorizon, -⟩ := flagSet_aux savedAuxFlags
  have h3 : (overlayFlags flags savedAuxFlags).getLsbD 3 = savedAuxFlags.getLsbD 0 := hbit 3
  have h4 : (overlayFlags flags savedAuxFlags).getLsbD 4 = savedAuxFlags.getLsbD 1 := hbit 4
  have h5 : (overlayFlags flags savedAuxFlags).getLsbD 5 = savedAuxFlags.getLsbD 2 := hbit 5
  rw [decodeFlightMode_eq, hselected, h3, h4, h5, nfeSilverwareRestoreAux, hlevel, hrace, hhorizon]

theorem pidProfile_overlayFlags : (overlayFlags flags savedAuxFlags).getLsbD 6 =
    (nfeSilverwareRestoreAux savedAuxFlags).pidProfile := by
  have h6 : (overlayFlags flags savedAuxFlags).getLsbD 6 = savedAuxFlags.getLsbD 3 :=
    getLsbD_overlayFlags flags savedAuxFlags 6
  rw [h6, nfeSilverwareRestoreAux, (flagSet_aux savedAuxFlags).2.2.2]

/-- An overlay keeps the status bits. -/
theorem getLsbD_overlayFlags_of_status {k : ℕ} (hk : k = 0 ∨ k = 1 ∨ k = 2 ∨ k = 7) :
    (overlayFlags flags savedAuxFlags).getLsbD k = flags.getLsbD k := by
  have hbit := getLsbD_overlayFlags flags savedAuxFlags ⟨k, by omega⟩
  rw [if_neg (by simp only; omega)] at hbit
  exact hbit

end Flags

section Packet

variable (packet : Packet) (savedAuxFlags : U8)

theorem flightPacket_iff : FlightPacket packet ↔
    ¬((!bayangCheckTelemetry packet) = true ∨ packet.byte 0 ≠ 0x86 ∨
      packet.byte 1 >>> 6 ≠ extendedFlightPage) := by
  constructor
  · rintro ⟨hvalid, hextended, hpage⟩
    rw [hvalid, hextended, hpage]
    decide
  · intro h
    simp only [not_or, Bool.not_eq_true', Bool.not_eq_false, not_not] at h
    exact ⟨h.1, h.2.1, h.2.2⟩

/-- The overlay of a flight page. -/
theorem overlay_of_flightPacket {packet : Packet} (h : FlightPacket packet) :
    pcTelemetryOverlaySavedFlightConfig packet savedAuxFlags =
      (true, overlaidPacket packet savedAuxFlags) :=
  if_neg ((flightPacket_iff packet).1 h)

theorem overlay_of_not_flightPacket {packet : Packet} (h : ¬FlightPacket packet) :
    pcTelemetryOverlaySavedFlightConfig packet savedAuxFlags = (false, packet) :=
  if_pos (not_not.1 (mt (flightPacket_iff packet).2 h))

theorem byte_overlaidPacket {i : ℕ} (h13 : i ≠ 13) (h14 : i ≠ 14) :
    (overlaidPacket packet savedAuxFlags).byte i = packet.byte i := by
  rw [overlaidPacket, setChecksum, Packet.byte_setByte_of_ne h14.symm,
    Packet.byte_setByte_of_ne h13.symm]

theorem byte_flags_overlaidPacket : (overlaidPacket packet savedAuxFlags).byte 13 =
    overlayFlags (packet.byte 13) savedAuxFlags := by
  rw [overlaidPacket, setChecksum_get (by omega), Packet.byte_setByte_self (by omega)]

/-- The overlaid packet is a flight page again. -/
theorem flightPacket_overlaidPacket {packet : Packet} (h : FlightPacket packet) :
    FlightPacket (overlaidPacket packet savedAuxFlags) where
  valid := by
    apply bayangCheckTelemetry_setChecksum
    right
    rw [Packet.byte_setByte_of_ne (by omega), h.extended]
  extended := by rw [byte_overlaidPacket _ _ (by omega) (by omega), h.extended]
  page := by rw [byte_overlaidPacket _ _ (by omega) (by omega), h.page]

/-- Only the last overlay counts. -/
theorem overlaidPacket_overlaidPacket (savedAuxFlags' : U8) :
    overlaidPacket (overlaidPacket packet savedAuxFlags) savedAuxFlags' =
      overlaidPacket packet savedAuxFlags' := by
  have hset : ∀ b : U8, (overlaidPacket packet savedAuxFlags).setByte 13 b =
      (packet.setByte 13 b).setByte 14 ((overlaidPacket packet savedAuxFlags).byte 14) := by
    intro b
    rw [overlaidPacket, setChecksum_get_last, setChecksum, Packet.setByte_comm (by omega),
      Packet.setByte_setByte]
  rw [overlaidPacket, byte_flags_overlaidPacket, overlayFlags_overlayFlags, hset,
    setChecksum_setByte]
  rfl

end Packet

/-! ### The decoders -/

section Payload

variable {packet : Packet} {savedAuxFlags : U8}

/-- The payload before the flags is the same. -/
theorem payloadBit_overlaidPacket {i : ℕ} (hi : i < 88) :
    payloadBit (overlaidPacket packet savedAuxFlags) i = payloadBit packet i := by
  have hbyte := byte_overlaidPacket packet savedAuxFlags (i := 2 + i / 8) (by omega) (by omega)
  unfold payloadBit
  exact congrArg (·.getLsbD (7 - i % 8)) hbyte

theorem readBits_overlaidPacket {o n : ℕ} (hn : n ≤ 32) (ho : o + n ≤ 88) :
    (readBits (overlaidPacket packet savedAuxFlags) o n).1 = (readBits packet o n).1 := by
  apply BitVec.eq_of_toNat_eq
  rw [toNat_readBits _ _ hn, toNat_readBits _ _ hn]
  exact field_congr fun i _ hi => payloadBit_overlaidPacket (by omega)

theorem readSignedBits_overlaidPacket {o n : ℕ} (hn : n ≤ 32) (ho : o + n ≤ 88) :
    (readSignedBits (overlaidPacket packet savedAuxFlags) o n).1 =
      (readSignedBits packet o n).1 := by
  simp only [readSignedBits, readBits_overlaidPacket hn ho]

end Payload

/-- The telemetry with the saved configuration. -/
def withSavedConfig (savedAuxFlags : U8) (t : TelemetryData) : TelemetryData :=
  { t with
    flightMode := selectedFlightMode (nfeSilverwareRestoreAux savedAuxFlags)
    pidProfile := (nfeSilverwareRestoreAux savedAuxFlags).pidProfile }

section Firmware

variable {packet : Packet} (savedAuxFlags : U8)

theorem parseFlight_overlaidPacket (currentTimeUs : ℤ) (t : TelemetryData) :
    parseFlight (overlaidPacket packet savedAuxFlags) currentTimeUs t =
      withSavedConfig savedAuxFlags (parseFlight packet currentTimeUs t) := by
  have hflags : ∀ packet, ((readBits packet 88 8).1.setWidth 8 : U8) = packet.byte 13 :=
    fun packet => readBits_byte packet 11
  have hstatus := fun k => getLsbD_overlayFlags_of_status (packet.byte 13) savedAuxFlags (k := k)
  simp (disch := omega) only [parseFlight, withSavedConfig, readBits_snd, readSignedBits_snd,
    Nat.reduceAdd, readSignedBits_overlaidPacket, readBits_overlaidPacket, hflags,
    byte_flags_overlaidPacket, decodeFlightMode_overlayFlags, flagSet_oneBit,
    pidProfile_overlayFlags, hstatus]

/-- The transmitter's decoder after an overlay. -/
theorem telemetryParse_overlaidPacket (h : FlightPacket packet) (m : TelemetryModule)
    (currentTimeUs : ℤ) :
    telemetryParse m (overlaidPacket packet savedAuxFlags) currentTimeUs =
      (true,
        { (telemetryParse m packet currentTimeUs).2 with
          currentTelemetry := withSavedConfig savedAuxFlags
            (telemetryParse m packet currentTimeUs).2.currentTelemetry }) := by
  have hoverlaid := flightPacket_overlaidPacket savedAuxFlags h
  have hproto : packetProtocol packet = .extendedV1 := if_pos h.extended
  have hproto' : packetProtocol (overlaidPacket packet savedAuxFlags) = .extendedV1 :=
    if_pos hoverlaid.extended
  have hheader : ∀ m, parseExtendedHeader (overlaidPacket packet savedAuxFlags) m =
      parseExtendedHeader packet m := by
    intro m
    simp only [parseExtendedHeader, byte_overlaidPacket packet savedAuxFlags (i := 1) (by omega)
      (by omega)]
  have hpage : ∀ packet, FlightPacket packet → ∀ t,
      parsePage packet currentTimeUs t = parseFlight packet currentTimeUs t := by
    intro packet h t
    unfold parsePage
    rw [h.page]
    rfl
  rw [telemetryParse_of_valid h.valid, telemetryParse_of_valid hoverlaid.valid, hproto, hproto']
  simp only [parseBody, hproto, hproto', parseExtended, hheader, hpage _ h, hpage _ hoverlaid,
    parseFlight_overlaidPacket]
  rfl

end Firmware

/-- The ground station's object with the saved configuration. -/
def withSavedConfigFc (savedAuxFlags : U8) (s : FcTelemetry) : FcTelemetry :=
  { s with
    flightMode := selectedFlightMode (nfeSilverwareRestoreAux savedAuxFlags)
    pidProfile := (nfeSilverwareRestoreAux savedAuxFlags).pidProfile }

section GroundStation

variable {packet : Packet} (savedAuxFlags : U8)

theorem toNat_and_ne_zero (flags : U8) {k mask : ℕ} (hmask : mask = 2 ^ k) :
    (flags.toNat &&& mask ≠ 0) = (flags.getLsbD k = true) := by
  rw [hmask, and_two_pow_ne_zero, BitVec.getLsbD]

/-- The ground station reads the mode bits as the transmitter does. -/
theorem flightModeOfFlags_toNat (flags : U8) :
    FcTelemetry.flightModeOfFlags flags.toNat = decodeFlightMode flags := by
  simp only [FcTelemetry.flightModeOfFlags, toNat_and_ne_zero _ (show 0x08 = 2 ^ 3 by rfl),
    toNat_and_ne_zero _ (show 0x10 = 2 ^ 4 by rfl), toNat_and_ne_zero _ (show 0x20 = 2 ^ 5 by rfl),
    Bool.decide_eq_true, decodeFlightMode, flagSet_oneBit flags (show 3 < 8 by omega),
    flagSet_oneBit flags (show 4 < 8 by omega), flagSet_oneBit flags (show 5 < 8 by omega)]

/-- What `_parse_flight` leaves. -/
def flightFields (packet : Packet) (s : FcTelemetry) : FcTelemetry :=
  let bit := payloadBit packet
  let flags := packet.byte 13
  { s with
    rollDeg := ⟨signedField bit 0 12, 1, 10⟩
    pitchDeg := ⟨signedField bit 12 12, 1, 10⟩
    relativeYawDeg := ⟨signedField bit 24 12, 1, 10⟩
    accelXG := ⟨signedField bit 36 12, 1, 256⟩
    accelYG := ⟨signedField bit 48 12, 1, 256⟩
    accelZG := ⟨signedField bit 60 12, 1, 256⟩
    flightTimeSeconds := field bit 72 16
    onGround := flags.getLsbD 0
    idleUp := flags.getLsbD 1
    lowVoltage := flags.getLsbD 2
    pidProfile := flags.getLsbD 6
    flightMode := decodeFlightMode flags }

theorem exec_parseFlight_eq (packet : Packet) (s : FcTelemetry) :
    FcTelemetry.parseFlight.exec (s, ⟨slice packet.toList 2 12, 0⟩) =
      (.ok (), flightFields packet s, ⟨slice packet.toList 2 12, 96⟩) := by
  have hflags : field (payloadBit packet) 88 8 = (packet.byte 13).toNat := field_byte packet 11
  simp (disch := omega) only [FcTelemetry.parseFlight, exec_bind, exec_read_payload,
    exec_signed_payload, exec_assign, Nat.reduceAdd, hflags, flightModeOfFlags_toNat,
    toNat_and_ne_zero _ (show 0x01 = 2 ^ 0 by rfl), toNat_and_ne_zero _ (show 0x02 = 2 ^ 1 by rfl),
    toNat_and_ne_zero _ (show 0x04 = 2 ^ 2 by rfl), toNat_and_ne_zero _ (show 0x40 = 2 ^ 6 by rfl),
    Bool.decide_eq_true, flightFields]

/-- A flight page in the ground station. -/
theorem update_of_flightPacket (h : FlightPacket packet) (s : FcTelemetry) (receivedAt : ℚ) :
    s.update packet.toList receivedAt =
      (.ok (),
        (flightFields packet (FcTelemetry.updateHeader (packet.byte 1).toNat
          (s.switchProtocol .extendedV1))).withPage 1 receivedAt) := by
  have hproto : packetProtocol packet = .extendedV1 := if_pos h.extended
  have hpage : (packet.byte 1).toNat >>> 6 = 1 := congrArg BitVec.toNat h.page
  have hparse : FcTelemetry.parsePage 1 = FcTelemetry.parseFlight := rfl
  have hexec := exec_parseFlight_eq packet
    (FcTelemetry.updateHeader (packet.byte 1).toNat (s.switchProtocol .extendedV1))
  rw [Update.exec] at hexec
  rw [FcTelemetry.update_eq h.valid, hproto]
  simp only [FcTelemetry.updateExtended, getD_toList packet 1, hpage, hparse, hexec]
  rfl

theorem flightFields_overlaidPacket (s : FcTelemetry) :
    flightFields (overlaidPacket packet savedAuxFlags) s =
      withSavedConfigFc savedAuxFlags (flightFields packet s) := by
  have hbit : ∀ {i : ℕ}, i < 88 →
      payloadBit (overlaidPacket packet savedAuxFlags) i = payloadBit packet i :=
    payloadBit_overlaidPacket
  have hfield : ∀ {o w : ℕ}, o + w ≤ 88 →
      field (payloadBit (overlaidPacket packet savedAuxFlags)) o w =
        field (payloadBit packet) o w :=
    fun ho => field_congr fun i _ hi => hbit (by omega)
  have hstatus := fun k => getLsbD_overlayFlags_of_status (packet.byte 13) savedAuxFlags (k := k)
  simp (disch := omega) only [flightFields, withSavedConfigFc, signedField, hbit, hfield,
    byte_flags_overlaidPacket, hstatus, decodeFlightMode_overlayFlags, pidProfile_overlayFlags]

/-- The ground station's decoder after an overlay. -/
theorem update_overlaidPacket (h : FlightPacket packet) (s : FcTelemetry) (receivedAt : ℚ) :
    s.update (overlaidPacket packet savedAuxFlags).toList receivedAt =
      (.ok (), withSavedConfigFc savedAuxFlags (s.update packet.toList receivedAt).2) := by
  have hheader := byte_overlaidPacket packet savedAuxFlags (i := 1) (by omega) (by omega)
  rw [update_of_flightPacket h, update_of_flightPacket (flightPacket_overlaidPacket _ h), hheader,
    flightFields_overlaidPacket]
  rfl

end GroundStation

/-! ### The overlay -/

/-- **The overlay shows the saved configuration and nothing else**: it acts on valid flight pages
only, keeps the other bytes and the status bits, can be repeated, and makes both decoders say the
mode of the pre-arm guard and the saved profile, with everything else as it was. -/
theorem overlay_saved_flight_config (packet : Packet) (savedAuxFlags : U8) :
    ((pcTelemetryOverlaySavedFlightConfig packet savedAuxFlags).1 = true ↔
      bayangCheckTelemetry packet = true ∧ packet.byte 0 = 0x86 ∧ packet.byte 1 >>> 6 = 1) ∧
    ((pcTelemetryOverlaySavedFlightConfig packet savedAuxFlags).1 = false →
      (pcTelemetryOverlaySavedFlightConfig packet savedAuxFlags).2 = packet) ∧
    ((pcTelemetryOverlaySavedFlightConfig packet savedAuxFlags).1 = true →
      let overlaid := (pcTelemetryOverlaySavedFlightConfig packet savedAuxFlags).2
      (∀ i, i ≠ 13 → i ≠ 14 → overlaid.byte i = packet.byte i) ∧
      (∀ k, k = 0 ∨ k = 1 ∨ k = 2 ∨ k = 7 →
        (overlaid.byte 13).getLsbD k = (packet.byte 13).getLsbD k) ∧
      bayangCheckTelemetry overlaid = true ∧
      (∀ savedAuxFlags', pcTelemetryOverlaySavedFlightConfig overlaid savedAuxFlags' =
        pcTelemetryOverlaySavedFlightConfig packet savedAuxFlags') ∧
      (∀ m currentTimeUs, telemetryParse m overlaid currentTimeUs =
        (true,
          { (telemetryParse m packet currentTimeUs).2 with
            currentTelemetry := withSavedConfig savedAuxFlags
              (telemetryParse m packet currentTimeUs).2.currentTelemetry })) ∧
      ∀ (s : FcTelemetry) receivedAt, s.update overlaid.toList receivedAt =
        (.ok (), withSavedConfigFc savedAuxFlags (s.update packet.toList receivedAt).2)) := by
  by_cases h : FlightPacket packet
  · have hoverlaid := flightPacket_overlaidPacket savedAuxFlags h
    rw [overlay_of_flightPacket savedAuxFlags h]
    refine ⟨iff_of_true rfl ⟨h.valid, h.extended, h.page⟩, nofun, fun _ => ?_⟩
    refine ⟨?_, ?_, hoverlaid.valid, ?_, ?_, ?_⟩
    · intro i h13 h14
      exact byte_overlaidPacket packet savedAuxFlags h13 h14
    · intro k hk
      rw [byte_flags_overlaidPacket, getLsbD_overlayFlags_of_status _ _ hk]
    · intro savedAuxFlags'
      rw [overlay_of_flightPacket savedAuxFlags' h,
        overlay_of_flightPacket savedAuxFlags' hoverlaid, overlaidPacket_overlaidPacket]
    · exact telemetryParse_overlaidPacket savedAuxFlags h
    · exact update_overlaidPacket savedAuxFlags h
  · rw [overlay_of_not_flightPacket savedAuxFlags h]
    refine ⟨iff_of_false nofun ?_, fun _ => rfl, nofun⟩
    rintro ⟨hvalid, hextended, hpage⟩
    exact h ⟨hvalid, hextended, hpage⟩

/-- A flight page on the ground with everything saved. -/
theorem overlay_saved_flight_config_all :
    pcTelemetryOverlaySavedFlightConfig #v[0x86, 0x40, 0, 0, 0, 0, 0, 0, 0, 0, 0, 0, 0, 0x07, 0xCD]
        0x1F =
      (true, #v[0x86, 0x40, 0, 0, 0, 0, 0, 0, 0, 0, 0, 0, 0, 0x7F, 0x45]) ∧
    bayangCheckTelemetry #v[0x86, 0x40, 0, 0, 0, 0, 0, 0, 0, 0, 0, 0, 0, 0x7F, 0x45] = true := by
  have hoverlay : pcTelemetryOverlaySavedFlightConfig
        #v[0x86, 0x40, 0, 0, 0, 0, 0, 0, 0, 0, 0, 0, 0, 0x07, 0xCD] 0x1F =
      (true, #v[0x86, 0x40, 0, 0, 0, 0, 0, 0, 0, 0, 0, 0, 0, 0x7F, 0x45]) := by decide +kernel
  have hspec := (overlay_saved_flight_config
    #v[0x86, 0x40, 0, 0, 0, 0, 0, 0, 0, 0, 0, 0, 0, 0x07, 0xCD] 0x1F).2.2
  rw [hoverlay] at hspec
  exact ⟨hoverlay, (hspec rfl).2.2.1⟩

end SilverwareTx
