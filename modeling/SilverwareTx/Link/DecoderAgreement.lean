import SilverwareTx.GroundStation.BridgeFrame
import SilverwareTx.Link.FirmwareCodec

/-!
# The two bridge decoders are one function

Transmitter and ground station compute the same CRC (`toNat_pcTelemetryCrc16CcittFalse`) and read
the same local state (`decode_eq_ofFirmware`), so both decide `BridgeMessage.Carries`.
-/

namespace SilverwareTx

open BigEndian

/-! ### One CRC -/

theorem toNat_crc16Bit (crc : U16) : (crc16Bit crc).toNat = GroundStation.crc16Shift crc.toNat := by
  have hand : ∀ n : ℕ, n &&& 0xFFFF = n % 2 ^ 16 := fun n => Nat.and_two_pow_sub_one_eq_mod n 16
  have htop : crc &&& 0x8000 ≠ 0 ↔ crc.toNat &&& 0x8000 ≠ 0 := by
    rw [← BitVec.toNat_inj.ne, BitVec.toNat_and]
    rfl
  have hxor : ((crc <<< 1) ^^^ 0x1021).toNat = ((crc.toNat <<< 1) ^^^ 0x1021) % 2 ^ 16 := by
    rw [BitVec.toNat_xor, BitVec.toNat_shiftLeft, Nat.xor_mod_two_pow]
    rfl
  unfold crc16Bit GroundStation.crc16Shift
  simp only [htop, hand]
  split_ifs
  · exact hxor
  · exact BitVec.toNat_shiftLeft

theorem toNat_iterate_crc16Bit (n : ℕ) (crc : U16) :
    (crc16Bit^[n] crc).toNat = GroundStation.crc16Shift^[n] crc.toNat := by
  induction n generalizing crc with
  | zero => rfl
  | succ n ih => rw [Function.iterate_succ_apply, Function.iterate_succ_apply, ih, toNat_crc16Bit]

theorem toNat_crc16Byte (crc : U16) (byte : U8) :
    (crc16Byte crc byte).toNat = GroundStation.crc16Shift^[8] (crc.toNat ^^^ (byte.toNat <<< 8)) := by
  have hlt : byte.toNat < 2 ^ 8 := byte.isLt
  rw [crc16Byte, toNat_iterate_crc16Bit, BitVec.toNat_xor, BitVec.toNat_shiftLeft,
    BitVec.toNat_setWidth, Nat.mod_eq_of_lt (show byte.toNat < 2 ^ 16 by omega),
    Nat.mod_eq_of_lt (by rw [Nat.shiftLeft_eq]; omega)]

theorem toNat_pcTelemetryCrc16CcittFalse (data : List U8) :
    (pcTelemetryCrc16CcittFalse data).toNat = GroundStation.crc16CcittFalse data := by
  unfold pcTelemetryCrc16CcittFalse GroundStation.crc16CcittFalse
  induction data using List.reverseRecOn with
  | nil => rfl
  | append_singleton data b ih =>
    simp only [List.foldl_append, List.foldl_cons, List.foldl_nil]
    rw [toNat_crc16Byte, ih]

/-! ### One local state -/

/-- The values of the transmitter's local state, as Python integers. -/
def GroundStation.LocalState.ofFirmware (s : PcTelemetryLocalState) : GroundStation.LocalState where
  systemState := s.systemState.toNat
  statusFlags := s.statusFlags.toNat
  buttons := s.buttons.toNat
  auxModes := s.auxModes.toNat
  consecutiveTxFailures := s.consecutiveTxFailures.toNat
  nextHoppingChannel := s.nextHoppingChannelIndex.toNat
  rollRaw := s.rollRaw.toInt
  pitchRaw := s.pitchRaw.toInt
  yawRaw := s.yawRaw.toInt
  throttleRaw := s.throttleRaw.toNat
  gamepadAgeMs := s.gamepadAgeMs.toNat
  fcTelemetryAgeMs := s.fcTelemetryAgeMs.toNat
  txPackets := s.txPackets.toNat
  txFailures := s.txFailures.toNat
  telemetryAccepted := s.telemetryAccepted.toNat
  telemetryRejected := s.telemetryRejected.toNat
  deadlineMisses := s.deadlineMisses.toNat
  exportQueueDrops := s.exportQueueDrops.toNat

section Fields

open GroundStation

variable {payload : List U8} {i : ℕ}

theorem structField_B_value : StructField.B.value (slice payload i 1) = (byteAt payload i).toNat :=
  congrArg Nat.cast (ofBE_slice_one payload i)

theorem structField_H_value (h : i + 2 ≤ payload.length) :
    StructField.H.value (slice payload i 2) = (readU16Be payload i).toNat :=
  congrArg Nat.cast (toNat_readU16Be h).symm

theorem structField_I_value (h : i + 4 ≤ payload.length) :
    StructField.I.value (slice payload i 4) = (readU32Be payload i).toNat :=
  congrArg Nat.cast (toNat_readU32Be h).symm

/-- The signed field of `struct` is the two's-complement value of the 16-bit word. -/
theorem structField_h_value (h : i + 2 ≤ payload.length) :
    StructField.h.value (slice payload i 2) = (readU16Be payload i).toInt := by
  rw [StructField.value, ← toNat_readU16Be h, BitVec.toInt_eq_toNat_cond]
  split_ifs <;> omega

/-- **Both sides read the same local state.** -/
theorem decode_eq_ofFirmware (hlen : payload.length = 44) :
    LocalState.decode payload = .ok (.ofFirmware (deserializeLocalState payload)) := by
  have hlength : ¬ payload.length ≠ localStateLength := not_not.2 hlen
  rw [LocalState.decode, if_neg hlength]
  simp (disch := omega) only [localStateFormat, getD_structUnpack_zero, getD_structUnpack_succ,
    slice_drop, List.drop_drop, StructField.width, Nat.reduceAdd, LocalState.ofFirmware,
    deserializeLocalState, structField_B_value, structField_H_value, structField_I_value,
    structField_h_value]

end Fields

/-! ### Reading a serialized local state back -/

section ReadBack

variable {x : List U8} {i : ℕ}

theorem slice_append_right {y : List U8} {n : ℕ} (hx : x.length = i) (hy : y.length = n) :
    slice (x ++ y) i n = y := by
  subst hx hy
  simp [slice]

theorem byteAt_append_right (hx : x.length = i) (b : U8) : byteAt (x ++ [b]) i = b := by
  subst hx
  simp [byteAt]

theorem readU16Be_append_left (h : i + 2 ≤ x.length) (pad : List U8) :
    readU16Be (x ++ pad) i = readU16Be x i := by
  rw [← BitVec.toNat_inj, toNat_readU16Be h, toNat_readU16Be (by simp; omega), slice_append pad h]

theorem readU32Be_append_left (h : i + 4 ≤ x.length) (pad : List U8) :
    readU32Be (x ++ pad) i = readU32Be x i := by
  rw [← BitVec.toNat_inj, toNat_readU32Be h, toNat_readU32Be (by simp; omega), slice_append pad h]

theorem readU16Be_append_right (hx : x.length = i) (v : U16) :
    readU16Be (x ++ toBE 2 v.toNat) i = v := by
  have hlt : v.toNat < 256 ^ 2 := v.isLt
  rw [← BitVec.toNat_inj, toNat_readU16Be (by simp; omega), slice_append_right hx (by simp),
    ofBE_toBE_of_lt hlt]

theorem readU32Be_append_right (hx : x.length = i) (v : U32) :
    readU32Be (x ++ toBE 4 v.toNat) i = v := by
  have hlt : v.toNat < 256 ^ 4 := v.isLt
  rw [← BitVec.toNat_inj, toNat_readU32Be (by simp; omega), slice_append_right hx (by simp),
    ofBE_toBE_of_lt hlt]

end ReadBack

theorem deserializeLocalState_localStatePayload (s : PcTelemetryLocalState) :
    deserializeLocalState (localStatePayload s) = s := by
  delta localStatePayload
  simp (disch := simp) only [deserializeLocalState, byteAt_append, byteAt_append_right,
    readU16Be_append_left, readU16Be_append_right, readU32Be_append_left, readU32Be_append_right]
  rfl

/-! ### Agreement -/

section Agreement

open GroundStation

variable {encoded : List U8}

theorem toList_ofFn_byteAt {payload : List U8} (h : payload.length = 15) :
    (Vector.ofFn fun i : Fin 15 => byteAt payload i).toList = payload := by
  apply List.ext_getElem
  · simp [h]
  · intro i h1 h2
    simp [byteAt, List.getD_eq_getElem?_getD, List.getElem?_eq_getElem h2]

section OneType

variable {messageType : U8} {n : ℕ} (hn : payloadLengthOf messageType = some n)

include hn

/-- A frame that the transmitter's decoder for a message type accepts is a record of that type for
the ground station, with the same values. -/
theorem decodeBridgeFrame_of_some {sequence : U16} {timestampUs : U64} {payload : List U8}
    (h : decodeMessage (encoded ++ [0]) messageType n = some (sequence, timestampUs, payload)) :
    payload.length = n ∧ decodeBridgeFrame encoded =
      .ok ⟨messageType.toNat, sequence.toNat, timestampUs.toNat, payload⟩ := by
  obtain ⟨m, rfl, rfl, hcarries, hv⟩ := (decodeMessage_eq_some_iff (payloadLengthOf_le hn)).1 h
  obtain ⟨rfl, rfl, rfl⟩ : sequence = m.sequence ∧ timestampUs = m.timestampUs ∧
    payload = m.payload := by simpa using hv
  exact ⟨rfl, (decodeBridgeFrame_eq_ok_iff toNat_pcTelemetryCrc16CcittFalse).2
    ⟨m, hn, hcarries, rfl⟩⟩

/-- A frame that it rejects is no record of that type. -/
theorem decodeBridgeFrame_of_none (h : decodeMessage (encoded ++ [0]) messageType n = none)
    {r : BridgeRecord} (hr : decodeBridgeFrame encoded = .ok r) :
    r.messageType ≠ messageType.toNat := by
  obtain ⟨m, hm, hcarries, rfl⟩ :=
    (decodeBridgeFrame_eq_ok_iff toNat_pcTelemetryCrc16CcittFalse).1 hr
  intro htype
  obtain rfl : m.messageType = messageType := BitVec.eq_of_toNat_eq htype
  rw [BridgeMessage.WellFormed, hn, Option.some.injEq] at hm
  have hsome := (decodeMessage_eq_some_iff (payloadLengthOf_le hn)).2
    ⟨m, rfl, hm.symm, hcarries, rfl⟩
  rw [h] at hsome
  cases hsome

end OneType

/-- Type 1: `pc_telemetry_decode_frame` against `decode_bridge_frame`. -/
theorem decodeFrame_agrees (encoded : List U8) (sample : PcTelemetrySample) :
    let raw := pcTelemetryDecodeFrame (encoded ++ [0]) sample
    (raw.1 = true ↔ ∃ r, decodeBridgeFrame encoded = .ok r ∧ r.messageType = messageRawFc) ∧
    (∀ r, decodeBridgeFrame encoded = .ok r → r.messageType = messageRawFc →
      r.sequence = raw.2.sequence.toNat ∧ r.timestampUs = raw.2.timestampUs.toNat ∧
        r.payload = raw.2.packet.toList) ∧
    (raw.1 = false → raw.2 = sample) := by
  unfold pcTelemetryDecodeFrame
  cases hdecode : decodeMessage (encoded ++ [0]) pcTelemetryMessageRawBayang bayangPacketSize with
  | none =>
    have hno : ∀ r, decodeBridgeFrame encoded = .ok r → r.messageType ≠ messageRawFc :=
      fun r hr => decodeBridgeFrame_of_none rfl hdecode hr
    refine ⟨⟨Bool.noConfusion, ?_⟩, fun r hr htype => absurd htype (hno r hr), fun _ => rfl⟩
    rintro ⟨r, hr, htype⟩
    exact absurd htype (hno r hr)
  | some v =>
    obtain ⟨sequence, timestampUs, payload⟩ := v
    obtain ⟨hlen, hok⟩ := decodeBridgeFrame_of_some rfl hdecode
    refine ⟨iff_of_true rfl ⟨_, hok, rfl⟩, fun r hr _ => ?_, fun h => by cases h⟩
    rw [hok, Except.ok.injEq] at hr
    subst hr
    exact ⟨rfl, rfl, (toList_ofFn_byteAt hlen).symm⟩

/-- Type 2: `pc_telemetry_decode_local_state_frame` against `decode_bridge_frame` and
`LocalState.decode`. -/
theorem decodeLocalStateFrame_agrees (encoded : List U8) (out : LocalStateFrame) :
    let localState := pcTelemetryDecodeLocalStateFrame (encoded ++ [0]) out
    (localState.1 = true ↔
      ∃ r, decodeBridgeFrame encoded = .ok r ∧ r.messageType = messageLocalState) ∧
    (∀ r, decodeBridgeFrame encoded = .ok r → r.messageType = messageLocalState →
      r.sequence = localState.2.sequence.toNat ∧ r.timestampUs = localState.2.timestampUs.toNat ∧
        LocalState.decode r.payload = .ok (.ofFirmware localState.2.state)) ∧
    (localState.1 = false → localState.2 = out) := by
  unfold pcTelemetryDecodeLocalStateFrame
  cases hdecode : decodeMessage (encoded ++ [0]) pcTelemetryMessageLocalState
      pcTelemetryLocalStatePayloadSize with
  | none =>
    have hno : ∀ r, decodeBridgeFrame encoded = .ok r → r.messageType ≠ messageLocalState :=
      fun r hr => decodeBridgeFrame_of_none rfl hdecode hr
    refine ⟨⟨Bool.noConfusion, ?_⟩, fun r hr htype => absurd htype (hno r hr), fun _ => rfl⟩
    rintro ⟨r, hr, htype⟩
    exact absurd htype (hno r hr)
  | some v =>
    obtain ⟨sequence, timestampUs, payload⟩ := v
    obtain ⟨hlen, hok⟩ := decodeBridgeFrame_of_some rfl hdecode
    refine ⟨iff_of_true rfl ⟨_, hok, rfl⟩, fun r hr _ => ?_, fun h => by cases h⟩
    rw [hok, Except.ok.injEq] at hr
    subst hr
    exact ⟨rfl, rfl, decode_eq_ofFirmware hlen⟩

/-- **The two bridge decoders are the same function.** For every byte string, the transmitter's two
decoders accept its frame exactly when the ground station returns a record of their type, with equal
values, and leave their out-parameters alone when they reject it. -/
theorem bridge_decoders_agree (encoded : List U8) (sample : PcTelemetrySample)
    (out : LocalStateFrame) :
    let raw := pcTelemetryDecodeFrame (encoded ++ [0]) sample
    let localState := pcTelemetryDecodeLocalStateFrame (encoded ++ [0]) out
    ((raw.1 = true ↔ ∃ r, decodeBridgeFrame encoded = .ok r ∧ r.messageType = messageRawFc) ∧
      (∀ r, decodeBridgeFrame encoded = .ok r → r.messageType = messageRawFc →
        r.sequence = raw.2.sequence.toNat ∧ r.timestampUs = raw.2.timestampUs.toNat ∧
          r.payload = raw.2.packet.toList) ∧
      (raw.1 = false → raw.2 = sample)) ∧
    ((localState.1 = true ↔
        ∃ r, decodeBridgeFrame encoded = .ok r ∧ r.messageType = messageLocalState) ∧
      (∀ r, decodeBridgeFrame encoded = .ok r → r.messageType = messageLocalState →
        r.sequence = localState.2.sequence.toNat ∧
          r.timestampUs = localState.2.timestampUs.toNat ∧
          LocalState.decode r.payload = .ok (.ofFirmware localState.2.state)) ∧
      (localState.1 = false → localState.2 = out)) :=
  ⟨decodeFrame_agrees encoded sample, decodeLocalStateFrame_agrees encoded out⟩

end Agreement

end SilverwareTx
