import SilverwareTx.Link.RoundTrip

/-!
# Which frames the transmitter's decoders accept

An accepted frame carries a message, but the decoders look for a zero byte only where a code byte
stands. So a frame with a zero among the data bytes of a block is accepted beside the frame that the
encoder writes for the same message, and an accepted frame is the encoder's exactly when it has no
zero before its last byte (`accepted_frame_canonical_iff`).
-/

namespace SilverwareTx

open BigEndian GroundStation

/-- A frame that `decode_message` accepts ends with its delimiter. -/
theorem eq_dropLast_append_of_decodeMessage {frame : List U8} {expectedType : U8} {n : ℕ}
    {v : U16 × U64 × List U8} (h : decodeMessage frame expectedType n = some v) :
    frame.dropLast ++ [0] = frame := by
  rw [decodeMessage] at h
  by_cases hbad : frame.length < 2 ∨ byteAt frame (frame.length - 1) ≠ 0
  · rw [if_pos hbad] at h
    cases h
  · push Not at hbad
    obtain ⟨hlen, hlast⟩ := hbad
    have hne : frame ≠ [] := by
      rintro rfl
      simp at hlen
    rw [byteAt, ← List.getElem_eq_getD (h := by omega) 0, ← List.getLast_eq_getElem hne]
      at hlast
    conv_rhs => rw [← List.dropLast_append_getLast hne, hlast]

/-- The payload of a local state that was read from a payload. -/
theorem localStatePayload_deserializeLocalState {payload : List U8} (h : payload.length = 44) :
    localStatePayload (deserializeLocalState payload) = payload := by
  have hbyte : ∀ i < 44, [byteAt payload i] = slice payload i 1 := by
    intro i hi
    rw [slice_succ (by omega)]
    rfl
  have h16 : ∀ i, i + 2 ≤ 44 → toBE 2 (readU16Be payload i).toNat = slice payload i 2 := by
    intro i hi
    rw [toNat_readU16Be (by omega), BridgeMessage.toBE_ofBE_slice (by omega)]
  have h32 : ∀ i, i + 4 ≤ 44 → toBE 4 (readU32Be payload i).toNat = slice payload i 4 := by
    intro i hi
    rw [toNat_readU32Be (by omega), BridgeMessage.toBE_ofBE_slice (by omega)]
  have hall : slice payload 0 44 = payload := by
    rw [slice, List.drop_zero, ← h, List.take_length]
  have hjoin : ∀ a b, slice payload 0 a ++ slice payload a b = slice payload 0 (a + b) := by
    intro a b
    rw [← BridgeMessage.slice_append_slice, Nat.zero_add]
  delta localStatePayload deserializeLocalState
  simp (disch := norm_num) only [hbyte, h16, h32, hjoin, Nat.reduceAdd, hall]

/-- The message that an accepted frame carries. -/
theorem carries_of_decodeMessage {frame : List U8} {expectedType : U8} {n : ℕ} (hn : n ≤ 44)
    {v : U16 × U64 × List U8} (h : decodeMessage frame expectedType n = some v) :
    v.2.2.length = n ∧
      BridgeMessage.Carries pcTelemetryCrc16CcittFalse frame.dropLast
        ⟨expectedType, v.1, v.2.1, v.2.2⟩ := by
  rw [← eq_dropLast_append_of_decodeMessage h] at h
  obtain ⟨m, rfl, rfl, hcarries, rfl⟩ := (decodeMessage_eq_some_iff hn).1 h
  exact ⟨rfl, hcarries⟩

/-- The encoder writes a frame that carries the message exactly when no byte before the last is
zero. -/
theorem frameBytes_eq_iff {frame : List U8} {m : LinkMessage} (buffer : FrameBuffer)
    (hframe : frame.dropLast ++ [0] = frame)
    (hcarries : m.toBridge.Carries pcTelemetryCrc16CcittFalse frame.dropLast) :
    m.frameBytes buffer = frame ↔ (0 : U8) ∉ frame.dropLast := by
  have hlen := m.toBridge_wellFormed.length_le
  have hrecord : (m.toBridge.record pcTelemetryCrc16CcittFalse).length =
      16 + m.toBridge.payload.length := m.toBridge.length_record
  have hne : frame.dropLast ≠ [] := by
    intro hnil
    rw [hnil, BridgeMessage.Carries, Cobs.message_nil, Option.some.injEq] at hcarries
    rw [← hcarries, List.length_nil] at hrecord
    omega
  rw [m.frameBytes_eq, ← Cobs.encode_eq_iff hne hcarries (by omega), LinkMessage.segment]
  constructor
  · intro h
    rw [← h, List.dropLast_concat]
  · intro h
    rw [h, hframe]

/-- A sample that was decoded from an accepted frame. -/
theorem toBridge_decoded_sample {frame : List U8} {sample : PcTelemetrySample}
    (h : (pcTelemetryDecodeFrame frame sample).1 = true) :
    frame.dropLast ++ [0] = frame ∧
      (LinkMessage.sample (pcTelemetryDecodeFrame frame sample).2).toBridge.Carries
        pcTelemetryCrc16CcittFalse frame.dropLast := by
  unfold pcTelemetryDecodeFrame at h ⊢
  cases hdecode : decodeMessage frame pcTelemetryMessageRawBayang bayangPacketSize with
  | none => rw [hdecode] at h; cases h
  | some v =>
    obtain ⟨sequence, timestampUs, payload⟩ := v
    obtain ⟨hlen, hcarries⟩ := carries_of_decodeMessage (by decide) hdecode
    refine ⟨eq_dropLast_append_of_decodeMessage hdecode, ?_⟩
    rw [← toList_ofFn_byteAt hlen] at hcarries
    exact hcarries

/-- A local state that was decoded from an accepted frame. -/
theorem toBridge_decoded_localState {frame : List U8} {out : LocalStateFrame}
    (h : (pcTelemetryDecodeLocalStateFrame frame out).1 = true) :
    let decoded := (pcTelemetryDecodeLocalStateFrame frame out).2
    frame.dropLast ++ [0] = frame ∧
      (LinkMessage.localState decoded.state decoded.sequence decoded.timestampUs).toBridge.Carries
        pcTelemetryCrc16CcittFalse frame.dropLast := by
  unfold pcTelemetryDecodeLocalStateFrame at h ⊢
  cases hdecode : decodeMessage frame pcTelemetryMessageLocalState
      pcTelemetryLocalStatePayloadSize with
  | none => rw [hdecode] at h; cases h
  | some v =>
    obtain ⟨sequence, timestampUs, payload⟩ := v
    obtain ⟨hlen, hcarries⟩ := carries_of_decodeMessage (by decide) hdecode
    refine ⟨eq_dropLast_append_of_decodeMessage hdecode, ?_⟩
    rw [← localStatePayload_deserializeLocalState hlen] at hcarries
    exact hcarries

/-- **When the decoders accept the encoder's frames only.** Encoding what an accepted frame decodes
to gives the frame back exactly when the frame has no zero before its last byte. -/
theorem accepted_frame_canonical_iff (frame : List U8) (buffer : FrameBuffer) :
    (∀ sample : PcTelemetrySample, (pcTelemetryDecodeFrame frame sample).1 = true →
      ((LinkMessage.sample (pcTelemetryDecodeFrame frame sample).2).frameBytes buffer = frame ↔
        (0 : U8) ∉ frame.dropLast)) ∧
    (∀ out : LocalStateFrame, (pcTelemetryDecodeLocalStateFrame frame out).1 = true →
      let decoded := (pcTelemetryDecodeLocalStateFrame frame out).2
      ((LinkMessage.localState decoded.state decoded.sequence decoded.timestampUs).frameBytes
          buffer = frame ↔
        (0 : U8) ∉ frame.dropLast)) := by
  constructor
  · intro sample haccepted
    obtain ⟨hframe, hcarries⟩ := toBridge_decoded_sample haccepted
    exact frameBytes_eq_iff buffer hframe hcarries
  · intro out haccepted
    obtain ⟨hframe, hcarries⟩ := toBridge_decoded_localState haccepted
    exact frameBytes_eq_iff buffer hframe hcarries

/-- A record with zeros in one block of 31 data bytes, and the delimiter. -/
def zeroInBlockFrame : List U8 :=
  [0x20, 1, 1, 0, 0x0F, 0xFF, 0xFE, 1, 2, 3, 4, 5, 6, 7, 8, 0x86, 0x2A, 0, 0, 0, 0, 0, 0, 0, 0, 0,
  0,
    0, 0, 0xB0, 0x9E, 0x78, 0]

/-- A sample of zeros. -/
def emptySample : PcTelemetrySample := ⟨0, 0, Vector.replicate 15 0⟩

/-- The decoder accepts zeros inside a block, which the encoder never writes. -/
theorem zeroInBlockFrame_accepted :
    (pcTelemetryDecodeFrame zeroInBlockFrame emptySample).1 = true ∧
      (0 : U8) ∈ zeroInBlockFrame.dropLast ∧
      (LinkMessage.sample (pcTelemetryDecodeFrame zeroInBlockFrame emptySample).2).frameBytes
        (Vector.replicate _ 0) ≠ zeroInBlockFrame := by
  decide +kernel

/-- The frame that the encoder writes for the same message. -/
theorem accepted_frame_canonical_iff_golden :
    let golden : List U8 := [3, 1, 1, 0x0E, 0x0F, 0xFF, 0xFE, 1, 2, 3, 4, 5, 6, 7, 8, 0x86, 0x2A,
    1, 1,
      1, 1, 1, 1, 1, 1, 1, 1, 1, 4, 0xB0, 0x9E, 0x78, 0]
    (LinkMessage.sample (pcTelemetryDecodeFrame golden emptySample).2).frameBytes
      (Vector.replicate _ 0) = golden :=
  ((accepted_frame_canonical_iff _ (Vector.replicate _ 0)).1 emptySample (by decide +kernel)).2
    (by decide)

end SilverwareTx
