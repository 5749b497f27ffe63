import SilverwareTx.GroundStation.Viewer
import SilverwareTx.Link.DecoderAgreement

/-!
# From the transmitter to the ground station

Messages are encoded by the transmitter, noise gets between their frames, the stream is read in
chunks: the viewer hands every frame to the decoder as its own segment, in order, and the decoder
returns the message.
-/

namespace SilverwareTx

open GroundStation

/-- A message that the transmitter sends. -/
inductive LinkMessage
  | sample (s : PcTelemetrySample)
  | localState (s : PcTelemetryLocalState) (sequence : U16) (timestampUs : U64)

namespace LinkMessage

/-- The frame length, 0 on failure, and the buffer. -/
def encode (buffer : FrameBuffer) : LinkMessage → ℕ × List U8
  | .sample s => pcTelemetryEncodeFrame s buffer.toList pcTelemetryMaxFrameSize
  | .localState s sequence timestampUs =>
    pcTelemetryEncodeLocalStateFrame s sequence timestampUs buffer.toList pcTelemetryMaxFrameSize

/-- The bytes that go to the serial port. -/
def frameBytes (buffer : FrameBuffer) (m : LinkMessage) : List U8 :=
  (m.encode buffer).2.take (m.encode buffer).1

/-- The longest frame of a type. -/
def maxFrameLength : LinkMessage → ℕ
  | .sample _ => 33
  | .localState .. => 62

/-- `segment` decodes to the message: type, sequence, timestamp, payload, and the values of a local
state. -/
def DecodedFrom (segment : List U8) : LinkMessage → Prop
  | .sample s =>
    decodeBridgeFrame segment =
      .ok ⟨messageRawFc, s.sequence.toNat, s.timestampUs.toNat, s.packet.toList⟩
  | .localState s sequence timestampUs =>
    ∃ payload, decodeBridgeFrame segment =
        .ok ⟨messageLocalState, sequence.toNat, timestampUs.toNat, payload⟩ ∧
      payload = serializeLocalState s (List.replicate pcTelemetryLocalStatePayloadSize 0) ∧
      LocalState.decode payload = .ok (.ofFirmware s)

/-- The message on the link. -/
def toBridge : LinkMessage → BridgeMessage
  | .sample s => ⟨pcTelemetryMessageRawBayang, s.sequence, s.timestampUs, s.packet.toList⟩
  | .localState s sequence timestampUs =>
    ⟨pcTelemetryMessageLocalState, sequence, timestampUs, localStatePayload s⟩

theorem toBridge_wellFormed (m : LinkMessage) : m.toBridge.WellFormed := by
  cases m with
  | sample s => simp [BridgeMessage.WellFormed, toBridge, payloadLengthOf,
  pcTelemetryMessageRawBayang]
  | localState s sequence timestampUs =>
    simp [BridgeMessage.WellFormed, toBridge, payloadLengthOf, pcTelemetryMessageLocalState]

/-- The frame of a message without its delimiter. -/
def segment (m : LinkMessage) : List U8 := Cobs.encode (m.toBridge.record pcTelemetryCrc16CcittFalse)

theorem encode_eq (buffer : FrameBuffer) (m : LinkMessage) :
    m.encode buffer = ((m.segment ++ [0]).length, copyInto buffer.toList 0 (m.segment ++ [0])) := by
  have hlen := m.toBridge_wellFormed.length_le
  have hcap : pcTelemetryCobsMaxEncodedSize (16 + m.toBridge.payload.length) + 1 ≤
      pcTelemetryMaxFrameSize := by
    rw [pcTelemetryCobsMaxEncodedSize, show pcTelemetryMaxFrameSize = 62 from rfl]
    omega
  have heq := encodeMessage_eq m.toBridge hlen hcap (@Vector.length_toList _ _ buffer).ge
  cases m with
  | sample s => exact heq
  | localState s sequence timestampUs =>
    rw [encode, pcTelemetryEncodeLocalStateFrame, serializeLocalState_eq]
    exact heq

theorem frameBytes_eq (buffer : FrameBuffer) (m : LinkMessage) :
    m.frameBytes buffer = m.segment ++ [0] := by
  rw [frameBytes, encode_eq, take_copyInto_zero]

theorem decodedFrom_segment (m : LinkMessage) : m.DecodedFrom m.segment := by
  have hok := (decodeBridgeFrame_eq_ok_iff toNat_pcTelemetryCrc16CcittFalse).2
    ⟨m.toBridge, m.toBridge_wellFormed, m.toBridge.carries_encode, rfl⟩
  cases m with
  | sample s => exact hok
  | localState s sequence timestampUs =>
    refine ⟨localStatePayload s, hok, (serializeLocalState_eq s).symm, ?_⟩
    rw [decode_eq_ofFirmware (length_localStatePayload s), deserializeLocalState_localStatePayload]

theorem zero_notMem_segment (m : LinkMessage) : (0 : U8) ∉ m.segment := Cobs.zero_notMem_encode _

theorem length_segment_lt (m : LinkMessage) : m.segment.length < m.maxFrameLength := by
  have hle := length_frame_le m.toBridge m.toBridge_wellFormed.length_le
  rw [BridgeMessage.frame, ← segment, List.length_append, List.length_singleton] at hle
  cases m with
  | sample s =>
    rw [toBridge, Vector.length_toList] at hle
    rw [maxFrameLength]
    omega
  | localState s sequence timestampUs =>
    rw [toBridge, length_localStatePayload] at hle
    rw [maxFrameLength]
    omega

end LinkMessage

/-! ### The stream -/

/-- What the stream is made of: frames, and zero-free noise that a zero byte ends. -/
inductive LinkItem
  | frame (m : LinkMessage) (buffer : FrameBuffer)
  | noise (s : {s : List U8 // (0 : U8) ∉ s})

namespace LinkItem

/-- The bytes of an item with its delimiter. -/
def bytes : LinkItem → List U8
  | frame m buffer => m.frameBytes buffer
  | noise s => s.1 ++ [0]

/-- The piece of the stream that an item's delimiter ends. -/
def piece : LinkItem → List U8
  | frame m _ => m.segment
  | noise s => s.1

theorem bytes_eq (item : LinkItem) : item.bytes = item.piece ++ [0] := by
  cases item with
  | frame m buffer => exact m.frameBytes_eq buffer
  | noise s => rfl

theorem zero_notMem_piece (item : LinkItem) : (0 : U8) ∉ item.piece := by
  cases item with
  | frame m buffer => exact m.zero_notMem_segment
  | noise s => exact s.2

/-- What the viewer hands to the decoder for an item: for a frame its bytes as one segment, which
decodes to the message; for noise nothing or some end of it. -/
def HandedAs : LinkItem → List (List U8) → Prop
  | frame m buffer, fragment =>
    ∃ segment, fragment = [segment] ∧ m.frameBytes buffer = segment ++ [0] ∧ m.DecodedFrom segment
  | noise s, fragment => fragment = [] ∨ ∃ t, t <:+ s.1 ∧ fragment = [t]

end LinkItem

/-- However the stream is cut into reads, every item is handed on in its own fragment. -/
theorem handedAs_readAll {items : List LinkItem} {chunks : List (List U8)}
    (hstream : chunks.flatten = items.flatMap LinkItem.bytes) :
    ∃ fragments, List.Forall₂ LinkItem.HandedAs items fragments ∧
      readAll [] chunks = fragments.flatten := by
  have hpieces : ∀ p ∈ items.map LinkItem.piece, (0 : U8) ∉ p := by
    intro p hp
    obtain ⟨item, -, rfl⟩ := List.mem_map.1 hp
    exact item.zero_notMem_piece
  have hflat : chunks.flatten = (items.map LinkItem.piece).flatMap (· ++ [0]) := by
    rw [hstream, List.flatMap_map]
    exact congrArg items.flatMap (funext LinkItem.bytes_eq)
  obtain ⟨fragments, hfragments, hhanded⟩ := readAll_pieces hpieces hflat
  refine ⟨fragments, ?_, hhanded⟩
  rw [List.forall₂_map_left_iff] at hfragments
  refine hfragments.imp fun item fragment h => ?_
  cases item with
  | noise s => exact h.1
  | frame m buffer =>
    have hlen : m.segment.length ≤ serialBufferLimit := by
      have hlt := m.length_segment_lt
      cases m <;> simp only [LinkMessage.maxFrameLength, serialBufferLimit] at * <;> omega
    exact ⟨m.segment, h.2 (Cobs.encode_ne_nil _) hlen, m.frameBytes_eq buffer,
      m.decodedFrom_segment⟩

/-- **The round trip.** Encoding never fails, gives at most 33 or 62 bytes and a single zero, the
last; and however the stream of frames and noise is cut into reads, the viewer hands every frame's
bytes to the decoder as its own segment, once and in order, and the decoder returns the message. -/
theorem link_round_trip (items : List LinkItem) (chunks : List (List U8))
    (hstream : chunks.flatten = items.flatMap LinkItem.bytes) :
    (∀ (m : LinkMessage) (buffer : FrameBuffer),
      (m.encode buffer).1 ≠ 0 ∧ (m.encode buffer).1 ≤ m.maxFrameLength ∧
        ∃ segment, m.frameBytes buffer = segment ++ [0] ∧ (0 : U8) ∉ segment) ∧
    ∃ fragments, List.Forall₂ LinkItem.HandedAs items fragments ∧
      readAll [] chunks = fragments.flatten := by
  refine ⟨fun m buffer => ⟨?_, ?_, m.segment, m.frameBytes_eq buffer, m.zero_notMem_segment⟩,
    handedAs_readAll hstream⟩
  · simp [m.encode_eq buffer]
  · rw [m.encode_eq buffer, List.length_append]
    exact m.length_segment_lt

/-- The round trip of a local state behind two bytes of noise, read byte by byte. -/
theorem link_round_trip_byte_by_byte :
    let item : LinkItem := .frame (.localState { rollRaw := -1 } 7 1000) (Vector.replicate _ 0)
    let items := [LinkItem.noise ⟨[1, 2], by decide⟩, item]
    ∃ fragments, List.Forall₂ LinkItem.HandedAs items fragments ∧
      readAll [] ((items.flatMap LinkItem.bytes).map fun b => [b]) = fragments.flatten :=
  (link_round_trip _ _ (by rw [← List.flatMap_def, List.flatMap_singleton'])).2

end SilverwareTx
