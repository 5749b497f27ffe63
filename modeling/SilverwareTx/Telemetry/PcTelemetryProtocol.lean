import SilverwareTx.Radio.Bayang
import SilverwareTx.Radio.NfeSilverwareProfile
import SilverwareTx.Lib.BigEndian
import SilverwareTx.Lib.Cobs

/-!
# The bridge protocol in the transmitter (`telemetry/pc_telemetry_protocol.cpp`)

A message is put in a record (envelope, payload, CRC), the record is COBS-encoded and a zero byte
ends the frame. A byte buffer is a list that keeps its length; a function that fills a buffer
returns it with its other results. Pointers are never null here.
-/

namespace SilverwareTx

/-- `PC_TELEMETRY_PROTOCOL_VERSION` -/
def pcTelemetryProtocolVersion : U8 := 1

/-- `PC_TELEMETRY_MESSAGE_RAW_BAYANG` -/
def pcTelemetryMessageRawBayang : U8 := 1

/-- `PC_TELEMETRY_MESSAGE_LOCAL_STATE` -/
def pcTelemetryMessageLocalState : U8 := 2

/-- `PC_TELEMETRY_ENVELOPE_SIZE` -/
def pcTelemetryEnvelopeSize : ℕ := 14

/-- `PC_TELEMETRY_CRC_SIZE` -/
def pcTelemetryCrcSize : ℕ := 2

/-- `PC_TELEMETRY_LOCAL_STATE_PAYLOAD_SIZE` -/
def pcTelemetryLocalStatePayloadSize : ℕ := 44

/-- `PC_TELEMETRY_RECORD_SIZE` -/
def pcTelemetryRecordSize : ℕ := pcTelemetryEnvelopeSize + bayangPacketSize + pcTelemetryCrcSize

/-- `PC_TELEMETRY_LOCAL_STATE_RECORD_SIZE` -/
def pcTelemetryLocalStateRecordSize : ℕ :=
  pcTelemetryEnvelopeSize + pcTelemetryLocalStatePayloadSize + pcTelemetryCrcSize

/-- `PC_TELEMETRY_MAX_ENCODED_SIZE` -/
def pcTelemetryMaxEncodedSize : ℕ := pcTelemetryLocalStateRecordSize + 1

/-- `PC_TELEMETRY_MAX_FRAME_SIZE` -/
def pcTelemetryMaxFrameSize : ℕ := pcTelemetryMaxEncodedSize + 1

/-- `uint8_t frame[PC_TELEMETRY_MAX_FRAME_SIZE]` -/
abbrev FrameBuffer := Vector U8 pcTelemetryMaxFrameSize

/-- `PcTelemetrySample` -/
structure PcTelemetrySample where
  sequence : U16
  timestampUs : U64
  packet : Packet
  deriving DecidableEq

/-- `struct PcTelemetryLocalState`; the defaults are those of `= {}`. -/
structure PcTelemetryLocalState where
  systemState : U8 := 0
  statusFlags : U16 := 0
  buttons : U16 := 0
  auxModes : U8 := 0
  consecutiveTxFailures : U8 := 0
  nextHoppingChannelIndex : U8 := 0
  rollRaw : I16 := 0
  pitchRaw : I16 := 0
  yawRaw : I16 := 0
  throttleRaw : U16 := 0
  gamepadAgeMs : U16 := 0
  fcTelemetryAgeMs : U16 := 0
  txPackets : U32 := 0
  txFailures : U32 := 0
  telemetryAccepted : U32 := 0
  telemetryRejected : U32 := 0
  deadlineMisses : U32 := 0
  exportQueueDrops : U32 := 0

/-! ### Big-endian integers in a buffer -/

/-- `memcpy(&buffer[offset], bytes, bytes.length)` -/
def copyInto (buffer : List U8) (offset : ℕ) (bytes : List U8) : List U8 :=
  buffer.take offset ++ bytes ++ buffer.drop (offset + bytes.length)

/-- A byte of a buffer. -/
def byteAt (buffer : List U8) (i : ℕ) : U8 := buffer.getD i 0

/-- `write_u16_be` -/
def writeU16Be (output : List U8) (offset : ℕ) (value : U16) : List U8 :=
  (output.set offset ((value >>> 8).setWidth 8)).set (offset + 1) (value.setWidth 8)

/-- The loop of `write_u32_be` and `write_u64_be`, from byte `index` of `count`. -/
def writeBeLoop {w : ℕ} (value : BitVec w) (count offset : ℕ) : ℕ → List U8 → List U8
  | 0, output => output
  | left + 1, output =>
    let index := count - (left + 1)
    writeBeLoop value count offset left
      (output.set (offset + index) ((value >>> ((count - 1 - index) * 8)).setWidth 8))

/-- `write_u32_be` -/
def writeU32Be (output : List U8) (offset : ℕ) (value : U32) : List U8 :=
  writeBeLoop value 4 offset 4 output

/-- `write_u64_be` -/
def writeU64Be (output : List U8) (offset : ℕ) (value : U64) : List U8 :=
  writeBeLoop value 8 offset 8 output

/-- `read_u16_be` -/
def readU16Be (input : List U8) (offset : ℕ) : U16 :=
  ((byteAt input offset).setWidth 16 <<< 8) ||| (byteAt input (offset + 1)).setWidth 16

/-- The loop of `read_u32_be` and `read_u64_be`. -/
def readBeLoop {w : ℕ} (input : List U8) : (count offset : ℕ) → BitVec w → BitVec w
  | 0, _, value => value
  | count + 1, offset, value =>
    readBeLoop input count (offset + 1) ((value <<< 8) ||| (byteAt input offset).setWidth w)

/-- `read_u32_be` -/
def readU32Be (input : List U8) (offset : ℕ) : U32 := readBeLoop input 4 offset 0

/-- `read_u64_be` -/
def readU64Be (input : List U8) (offset : ℕ) : U64 := readBeLoop input 8 offset 0

/-! ### CRC and COBS -/

/-- One turn of the inner loop of the CRC. -/
def crc16Bit (crc : U16) : U16 :=
  if crc &&& 0x8000 ≠ 0 then (crc <<< 1) ^^^ 0x1021 else crc <<< 1

/-- One byte of the CRC. -/
def crc16Byte (crc : U16) (byte : U8) : U16 :=
  crc16Bit^[8] (crc ^^^ (byte.setWidth 16 <<< 8))

/-- `pc_telemetry_crc16_ccitt_false` -/
def pcTelemetryCrc16CcittFalse (data : List U8) : U16 := data.foldl crc16Byte 0xFFFF

/-- `pc_telemetry_cobs_max_encoded_size` -/
def pcTelemetryCobsMaxEncodedSize (inputLength : ℕ) : ℕ := inputLength + inputLength / 254 + 1

/-- The loop of `pc_telemetry_cobs_encode` over the input not yet read: the last `write_index` and
the buffer. -/
def cobsEncodeLoop : (input : List U8) → (writeIndex codeIndex : ℕ) → (code : U8) →
    (output : List U8) → ℕ × List U8
  | [], writeIndex, codeIndex, code, output => (writeIndex, output.set codeIndex code)
  | b :: input, writeIndex, codeIndex, code, output =>
    if b = 0 then
      cobsEncodeLoop input (writeIndex + 1) writeIndex 1 (output.set codeIndex code)
    else
      let output := output.set writeIndex b
      let writeIndex := writeIndex + 1
      let code := code + 1
      if code = 0xFF then
        cobsEncodeLoop input (writeIndex + 1) writeIndex 1 (output.set codeIndex code)
      else cobsEncodeLoop input writeIndex codeIndex code output

/-- `pc_telemetry_cobs_encode`: the encoded length, 0 on failure, and the buffer. -/
def pcTelemetryCobsEncode (input output : List U8) (outputCapacity : ℕ) : ℕ × List U8 :=
  if outputCapacity < pcTelemetryCobsMaxEncodedSize input.length then (0, output)
  else cobsEncodeLoop input 1 0 1 output

/-- The inner loop of `pc_telemetry_cobs_decode`, which copies the data bytes of a block: the new
`write_index`, if they fit, and the buffer. -/
def cobsCopyLoop (input : List U8) (outputCapacity : ℕ) : (left readIndex writeIndex : ℕ) →
    (output : List U8) → Option ℕ × List U8
  | 0, _, writeIndex, output => (some writeIndex, output)
  | left + 1, readIndex, writeIndex, output =>
    if writeIndex ≥ outputCapacity then (none, output)
    else
      cobsCopyLoop input outputCapacity left (readIndex + 1) (writeIndex + 1)
        (output.set writeIndex (byteAt input readIndex))

/-- The loop of `pc_telemetry_cobs_decode`. Every turn reads a byte, so `input.length` turns are
enough. -/
def cobsDecodeLoop (input : List U8) (outputCapacity : ℕ) : (turns readIndex writeIndex : ℕ) →
    (output : List U8) → Option ℕ × List U8
  | 0, _, writeIndex, output => (some writeIndex, output)
  | turns + 1, readIndex, writeIndex, output =>
    if readIndex < input.length then
      let code := byteAt input readIndex
      let readIndex := readIndex + 1
      if code = 0 ∨ readIndex + code.toNat - 1 > input.length then (none, output)
      else
        match cobsCopyLoop input outputCapacity (code.toNat - 1) readIndex writeIndex output with
        | (none, output) => (none, output)
        | (some writeIndex, output) =>
          let readIndex := readIndex + (code.toNat - 1)
          if code ≠ 0xFF ∧ readIndex < input.length then
            if writeIndex ≥ outputCapacity then (none, output)
            else
              cobsDecodeLoop input outputCapacity turns readIndex (writeIndex + 1)
                (output.set writeIndex 0)
          else cobsDecodeLoop input outputCapacity turns readIndex writeIndex output
    else (some writeIndex, output)

/-- `pc_telemetry_cobs_decode`: the decoded length, if it returns true, and the buffer. -/
def pcTelemetryCobsDecode (input output : List U8) (outputCapacity : ℕ) : Option ℕ × List U8 :=
  if input.length = 0 then (none, output)
  else cobsDecodeLoop input outputCapacity input.length 0 0 output

/-! ### Messages -/

/-- The record that `encode_message` fills, in a buffer of
`PC_TELEMETRY_LOCAL_STATE_RECORD_SIZE`. -/
def fillRecord (messageType : U8) (sequence : U16) (timestampUs : U64) (payload : List U8) :
    List U8 :=
  let record := List.replicate pcTelemetryLocalStateRecordSize 0
  let record := record.set 0 pcTelemetryProtocolVersion
  let record := record.set 1 messageType
  let record := writeU16Be record 2 (BitVec.ofNat 16 payload.length)
  let record := writeU16Be record 4 sequence
  let record := writeU64Be record 6 timestampUs
  let record := copyInto record pcTelemetryEnvelopeSize payload
  let crcOffset := pcTelemetryEnvelopeSize + payload.length
  writeU16Be record crcOffset (pcTelemetryCrc16CcittFalse (record.take crcOffset))

/-- `encode_message`: the frame length, 0 on failure, and the buffer. -/
def encodeMessage (messageType : U8) (sequence : U16) (timestampUs : U64)
    (payload output : List U8) (outputCapacity : ℕ) : ℕ × List U8 :=
  let recordLength := pcTelemetryEnvelopeSize + payload.length + pcTelemetryCrcSize
  if recordLength > pcTelemetryLocalStateRecordSize ∨
      outputCapacity < pcTelemetryCobsMaxEncodedSize recordLength + 1 then (0, output)
  else
    let record := fillRecord messageType sequence timestampUs payload
    let encoded := pcTelemetryCobsEncode (record.take recordLength) output (outputCapacity - 1)
    if encoded.1 = 0 then encoded else (encoded.1 + 1, encoded.2.set encoded.1 0)

/-- `decode_message`: sequence, timestamp and payload, if it returns true. -/
def decodeMessage (frame : List U8) (expectedType : U8) (expectedPayloadLength : ℕ) :
    Option (U16 × U64 × List U8) :=
  if frame.length < 2 ∨ byteAt frame (frame.length - 1) ≠ 0 then none
  else
    match pcTelemetryCobsDecode (frame.take (frame.length - 1))
        (List.replicate pcTelemetryLocalStateRecordSize 0) pcTelemetryLocalStateRecordSize with
    | (none, _) => none
    | (some recordLength, record) =>
      if recordLength ≠ pcTelemetryEnvelopeSize + expectedPayloadLength + pcTelemetryCrcSize ∨
          byteAt record 0 ≠ pcTelemetryProtocolVersion ∨ byteAt record 1 ≠ expectedType ∨
          (readU16Be record 2).toNat ≠ expectedPayloadLength then none
      else
        let crcOffset := pcTelemetryEnvelopeSize + expectedPayloadLength
        if readU16Be record crcOffset ≠ pcTelemetryCrc16CcittFalse (record.take crcOffset) then none
        else
          some (readU16Be record 4, readU64Be record 6,
            (record.drop pcTelemetryEnvelopeSize).take expectedPayloadLength)

/-- `serialize_local_state` -/
def serializeLocalState (state : PcTelemetryLocalState) (payload : List U8) : List U8 :=
  let payload := payload.set 0 state.systemState
  let payload := writeU16Be payload 1 state.statusFlags
  let payload := writeU16Be payload 3 state.buttons
  let payload := payload.set 5 state.auxModes
  let payload := payload.set 6 state.consecutiveTxFailures
  let payload := payload.set 7 state.nextHoppingChannelIndex
  let payload := writeU16Be payload 8 state.rollRaw
  let payload := writeU16Be payload 10 state.pitchRaw
  let payload := writeU16Be payload 12 state.yawRaw
  let payload := writeU16Be payload 14 state.throttleRaw
  let payload := writeU16Be payload 16 state.gamepadAgeMs
  let payload := writeU16Be payload 18 state.fcTelemetryAgeMs
  let payload := writeU32Be payload 20 state.txPackets
  let payload := writeU32Be payload 24 state.txFailures
  let payload := writeU32Be payload 28 state.telemetryAccepted
  let payload := writeU32Be payload 32 state.telemetryRejected
  let payload := writeU32Be payload 36 state.deadlineMisses
  writeU32Be payload 40 state.exportQueueDrops

/-- `deserialize_local_state` -/
def deserializeLocalState (payload : List U8) : PcTelemetryLocalState where
  systemState := byteAt payload 0
  statusFlags := readU16Be payload 1
  buttons := readU16Be payload 3
  auxModes := byteAt payload 5
  consecutiveTxFailures := byteAt payload 6
  nextHoppingChannelIndex := byteAt payload 7
  rollRaw := readU16Be payload 8
  pitchRaw := readU16Be payload 10
  yawRaw := readU16Be payload 12
  throttleRaw := readU16Be payload 14
  gamepadAgeMs := readU16Be payload 16
  fcTelemetryAgeMs := readU16Be payload 18
  txPackets := readU32Be payload 20
  txFailures := readU32Be payload 24
  telemetryAccepted := readU32Be payload 28
  telemetryRejected := readU32Be payload 32
  deadlineMisses := readU32Be payload 36
  exportQueueDrops := readU32Be payload 40

/-- `pc_telemetry_make_sample` -/
def pcTelemetryMakeSample (packet : Packet) (timestampUs : U64) (sequence : U16) :
    PcTelemetrySample where
  sequence := sequence
  timestampUs := timestampUs
  packet := packet

/-- `pc_telemetry_encode_frame`: the frame length, 0 on failure, and the buffer. -/
def pcTelemetryEncodeFrame (sample : PcTelemetrySample) (output : List U8) (outputCapacity : ℕ) :
    ℕ × List U8 :=
  encodeMessage pcTelemetryMessageRawBayang sample.sequence sample.timestampUs
    sample.packet.toList output outputCapacity

/-- `pc_telemetry_decode_frame`: whether it accepted the frame, and `*sample`. -/
def pcTelemetryDecodeFrame (frame : List U8) (sample : PcTelemetrySample) :
    Bool × PcTelemetrySample :=
  match decodeMessage frame pcTelemetryMessageRawBayang bayangPacketSize with
  | none => (false, sample)
  | some (sequence, timestampUs, payload) =>
    (true,
      { sequence := sequence
        timestampUs := timestampUs
        packet := Vector.ofFn fun i => byteAt payload i })

/-- `pc_telemetry_encode_local_state_frame`: the frame length, 0 on failure, and the buffer. -/
def pcTelemetryEncodeLocalStateFrame (state : PcTelemetryLocalState) (sequence : U16)
    (timestampUs : U64) (output : List U8) (outputCapacity : ℕ) : ℕ × List U8 :=
  encodeMessage pcTelemetryMessageLocalState sequence timestampUs
    (serializeLocalState state (List.replicate pcTelemetryLocalStatePayloadSize 0))
    output outputCapacity

/-- The out-parameters of `pc_telemetry_decode_local_state_frame`. -/
structure LocalStateFrame where
  state : PcTelemetryLocalState
  sequence : U16
  timestampUs : U64

/-- `pc_telemetry_decode_local_state_frame`: whether it accepted the frame, and the
out-parameters. -/
def pcTelemetryDecodeLocalStateFrame (frame : List U8) (out : LocalStateFrame) :
    Bool × LocalStateFrame :=
  match decodeMessage frame pcTelemetryMessageLocalState pcTelemetryLocalStatePayloadSize with
  | none => (false, out)
  | some (sequence, timestampUs, payload) =>
    (true,
      { state := deserializeLocalState payload, sequence := sequence, timestampUs := timestampUs })

/-! ### The saved configuration in a flight page -/

/-- `EXTENDED_FLIGHT_PAGE` -/
def extendedFlightPage : U8 := 1

/-- `FLIGHT_FLAG_LEVEL` -/
def flightFlagLevel : U8 := 1#8 <<< 3

/-- `FLIGHT_FLAG_RACE` -/
def flightFlagRace : U8 := 1#8 <<< 4

/-- `FLIGHT_FLAG_HORIZON` -/
def flightFlagHorizon : U8 := 1#8 <<< 5

/-- `FLIGHT_FLAG_PID_PROFILE` -/
def flightFlagPidProfile : U8 := 1#8 <<< 6

/-- `FLIGHT_CONFIG_MASK` -/
def flightConfigMask : U8 :=
  flightFlagLevel ||| flightFlagRace ||| flightFlagHorizon ||| flightFlagPidProfile

/-- `pc_telemetry_overlay_saved_flight_config`: whether it changed the packet, and the packet. -/
def pcTelemetryOverlaySavedFlightConfig (packet : Packet) (savedAuxFlags : U8) : Bool × Packet :=
  if !bayangCheckTelemetry packet ∨ packet.byte 0 ≠ 0x86 ∨
      packet.byte 1 >>> 6 ≠ extendedFlightPage then
    (false, packet)
  else
    let savedFlags : U8 :=
      (if flagSet savedAuxFlags nfeSilverwareAuxLevel then flightFlagLevel else 0) |||
      (if flagSet savedAuxFlags nfeSilverwareAuxRace then flightFlagRace else 0) |||
      (if flagSet savedAuxFlags nfeSilverwareAuxHorizon then flightFlagHorizon else 0) |||
      (if flagSet savedAuxFlags nfeSilverwareAuxPidProfile then flightFlagPidProfile else 0)
    (true, setChecksum (packet.setByte 13 ((packet.byte 13 &&& ~~~flightConfigMask) ||| savedFlags)))

end SilverwareTx
