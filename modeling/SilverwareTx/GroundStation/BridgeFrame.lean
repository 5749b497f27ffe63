import SilverwareTx.Link.BridgeFormat

/-!
# The bridge decoder of the ground station (`tools/ground_station/ground_station.py`)

`crc16CcittFalse`, `cobsDecode`, `decodeBridgeFrame` and `LocalState.decode` over Python's unbounded
integers, with `struct.unpack` for the format characters they use. An exception is an `Except` error
with its text.
-/

namespace SilverwareTx.GroundStation

open BigEndian

/-- `BRIDGE_VERSION` -/
def bridgeVersion : ℕ := 1

/-- `MESSAGE_RAW_FC` -/
def messageRawFc : ℕ := 1

/-- `MESSAGE_LOCAL_STATE` -/
def messageLocalState : ℕ := 2

/-- `RAW_FC_LENGTH` -/
def rawFcLength : ℕ := 15

/-- `LOCAL_STATE_LENGTH` -/
def localStateLength : ℕ := 44

/-- `class DecodeError(ValueError)` -/
structure DecodeError where
  message : String
  deriving DecidableEq, Repr

/-! ### `struct` -/

/-- The format characters `B`, `H`, `h`, `I` and `Q`. -/
inductive StructField
  | B
  | H
  | h
  | I
  | Q

/-- The number of bytes of a field. -/
def StructField.width : StructField → ℕ
  | .B => 1
  | .H => 2
  | .h => 2
  | .I => 4
  | .Q => 8

/-- The big-endian number in the bytes of a field; only `h` is signed. -/
def StructField.value : StructField → List U8 → ℤ
  | .h, bytes =>
    let n := ofBE bytes
    if n < 2 ^ 15 then n else (n : ℤ) - 2 ^ 16
  | _, bytes => ofBE bytes

/-- `struct.unpack_from(">" + format, data)` -/
def structUnpack : (format : List StructField) → (data : List U8) → List ℤ
  | [], _ => []
  | f :: format, data => f.value (data.take f.width) :: structUnpack format (data.drop f.width)

/-! ### CRC and COBS -/

/-- The inner loop of the CRC. -/
def crc16Shift (crc : ℕ) : ℕ :=
  if crc &&& 0x8000 ≠ 0 then ((crc <<< 1) ^^^ 0x1021) &&& 0xFFFF else (crc <<< 1) &&& 0xFFFF

/-- `crc16_ccitt_false` -/
def crc16CcittFalse (data : List U8) : ℕ :=
  data.foldl (fun crc value => crc16Shift^[8] (crc ^^^ (value.toNat <<< 8))) 0xFFFF

/-- The loop of `cobs_decode`. Every turn reads a byte, so `encoded.length` turns are enough. -/
def cobsDecodeLoop (encoded : List U8) : (turns index : ℕ) → (decoded : List U8) →
    Except DecodeError (List U8)
  | 0, _, decoded => .ok decoded
  | turns + 1, index, decoded =>
    if index < encoded.length then
      let code := (encoded.getD index 0).toNat
      if code = 0 then .error ⟨"zero byte inside COBS frame"⟩
      else
        let index := index + 1
        let stop := index + code - 1
        if stop > encoded.length then .error ⟨"truncated COBS block"⟩
        else
          let decoded := decoded ++ slice encoded index (stop - index)
          let index := stop
          let decoded := if code ≠ 0xFF ∧ index < encoded.length then decoded ++ [0] else decoded
          cobsDecodeLoop encoded turns index decoded
    else .ok decoded

/-- `cobs_decode` -/
def cobsDecode (encoded : List U8) : Except DecodeError (List U8) :=
  if encoded = [] then .error ⟨"empty COBS frame"⟩
  else cobsDecodeLoop encoded encoded.length 0 []

/-! ### Records -/

/-- `BridgeRecord`: a message of the bridge. -/
structure BridgeRecord where
  messageType : ℕ
  sequence : ℕ
  timestampUs : ℕ
  payload : List U8
  deriving DecidableEq

/-- `{MESSAGE_RAW_FC: RAW_FC_LENGTH, MESSAGE_LOCAL_STATE: LOCAL_STATE_LENGTH}.get(message_type)` -/
def expectedPayloadLength (messageType : ℕ) : Option ℕ :=
  if messageType = messageRawFc then some rawFcLength
  else if messageType = messageLocalState then some localStateLength
  else none

/-- A hexadecimal digit. -/
def hexDigit (n : ℕ) : Char := ("0123456789ABCDEF".toList).getD n '0'

/-- `f"{n:04X}"` for `n < 0x10000` -/
def hex4 (n : ℕ) : String :=
  String.ofList [hexDigit (n / 4096), hexDigit (n / 256 % 16), hexDigit (n / 16 % 16),
    hexDigit (n % 16)]

/-- The checks of `decode_bridge_frame` on an unpacked record. -/
def checkBridgeRecord (record : List U8)
    (version messageType payloadLength sequence timestampUs : ℕ) :
    Except DecodeError BridgeRecord :=
  if version ≠ bridgeVersion then .error ⟨s!"unsupported bridge version {version}"⟩
  else
    match expectedPayloadLength messageType with
    | none => .error ⟨s!"unsupported message type {messageType}"⟩
    | some expected =>
      if payloadLength ≠ expected then
        .error ⟨s!"wrong type-{messageType} payload length {payloadLength}"⟩
      else if record.length ≠ 14 + payloadLength + 2 then
        .error ⟨"record length does not match its header"⟩
      else
        let expectedCrc := ofBE (slice record (record.length - 2) 2)
        let actualCrc := crc16CcittFalse (record.take (record.length - 2))
        if actualCrc ≠ expectedCrc then
          let expectedText := hex4 expectedCrc
          let actualText := hex4 actualCrc
          .error ⟨s!"bridge CRC mismatch: got {expectedText}, expected {actualText}"⟩
        else
          .ok
            { messageType := messageType
              sequence := sequence
              timestampUs := timestampUs
              payload := slice record 14 (record.length - 2 - 14) }

/-- `decode_bridge_frame` -/
def decodeBridgeFrame (encoded : List U8) : Except DecodeError BridgeRecord :=
  match cobsDecode encoded with
  | .error e => .error e
  | .ok record =>
    if record.length < 16 then .error ⟨"bridge record is too short"⟩
    else
      let fields := structUnpack [.B, .B, .H, .H, .Q] record
      checkBridgeRecord record (fields.getD 0 0).toNat (fields.getD 1 0).toNat
        (fields.getD 2 0).toNat (fields.getD 3 0).toNat (fields.getD 4 0).toNat

/-! ### Local state -/

/-- `class LocalState` -/
structure LocalState where
  systemState : ℤ
  statusFlags : ℤ
  buttons : ℤ
  auxModes : ℤ
  consecutiveTxFailures : ℤ
  nextHoppingChannel : ℤ
  rollRaw : ℤ
  pitchRaw : ℤ
  yawRaw : ℤ
  throttleRaw : ℤ
  gamepadAgeMs : ℤ
  fcTelemetryAgeMs : ℤ
  txPackets : ℤ
  txFailures : ℤ
  telemetryAccepted : ℤ
  telemetryRejected : ℤ
  deadlineMisses : ℤ
  exportQueueDrops : ℤ
  deriving DecidableEq

/-- `">BHHBBBhhhHHHIIIIII"` -/
def localStateFormat : List StructField :=
  [.B, .H, .H, .B, .B, .B, .h, .h, .h, .H, .H, .H, .I, .I, .I, .I, .I, .I]

/-- `LocalState.decode` -/
def LocalState.decode (payload : List U8) : Except DecodeError LocalState :=
  if payload.length ≠ localStateLength then .error ⟨"wrong local-state payload length"⟩
  else
    let fields := structUnpack localStateFormat payload
    .ok
      { systemState := fields.getD 0 0
        statusFlags := fields.getD 1 0
        buttons := fields.getD 2 0
        auxModes := fields.getD 3 0
        consecutiveTxFailures := fields.getD 4 0
        nextHoppingChannel := fields.getD 5 0
        rollRaw := fields.getD 6 0
        pitchRaw := fields.getD 7 0
        yawRaw := fields.getD 8 0
        throttleRaw := fields.getD 9 0
        gamepadAgeMs := fields.getD 10 0
        fcTelemetryAgeMs := fields.getD 11 0
        txPackets := fields.getD 12 0
        txFailures := fields.getD 13 0
        telemetryAccepted := fields.getD 14 0
        telemetryRejected := fields.getD 15 0
        deadlineMisses := fields.getD 16 0
        exportQueueDrops := fields.getD 17 0 }

/-! ### The decoder decides what a byte string carries -/

/-- The loop appends the message of the bytes not yet read, and fails when they have none. -/
theorem cobsDecodeLoop_toOption (encoded : List U8) (turns index : ℕ) (decoded : List U8)
    (hturns : encoded.length ≤ index + turns) :
    (cobsDecodeLoop encoded turns index decoded).toOption =
      (Cobs.message (encoded.drop index)).map (decoded ++ ·) := by
  induction turns generalizing index decoded with
  | zero =>
    have hnil : encoded.drop index = [] := List.drop_eq_nil_of_le (by omega)
    simp [cobsDecodeLoop, hnil, Except.toOption]
  | succ turns ih =>
    rw [cobsDecodeLoop]
    by_cases hi : index < encoded.length
    · rw [if_pos hi, Cobs.message_drop hi]
      generalize encoded.getD index 0 = code
      -- Python compares the code byte as an integer, the format as a byte
      have hzero : code.toNat = 0 ↔ code = 0 := by rw [← BitVec.toNat_inj]; rfl
      have hmax : code.toNat ≠ 0xFF ↔ code ≠ 0xFF := by rw [← BitVec.toNat_inj.ne]; rfl
      by_cases h0 : code = 0
      · rw [if_pos (hzero.2 h0), if_pos (.inl h0)]
        rfl
      have hpos : 0 < code.toNat := Nat.pos_of_ne_zero (mt hzero.1 h0)
      have hstop : index + 1 + code.toNat - 1 = index + code.toNat := by omega
      simp only [hzero, hmax, hstop]
      rw [if_neg h0]
      by_cases hlong : index + code.toNat > encoded.length
      · rw [if_pos hlong, if_pos (.inr hlong)]
        rfl
      · have hslice : slice encoded (index + 1) (index + code.toNat - (index + 1)) =
            (encoded.drop (index + 1)).take (code.toNat - 1) := by
          rw [slice, show index + code.toNat - (index + 1) = code.toNat - 1 by omega]
        have hgood : ¬ (code = 0 ∨ encoded.length < index + code.toNat) := not_or.2 ⟨h0, hlong⟩
        rw [if_neg hlong, ih _ _ (by omega), hslice, if_neg hgood, Option.map_map]
        congr 1
        funext tail
        rw [Function.comp_apply]
        by_cases hlast : code ≠ 0xFF ∧ index + code.toNat < encoded.length
        · rw [if_pos hlast, if_pos hlast]
          simp
        · rw [if_neg hlast, if_neg hlast]
          simp
    · have hnil : encoded.drop index = [] := List.drop_eq_nil_of_le (by omega)
      simp [if_neg hi, hnil, Except.toOption]

theorem cobsDecode_toOption {encoded : List U8} (h : encoded ≠ []) :
    (cobsDecode encoded).toOption = Cobs.message encoded := by
  rw [cobsDecode, if_neg h, cobsDecodeLoop_toOption encoded _ 0 [] (by simp)]
  simp

theorem cobsDecode_eq_ok_iff {encoded x : List U8} (h : encoded ≠ []) :
    cobsDecode encoded = .ok x ↔ Cobs.message encoded = some x := by
  rw [← cobsDecode_toOption h]
  cases cobsDecode encoded <;> simp [Except.toOption]

/-! ### The fields that `struct` reads -/

theorem getD_structUnpack_zero (f : StructField) (format : List StructField) (data : List U8) :
    (structUnpack (f :: format) data).getD 0 0 = f.value (slice data 0 f.width) := rfl

theorem getD_structUnpack_succ (f : StructField) (format : List StructField) (data : List U8)
    (i : ℕ) : (structUnpack (f :: format) data).getD (i + 1) 0 =
      (structUnpack format (data.drop f.width)).getD i 0 := rfl

theorem slice_drop (data : List U8) (i j n : ℕ) :
    slice (data.drop i) j n = slice data (i + j) n := by
  rw [slice, slice, List.drop_drop]

theorem ofBE_slice_one (data : List U8) (i : ℕ) :
    ofBE (slice data i 1) = (data.getD i 0).toNat := by
  rw [slice]
  by_cases hi : i < data.length
  · rw [List.drop_eq_getElem_cons hi, List.getElem_eq_getD 0]
    simp [ofBE]
  · simp [List.drop_eq_nil_of_le (not_lt.1 hi), List.getD_eq_getElem?_getD,
      List.getElem?_eq_none (not_lt.1 hi)]

/-- The header fields of a record. -/
theorem decodeBridgeFrame_of_record {encoded record : List U8}
    (h : Cobs.message encoded = some record) (hne : encoded ≠ []) :
    decodeBridgeFrame encoded =
      if record.length < 16 then .error ⟨"bridge record is too short"⟩
      else
        checkBridgeRecord record (record.getD 0 0).toNat (record.getD 1 0).toNat
          (ofBE (slice record 2 2)) (ofBE (slice record 4 2)) (ofBE (slice record 6 8)) := by
  have hdecode := (cobsDecode_eq_ok_iff hne).2 h
  simp only [decodeBridgeFrame, hdecode, getD_structUnpack_zero, getD_structUnpack_succ,
    slice_drop, List.drop_drop, StructField.value, StructField.width, ofBE_slice_one,
    Int.toNat_natCast, Nat.reduceAdd]

theorem checkBridgeRecord_eq_ok_iff {record : List U8}
    {version messageType payloadLength sequence timestampUs : ℕ} {r : BridgeRecord} :
    checkBridgeRecord record version messageType payloadLength sequence timestampUs = .ok r ↔
      version = 1 ∧ expectedPayloadLength messageType = some payloadLength ∧
        record.length = 16 + payloadLength ∧
        crc16CcittFalse (record.take (14 + payloadLength)) =
          ofBE (slice record (14 + payloadLength) 2) ∧
        r = ⟨messageType, sequence, timestampUs, slice record 14 payloadLength⟩ := by
  unfold checkBridgeRecord bridgeVersion
  by_cases hversion : version = 1
  swap
  · simp [hversion]
  cases hexpected : expectedPayloadLength messageType with
  | none => simp [hversion]
  | some expected =>
    by_cases hlen : payloadLength = expected
    swap
    · simp [hversion, hlen, Ne.symm hlen]
    by_cases hrecord : record.length = 16 + expected
    swap
    · have hne : record.length ≠ 14 + expected + 2 := by omega
      simp [hversion, hlen, hne, hrecord]
    simp only [hversion, hlen, hrecord, ne_eq, not_true_eq_false, if_false,
      show 16 + expected = 14 + expected + 2 by omega, Nat.add_sub_cancel,
      Nat.add_sub_cancel_left, true_and]
    by_cases hcrc : crc16CcittFalse (record.take (14 + expected)) =
        ofBE (slice record (14 + expected) 2)
    · simp [hcrc, eq_comm]
    · simp [hcrc]

/-- The record that the ground station makes of a message. -/
def BridgeRecord.ofMessage (m : BridgeMessage) : BridgeRecord where
  messageType := m.messageType.toNat
  sequence := m.sequence.toNat
  timestampUs := m.timestampUs.toNat
  payload := m.payload

theorem expectedPayloadLength_toNat (messageType : U8) :
    expectedPayloadLength messageType.toNat = payloadLengthOf messageType := by
  have h1 : messageType.toNat = 1 ↔ messageType = 1 := by rw [← BitVec.toNat_inj]; rfl
  have h2 : messageType.toNat = 2 ↔ messageType = 2 := by rw [← BitVec.toNat_inj]; rfl
  simp only [expectedPayloadLength, payloadLengthOf, messageRawFc, messageLocalState, rawFcLength,
    localStateLength, h1, h2]

section Accept

variable {crc : List U8 → U16} (hcrc : ∀ data, (crc data).toNat = crc16CcittFalse data)

include hcrc

/-- **The decoder accepts exactly the byte strings that carry a well-formed message**, and returns
that message. -/
theorem decodeBridgeFrame_eq_ok_iff {encoded : List U8} {r : BridgeRecord} :
    decodeBridgeFrame encoded = .ok r ↔
      ∃ m : BridgeMessage, m.WellFormed ∧ m.Carries crc encoded ∧ r = .ofMessage m := by
  constructor
  · intro h
    have hne : encoded ≠ [] := by
      rintro rfl
      cases h
    cases hmessage : Cobs.message encoded with
    | none =>
      cases hc : cobsDecode encoded with
      | ok record => cases hmessage.symm.trans ((cobsDecode_eq_ok_iff hne).1 hc)
      | error e => rw [decodeBridgeFrame, hc] at h; cases h
    | some record =>
      rw [decodeBridgeFrame_of_record hmessage hne] at h
      split_ifs at h with hshort
      obtain ⟨hversion, hexpected, hlen, hsum, rfl⟩ := checkBridgeRecord_eq_ok_iff.1 h
      have hone : record.getD 0 0 = 1 := BitVec.eq_of_toNat_eq hversion
      rw [expectedPayloadLength_toNat] at hexpected
      have hrec := @BridgeMessage.record_ofRecord crc _ _ hlen hone rfl (by rw [hcrc, hsum])
      refine ⟨.ofRecord record (ofBE (slice record 2 2)), ?_, ?_, ?_⟩
      · rw [BridgeMessage.WellFormed, BridgeMessage.ofRecord,
          BridgeMessage.length_slice (by omega)]
        exact hexpected
      · rw [BridgeMessage.Carries, hrec, hmessage]
      · have hseq : ofBE (slice record 4 2) < 2 ^ 16 := BridgeMessage.ofBE_slice_lt (by omega)
        have htime : ofBE (slice record 6 8) < 2 ^ 64 := BridgeMessage.ofBE_slice_lt (by omega)
        rw [BridgeRecord.ofMessage, BridgeMessage.ofRecord, BitVec.toNat_ofNat, BitVec.toNat_ofNat,
          Nat.mod_eq_of_lt hseq, Nat.mod_eq_of_lt htime]
  · rintro ⟨m, hm, hcarries, rfl⟩
    have hne : encoded ≠ [] := by
      rintro rfl
      rw [BridgeMessage.Carries, Cobs.message_nil, Option.some.injEq] at hcarries
      have := congrArg List.length hcarries
      rw [BridgeMessage.length_record, List.length_nil] at this
      omega
    have hlen : m.payload.length < 256 ^ 2 := by have := hm.length_le; omega
    have hseq : m.sequence.toNat < 256 ^ 2 := m.sequence.isLt
    have htime : m.timestampUs.toNat < 256 ^ 8 := m.timestampUs.isLt
    -- every check of the decoder reads a field of `record` back
    rw [decodeBridgeFrame_of_record hcarries hne, BridgeMessage.length_record, if_neg (by omega),
      checkBridgeRecord_eq_ok_iff, BridgeMessage.getD_record_zero, BridgeMessage.getD_record_one,
      BridgeMessage.slice_record_length, BridgeMessage.slice_record_sequence,
      BridgeMessage.slice_record_timestamp, ofBE_toBE_of_lt hlen, ofBE_toBE_of_lt hseq,
      ofBE_toBE_of_lt htime, BridgeMessage.slice_record_crc, BridgeMessage.slice_record_payload,
      BridgeMessage.take_record, BridgeMessage.length_record]
    refine ⟨rfl, ?_, rfl, ?_, rfl⟩
    · rw [expectedPayloadLength_toNat]
      exact hm
    · rw [ofBE_toBE_of_lt (crc m.body).isLt, hcrc]

end Accept

end SilverwareTx.GroundStation
