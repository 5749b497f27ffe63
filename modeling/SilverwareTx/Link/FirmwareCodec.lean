import SilverwareTx.Lib.MsbBits
import SilverwareTx.Link.BridgeFormat
import SilverwareTx.Telemetry.PcTelemetryProtocol

/-!
# The transmitter's bridge codec against the link format

* `decodeMessage_eq_some_iff`: the decoder accepts exactly the frames that carry a message of its
  type;
* `encodeMessage_eq`: the encoder writes the frame of the message.
-/

namespace SilverwareTx

open BigEndian MsbBits

/-! ### Buffers -/

theorem length_copyInto {buffer bytes : List U8} {offset : ℕ}
    (h : offset + bytes.length ≤ buffer.length) :
    (copyInto buffer offset bytes).length = buffer.length := by
  simp [copyInto]
  omega

@[simp] theorem copyInto_nil (buffer : List U8) (offset : ℕ) :
    copyInto buffer offset [] = buffer := by
  simp [copyInto]

/-- Writing byte after byte is one copy. -/
theorem copyInto_set {buffer : List U8} {offset : ℕ} (h : offset < buffer.length) (b : U8)
    (bytes : List U8) :
    copyInto (buffer.set offset b) (offset + 1) bytes = copyInto buffer offset (b :: bytes) := by
  have htake : (buffer.set offset b).take (offset + 1) = buffer.take offset ++ [b] := by
    rw [List.take_succ_eq_append_getElem (by rw [List.length_set]; exact h), List.getElem_set_self,
      List.take_set_of_le le_rfl]
  have hdrop : (buffer.set offset b).drop (offset + 1 + bytes.length) =
      buffer.drop (offset + (b :: bytes).length) := by
    rw [List.length_cons, List.drop_set_of_lt (by omega)]
    congr 1
    omega
  rw [copyInto, copyInto, htake, hdrop]
  simp

/-- Two adjacent copies are one. -/
theorem copyInto_copyInto {buffer : List U8} {offset : ℕ} {l : List U8}
    (h : offset + l.length ≤ buffer.length) (l' : List U8) :
    copyInto (copyInto buffer offset l) (offset + l.length) l' =
      copyInto buffer offset (l ++ l') := by
  induction l generalizing buffer offset with
  | nil => simp
  | cons b l ih =>
    rw [List.length_cons] at h
    rw [← copyInto_set (by omega), List.length_cons,
      show offset + (l.length + 1) = offset + 1 + l.length by omega,
      ih (by rw [List.length_set]; omega), copyInto_set (by omega), List.cons_append]

theorem copyInto_concat {buffer : List U8} {offset : ℕ} {l : List U8}
    (h : offset + l.length < buffer.length) (b : U8) :
    copyInto buffer offset (l ++ [b]) = (copyInto buffer offset l).set (offset + l.length) b := by
  rw [← copyInto_copyInto h.le, ← copyInto_set (by rw [length_copyInto h.le]; exact h),
    copyInto_nil]

theorem slice_succ {input : List U8} {i : ℕ} (hi : i < input.length) (n : ℕ) :
    slice input i (n + 1) = byteAt input i :: slice input (i + 1) n := by
  rw [slice, List.drop_eq_getElem_cons hi, List.getElem_eq_getD 0]
  rfl

/-! ### Reading integers -/

theorem toNat_readU16Be {input : List U8} {i : ℕ} (h : i + 2 ≤ input.length) :
    (readU16Be input i).toNat = ofBE (slice input i 2) := by
  have hlo : (byteAt input (i + 1)).toNat < 2 ^ 8 := (byteAt input (i + 1)).isLt
  have hhi : (byteAt input i).toNat < 2 ^ 8 := (byteAt input i).isLt
  rw [slice_succ (by omega), slice_succ (by omega), readU16Be, BitVec.toNat_or,
    BitVec.toNat_shiftLeft, BitVec.toNat_setWidth, BitVec.toNat_setWidth,
    Nat.mod_eq_of_lt (show (byteAt input i).toNat < 2 ^ 16 by omega),
    Nat.mod_eq_of_lt (show (byteAt input (i + 1)).toNat < 2 ^ 16 by omega),
    shiftLeft_mod_or _ hlo (by norm_num)]
  simp [slice, ofBE]
  omega

/-- The loop shifts the bytes in, modulo the width of the accumulator. -/
theorem toNat_readBeLoop {w : ℕ} (hw : 8 ≤ w) {input : List U8} {count i : ℕ}
    (h : i + count ≤ input.length) (value : BitVec w) :
    (readBeLoop input count i value).toNat =
      (value.toNat * 256 ^ count + ofBE (slice input i count)) % 2 ^ w := by
  induction count generalizing i value with
  | zero => simp [readBeLoop, slice, Nat.mod_eq_of_lt value.isLt]
  | succ count ih =>
    have hbyte : (byteAt input i).toNat < 2 ^ 8 := (byteAt input i).isLt
    have hle : 2 ^ 8 ≤ 2 ^ w := Nat.pow_le_pow_right (by norm_num) hw
    have hlen : (slice input (i + 1) count).length = count :=
      BridgeMessage.length_slice (by omega)
    rw [readBeLoop, ih (by omega), slice_succ (by omega), ofBE_cons, hlen, BitVec.toNat_or,
      BitVec.toNat_shiftLeft, BitVec.toNat_setWidth,
      Nat.mod_eq_of_lt (show (byteAt input i).toNat < 2 ^ w by omega), shiftLeft_mod_or _ hbyte hw,
      Nat.add_mod, Nat.mul_mod, Nat.mod_mod, ← Nat.mul_mod, ← Nat.add_mod]
    congr 1
    ring

/-! ### Decoding -/

/-- The copy of a block's data fits, or the buffer is full. -/
theorem cobsCopyLoop_spec {input : List U8} {outputCapacity : ℕ} (left : ℕ) {readIndex : ℕ}
    {writeIndex : ℕ} {output : List U8} (hread : readIndex + left ≤ input.length)
    (hwrite : writeIndex ≤ outputCapacity) (hcap : outputCapacity ≤ output.length) :
    (writeIndex + left ≤ outputCapacity ∧
      cobsCopyLoop input outputCapacity left readIndex writeIndex output =
        (some (writeIndex + left), copyInto output writeIndex (slice input readIndex left))) ∨
    (outputCapacity < writeIndex + left ∧
      (cobsCopyLoop input outputCapacity left readIndex writeIndex output).1 = none) := by
  induction left generalizing readIndex writeIndex output with
  | zero => exact .inl ⟨by omega, by simp [cobsCopyLoop, slice]⟩
  | succ left ih =>
    rw [cobsCopyLoop]
    by_cases hfull : writeIndex ≥ outputCapacity
    · rw [if_pos hfull]
      exact .inr ⟨by omega, rfl⟩
    rw [if_neg hfull]
    rcases @ih (readIndex + 1) (writeIndex + 1)
      (output.set writeIndex (byteAt input readIndex)) (by omega) (by omega)
      (by simpa using hcap) with ⟨hfit, heq⟩ | ⟨hlong, hnone⟩
    · refine .inl ⟨by omega, ?_⟩
      rw [heq, copyInto_set (by omega), slice_succ (by omega),
        show writeIndex + 1 + left = writeIndex + (left + 1) by omega]
    · exact .inr ⟨by omega, hnone⟩

/-- How a decoding that starts at `readIndex` and `writeIndex` ends: the message of the bytes left
is in the buffer, or there is none that fits. -/
def DecodesTo (input output : List U8) (outputCapacity readIndex writeIndex : ℕ)
    (result : Option ℕ × List U8) : Prop :=
  (∃ x, Cobs.message (input.drop readIndex) = some x ∧ writeIndex + x.length ≤ outputCapacity ∧
    result = (some (writeIndex + x.length), copyInto output writeIndex x)) ∨
  (result.1 = none ∧
    ∀ x, Cobs.message (input.drop readIndex) = some x → outputCapacity < writeIndex + x.length)

/-- Bytes put in front of a decoding that goes on after them. -/
theorem DecodesTo.prepend {input output front : List U8} {outputCapacity i i' w : ℕ}
    {result : Option ℕ × List U8}
    (hmessage : Cobs.message (input.drop i) = (Cobs.message (input.drop i')).map (front ++ ·))
    (hfits : w + front.length ≤ output.length)
    (h : DecodesTo input (copyInto output w front) outputCapacity i' (w + front.length) result) :
    DecodesTo input output outputCapacity i w result := by
  rcases h with ⟨x, hx, hlen, rfl⟩ | ⟨hnone, hlong⟩
  · refine .inl ⟨front ++ x, by rw [hmessage, hx]; rfl, by rw [List.length_append]; omega, ?_⟩
    rw [copyInto_copyInto hfits, List.length_append, Nat.add_assoc]
  · refine .inr ⟨hnone, fun x hx => ?_⟩
    rw [hmessage, Option.map_eq_some_iff] at hx
    obtain ⟨tail, htail, rfl⟩ := hx
    have := hlong tail htail
    rw [List.length_append]
    omega

theorem cobsDecodeLoop_spec {input : List U8} {outputCapacity : ℕ} (turns readIndex writeIndex : ℕ)
    {output : List U8} (hturns : input.length ≤ readIndex + turns)
    (hwrite : writeIndex ≤ outputCapacity) (hcap : outputCapacity ≤ output.length) :
    DecodesTo input output outputCapacity readIndex writeIndex
      (cobsDecodeLoop input outputCapacity turns readIndex writeIndex output) := by
  have hend : ∀ i, input.length ≤ i → Cobs.message (input.drop i) = some [] := by
    intro i hi
    rw [List.drop_eq_nil_of_le hi, Cobs.message_nil]
  induction turns generalizing readIndex writeIndex output with
  | zero => exact .inl ⟨[], hend _ (by omega), by simpa using hwrite, by simp [cobsDecodeLoop]⟩
  | succ turns ih =>
    rw [cobsDecodeLoop]
    by_cases hi : readIndex < input.length
    swap
    · rw [if_neg hi]
      exact .inl ⟨[], hend _ (by omega), by simpa using hwrite, by simp⟩
    rw [if_pos hi]
    have hmessage := Cobs.message_drop hi
    rw [← byteAt] at hmessage
    generalize byteAt input readIndex = code at hmessage ⊢
    -- the loop branches as `Cobs.message` does: a zero code, a block cut short, a whole block
    by_cases hzero : code = 0
    · rw [if_pos (.inl hzero)]
      rw [if_pos (.inl hzero)] at hmessage
      exact .inr ⟨rfl, fun x hx => by rw [hmessage] at hx; cases hx⟩
    have hpos : 0 < code.toNat :=
      Nat.pos_of_ne_zero fun h0 => hzero (BitVec.eq_of_toNat_eq (by simpa using h0))
    by_cases hcut : readIndex + 1 + code.toNat - 1 > input.length
    · rw [if_pos (.inr hcut)]
      rw [if_pos (.inr (by omega))] at hmessage
      exact .inr ⟨rfl, fun x hx => by rw [hmessage] at hx; cases hx⟩
    rw [if_neg (not_or.2 ⟨hzero, hcut⟩)]
    rw [if_neg (not_or.2 ⟨hzero, by omega⟩), ← slice] at hmessage
    have hdata : (slice input (readIndex + 1) (code.toNat - 1)).length = code.toNat - 1 :=
      BridgeMessage.length_slice (by omega)
    have hnext : readIndex + 1 + (code.toNat - 1) = readIndex + code.toNat := by omega
    rw [hnext]
    rcases @cobsCopyLoop_spec input outputCapacity (code.toNat - 1) (readIndex + 1) writeIndex output
      (by omega) hwrite hcap with ⟨hfit, heq⟩ | ⟨hlong, hnone⟩
    · rw [heq]
      simp only
      -- a zero goes between blocks, but not behind a block of 254 bytes and not at the end
      by_cases hmore : code ≠ 0xFF ∧ readIndex + code.toNat < input.length
      · simp only [if_pos hmore] at hmessage ⊢
        by_cases hfull : writeIndex + (code.toNat - 1) ≥ outputCapacity
        · rw [if_pos hfull]
          refine .inr ⟨rfl, fun x hx => ?_⟩
          rw [hmessage, Option.map_eq_some_iff] at hx
          obtain ⟨tail, -, rfl⟩ := hx
          simp only [List.length_append, hdata, List.length_singleton]
          omega
        · rw [if_neg hfull]
          refine DecodesTo.prepend hmessage (by simp [hdata]; omega) ?_
          rw [copyInto_concat (by omega), hdata, List.length_append, hdata, List.length_singleton,
            ← Nat.add_assoc]
          refine ih _ _ (by omega) (by omega) ?_
          rw [List.length_set, length_copyInto (by omega)]
          exact hcap
      · simp only [if_neg hmore, List.append_nil] at hmessage ⊢
        refine DecodesTo.prepend hmessage (by omega) ?_
        rw [hdata]
        exact ih _ _ (by omega) (by omega) (by rw [length_copyInto (by omega)]; exact hcap)
    -- the block does not fit, so no message that begins with it does
    · cases hcopy : cobsCopyLoop input outputCapacity (code.toNat - 1) (readIndex + 1) writeIndex
          output with
      | mk r output' =>
      rw [hcopy] at hnone
      obtain rfl : r = none := hnone
      refine .inr ⟨rfl, fun x hx => ?_⟩
      rw [hmessage, Option.map_eq_some_iff] at hx
      obtain ⟨tail, -, rfl⟩ := hx
      rw [List.length_append, List.length_append, hdata]
      omega

theorem slice_append {x : List U8} (pad : List U8) {i n : ℕ} (h : i + n ≤ x.length) :
    slice (x ++ pad) i n = slice x i n := by
  rw [slice, slice, List.drop_append_of_le_length (by omega),
    List.take_append_of_le_length (by rw [List.length_drop]; omega)]

theorem byteAt_append {x : List U8} (pad : List U8) {i : ℕ} (h : i < x.length) :
    byteAt (x ++ pad) i = byteAt x i := by
  rw [byteAt, byteAt, List.getD_eq_getElem?_getD, List.getD_eq_getElem?_getD,
    List.getElem?_append_left h]

theorem toNat_readU64Be {input : List U8} {i : ℕ} (h : i + 8 ≤ input.length) :
    (readU64Be input i).toNat = ofBE (slice input i 8) := by
  have hlt : ofBE (slice input i 8) < 2 ^ 64 := BridgeMessage.ofBE_slice_lt h
  rw [readU64Be, toNat_readBeLoop (by norm_num) h, show (0 : U64).toNat = 0 from rfl, Nat.zero_mul,
    Nat.zero_add, Nat.mod_eq_of_lt hlt]

theorem toNat_readU32Be {input : List U8} {i : ℕ} (h : i + 4 ≤ input.length) :
    (readU32Be input i).toNat = ofBE (slice input i 4) := by
  have hlt : ofBE (slice input i 4) < 2 ^ 32 := BridgeMessage.ofBE_slice_lt h
  rw [readU32Be, toNat_readBeLoop (by norm_num) h, show (0 : U32).toNat = 0 from rfl, Nat.zero_mul,
    Nat.zero_add, Nat.mod_eq_of_lt hlt]

/-- What decoding into the record buffer gives. -/
theorem pcTelemetryCobsDecode_spec {encoded : List U8} (hne : encoded ≠ []) :
    DecodesTo encoded (List.replicate pcTelemetryLocalStateRecordSize 0)
      pcTelemetryLocalStateRecordSize 0 0
      (pcTelemetryCobsDecode encoded (List.replicate pcTelemetryLocalStateRecordSize 0)
        pcTelemetryLocalStateRecordSize) := by
  rw [pcTelemetryCobsDecode, if_neg (by simpa using hne)]
  exact cobsDecodeLoop_spec _ _ _ (by omega) (by omega) (by simp)

/-- The decoder on a frame that decodes to `x`, with the rest of the record buffer behind it. -/
theorem decodeMessage_of_decoded {encoded x pad : List U8} (hne : encoded ≠ [])
    (hdecode : pcTelemetryCobsDecode encoded (List.replicate pcTelemetryLocalStateRecordSize 0)
      pcTelemetryLocalStateRecordSize = (some x.length, x ++ pad))
    (expectedType : U8) (n : ℕ) :
    decodeMessage (encoded ++ [0]) expectedType n =
      if x.length = 16 + n ∧ byteAt x 0 = 1 ∧ byteAt x 1 = expectedType ∧
          ofBE (slice x 2 2) = n ∧
          ofBE (slice x (14 + n) 2) = (pcTelemetryCrc16CcittFalse (x.take (14 + n))).toNat then
        some ((BridgeMessage.ofRecord x n).sequence, (BridgeMessage.ofRecord x n).timestampUs,
          (BridgeMessage.ofRecord x n).payload)
      else none := by
  have hlast : byteAt (encoded ++ [0]) ((encoded ++ [0]).length - 1) = 0 := by simp [byteAt]
  have hlength : ¬ (encoded ++ [0]).length < 2 := by
    have := List.length_pos_iff.2 hne
    simp only [List.length_append, List.length_singleton]
    omega
  have htake : (encoded ++ [0]).take ((encoded ++ [0]).length - 1) = encoded := by simp
  have hsize : pcTelemetryEnvelopeSize + n + pcTelemetryCrcSize = 16 + n := by
    rw [pcTelemetryEnvelopeSize, pcTelemetryCrcSize]
    omega
  rw [decodeMessage, if_neg (not_or.2 ⟨hlength, not_not.2 hlast⟩), htake, hdecode]
  by_cases hlen : x.length = 16 + n
  swap
  · rw [if_neg fun h => hlen h.1]
    exact if_pos (.inl (by rwa [hsize]))
  -- past the length check every read is inside `x`, so the rest of the buffer is not seen
  have hcrc : readU16Be (x ++ pad) (14 + n) =
        pcTelemetryCrc16CcittFalse ((x ++ pad).take (14 + n)) ↔
      ofBE (slice x (14 + n) 2) = (pcTelemetryCrc16CcittFalse (x.take (14 + n))).toNat := by
    rw [← BitVec.toNat_inj, toNat_readU16Be (by simp; omega), slice_append pad (by omega),
      List.take_append_of_le_length (by omega)]
  have hcount : (readU16Be (x ++ pad) 2).toNat = ofBE (slice x 2 2) := by
    rw [toNat_readU16Be (by simp; omega), slice_append pad (by omega)]
  have hheader : ¬ (x.length ≠ pcTelemetryEnvelopeSize + n + pcTelemetryCrcSize ∨
      byteAt (x ++ pad) 0 ≠ pcTelemetryProtocolVersion ∨ byteAt (x ++ pad) 1 ≠ expectedType ∨
      (readU16Be (x ++ pad) 2).toNat ≠ n) ↔
      x.length = 16 + n ∧ byteAt x 0 = 1 ∧ byteAt x 1 = expectedType ∧ ofBE (slice x 2 2) = n := by
    rw [hsize, hcount, byteAt_append pad (by omega), byteAt_append pad (by omega),
      pcTelemetryProtocolVersion]
    simp only [not_or, ne_eq, not_not]
  have hseq : readU16Be (x ++ pad) 4 = BitVec.ofNat 16 (ofBE (slice x 4 2)) := by
    rw [← slice_append pad (by omega), ← toNat_readU16Be (by simp; omega), BitVec.ofNat_toNat,
      BitVec.setWidth_eq]
  have htime : readU64Be (x ++ pad) 6 = BitVec.ofNat 64 (ofBE (slice x 6 8)) := by
    rw [← slice_append pad (by omega), ← toNat_readU64Be (by simp; omega), BitVec.ofNat_toNat,
      BitVec.setWidth_eq]
  have hpayload : ((x ++ pad).drop pcTelemetryEnvelopeSize).take n = slice x 14 n :=
    slice_append pad (by omega)
  by_cases hok : x.length = 16 + n ∧ byteAt x 0 = 1 ∧ byteAt x 1 = expectedType ∧
      ofBE (slice x 2 2) = n
  swap
  · rw [if_neg fun h => hok ⟨h.1, h.2.1, h.2.2.1, h.2.2.2.1⟩]
    exact if_pos (not_not.1 (mt hheader.1 hok))
  by_cases hgood : ofBE (slice x (14 + n) 2) = (pcTelemetryCrc16CcittFalse (x.take (14 + n))).toNat
  · rw [if_pos ⟨hok.1, hok.2.1, hok.2.2.1, hok.2.2.2, hgood⟩, BridgeMessage.ofRecord, ← hseq,
      ← htime, ← hpayload]
    exact (if_neg (hheader.2 hok)).trans (if_neg (not_not.2 (hcrc.2 hgood)))
  · rw [if_neg fun h => hgood h.2.2.2.2]
    exact (if_neg (hheader.2 hok)).trans (if_pos (mt hcrc.1 hgood))

/-- Bytes that stand for no message that fits are rejected. -/
theorem decodeMessage_of_failed {encoded : List U8} {expectedType : U8} {n : ℕ}
    (h : (pcTelemetryCobsDecode encoded (List.replicate pcTelemetryLocalStateRecordSize 0)
      pcTelemetryLocalStateRecordSize).1 = none) :
    decodeMessage (encoded ++ [0]) expectedType n = none := by
  have htake : (encoded ++ [0]).take ((encoded ++ [0]).length - 1) = encoded := by simp
  rw [decodeMessage, htake]
  split_ifs
  · rfl
  · generalize pcTelemetryCobsDecode encoded _ _ = result at h
    obtain ⟨_, record⟩ := result
    obtain rfl := h
    rfl

/-- **The decoder accepts exactly the frames that carry a message of its type and length.** -/
theorem decodeMessage_eq_some_iff {encoded : List U8} {expectedType : U8} {n : ℕ} (hn : n ≤ 44)
    {v : U16 × U64 × List U8} :
    decodeMessage (encoded ++ [0]) expectedType n = some v ↔
      ∃ m : BridgeMessage, m.messageType = expectedType ∧ m.payload.length = n ∧
        m.Carries pcTelemetryCrc16CcittFalse encoded ∧
        v = (m.sequence, m.timestampUs, m.payload) := by
  by_cases hne : encoded = []
  · subst hne
    refine ⟨fun h => by simp [decodeMessage] at h, ?_⟩
    rintro ⟨m, -, -, hcarries, -⟩
    have hlen : (m.record pcTelemetryCrc16CcittFalse).length = 16 + m.payload.length :=
      m.length_record
    rw [BridgeMessage.Carries, Cobs.message_nil, Option.some.injEq] at hcarries
    rw [← hcarries, List.length_nil] at hlen
    omega
  rcases pcTelemetryCobsDecode_spec hne with ⟨x, hx, hfits, hdecode⟩ | ⟨hnone, hlong⟩
  · rw [List.drop_zero] at hx
    rw [Nat.zero_add, copyInto, List.take_zero, List.nil_append] at hdecode
    rw [decodeMessage_of_decoded hne hdecode expectedType n]
    constructor
    · intro h
      split_ifs at h with hok
      obtain ⟨hlen, hversion, htype, hcount, hcrc⟩ := hok
      refine ⟨.ofRecord x n, htype, BridgeMessage.length_slice (by omega), ?_, ?_⟩
      · rw [BridgeMessage.Carries, hx, BridgeMessage.record_ofRecord hlen hversion hcount hcrc]
      · rw [Option.some.injEq] at h
        exact h.symm
    · rintro ⟨m, rfl, rfl, hcarries, rfl⟩
      obtain rfl : m.record pcTelemetryCrc16CcittFalse = x := by
        rw [BridgeMessage.Carries, hx, Option.some.injEq] at hcarries
        exact hcarries.symm
      have hlen : m.payload.length < 256 ^ 2 := by omega
      rw [if_pos, BridgeMessage.ofRecord_record]
      refine ⟨m.length_record, m.getD_record_zero, m.getD_record_one, ?_, ?_⟩
      · rw [BridgeMessage.slice_record_length, ofBE_toBE_of_lt hlen]
      · rw [BridgeMessage.slice_record_crc, BridgeMessage.take_record,
          ofBE_toBE_of_lt (pcTelemetryCrc16CcittFalse m.body).isLt]
  · constructor
    · intro h
      rw [decodeMessage_of_failed hnone] at h
      cases h
    · rintro ⟨m, -, rfl, hcarries, -⟩
      have hlong := hlong _ hcarries
      rw [Nat.zero_add, BridgeMessage.length_record, pcTelemetryLocalStateRecordSize,
        pcTelemetryEnvelopeSize, pcTelemetryLocalStatePayloadSize, pcTelemetryCrcSize] at hlong
      omega

/-! ### Encoding -/

theorem set_eq_copyInto {buffer : List U8} {offset : ℕ} (h : offset < buffer.length) (b : U8) :
    buffer.set offset b = copyInto buffer offset [b] := by
  rw [← copyInto_set h, copyInto_nil]

/-- The loop writes the low `left` bytes of the value behind those already written. -/
theorem writeBeLoop_eq {w : ℕ} (value : BitVec w) {count left offset : ℕ} {output : List U8}
    (hleft : left ≤ count) (h : offset + count ≤ output.length) :
    writeBeLoop value count offset left output =
      copyInto output (offset + (count - left)) (toBE left value.toNat) := by
  induction left generalizing output with
  | zero => simp [writeBeLoop, toBE]
  | succ left ih =>
    have hbyte : (value >>> ((count - 1 - (count - (left + 1))) * 8)).setWidth 8 =
        BitVec.ofNat 8 (value.toNat / 256 ^ left) := by
      apply BitVec.eq_of_toNat_eq
      rw [BitVec.toNat_setWidth, BitVec.toNat_ushiftRight, BitVec.toNat_ofNat,
        Nat.shiftRight_eq_div_pow, show (256 : ℕ) = 2 ^ 8 from rfl, ← pow_mul,
        show (count - 1 - (count - (left + 1))) * 8 = 8 * left by omega]
    rw [writeBeLoop, ih (by omega) (by rw [List.length_set]; exact h), hbyte, toBE_succ_left,
      ← copyInto_set (by omega)]
    congr 1
    omega

theorem writeU32Be_eq {output : List U8} {offset : ℕ} (h : offset + 4 ≤ output.length)
    (value : U32) : writeU32Be output offset value = copyInto output offset (toBE 4 value.toNat) :=
  writeBeLoop_eq value le_rfl h

theorem writeU64Be_eq {output : List U8} {offset : ℕ} (h : offset + 8 ≤ output.length)
    (value : U64) : writeU64Be output offset value = copyInto output offset (toBE 8 value.toNat) :=
  writeBeLoop_eq value le_rfl h

theorem writeU16Be_eq {output : List U8} {offset : ℕ} (h : offset + 2 ≤ output.length)
    (value : U16) : writeU16Be output offset value = copyInto output offset (toBE 2 value.toNat) :=
  -- two turns of the loop, written out
  writeBeLoop_eq value (le_refl 2) h

section Behind

/-! Every write goes behind the bytes already written from the start of the buffer. -/

variable {buffer front : List U8} {offset : ℕ} (hoffset : front.length = offset)

include hoffset

theorem copyInto_behind (h : front.length ≤ buffer.length) (l : List U8) :
    copyInto (copyInto buffer 0 front) offset l = copyInto buffer 0 (front ++ l) := by
  rw [← hoffset, ← copyInto_copyInto (by omega), Nat.zero_add]

theorem set_behind (h : front.length < buffer.length) (b : U8) :
    (copyInto buffer 0 front).set offset b = copyInto buffer 0 (front ++ [b]) := by
  rw [set_eq_copyInto (by rw [length_copyInto (by omega)]; omega), copyInto_behind hoffset h.le]

theorem writeU16Be_behind (h : front.length + 2 ≤ buffer.length) (value : U16) :
    writeU16Be (copyInto buffer 0 front) offset value =
      copyInto buffer 0 (front ++ toBE 2 value.toNat) := by
  rw [writeU16Be_eq (by rw [length_copyInto (by omega)]; omega), copyInto_behind hoffset (by omega)]

theorem writeU32Be_behind (h : front.length + 4 ≤ buffer.length) (value : U32) :
    writeU32Be (copyInto buffer 0 front) offset value =
      copyInto buffer 0 (front ++ toBE 4 value.toNat) := by
  rw [writeU32Be_eq (by rw [length_copyInto (by omega)]; omega), copyInto_behind hoffset (by omega)]

theorem writeU64Be_behind (h : front.length + 8 ≤ buffer.length) (value : U64) :
    writeU64Be (copyInto buffer 0 front) offset value =
      copyInto buffer 0 (front ++ toBE 8 value.toNat) := by
  rw [writeU64Be_eq (by rw [length_copyInto (by omega)]; omega), copyInto_behind hoffset (by omega)]

end Behind

theorem take_copyInto_zero (buffer l : List U8) : (copyInto buffer 0 l).take l.length = l := by
  simp [copyInto]

/-- The record buffer holds the record of the message. -/
theorem fillRecord_eq (m : BridgeMessage) (hlen : m.payload.length ≤ 44) :
    fillRecord m.messageType m.sequence m.timestampUs m.payload =
      copyInto (List.replicate pcTelemetryLocalStateRecordSize 0) 0
        (m.record pcTelemetryCrc16CcittFalse) := by
  have hsixty : (List.replicate pcTelemetryLocalStateRecordSize (0 : U8)).length = 60 := rfl
  have hcount : (BitVec.ofNat 16 m.payload.length).toNat = m.payload.length := by
    rw [BitVec.toNat_ofNat, Nat.mod_eq_of_lt (by omega)]
  have hcrc : pcTelemetryEnvelopeSize + m.payload.length = m.body.length :=
    m.length_body.symm
  rw [fillRecord]
  generalize List.replicate pcTelemetryLocalStateRecordSize (0 : U8) = buffer at hsixty ⊢
  rw [@set_eq_copyInto buffer _ (by omega), set_behind (by simp) (by simp; omega),
    writeU16Be_behind (by simp) (by simp; omega), writeU16Be_behind (by simp) (by simp; omega),
    writeU64Be_behind (by simp) (by simp; omega), copyInto_behind (by simp; rfl) (by simp; omega),
    hcount]
  have hbody : [pcTelemetryProtocolVersion] ++ [m.messageType] ++ toBE 2 m.payload.length ++
      toBE 2 m.sequence.toNat ++ toBE 8 m.timestampUs.toNat ++ m.payload = m.body := by
    simp [BridgeMessage.body, pcTelemetryProtocolVersion]
  rw [hbody, hcrc, take_copyInto_zero, writeU16Be_behind rfl (by simp; omega)]
  rfl

/-- A byte of the buffer that the next write skips stays what it was. -/
theorem copyInto_skip {buffer front : List U8} (h : front.length < buffer.length) :
    copyInto buffer 0 front = copyInto buffer 0 (front ++ [byteAt buffer front.length]) := by
  have hdrop :
      buffer.drop front.length = byteAt buffer front.length :: buffer.drop (front.length + 1) := by
    rw [List.drop_eq_getElem_cons h, List.getElem_eq_getD 0]
    rfl
  simp only [copyInto, List.take_zero, List.nil_append, Nat.zero_add, List.length_append,
    List.length_singleton, hdrop]
  simp

/-- Overwriting a byte already written. -/
theorem set_within {buffer front back : List U8} (b c : U8) :
    (copyInto buffer 0 (front ++ c :: back)).set front.length b =
      copyInto buffer 0 (front ++ b :: back) := by
  simp [copyInto]

/-- The loop of the encoder with the blocks `front` written, the code byte of the open block still
`c`, and its data `run` written behind it. -/
theorem cobsEncodeLoop_eq {buffer : List U8} (x : List U8) (front : List U8) (c : U8)
    (run : Cobs.OpenRun)
    (h : (front ++ Cobs.serialize (Cobs.blocksFrom run x)).length ≤ buffer.length) :
    cobsEncodeLoop x (front.length + 1 + run.1.length) front.length
        (BitVec.ofNat 8 (run.1.length + 1)) (copyInto buffer 0 (front ++ c :: run.1)) =
      ((front ++ Cobs.serialize (Cobs.blocksFrom run x)).length,
        copyInto buffer 0 (front ++ Cobs.serialize (Cobs.blocksFrom run x))) := by
  induction x generalizing front c run with
  | nil =>
    rw [cobsEncodeLoop, set_within, Cobs.blocksFrom, Cobs.serialize_cons, Cobs.Block.code]
    simp
    omega
  | cons b x ih =>
    -- a block is closed, and the next one opens with the byte behind it
    have hclose : ∀ blk : Cobs.Block,
        (front ++ Cobs.serialize (blk :: Cobs.blocksFrom .empty x)).length ≤ buffer.length →
        cobsEncodeLoop x (front.length + 1 + blk.data.length + 1) (front.length + 1 + blk.data.length)
            1 (copyInto buffer 0 (front ++ blk.code :: blk.data)) =
          ((front ++ Cobs.serialize (blk :: Cobs.blocksFrom .empty x)).length,
            copyInto buffer 0 (front ++ Cobs.serialize (blk :: Cobs.blocksFrom .empty x))) := by
      intro blk hblk
      have hpos : 0 < (Cobs.serialize (Cobs.blocksFrom .empty x)).length :=
        List.length_pos_iff.2 (Cobs.serialize_blocksFrom_ne_nil .empty x)
      have hfront : front ++ Cobs.serialize (blk :: Cobs.blocksFrom .empty x) =
          (front ++ blk.code :: blk.data) ++ Cobs.serialize (Cobs.blocksFrom .empty x) := by simp
      have hlen : front.length + 1 + blk.data.length = (front ++ blk.code :: blk.data).length := by
        simp
        omega
      rw [hfront] at hblk ⊢
      rw [hlen, copyInto_skip (by rw [List.length_append] at hblk; omega)]
      exact ih _ _ .empty hblk
    rw [cobsEncodeLoop]
    by_cases hb : b = 0
    · rw [Cobs.blocksFrom, if_pos hb] at h ⊢
      rw [if_pos hb, set_within]
      exact hclose ⟨run.1, run.2.le⟩ h
    rw [if_neg hb]
    have hcode : BitVec.ofNat 8 (run.1.length + 1) + 1 = BitVec.ofNat 8 (run.1.length + 2) :=
      (BitVec.ofNat_add (run.1.length + 1) 1).symm
    have hmax : BitVec.ofNat 8 (run.1.length + 2) = (0xFF : U8) ↔ run.1.length + 1 = 254 := by
      have := run.2
      rw [← BitVec.toNat_inj, BitVec.toNat_ofNat, Nat.mod_eq_of_lt (by omega)]
      simp
    have hwrite (hroom : front.length + 1 + run.1.length < buffer.length) :
        (copyInto buffer 0 (front ++ c :: run.1)).set (front.length + 1 + run.1.length) b =
          copyInto buffer 0 (front ++ c :: (run.1 ++ [b])) := by
      rw [set_behind (by simp; omega) (by simp; omega)]
      simp
    have hindex :
        front.length + 1 + run.1.length + 1 = front.length + 1 + (run.1 ++ [b]).length := by
      rw [List.length_append, List.length_singleton]
      omega
    have hcode' :
        BitVec.ofNat 8 (run.1.length + 2) = BitVec.ofNat 8 ((run.1 ++ [b]).length + 1) := by
      rw [List.length_append, List.length_singleton]
    simp only [hcode, hmax]
    -- a full block is closed without a zero behind it
    by_cases hfull : run.1.length + 1 = 254
    · rw [Cobs.blocksFrom, if_neg hb, dif_pos hfull] at h ⊢
      have hroom : front.length + 1 + run.1.length < buffer.length := by
        simp at h
        omega
      rw [if_pos hfull, hwrite hroom, set_within, hindex, hcode']
      exact hclose ⟨run.1 ++ [b], by simp; omega⟩ h
    · rw [Cobs.blocksFrom, if_neg hb, dif_neg hfull] at h ⊢
      have hroom : front.length + 1 + run.1.length < buffer.length := by
        have hrun := Cobs.length_run_lt ⟨run.1 ++ [b], by have := run.2; simp; omega⟩ x
        simp at h hrun
        omega
      rw [if_neg hfull, hwrite hroom, hindex, hcode']
      exact ih front c _ h

theorem pcTelemetryCobsEncode_eq {input output : List U8} {outputCapacity : ℕ}
    (hcap : pcTelemetryCobsMaxEncodedSize input.length ≤ outputCapacity)
    (hout : outputCapacity ≤ output.length) :
    pcTelemetryCobsEncode input output outputCapacity =
      ((Cobs.encode input).length, copyInto output 0 (Cobs.encode input)) := by
  have hle := Cobs.length_encode_le input
  have hpos := List.length_pos_iff.2 (Cobs.encode_ne_nil input)
  rw [pcTelemetryCobsMaxEncodedSize] at hcap
  have hstart : output = copyInto output 0 ([] ++ [byteAt output 0]) :=
    (copyInto_nil output 0).symm.trans (copyInto_skip (by rw [List.length_nil]; omega))
  rw [pcTelemetryCobsEncode, if_neg (by rw [pcTelemetryCobsMaxEncodedSize]; omega)]
  conv_lhs => rw [hstart]
  exact cobsEncodeLoop_eq input [] _ .empty (by rw [List.nil_append]; exact le_trans hle (by omega))

/-- **The encoder writes the frame of the message.** -/
theorem encodeMessage_eq (m : BridgeMessage) (hlen : m.payload.length ≤ 44) {output : List U8}
    {outputCapacity : ℕ}
    (hcap : pcTelemetryCobsMaxEncodedSize (16 + m.payload.length) + 1 ≤ outputCapacity)
    (hout : outputCapacity ≤ output.length) :
    encodeMessage m.messageType m.sequence m.timestampUs m.payload output outputCapacity =
      ((m.frame pcTelemetryCrc16CcittFalse).length,
        copyInto output 0 (m.frame pcTelemetryCrc16CcittFalse)) := by
  have hsize : pcTelemetryEnvelopeSize + m.payload.length + pcTelemetryCrcSize =
      16 + m.payload.length := by
    rw [pcTelemetryEnvelopeSize, pcTelemetryCrcSize]
    omega
  have hrecord : (fillRecord m.messageType m.sequence m.timestampUs m.payload).take
      (16 + m.payload.length) = m.record pcTelemetryCrc16CcittFalse := by
    have hlength : (m.record pcTelemetryCrc16CcittFalse).length = 16 + m.payload.length :=
      m.length_record
    rw [fillRecord_eq m hlen, ← hlength, take_copyInto_zero]
  have hfits : 16 + m.payload.length ≤ pcTelemetryLocalStateRecordSize := by
    rw [pcTelemetryLocalStateRecordSize, pcTelemetryEnvelopeSize, pcTelemetryLocalStatePayloadSize,
      pcTelemetryCrcSize]
    omega
  have hpos := List.length_pos_iff.2 (Cobs.encode_ne_nil (m.record pcTelemetryCrc16CcittFalse))
  have hle := Cobs.length_encode_le (m.record pcTelemetryCrc16CcittFalse)
  rw [BridgeMessage.length_record] at hle
  rw [pcTelemetryCobsMaxEncodedSize] at hcap
  have hencode := @pcTelemetryCobsEncode_eq (m.record pcTelemetryCrc16CcittFalse) output
    (outputCapacity - 1)
    (by rw [BridgeMessage.length_record, pcTelemetryCobsMaxEncodedSize]; omega) (by omega)
  rw [encodeMessage, hsize, if_neg (by rw [pcTelemetryCobsMaxEncodedSize]; omega)]
  simp only [hrecord, hencode]
  rw [if_neg (by omega), set_behind rfl (by omega), BridgeMessage.frame, List.length_append,
    List.length_singleton]

/-- A frame is a stuffed record of its message's length at most, plus three bytes, and its only zero
is the last byte. -/
theorem length_frame_le (m : BridgeMessage) (hlen : m.payload.length ≤ 44) :
    (m.frame pcTelemetryCrc16CcittFalse).length ≤ 18 + m.payload.length := by
  have hle := Cobs.length_encode_le (m.record pcTelemetryCrc16CcittFalse)
  rw [BridgeMessage.length_record] at hle
  rw [BridgeMessage.frame, List.length_append, List.length_singleton]
  omega

/-! ### Local state payloads -/

/-- The payload of a local state. -/
def localStatePayload (s : PcTelemetryLocalState) : List U8 :=
  [s.systemState] ++ toBE 2 s.statusFlags.toNat ++ toBE 2 s.buttons.toNat ++ [s.auxModes] ++
    [s.consecutiveTxFailures] ++ [s.nextHoppingChannelIndex] ++ toBE 2 s.rollRaw.toNat ++
    toBE 2 s.pitchRaw.toNat ++ toBE 2 s.yawRaw.toNat ++ toBE 2 s.throttleRaw.toNat ++
    toBE 2 s.gamepadAgeMs.toNat ++ toBE 2 s.fcTelemetryAgeMs.toNat ++ toBE 4 s.txPackets.toNat ++
    toBE 4 s.txFailures.toNat ++ toBE 4 s.telemetryAccepted.toNat ++
    toBE 4 s.telemetryRejected.toNat ++ toBE 4 s.deadlineMisses.toNat ++
    toBE 4 s.exportQueueDrops.toNat

@[simp] theorem length_localStatePayload (s : PcTelemetryLocalState) :
    (localStatePayload s).length = 44 := by
  -- the equation lemma of so long an append is slow to derive
  delta localStatePayload
  simp

theorem serializeLocalState_eq (s : PcTelemetryLocalState) :
    serializeLocalState s (List.replicate pcTelemetryLocalStatePayloadSize 0) =
      localStatePayload s := by
  have hsize : (List.replicate pcTelemetryLocalStatePayloadSize (0 : U8)).length = 44 := rfl
  rw [serializeLocalState]
  generalize List.replicate pcTelemetryLocalStatePayloadSize (0 : U8) = buffer at hsize ⊢
  rw [@set_eq_copyInto buffer _ (by omega), writeU16Be_behind (by simp) (by simp; omega),
    writeU16Be_behind (by simp) (by simp; omega), set_behind (by simp) (by simp; omega),
    set_behind (by simp) (by simp; omega), set_behind (by simp) (by simp; omega),
    writeU16Be_behind (by simp) (by simp; omega), writeU16Be_behind (by simp) (by simp; omega),
    writeU16Be_behind (by simp) (by simp; omega), writeU16Be_behind (by simp) (by simp; omega),
    writeU16Be_behind (by simp) (by simp; omega), writeU16Be_behind (by simp) (by simp; omega),
    writeU32Be_behind (by simp) (by simp; omega), writeU32Be_behind (by simp) (by simp; omega),
    writeU32Be_behind (by simp) (by simp; omega), writeU32Be_behind (by simp) (by simp; omega),
    writeU32Be_behind (by simp) (by simp; omega), writeU32Be_behind (by simp) (by simp; omega)]
  change copyInto buffer 0 (localStatePayload s) = localStatePayload s
  have hlen := length_localStatePayload s
  rw [copyInto, hlen, Nat.zero_add, List.take_zero, List.drop_eq_nil_of_le (by omega)]
  simp

end SilverwareTx
