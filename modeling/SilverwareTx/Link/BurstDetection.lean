import SilverwareTx.Lib.Crc
import SilverwareTx.Link.DecoderAgreement

/-!
# Burst errors on the bridge

The CRC of both ends runs the register of CRC-16/CCITT-FALSE over the bits of the record
(`pcTelemetryCrc16CcittFalse_eq_run`), so a record hit by one burst of at most 16 bits no longer
carries its CRC and both decoders reject it (`crc_detects_bursts`).
-/

namespace SilverwareTx

open BigEndian Crc GroundStation

/-- The generator, without its leading term. -/
def crc16Generator : U16 := 0x1021

theorem crc16Bit_eq_advance (crc : U16) : crc16Bit crc = advance crc16Generator crc := by
  have htop : crc &&& 0x8000 ≠ 0 ↔ crc.msb = true := by
    rw [show (0x8000 : U16) = BitVec.twoPow 16 15 by decide, BitVec.msb_eq_getLsbD_last]
    exact and_twoPow_ne_zero_iff crc (by norm_num)
  rw [crc16Bit, advance]
  simp only [htop, crc16Generator]

theorem crc16Byte_eq_run (crc : U16) (byte : U8) :
    crc16Byte crc byte = run crc16Generator crc (byteBits byte) := by
  rw [run_byteBits (by norm_num), crc16Byte, funext crc16Bit_eq_advance]

theorem pcTelemetryCrc16CcittFalse_eq_run (data : List U8) :
    pcTelemetryCrc16CcittFalse data = run crc16Generator 0xFFFF (bitsOf data) :=
  foldl_eq_run crc16Byte_eq_run

theorem append_eq_shiftLeft_or (hi lo : U8) :
    hi ++ lo = (hi.setWidth 16 <<< 8) ||| lo.setWidth 16 := by
  have hhi : hi.toNat < 2 ^ 8 := hi.isLt
  have hlo : lo.toNat < 2 ^ 8 := lo.isLt
  apply BitVec.eq_of_toNat_eq
  rw [BitVec.toNat_append, BitVec.toNat_or, BitVec.toNat_shiftLeft, BitVec.toNat_setWidth,
    BitVec.toNat_setWidth, Nat.mod_eq_of_lt (show hi.toNat < 2 ^ 16 by omega),
    Nat.mod_eq_of_lt (show lo.toNat < 2 ^ 16 by omega),
    Nat.mod_eq_of_lt (show hi.toNat <<< 8 < 2 ^ 16 by rw [Nat.shiftLeft_eq]; omega)]

/-- Two bytes as they are read and as they are added to the register. -/
theorem top_bitsOf_eq_readU16Be {bytes : List U8} {i : ℕ} (h : bytes.length = i + 2) :
    top (bitsOf (bytes.drop i)) = readU16Be bytes i := by
  have hdrop : bytes.drop i = [byteAt bytes i, byteAt bytes (i + 1)] := by
    rw [List.drop_eq_getElem_cons (by omega), List.drop_eq_getElem_cons (by omega),
      List.drop_eq_nil_of_le (by omega), List.getElem_eq_getD 0, List.getElem_eq_getD 0]
    rfl
  rw [hdrop, top_two_bytes, append_eq_shiftLeft_or, readU16Be]

/-- `d` and its CRC, big-endian. -/
def withCrc (d : List U8) : List U8 := d ++ toBE 2 (pcTelemetryCrc16CcittFalse d).toNat

/-- A byte string hit by an error pattern. -/
def corrupt (errors bytes : List U8) : List U8 := List.zipWith (· ^^^ ·) bytes errors

theorem length_withCrc (d : List U8) : (withCrc d).length = d.length + 2 := by simp [withCrc]

theorem crc_ne_of_burst {d errors : List U8} (hlen : errors.length = d.length + 2)
    (hburst : IsBurst 16 (bitsOf errors)) :
    pcTelemetryCrc16CcittFalse ((corrupt errors (withCrc d)).take d.length) ≠
      readU16Be (corrupt errors (withCrc d)) d.length := by
  have hgen : crc16Generator.getLsbD 0 = true := by decide
  have hcrc : run crc16Generator 0xFFFF (bitsOf d) =
      top (bitsOf (toBE 2 (pcTelemetryCrc16CcittFalse d).toNat)) := by
    have hdrop : (withCrc d).drop d.length = toBE 2 (pcTelemetryCrc16CcittFalse d).toNat :=
      List.drop_left
    rw [← pcTelemetryCrc16CcittFalse_eq_run, ← hdrop,
      top_bitsOf_eq_readU16Be (length_withCrc d), withCrc, readU16Be_append_right rfl]
  have hdetected := burst_detected hgen (by simp) hcrc
    (by rw [length_bitsOf, length_bitsOf, hlen]; omega) hburst
  have hbits : List.zipWith xor (bitsOf d ++ bitsOf (toBE 2 (pcTelemetryCrc16CcittFalse d).toNat))
      (bitsOf errors) = bitsOf (corrupt errors (withCrc d)) := by
    rw [← bitsOf_append, corrupt, bitsOf_zipWith_xor (by rw [length_withCrc, hlen]), withCrc]
  rw [hbits, length_bitsOf, ← bitsOf_take, ← bitsOf_drop, ← pcTelemetryCrc16CcittFalse_eq_run,
    top_bitsOf_eq_readU16Be (by simp [corrupt, length_withCrc, hlen])] at hdetected
  exact hdetected

section Rejected

variable {encoded r : List U8} {n : ℕ} (hr : Cobs.message encoded = some r)
  (hlen : r.length = n + 2) (hcrc : pcTelemetryCrc16CcittFalse (r.take n) ≠ readU16Be r n)

include hr hlen hcrc

theorem not_carries (m : BridgeMessage) : ¬m.Carries pcTelemetryCrc16CcittFalse encoded := by
  intro hcarries
  rw [BridgeMessage.Carries, hr, Option.some.injEq] at hcarries
  subst hcarries
  have hbody : m.body.length = n := by
    rw [BridgeMessage.record, List.length_append, length_toBE] at hlen
    omega
  apply hcrc
  rw [BridgeMessage.record, readU16Be_append_right hbody, ← hbody, List.take_left]

/-- A record whose CRC does not match is rejected by `decode_message`, whatever it expects. -/
theorem decodeMessage_of_crc_ne (expectedType : U8) (expectedPayloadLength : ℕ) :
    decodeMessage (encoded ++ [0]) expectedType expectedPayloadLength = none := by
  have hne : encoded ≠ [] := by
    rintro rfl
    rw [Cobs.message_nil, Option.some.injEq] at hr
    rw [← hr] at hlen
    cases hlen
  rcases pcTelemetryCobsDecode_spec hne with ⟨x, hx, -, hdecode⟩ | ⟨hnone, -⟩
  · rw [List.drop_zero, hr, Option.some.injEq] at hx
    subst hx
    rw [Nat.zero_add, copyInto, List.take_zero, List.nil_append] at hdecode
    rw [decodeMessage_of_decoded hne hdecode, if_neg]
    rintro ⟨hlength, -, -, -, hmatch⟩
    obtain rfl : n = 14 + expectedPayloadLength := by omega
    rw [← toNat_readU16Be (by omega), BitVec.toNat_inj] at hmatch
    exact hcrc hmatch.symm
  · exact decodeMessage_of_failed hnone

/-- It is rejected by `decode_bridge_frame`. -/
theorem decodeBridgeFrame_of_crc_ne : ∃ e, decodeBridgeFrame encoded = .error e := by
  cases hdecode : decodeBridgeFrame encoded with
  | error e => exact ⟨e, rfl⟩
  | ok record =>
    obtain ⟨m, -, hcarries, -⟩ :=
      (decodeBridgeFrame_eq_ok_iff toNat_pcTelemetryCrc16CcittFalse).1 hdecode
    exact absurd hcarries (not_carries hr hlen hcrc m)

end Rejected

theorem message_of_cobsDecode {encoded r : List U8} (h : cobsDecode encoded = .ok r) :
    Cobs.message encoded = some r := by
  have hne : encoded ≠ [] := by
    rintro rfl
    cases h
  exact (cobsDecode_eq_ok_iff hne).1 h

/-- **The bridge CRC detects every short burst.** Data of any length and its CRC, hit by a non-zero
error pattern within 16 consecutive bits, no longer match, so neither end takes a frame that decodes
to them; and the two ends compute one CRC. -/
theorem crc_detects_bursts (d : List U8) :
    (∀ errors : List U8, errors.length = d.length + 2 → IsBurst 16 (bitsOf errors) →
      pcTelemetryCrc16CcittFalse ((corrupt errors (withCrc d)).take d.length) ≠
          readU16Be (corrupt errors (withCrc d)) d.length ∧
        ∀ encoded, cobsDecode encoded = .ok (corrupt errors (withCrc d)) →
          (∀ expectedType expectedPayloadLength,
            decodeMessage (encoded ++ [0]) expectedType expectedPayloadLength = none) ∧
          ∃ e, decodeBridgeFrame encoded = .error e) ∧
    (pcTelemetryCrc16CcittFalse d).toNat = crc16CcittFalse d := by
  refine ⟨fun errors hlen hburst => ?_, toNat_pcTelemetryCrc16CcittFalse d⟩
  have hcrc := crc_ne_of_burst hlen hburst
  have hlength : (corrupt errors (withCrc d)).length = d.length + 2 := by
    simp [corrupt, length_withCrc, hlen]
  refine ⟨hcrc, fun encoded hdecode => ?_⟩
  have hmessage := message_of_cobsDecode hdecode
  constructor
  · exact decodeMessage_of_crc_ne hmessage hlength hcrc
  · exact decodeBridgeFrame_of_crc_ne hmessage hlength hcrc

/-- The last bit of the data and the first of the CRC. -/
theorem isBurst_straddling : IsBurst 16 (bitsOf [0x01, 0x80, 0x00]) := by
  have hwithin :
      ∀ i < 24, (bitsOf [0x01, 0x80, 0x00]).getD i false = true → 7 ≤ i ∧ i < 7 + 16 := by
    decide
  refine ⟨by decide, 7, fun i hbit => ?_⟩
  by_cases hi : i < 24
  · exact hwithin i hi hbit
  · rw [List.getD_eq_getElem?_getD, List.getElem?_eq_none (by simpa using hi)] at hbit
    cases hbit

theorem crc_detects_straddling_burst :
    (∀ expectedType expectedPayloadLength,
      decodeMessage [4, 0x40, 0x39, 0x15, 0] expectedType expectedPayloadLength = none) ∧
    ∃ e, decodeBridgeFrame [4, 0x40, 0x39, 0x15] = .error e :=
  (((crc_detects_bursts [0x41]).1 [0x01, 0x80, 0x00] rfl isBurst_straddling).2
    [4, 0x40, 0x39, 0x15] (by decide))

end SilverwareTx
