import SilverwareTx.GroundStation.BridgeFrame
import SilverwareTx.Link.FirmwareCodec

/-!
# COBS between the transmitter and the ground station

The transmitter's encoder writes the COBS encoding of its input and nothing behind it, its decoder
reads it back into any buffer that is large enough, and so does the ground station's.
-/

namespace SilverwareTx

open GroundStation

/-- Decoding into a buffer gives the message, or fails when it does not fit. -/
theorem pcTelemetryCobsDecode_of_message {encoded x output : List U8} {outputCapacity : ℕ}
    (hne : encoded ≠ []) (hx : Cobs.message encoded = some x)
    (hout : outputCapacity ≤ output.length) :
    (x.length ≤ outputCapacity →
      pcTelemetryCobsDecode encoded output outputCapacity =
        (some x.length, x ++ output.drop x.length)) ∧
    (outputCapacity < x.length → (pcTelemetryCobsDecode encoded output outputCapacity).1 = none) := by
  have hspec := @cobsDecodeLoop_spec encoded outputCapacity encoded.length 0 0 output (by omega)
    (by omega) hout
  rw [pcTelemetryCobsDecode, if_neg (by simpa using hne)]
  rcases hspec with ⟨y, hy, hfits, hdecode⟩ | ⟨hnone, hlong⟩
  · rw [List.drop_zero, hx, Option.some.injEq] at hy
    subst hy
    rw [Nat.zero_add] at hfits hdecode
    constructor
    · intro _
      rw [hdecode, copyInto, List.take_zero, List.nil_append, Nat.zero_add]
    · intro hsmall
      omega
  · have hsmall := hlong x hx
    rw [Nat.zero_add] at hsmall
    constructor
    · intro hfits
      omega
    · intro _
      exact hnone

/-- **COBS round trip at every length.** For every message there is one byte string, within the
bound and without a zero, that the encoder writes at the start of every buffer that the bound fits
in, leaving the rest of the buffer alone. The transmitter's decoder makes the message of it when it
fits and fails when it does not, and the ground station's decoder makes the message of it. -/
theorem cobs_round_trip (x : List U8) :
    ∃ encoded : List U8,
      1 ≤ encoded.length ∧ encoded.length ≤ pcTelemetryCobsMaxEncodedSize x.length ∧
      (0 : U8) ∉ encoded ∧
      (∀ (output : List U8) (outputCapacity : ℕ),
        pcTelemetryCobsMaxEncodedSize x.length ≤ outputCapacity → outputCapacity ≤ output.length →
        pcTelemetryCobsEncode x output outputCapacity =
          (encoded.length, encoded ++ output.drop encoded.length)) ∧
      (∀ (output : List U8) (outputCapacity : ℕ), outputCapacity ≤ output.length →
        (x.length ≤ outputCapacity →
          pcTelemetryCobsDecode encoded output outputCapacity =
            (some x.length, x ++ output.drop x.length)) ∧
        (outputCapacity < x.length →
          (pcTelemetryCobsDecode encoded output outputCapacity).1 = none)) ∧
      cobsDecode encoded = .ok x := by
  have hne := Cobs.encode_ne_nil x
  have hmessage := Cobs.message_encode x
  refine ⟨Cobs.encode x, List.length_pos_iff.2 hne, Cobs.length_encode_le x,
    Cobs.zero_notMem_encode x, ?_, ?_, ?_⟩
  · intro output outputCapacity hcap hout
    rw [pcTelemetryCobsEncode_eq hcap hout, copyInto, List.take_zero, List.nil_append, Nat.zero_add]
  · intro output outputCapacity hout
    exact pcTelemetryCobsDecode_of_message hne hmessage hout
  · exact (cobsDecode_eq_ok_iff hne).2 hmessage

/-- Zeros at both ends, in a buffer of exactly the bound, read back with one byte too little. -/
theorem cobs_round_trip_small :
    ∃ encoded : List U8,
      pcTelemetryCobsEncode [0, 0x11, 0] [9, 9, 9, 9] 4 =
        (encoded.length, encoded ++ [9, 9, 9, 9].drop encoded.length) ∧
      pcTelemetryCobsDecode encoded [9, 9, 9] 3 = (some 3, [0, 0x11, 0]) ∧
      (pcTelemetryCobsDecode encoded [9, 9] 2).1 = none := by
  obtain ⟨encoded, -, -, -, hencode, hdecode, -⟩ := cobs_round_trip [0, 0x11, 0]
  exact ⟨encoded, hencode _ 4 (by decide) (by decide),
    (hdecode [9, 9, 9] 3 (by decide)).1 (by decide),
    (hdecode [9, 9] 2 (by decide)).2 (by decide)⟩

end SilverwareTx
