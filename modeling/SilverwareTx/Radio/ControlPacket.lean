import SilverwareTx.Radio.Bayang

/-!
# Control packets read back

The high byte of a channel is the sum of the channel's two high bits and a trim whose two low bits
are clear, so neither disturbs the other. `control_packet_decodable` puts together what a reader of
a data packet gets.
-/

namespace SilverwareTx

/-- The trim beside a channel: the channel's own, or the centre with headless set. -/
def channelTrim (headless : Bool) (v : U16) : U8 := if headless then 0x7C else dynamicTrim v

/-- The upper six bits of a byte. -/
def upperSix (b : U8) : ℕ := (b >>> 2).toNat

theorem upperSix_eq (b : U8) : upperSix b = b.toNat / 4 := by
  rw [upperSix, BitVec.toNat_ushiftRight, Nat.shiftRight_eq_div_pow]

/-- A high byte is a sum without a carry out of the byte. -/
theorem toNat_highByte {v : U16} {trim : U8} (h : v.toNat ≤ 1023) (htrim : trim.toNat % 4 = 0) :
    ((v >>> 8).setWidth 8 + trim).toNat = v.toNat / 256 + trim.toNat := by
  have hlt := trim.isLt
  rw [BitVec.toNat_add, toNat_setWidth_shift v h, Nat.mod_eq_of_lt]
  omega

theorem channelTrim_toNat (headless : Bool) {v : U16} (h : v.toNat ≤ 1023) :
    (channelTrim headless v).toNat = if headless then 0x7C else v.toNat / 16 * 4 := by
  cases headless with
  | true => rfl
  | false => exact dynamicTrim_toNat v h

theorem channelTrim_mod_four (headless : Bool) {v : U16} (h : v.toNat ≤ 1023) :
    (channelTrim headless v).toNat % 4 = 0 := by
  rw [channelTrim_toNat headless h]
  cases headless with
  | true => rw [if_pos rfl]
  | false => exact Nat.mul_mod_left _ _

/-- The upper six bits are the trim. -/
theorem upperSix_highByte {v : U16} {trim : U8} (h : v.toNat ≤ 1023) (htrim : trim.toNat % 4 = 0) :
    upperSix ((v >>> 8).setWidth 8 + trim) = trim.toNat / 4 := by
  rw [upperSix_eq, toNat_highByte h htrim]
  omega

/-- What the byte of a trimmed channel is: no carry, and the top six bits of the channel above. -/
theorem trimmed_highByte (headless : Bool) (value : U16) :
    let v := clampChannel value
    let hi := (v >>> 8).setWidth 8 + channelTrim headless v
    hi.toNat = ((v >>> 8).setWidth 8 : U8).toNat + (channelTrim headless v).toNat ∧
      upperSix hi = if headless then 0x1F else min value.toNat 1023 / 16 := by
  intro v hi
  have hv : v.toNat = min value.toNat 1023 := clampChannel_toNat value
  have hle : v.toNat ≤ 1023 := by omega
  constructor
  · rw [toNat_highByte hle (channelTrim_mod_four headless hle), toNat_setWidth_shift v hle]
  · rw [upperSix_highByte hle (channelTrim_mod_four headless hle), channelTrim_toNat headless hle,
      hv]
    cases headless with
    | true => rw [if_pos rfl, if_pos rfl]
    | false => exact Nat.mul_div_cancel _ (by norm_num)

theorem centred_highByte (value : U16) :
    let v := clampChannel value
    let hi := (v >>> 8).setWidth 8 + (0x7C : U8)
    hi.toNat = ((v >>> 8).setWidth 8 : U8).toNat + 0x7C ∧ upperSix hi = 0x1F :=
  trimmed_highByte true value

section HighBytes

variable (b : BayangModule) (state : BayangControlState)

theorem byte_four_bayangBuildDataPacket :
    (bayangBuildDataPacket b state).byte 4 =
      (clampChannel state.roll >>> 8).setWidth 8 +
        channelTrim state.auxHeadless (clampChannel state.roll) :=
  setChecksum_get (by omega)

theorem byte_six_bayangBuildDataPacket :
    (bayangBuildDataPacket b state).byte 6 =
      (clampChannel state.pitch >>> 8).setWidth 8 +
        channelTrim state.auxHeadless (clampChannel state.pitch) :=
  setChecksum_get (by omega)

theorem byte_eight_bayangBuildDataPacket :
    (bayangBuildDataPacket b state).byte 8 =
      (clampChannel state.throttle >>> 8).setWidth 8 + 0x7C :=
  setChecksum_get (by omega)

theorem byte_ten_bayangBuildDataPacket :
    (bayangBuildDataPacket b state).byte 10 =
      (clampChannel state.yaw >>> 8).setWidth 8 +
        channelTrim state.auxHeadless (clampChannel state.yaw) :=
  setChecksum_get (by omega)

end HighBytes

/-- **Control packets are decodable without loss.** For every state and transmitter ID: the checksum
is the sum of the bytes before it, the four channels read back clamped and the eight flags exactly,
and the high bytes are sums without a carry whose upper six bits are the trim. -/
theorem control_packet_decodable (b : BayangModule) (state : BayangControlState) :
    let packet := bayangBuildDataPacket b state
    let trim (value : U16) : ℕ := if state.auxHeadless then 0x1F else min value.toNat 1023 / 16
    let noCarry (hi : U8) (value : U16) (trim : U8) : Prop :=
      hi.toNat = ((clampChannel value >>> 8).setWidth 8 : U8).toNat + trim.toNat
    (packet.byte 14).toNat = ((packet.toList.take 14).map BitVec.toNat).sum % 256 ∧
    (packetRoll packet = min state.roll.toNat 1023 ∧
      packetPitch packet = min state.pitch.toNat 1023 ∧
      packetThrottle packet = min state.throttle.toNat 1023 ∧
      packetYaw packet = min state.yaw.toNat 1023) ∧
    (flagSet (packet.byte 2) bayangFlagFlip = state.auxFlip ∧
      flagSet (packet.byte 2) bayangFlagRth = state.auxRth ∧
      flagSet (packet.byte 2) bayangFlagHeadless = state.auxHeadless ∧
      flagSet (packet.byte 2) bayangFlagPicture = state.auxPicture ∧
      flagSet (packet.byte 2) bayangFlagVideo = state.auxVideo) ∧
    (flagSet (packet.byte 3) bayangFlagTakeOff = state.auxTakeOff ∧
      flagSet (packet.byte 3) bayangFlagInverted = state.auxInverted ∧
      flagSet (packet.byte 3) bayangFlagEmgStop = state.auxEmgStop) ∧
    (upperSix (packet.byte 4) = trim state.roll ∧ upperSix (packet.byte 6) = trim state.pitch ∧
      upperSix (packet.byte 10) = trim state.yaw ∧ upperSix (packet.byte 8) = 0x1F) ∧
    (noCarry (packet.byte 4) state.roll (channelTrim state.auxHeadless (clampChannel state.roll)) ∧
      noCarry (packet.byte 6) state.pitch
        (channelTrim state.auxHeadless (clampChannel state.pitch)) ∧
      noCarry (packet.byte 8) state.throttle 0x7C ∧
      noCarry (packet.byte 10) state.yaw
        (channelTrim state.auxHeadless (clampChannel state.yaw))) := by
  intro packet trim noCarry
  have h4 := byte_four_bayangBuildDataPacket b state
  have h6 := byte_six_bayangBuildDataPacket b state
  have h8 := byte_eight_bayangBuildDataPacket b state
  have h10 := byte_ten_bayangBuildDataPacket b state
  obtain ⟨hcarry4, hupper4⟩ := trimmed_highByte state.auxHeadless state.roll
  obtain ⟨hcarry6, hupper6⟩ := trimmed_highByte state.auxHeadless state.pitch
  obtain ⟨hcarry8, hupper8⟩ := centred_highByte state.throttle
  obtain ⟨hcarry10, hupper10⟩ := trimmed_highByte state.auxHeadless state.yaw
  rw [← h4] at hcarry4 hupper4
  rw [← h6] at hcarry6 hupper6
  rw [← h8] at hcarry8 hupper8
  rw [← h10] at hcarry10 hupper10
  refine ⟨?_, ?_, ?_, ?_, ⟨hupper4, hupper6, hupper10, hupper8⟩,
    hcarry4, hcarry6, hcarry8, hcarry10⟩
  · rw [bayangBuildDataPacket_checksum, toNat_bayangCalculateChecksum]
  · exact ⟨packetRoll_bayangBuildDataPacket b state, packetPitch_bayangBuildDataPacket b state,
      packetThrottle_bayangBuildDataPacket b state, packetYaw_bayangBuildDataPacket b state⟩
  · rw [bayangBuildDataPacket_flags2]
    exact flagSet_dataFlags2 state
  · rw [bayangBuildDataPacket_flags3]
    exact flagSet_dataFlags3 state

end SilverwareTx
