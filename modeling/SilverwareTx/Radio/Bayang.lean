import SilverwareTx.Word

/-!
# Bayang packets (`radio/bayang.cpp`)

* `bayangInit`, `bayangBuildBindPacket`, `bayangBuildDataPacket`, `bayangCheckTelemetry`, as the
  source has them;
* `channelValue` and the flag tests read a control packet back by the Bayang layout;
* the `bayangBuildDataPacket_*` lemmas say what a data packet carries.
-/

namespace SilverwareTx

/-- `BAYANG_ADDRESS_LENGTH` -/
def bayangAddressLength : ℕ := 5

/-- `BAYANG_RF_CHANNELS` -/
def bayangRfChannels : ℕ := 4

/-- `BAYANG_BIND_A1`: telemetry on, analog AUX on. -/
def bayangBindA1 : U8 := 0xA1

/-- `BAYANG_BIND_A2`: telemetry off, analog AUX on. -/
def bayangBindA2 : U8 := 0xA2

/-- `BAYANG_BIND_A3`: telemetry on, analog AUX off. -/
def bayangBindA3 : U8 := 0xA3

/-- `BAYANG_BIND_A4`: telemetry off, analog AUX off. -/
def bayangBindA4 : U8 := 0xA4

/-- `BAYANG_DATA` -/
def bayangData : U8 := 0xA5

/-- `BAYANG_FLAG_FLIP` -/
def bayangFlagFlip : U8 := 0x08

/-- `BAYANG_FLAG_RTH` -/
def bayangFlagRth : U8 := 0x01

/-- `BAYANG_FLAG_HEADLESS` -/
def bayangFlagHeadless : U8 := 0x02

/-- `BAYANG_FLAG_PICTURE` -/
def bayangFlagPicture : U8 := 0x20

/-- `BAYANG_FLAG_VIDEO` -/
def bayangFlagVideo : U8 := 0x10

/-- `BAYANG_FLAG_TAKE_OFF` -/
def bayangFlagTakeOff : U8 := 0x20

/-- `BAYANG_FLAG_INVERTED` -/
def bayangFlagInverted : U8 := 0x80

/-- `BAYANG_FLAG_EMG_STOP` -/
def bayangFlagEmgStop : U8 := 0x04 ||| 0x08

/-- `struct BayangControlState`; the defaults are those of `= {}`. -/
structure BayangControlState where
  roll : U16 := 0
  pitch : U16 := 0
  throttle : U16 := 0
  yaw : U16 := 0
  auxFlip : Bool := false
  auxRth : Bool := false
  auxHeadless : Bool := false
  auxPicture : Bool := false
  auxVideo : Bool := false
  auxTakeOff : Bool := false
  auxInverted : Bool := false
  auxEmgStop : Bool := false
  deriving DecidableEq

/-- The statics `rx_tx_addr` and `hopping_channels`. -/
structure BayangModule where
  rxTxAddr : Vector U8 5
  hoppingChannels : Vector U8 4
  deriving DecidableEq

/-- `dynamic_trim`: the upper six bits of a channel. -/
def dynamicTrim (v : U16) : U8 := ((v >>> 2) &&& 0xFC).setWidth 8

/-- `clamp_channel`: ten bits at most. -/
def clampChannel (value : U16) : U16 := if value > 1023 then 1023 else value

/-- `bayang_init` -/
def bayangInit (txId : Vector U8 5) : BayangModule :=
  let channel1 : U8 := (txId[3] &&& 0x1F) + 0x10
  let channel2 : U8 := channel1 + 0x20
  let channel3 : U8 := channel2 + 0x20
  { rxTxAddr := txId, hoppingChannels := #v[0, channel1, channel2, channel3] }

/-- `bayang_select_bind_header` -/
def bayangSelectBindHeader (telemetryEnabled analogAuxEnabled : Bool) : U8 :=
  if analogAuxEnabled then (if telemetryEnabled then bayangBindA1 else bayangBindA2)
  else (if telemetryEnabled then bayangBindA3 else bayangBindA4)

/-- The 8-bit sum of the first fourteen bytes. -/
def bayangCalculateChecksum (packet : Packet) : U8 :=
  (packet.toList.take (bayangPacketSize - 1)).foldl (· + ·) 0

/-- `packet[14] = bayang_calculate_checksum(packet)` -/
def setChecksum (packet : Packet) : Packet := packet.setByte 14 (bayangCalculateChecksum packet)

/-- `bayang_build_bind_packet` -/
def bayangBuildBindPacket (b : BayangModule) (bindHeader : U8) : Packet :=
  let a := b.rxTxAddr
  let channels := b.hoppingChannels
  let analog : U8 := if bindHeader = bayangBindA1 ∨ bindHeader = bayangBindA2 then 0x00 else 0x0A
  setChecksum #v[bindHeader, a[0], a[1], a[2], a[3], a[4], channels[0], channels[1], channels[2],
    channels[3], a[0], a[1], a[2], analog, 0]

/-- Byte 2: the flags of CH5 to CH9. -/
def dataFlags2 (state : BayangControlState) : U8 :=
  (if state.auxFlip then bayangFlagFlip else 0) ||| (if state.auxRth then bayangFlagRth else 0) |||
  (if state.auxHeadless then bayangFlagHeadless else 0) |||
  (if state.auxPicture then bayangFlagPicture else 0) |||
  (if state.auxVideo then bayangFlagVideo else 0)

/-- Byte 3: take-off, inverted and emergency stop. -/
def dataFlags3 (state : BayangControlState) : U8 :=
  (if state.auxTakeOff then bayangFlagTakeOff else 0) |||
  (if state.auxInverted then bayangFlagInverted else 0) |||
  (if state.auxEmgStop then bayangFlagEmgStop else 0)

/-- `bayang_build_data_packet` -/
def bayangBuildDataPacket (b : BayangModule) (state : BayangControlState) : Packet :=
  let headless := state.auxHeadless
  let roll := clampChannel state.roll
  let pitch := clampChannel state.pitch
  let throttle := clampChannel state.throttle
  let yaw := clampChannel state.yaw
  setChecksum #v[bayangData, 0xFA, dataFlags2 state, dataFlags3 state,
    (roll >>> 8).setWidth 8 + (if headless then 0x7C else dynamicTrim roll), roll.setWidth 8,
    (pitch >>> 8).setWidth 8 + (if headless then 0x7C else dynamicTrim pitch), pitch.setWidth 8,
    (throttle >>> 8).setWidth 8 + 0x7C, throttle.setWidth 8,
    (yaw >>> 8).setWidth 8 + (if headless then 0x7C else dynamicTrim yaw), yaw.setWidth 8,
    b.rxTxAddr[2], 0x0A, 0]

/-- `bayang_check_telemetry`: the header and the checksum. -/
def bayangCheckTelemetry (packet : Packet) : Bool :=
  if packet.byte 0 ≠ 0x85 ∧ packet.byte 0 ≠ 0x86 then false
  else if bayangCalculateChecksum packet ≠ packet.byte 14 then false
  else true

/-! ### Reading a control packet back -/

/-- A channel: the low two bits of its high byte joined with its low byte. -/
def channelValue (hi lo : U8) : ℕ := hi.toNat % 4 * 256 + lo.toNat

/-- The roll channel of a packet. -/
def packetRoll (packet : Packet) : ℕ := channelValue (packet.byte 4) (packet.byte 5)

/-- The pitch channel of a packet. -/
def packetPitch (packet : Packet) : ℕ := channelValue (packet.byte 6) (packet.byte 7)

/-- The throttle channel of a packet. -/
def packetThrottle (packet : Packet) : ℕ := channelValue (packet.byte 8) (packet.byte 9)

/-- The yaw channel of a packet. -/
def packetYaw (packet : Packet) : ℕ := channelValue (packet.byte 10) (packet.byte 11)

/-- Whether any bit of `mask` is set in `byte`. -/
def flagSet (byte mask : U8) : Bool := byte &&& mask != 0

/-! ### Checksums -/

theorem setChecksum_get {packet : Packet} {i : ℕ} (hi : i < 14) :
    (setChecksum packet).byte i = packet.byte i := by
  rw [setChecksum, Packet.byte_setByte_of_ne (by omega)]

theorem setChecksum_get_last (packet : Packet) :
    (setChecksum packet).byte 14 = bayangCalculateChecksum packet := by
  rw [setChecksum, Packet.byte_setByte_self (by omega)]

/-- The checksum does not depend on the byte that carries it. -/
theorem bayangCalculateChecksum_setByte (packet : Packet) (b : U8) :
    bayangCalculateChecksum (packet.setByte 14 b) = bayangCalculateChecksum packet := by
  rw [bayangCalculateChecksum, bayangCalculateChecksum, bayangPacketSize, Packet.toList_setByte,
    List.take_set_of_le (by omega)]

theorem bayangCalculateChecksum_setChecksum (packet : Packet) :
    bayangCalculateChecksum (setChecksum packet) = bayangCalculateChecksum packet :=
  bayangCalculateChecksum_setByte packet _

theorem setChecksum_setByte (packet : Packet) (b : U8) :
    setChecksum (packet.setByte 14 b) = setChecksum packet := by
  rw [setChecksum, bayangCalculateChecksum_setByte, Packet.setByte_setByte, setChecksum]

/-- A packet that got its checksum last carries it. -/
theorem setChecksum_valid (packet : Packet) :
    (setChecksum packet).byte 14 = bayangCalculateChecksum (setChecksum packet) := by
  rw [bayangCalculateChecksum_setChecksum, setChecksum_get_last]

/-- The checksum is the sum of the first fourteen bytes, modulo 256. -/
theorem toNat_bayangCalculateChecksum (packet : Packet) :
    (bayangCalculateChecksum packet).toNat = ((packet.toList.take 14).map BitVec.toNat).sum % 256 := by
  have hfold : ∀ (l : List U8) (a : U8),
      (l.foldl (· + ·) a).toNat = (a.toNat + (l.map BitVec.toNat).sum) % 256 := by
    intro l
    induction l with
    | nil => intro a; simp [Nat.mod_eq_of_lt a.isLt]
    | cons b l ih =>
      intro a
      rw [List.foldl_cons, ih, BitVec.toNat_add, List.map_cons, List.sum_cons]
      omega
  rw [bayangCalculateChecksum, hfold, bayangPacketSize, show (0 : U8).toNat = 0 from rfl,
    Nat.zero_add]

theorem bayangCheckTelemetry_header {packet : Packet} (h : bayangCheckTelemetry packet = true) :
    packet.byte 0 = 0x85 ∨ packet.byte 0 = 0x86 := by
  unfold bayangCheckTelemetry at h
  by_contra hno
  rw [if_pos (not_or.1 hno)] at h
  exact Bool.noConfusion h

/-- With its checksum set, a packet is accepted for its header. -/
theorem bayangCheckTelemetry_setChecksum {packet : Packet}
    (h : packet.byte 0 = 0x85 ∨ packet.byte 0 = 0x86) :
    bayangCheckTelemetry (setChecksum packet) = true := by
  have hheader : ¬((setChecksum packet).byte 0 ≠ 0x85 ∧ (setChecksum packet).byte 0 ≠ 0x86) := by
    rw [setChecksum_get (by omega)]
    tauto
  have hsum : ¬ bayangCalculateChecksum (setChecksum packet) ≠ (setChecksum packet).byte 14 :=
    not_not.2 (setChecksum_valid packet).symm
  rw [bayangCheckTelemetry, if_neg hheader, if_neg hsum]

/-! ### What a data packet carries -/

theorem clampChannel_toNat (value : U16) : (clampChannel value).toNat = min value.toNat 1023 := by
  unfold clampChannel
  split_ifs with h
  · have : 1023 < value.toNat := h
    rw [min_eq_right (by omega)]
    rfl
  · have : ¬ 1023 < value.toNat := h
    rw [min_eq_left (by omega)]

theorem toNat_setWidth_shift (v : U16) (h : v.toNat ≤ 1023) :
    ((v >>> 8).setWidth 8 : U8).toNat = v.toNat / 256 := by
  rw [BitVec.toNat_setWidth, BitVec.toNat_ushiftRight, Nat.shiftRight_eq_div_pow]
  exact Nat.mod_eq_of_lt (by omega)

theorem dynamicTrim_toNat (v : U16) (h : v.toNat ≤ 1023) :
    (dynamicTrim v).toNat = v.toNat / 16 * 4 := by
  have hmask : ∀ x : ℕ, x < 256 → x &&& 252 = x / 4 * 4 := by decide +kernel
  rw [dynamicTrim, BitVec.toNat_setWidth, BitVec.toNat_and, BitVec.toNat_ushiftRight,
    Nat.shiftRight_eq_div_pow, show (0xFC : U16).toNat = 252 from rfl, hmask _ (by omega)]
  omega

/-- The upper six bits of a high byte do not disturb the channel under them. -/
theorem channelValue_build {v : U16} (h : v.toNat ≤ 1023) {trim : U8} (htrim : trim.toNat % 4 = 0)
    (hlt : v.toNat / 256 + trim.toNat < 256) :
    channelValue ((v >>> 8).setWidth 8 + trim) (v.setWidth 8) = v.toNat := by
  rw [channelValue, BitVec.toNat_add, toNat_setWidth_shift v h, BitVec.toNat_setWidth,
    Nat.mod_eq_of_lt hlt]
  omega

theorem channelValue_trimmed {v : U16} (h : v.toNat ≤ 1023) (headless : Bool) :
    channelValue ((v >>> 8).setWidth 8 + (if headless then 0x7C else dynamicTrim v))
      (v.setWidth 8) = v.toNat := by
  cases headless with
  | true =>
    have h7C : ((0x7C : U8)).toNat = 124 := rfl
    exact channelValue_build h (by simp) (by simp only [if_true, h7C]; omega)
  | false =>
    have hd := dynamicTrim_toNat v h
    exact channelValue_build h (by simp [hd]) (by simp [hd]; omega)

section DataPacket

variable (b : BayangModule) (state : BayangControlState)

@[simp] theorem bayangBuildDataPacket_header : (bayangBuildDataPacket b state).byte 0 = bayangData :=
  setChecksum_get (by omega)

@[simp] theorem bayangBuildDataPacket_flags2 :
    (bayangBuildDataPacket b state).byte 2 = dataFlags2 state :=
  setChecksum_get (by omega)

@[simp] theorem bayangBuildDataPacket_flags3 :
    (bayangBuildDataPacket b state).byte 3 = dataFlags3 state :=
  setChecksum_get (by omega)

theorem packetRoll_bayangBuildDataPacket :
    packetRoll (bayangBuildDataPacket b state) = min state.roll.toNat 1023 := by
  rw [← clampChannel_toNat, packetRoll, bayangBuildDataPacket, setChecksum_get (by omega),
    setChecksum_get (by omega)]
  exact channelValue_trimmed (by rw [clampChannel_toNat]; omega) _

theorem packetPitch_bayangBuildDataPacket :
    packetPitch (bayangBuildDataPacket b state) = min state.pitch.toNat 1023 := by
  rw [← clampChannel_toNat, packetPitch, bayangBuildDataPacket, setChecksum_get (by omega),
    setChecksum_get (by omega)]
  exact channelValue_trimmed (by rw [clampChannel_toNat]; omega) _

theorem packetYaw_bayangBuildDataPacket :
    packetYaw (bayangBuildDataPacket b state) = min state.yaw.toNat 1023 := by
  rw [← clampChannel_toNat, packetYaw, bayangBuildDataPacket, setChecksum_get (by omega),
    setChecksum_get (by omega)]
  exact channelValue_trimmed (by rw [clampChannel_toNat]; omega) _

theorem packetThrottle_bayangBuildDataPacket :
    packetThrottle (bayangBuildDataPacket b state) = min state.throttle.toNat 1023 := by
  have h7C : ((0x7C : U8)).toNat = 124 := rfl
  have hle : (clampChannel state.throttle).toNat ≤ 1023 := by rw [clampChannel_toNat]; omega
  rw [← clampChannel_toNat, packetThrottle, bayangBuildDataPacket, setChecksum_get (by omega),
    setChecksum_get (by omega)]
  exact channelValue_build hle (by rw [h7C]) (by rw [h7C]; omega)

theorem bayangBuildDataPacket_checksum :
    (bayangBuildDataPacket b state).byte 14 =
      bayangCalculateChecksum (bayangBuildDataPacket b state) :=
  setChecksum_valid _

end DataPacket

/-- Byte 2 carries exactly the five flags of CH5 to CH9. -/
theorem flagSet_dataFlags2 (state : BayangControlState) :
    flagSet (dataFlags2 state) bayangFlagFlip = state.auxFlip ∧
    flagSet (dataFlags2 state) bayangFlagRth = state.auxRth ∧
    flagSet (dataFlags2 state) bayangFlagHeadless = state.auxHeadless ∧
    flagSet (dataFlags2 state) bayangFlagPicture = state.auxPicture ∧
    flagSet (dataFlags2 state) bayangFlagVideo = state.auxVideo := by
  unfold dataFlags2
  cases state.auxFlip <;> cases state.auxRth <;> cases state.auxHeadless <;>
    cases state.auxPicture <;> cases state.auxVideo <;> decide

/-- Byte 3 carries exactly take-off, inverted and emergency stop. -/
theorem flagSet_dataFlags3 (state : BayangControlState) :
    flagSet (dataFlags3 state) bayangFlagTakeOff = state.auxTakeOff ∧
    flagSet (dataFlags3 state) bayangFlagInverted = state.auxInverted ∧
    flagSet (dataFlags3 state) bayangFlagEmgStop = state.auxEmgStop := by
  unfold dataFlags3
  cases state.auxTakeOff <;> cases state.auxInverted <;> cases state.auxEmgStop <;> decide

end SilverwareTx
