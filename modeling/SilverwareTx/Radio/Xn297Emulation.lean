import SilverwareTx.Lib.BigEndian
import SilverwareTx.Link.BurstDetection
import SilverwareTx.Radio.Xn297

/-!
# XN297 packets on the nRF24 (`radio/xn297.cpp`)

The bytes that the functions of `Xn297` hand to the nRF24 driver. A read past the end of an array is
`none`, so a result in `some` says that every index was in range. `xn297_emulation_consistent`
relates transmit, receive and address set-up.
-/

namespace SilverwareTx

namespace Xn297

open BigEndian Crc

/-- `NRF24_REG_RX_ADDR_P0` -/
def nrf24RegRxAddrP0 : U8 := 0x0A

/-- `NRF24_REG_TX_ADDR` -/
def nrf24RegTxAddr : U8 := 0x10

/-- `NRF24_REG_RX_PW_P0` -/
def nrf24RegRxPwP0 : U8 := 0x11

/-- `xn297_scramble` -/
def scramble : List U8 :=
  [0xE3, 0xB1, 0x4B, 0xEA, 0x85, 0xBC, 0xE5, 0x66, 0x0D, 0xAE, 0x8C, 0x88, 0x12,
    0x69, 0xEE, 0x1F, 0xC7, 0x62, 0x97, 0xD5, 0x0B, 0x79, 0xCA, 0xCC, 0x1B, 0x5D,
    0x19, 0x10, 0x24, 0xD3, 0xDC, 0x3F, 0x8E, 0xC5, 0x2F, 0xAA, 0x16, 0xF3, 0x95]

/-- `xn297_crc_xorout_scrambled` -/
def crcXoroutScrambled : List U16 :=
  [0x0000, 0x3448, 0x9BA7, 0x8BBB, 0x85E1, 0x3E8C, 0x451E, 0x18E6, 0x6B24,
    0xE7AB, 0x3828, 0x814B, 0xD461, 0xF494, 0x2503, 0x691D, 0xFE8B, 0x9BA7,
    0x8B17, 0x2920, 0x8B5F, 0x61B1, 0xD391, 0x7401, 0x2138, 0x129F, 0xB3A0,
    0x2988, 0x23CA, 0xC0CB, 0x0C6C, 0xB329, 0xA0A1, 0x0A16, 0xA9D0]

/-- `bit_reverse` -/
def bitReverse (b : U8) : U8 :=
  let b := ((b &&& 0xF0) >>> 4) ||| ((b &&& 0x0F) <<< 4)
  let b := ((b &&& 0xCC) >>> 2) ||| ((b &&& 0x33) <<< 2)
  ((b &&& 0xAA) >>> 1) ||| ((b &&& 0x55) <<< 1)

/-- One turn of the loop of `crc16_update`, on `*crc` and `data`. -/
def crc16UpdateBit (s : U16 × U8) : U16 × U8 :=
  let crc :=
    if ((s.1 >>> 8) ^^^ s.2.setWidth 16) &&& 0x80 ≠ 0 then (s.1 <<< 1) ^^^ 0x1021 else s.1 <<< 1
  (crc, s.2 <<< 1)

/-- `crc16_update` -/
def crc16Update (crc : U16) (data : U8) : U16 := (crc16UpdateBit^[8] (crc, data)).1

/-- `nrf24_write_reg_multi` and `nrf24_write_reg` -/
structure RegisterWrite where
  reg : U8
  bytes : List U8
  deriving DecidableEq

/-- The static `xn297_tx_addr`. -/
structure Module where
  txAddr : Vector U8 5

/-- `xn297_set_tx_address` -/
def setTxAddress (_ : Module) (addr : Vector U8 5) : Module × RegisterWrite :=
  -- NRF24 physical address matches XN297 preamble/address structure
  ({ txAddr := addr }, ⟨nrf24RegTxAddr, [0x55, 0x0F, 0x71, 0x0C, 0x00]⟩)

/-- `xn297_set_rx_address`: its result and the register writes. -/
def setRxAddress (addr : Vector U8 5) (payloadLen : ℕ) : Option (Bool × List RegisterWrite) :=
  if !nrf24PayloadLengthValid payloadLen then some (false, [])
  else do
    let physicalRxAddr ← (List.range 5).mapM fun i => do
      let a ← addr.toList[i]?
      let s ← scramble[4 - i]?
      some (a ^^^ s)
    some (true,
      [⟨nrf24RegRxAddrP0, physicalRxAddr⟩, ⟨nrf24RegRxPwP0, [BitVec.ofNat 8 payloadLen]⟩])

/-- The bytes that `xn297_write_payload` builds in `buf`. -/
def encode (txAddr : Vector U8 5) (msg : List U8) (len : ℕ) : Option (List U8) := do
  let address ← (List.range 5).mapM fun i => do
    let a ← txAddr.toList[4 - i]?
    let s ← scramble[i]?
    some (a ^^^ s)
  let payload ← (List.range len).mapM fun i => do
    let b ← msg[i]?
    let s ← scramble[5 + i]?
    some (bitReverse b ^^^ s)
  let buf := address ++ payload
  let xorout ← crcXoroutScrambled[5 - 3 + len]?
  let crc := buf.foldl crc16Update 0xB5D2 ^^^ xorout
  some (buf ++ [(crc >>> 8).setWidth 8, (crc &&& 0xFF).setWidth 8])

/-- `xn297_write_payload`: its result and what it hands to `nrf24_write_payload`, if anything. -/
def writePayload (m : Module) (msg : List U8) (len : ℕ) : Option (Bool × Option (List U8)) :=
  if !xn297TxPayloadLengthValid len then some (false, none)
  else do
    let buf ← encode m.txAddr msg len
    some (nrf24PayloadLengthValid buf.length, some buf)

/-- `xn297_read_payload` on what `nrf24_read_payload` reads: the message, if it returns true. -/
def readPayload (received : Option (List U8)) (len : ℕ) : Option (Option (List U8)) :=
  if !nrf24PayloadLengthValid len then some none
  else
    match received with
    | none => some none
    | some buf => do
      let msg ← (List.range len).mapM fun i => do
        let b ← buf[i]?
        let s ← scramble[5 + i]?
        some (bitReverse (b ^^^ s))
      some (some msg)

/-! ### One CRC -/

/-- The turns of the loop run the register over the bits of `data` from the top. -/
theorem iterate_crc16UpdateBit (n : ℕ) (crc : U16) (data : U8) :
    (crc16UpdateBit^[n] (crc, data)).1 =
      run crc16Generator crc (List.ofFn fun i : Fin n => data.getMsbD i) := by
  induction n generalizing crc data with
  | zero => rfl
  | succ n ih =>
    have hbit : ((crc >>> 8) ^^^ data.setWidth 16).getLsbD 7 = (crc.msb ^^ data.getMsbD 0) := by
      rw [BitVec.msb_eq_getLsbD_last]
      simp [BitVec.getMsbD]
    have htop : ((crc >>> 8) ^^^ data.setWidth 16) &&& 0x80 ≠ 0 ↔
        (crc.msb ^^ data.getMsbD 0) = true := by
      rw [show (0x80 : U16) = BitVec.twoPow 16 7 by decide, ← hbit]
      exact and_twoPow_ne_zero_iff _ (by norm_num)
    have hstep : crc16UpdateBit (crc, data) =
        (feed crc16Generator crc (data.getMsbD 0), data <<< 1) := by
      simp only [crc16UpdateBit, feed, htop, crc16Generator]
    have hshift : ∀ i : Fin n, (data <<< 1).getMsbD i = data.getMsbD i.succ := by
      intro i
      rw [BitVec.getMsbD_shiftLeft, Fin.val_succ]
    rw [Function.iterate_succ_apply, hstep, ih, List.ofFn_succ, run_cons]
    simp only [hshift, Fin.val_zero]

/-- `crc16_update` takes the byte as the bridge's CRC does. -/
theorem crc16Update_eq (crc : U16) (data : U8) : crc16Update crc data = crc16Byte crc data := by
  rw [crc16Update, iterate_crc16UpdateBit, crc16Byte_eq_run, byteBits]

theorem foldl_crc16Update (bytes : List U8) (crc : U16) :
    bytes.foldl crc16Update crc = bytes.foldl crc16Byte crc := by
  rw [funext₂ crc16Update_eq]

/-! ### Loops whose reads are in range -/

theorem mapM_eq_some {α β : Type} {f : α → Option β} {g : α → β} {l : List α}
    (h : ∀ a ∈ l, f a = some (g a)) : l.mapM f = some (l.map g) := by
  induction l with
  | nil => rfl
  | cons a l ih =>
    rw [List.mapM_cons, h a List.mem_cons_self, ih fun b hb => h b (List.mem_cons_of_mem a hb)]
    rfl

theorem getElem?_eq_some_getD {α : Type} {l : List α} {i : ℕ} (h : i < l.length) (d : α) :
    l[i]? = some (l.getD i d) := by
  rw [List.getD_eq_getElem?_getD, List.getElem?_eq_getElem h, Option.getD_some]

theorem scramble_getElem? {i : ℕ} (h : i < 39) : scramble[i]? = some (scramble.getD i 0) :=
  getElem?_eq_some_getD (by rw [show scramble.length = 39 from rfl]; exact h) 0

theorem crcXoroutScrambled_getElem? {i : ℕ} (h : i < 35) :
    crcXoroutScrambled[i]? = some (crcXoroutScrambled.getD i 0) :=
  getElem?_eq_some_getD (by rw [show crcXoroutScrambled.length = 35 from rfl]; exact h) 0

theorem map_getD_range {α : Type} (l : List α) (d : α) :
    (List.range l.length).map (fun i => l.getD i d) = l := by
  apply List.ext_getElem
  · simp
  · intro i h h'
    rw [List.getElem_map, List.getElem_range, List.getElem_eq_getD d]

/-! ### Transmit, receive and address set-up -/

/-- The address as it is programmed and, reversed, transmitted. -/
def physicalAddress (addr : Vector U8 5) : List U8 :=
  (List.range 5).map fun i => addr.toList.getD i 0 ^^^ scramble.getD (4 - i) 0

/-- The message as it is transmitted. -/
def scrambledMessage (msg : List U8) : List U8 :=
  (List.range msg.length).map fun i => bitReverse (msg.getD i 0) ^^^ scramble.getD (5 + i) 0

@[simp] theorem length_physicalAddress (addr : Vector U8 5) :
    (physicalAddress addr).length = 5 := by
  simp [physicalAddress]

@[simp] theorem length_scrambledMessage (msg : List U8) :
    (scrambledMessage msg).length = msg.length := by
  simp [scrambledMessage]

theorem bitReverse_bitReverse (b : U8) : bitReverse (bitReverse b) = b := by
  revert b
  decide +kernel

theorem setRxAddress_eq (addr : Vector U8 5) {payloadLen : ℕ}
    (hlen : nrf24PayloadLengthValid payloadLen = true) :
    setRxAddress addr payloadLen = some (true,
      [⟨nrf24RegRxAddrP0, physicalAddress addr⟩, ⟨nrf24RegRxPwP0, [BitVec.ofNat 8 payloadLen]⟩]) := by
  have hloop : ((List.range 5).mapM fun i => do
      let a ← addr.toList[i]?
      let s ← scramble[4 - i]?
      some (a ^^^ s)) = some (physicalAddress addr) := by
    apply mapM_eq_some
    intro i hi
    have hlt : i < 5 := List.mem_range.1 hi
    rw [getElem?_eq_some_getD (by simpa using hlt) 0, scramble_getElem? (by omega)]
    rfl
  rw [setRxAddress, hlen, hloop]
  rfl

/-- The two bytes of a CRC, as they are written. -/
theorem bytes_eq_toBE (crc : U16) :
    [(crc >>> 8).setWidth 8, (crc &&& 0xFF).setWidth 8] = toBE 2 crc.toNat := by
  have hhi : ((crc >>> 8).setWidth 8 : U8) = BitVec.ofNat 8 (crc.toNat / 256 ^ 1) := by
    apply BitVec.eq_of_toNat_eq
    rw [BitVec.toNat_setWidth, BitVec.toNat_ushiftRight, Nat.shiftRight_eq_div_pow,
      BitVec.toNat_ofNat, pow_one, show (256 : ℕ) = 2 ^ 8 from rfl]
  have hlo : ((crc &&& 0xFF).setWidth 8 : U8) = BitVec.ofNat 8 (crc.toNat / 256 ^ 0) := by
    apply BitVec.eq_of_toNat_eq
    rw [BitVec.toNat_setWidth, BitVec.toNat_and, BitVec.toNat_ofNat,
      show (0xFF : U16).toNat = 2 ^ 8 - 1 from rfl, Nat.and_two_pow_sub_one_eq_mod, Nat.mod_mod,
      pow_zero, Nat.div_one]
  rw [toBE_succ_left, toBE_succ_left, hhi, hlo]
  rfl

/-- The record of an address and a message, without its CRC. -/
def scrambled (txAddr : Vector U8 5) (msg : List U8) : List U8 :=
  (physicalAddress txAddr).reverse ++ scrambledMessage msg

/-- The CRC that ends a packet. -/
def payloadCrc (txAddr : Vector U8 5) (msg : List U8) : U16 :=
  (scrambled txAddr msg).foldl crc16Update 0xB5D2 ^^^ crcXoroutScrambled.getD (msg.length + 2) 0

theorem encode_eq (txAddr : Vector U8 5) {msg : List U8} (hlen : msg.length ≤ 25) :
    encode txAddr msg msg.length =
      some (scrambled txAddr msg ++ toBE 2 (payloadCrc txAddr msg).toNat) := by
  have haddress : ((List.range 5).mapM fun i => do
      let a ← txAddr.toList[4 - i]?
      let s ← scramble[i]?
      some (a ^^^ s)) = some (physicalAddress txAddr).reverse := by
    rw [show (physicalAddress txAddr).reverse = (List.range 5).map fun i =>
      txAddr.toList.getD (4 - i) 0 ^^^ scramble.getD i 0 from rfl]
    apply mapM_eq_some
    intro i hi
    have hlt : i < 5 := List.mem_range.1 hi
    rw [getElem?_eq_some_getD (by simp; omega) 0, scramble_getElem? (by omega)]
    rfl
  have hpayload : ((List.range msg.length).mapM fun i => do
      let b ← msg[i]?
      let s ← scramble[5 + i]?
      some (bitReverse b ^^^ s)) = some (scrambledMessage msg) := by
    apply mapM_eq_some
    intro i hi
    have hlt : i < msg.length := List.mem_range.1 hi
    rw [getElem?_eq_some_getD hlt 0, scramble_getElem? (by omega)]
    rfl
  rw [encode, haddress, hpayload, show 5 - 3 + msg.length = msg.length + 2 by omega,
    crcXoroutScrambled_getElem? (by omega)]
  simp only [Option.bind_eq_bind, Option.bind_some, bytes_eq_toBE]
  rfl

theorem readPayload_scrambledMessage {msg : List U8}
    (hlen : nrf24PayloadLengthValid msg.length = true) :
    readPayload (some (scrambledMessage msg)) msg.length = some (some msg) := by
  have hle : msg.length ≤ 32 := (of_decide_eq_true hlen).2
  have hloop : ((List.range msg.length).mapM fun i => do
      let b ← (scrambledMessage msg)[i]?
      let s ← scramble[5 + i]?
      some (bitReverse (b ^^^ s))) = some msg := by
    refine (mapM_eq_some fun i hi => ?_).trans (congrArg some (map_getD_range msg 0))
    have hlt : i < msg.length := List.mem_range.1 hi
    have hbyte : (scrambledMessage msg)[i]? =
        some (bitReverse (msg.getD i 0) ^^^ scramble.getD (5 + i) 0) := by
      rw [scrambledMessage, List.getElem?_map, List.getElem?_range hlt]
      rfl
    rw [hbyte, scramble_getElem? (by omega)]
    change some (bitReverse _) = _
    rw [BitVec.xor_assoc, BitVec.xor_self, BitVec.xor_zero, bitReverse_bitReverse]
  rw [readPayload, hlen, hloop]
  rfl

/-! ### The control loop's view -/

/-- The result of the address set-up, as the control loop has it. -/
theorem setRxAddress_result (addr : Vector U8 5) (payloadLen : ℕ) :
    (setRxAddress addr payloadLen).map Prod.fst = some (xn297SetRxAddress payloadLen) := by
  rw [xn297SetRxAddress]
  by_cases hlen : nrf24PayloadLengthValid payloadLen = true
  · rw [setRxAddress_eq addr hlen, hlen]
    rfl
  · rw [Bool.not_eq_true] at hlen
    rw [setRxAddress, hlen]
    rfl

theorem length_scrambled (txAddr : Vector U8 5) (msg : List U8) :
    (scrambled txAddr msg).length = msg.length + 5 := by
  rw [scrambled, List.length_append, List.length_reverse, length_physicalAddress,
    length_scrambledMessage]
  omega

/-- What a valid message is sent as. -/
theorem writePayload_eq (m : Module) {msg : List U8}
    (hlen : xn297TxPayloadLengthValid msg.length = true) :
    writePayload m msg msg.length =
      some (true, some (scrambled m.txAddr msg ++ toBE 2 (payloadCrc m.txAddr msg).toNat)) := by
  have hle : msg.length ≤ 25 := (of_decide_eq_true hlen).2
  have hvalid : nrf24PayloadLengthValid
      (scrambled m.txAddr msg ++ toBE 2 (payloadCrc m.txAddr msg).toNat).length = true := by
    rw [List.length_append, length_scrambled, length_toBE]
    apply decide_eq_true
    omega
  rw [writePayload, hlen, encode_eq m.txAddr hle, Option.bind_eq_bind, Option.bind_some, hvalid]
  rfl

/-- The result of a transmission, as the control loop has it: the driver takes what it is handed. -/
theorem writePayload_result (m : Module) (msg : List U8) :
    (writePayload m msg msg.length).map Prod.fst = some (xn297WritePayload msg.length true) := by
  rw [xn297WritePayload]
  by_cases hlen : xn297TxPayloadLengthValid msg.length = true
  · rw [writePayload_eq m hlen, hlen]
    rfl
  · rw [Bool.not_eq_true] at hlen
    rw [writePayload, hlen]
    rfl

/-- **The XN297 emulation is self-consistent.** For every address and every message of 1 to 25
bytes: with every index in range, `nrf24_write_payload` gets the address, the message and two CRC
bytes; the address bytes are the programmed receive address reversed; what follows decodes to the
message; the CRC is that of the bytes before it, with its table entry; and one byte of it is one
byte of the bridge's. -/
theorem xn297_emulation_consistent (m : Module) (a : Vector U8 5) (msg : List U8)
    (hlen : 1 ≤ msg.length ∧ msg.length ≤ 25) :
    (∃ payload rxAddr,
      writePayload (setTxAddress m a).1 msg msg.length = some (true, some payload) ∧
      payload.length = msg.length + 7 ∧ payload.length ≤ 32 ∧
      setRxAddress a msg.length =
        some (true, [⟨nrf24RegRxAddrP0, rxAddr⟩,
          ⟨nrf24RegRxPwP0, [BitVec.ofNat 8 msg.length]⟩]) ∧
      payload.take 5 = rxAddr.reverse ∧
      readPayload (some ((payload.drop 5).take msg.length)) msg.length = some (some msg) ∧
      payload.drop (msg.length + 5) =
        toBE 2 ((payload.take (msg.length + 5)).foldl crc16Update 0xB5D2 ^^^
          crcXoroutScrambled.getD (msg.length + 2) 0).toNat) ∧
    ∀ (bytes : List U8) (crc : U16), bytes.foldl crc16Update crc = bytes.foldl crc16Byte crc := by
  have htx : xn297TxPayloadLengthValid msg.length = true := decide_eq_true hlen
  have hrx : nrf24PayloadLengthValid msg.length = true := by
    apply decide_eq_true
    omega
  have hlength := length_scrambled a msg
  have haddress : (scrambled a msg).take 5 = (physicalAddress a).reverse :=
    List.take_left' (by simp)
  have hmessage : (scrambled a msg).drop 5 = scrambledMessage msg := List.drop_left' (by simp)
  have hwrite : writePayload (setTxAddress m a).1 msg msg.length =
      some (true, some (scrambled a msg ++ toBE 2 (payloadCrc a msg).toNat)) :=
    writePayload_eq ⟨a⟩ htx
  refine ⟨⟨_, physicalAddress a, hwrite, ?_, ?_, setRxAddress_eq a hrx, ?_, ?_, ?_⟩,
    foldl_crc16Update⟩
  · rw [List.length_append, hlength, length_toBE]
  · rw [List.length_append, hlength, length_toBE]
    omega
  · rw [List.take_append_of_le_length (by omega), haddress]
  · rw [List.drop_append_of_le_length (by omega), hmessage,
      List.take_append_of_le_length (by simp), List.take_of_length_le (by simp),
      readPayload_scrambledMessage hrx]
  · rw [← hlength, List.drop_left, List.take_left, payloadCrc]

theorem xn297_emulation_consistent_short :
    ∃ payload, writePayload (setTxAddress ⟨Vector.replicate 5 0⟩ #v[1, 2, 3, 4, 5]).1 [0xA4, 7] 2 =
        some (true, some payload) ∧
      payload.length = 9 ∧
      readPayload (some ((payload.drop 5).take 2)) 2 = some (some [0xA4, 7]) := by
  obtain ⟨⟨payload, -, hwrite, hlength, -, -, -, hread, -⟩, -⟩ :=
    xn297_emulation_consistent ⟨Vector.replicate 5 0⟩ #v[1, 2, 3, 4, 5] [0xA4, 7] (by decide)
  exact ⟨payload, hwrite, hlength, hread⟩

end Xn297

end SilverwareTx
