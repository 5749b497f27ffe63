import Mathlib.Tactic

/-!
# Machine words and packets

Fixed-width integers of the firmware are bit vectors, microsecond times are integers, and a Bayang
packet is a vector of 15 bytes.
-/

namespace SilverwareTx

/-- `uint8_t` -/
abbrev U8 := BitVec 8

/-- `uint16_t` -/
abbrev U16 := BitVec 16

/-- `uint32_t` -/
abbrev U32 := BitVec 32

/-- `uint64_t` -/
abbrev U64 := BitVec 64

/-- `int16_t`, as the bits that carry it. -/
abbrev I16 := BitVec 16

/-- A mask of one bit tests that bit. -/
theorem and_twoPow_ne_zero_iff {w i : ℕ} (x : BitVec w) (hi : i < w) :
    x &&& BitVec.twoPow w i ≠ 0 ↔ x.getLsbD i = true := by
  have hne : BitVec.twoPow w i ≠ 0 := by
    intro hzero
    have hbit := congrArg (BitVec.getLsbD · i) hzero
    simp [hi] at hbit
  rw [BitVec.and_twoPow]
  cases x.getLsbD i with
  | false => simp
  | true => simpa using hne

/-- `BAYANG_PACKET_SIZE` -/
def bayangPacketSize : ℕ := 15

/-- `uint8_t packet[BAYANG_PACKET_SIZE]` -/
abbrev Packet := Vector U8 15

/-- `packet[i]` -/
def Packet.byte (packet : Packet) (i : ℕ) : U8 := packet.toList.getD i 0

theorem getD_toList (packet : Packet) (i : ℕ) : packet.toList.getD i 0 = packet.byte i := rfl

/-- `packet[i] = b` -/
def Packet.setByte (packet : Packet) (i : ℕ) (b : U8) : Packet := packet.setIfInBounds i b

theorem Packet.toList_setByte (packet : Packet) (i : ℕ) (b : U8) :
    (packet.setByte i b).toList = packet.toList.set i b := by
  rw [Packet.setByte, Vector.toList_setIfInBounds]

theorem Packet.byte_setByte_of_ne {packet : Packet} {i j : ℕ} (h : i ≠ j) (b : U8) :
    (packet.setByte i b).byte j = packet.byte j := by
  rw [byte, toList_setByte, List.getD_eq_getElem?_getD, List.getElem?_set_ne h, byte,
    List.getD_eq_getElem?_getD]

theorem Packet.byte_setByte_self {packet : Packet} {i : ℕ} (h : i < 15) (b : U8) :
    (packet.setByte i b).byte i = b := by
  rw [byte, toList_setByte, List.getD_eq_getElem?_getD,
    List.getElem?_set_self (by rwa [Vector.length_toList])]
  rfl

theorem Packet.setByte_comm {packet : Packet} {i j : ℕ} (h : i ≠ j) (a b : U8) :
    (packet.setByte i a).setByte j b = (packet.setByte j b).setByte i a :=
  Vector.setIfInBound_comm a b h

theorem Packet.setByte_setByte (packet : Packet) (i : ℕ) (a b : U8) :
    (packet.setByte i a).setByte i b = packet.setByte i b :=
  Vector.setIfInBounds_setIfInBounds a

end SilverwareTx
