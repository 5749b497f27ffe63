import SilverwareTx.Word
import SilverwareTx.Lib.BigEndian
import SilverwareTx.Lib.Cobs

/-!
# The bridge link

What travels between the transmitter and the ground station, apart from how either side computes it:

* `BridgeMessage.record` is the byte record of a message, over an arbitrary checksum;
* `Carries` says which byte strings carry a message, and that they carry no other;
* `frame` is the canonical string that does, with the zero byte that ends it.

Both decoders are shown to decide `Carries`, and the encoder to produce `frame`.
-/

namespace SilverwareTx

open BigEndian

/-- A message on the link. -/
structure BridgeMessage where
  messageType : U8
  sequence : U16
  timestampUs : U64
  payload : List U8

/-- The payload length that a message type prescribes. -/
def payloadLengthOf (messageType : U8) : Option ℕ :=
  if messageType = 1 then some 15 else if messageType = 2 then some 44 else none

theorem payloadLengthOf_le {messageType : U8} {n : ℕ} (h : payloadLengthOf messageType = some n) :
    n ≤ 44 := by
  unfold payloadLengthOf at h
  split_ifs at h <;> rw [Option.some.injEq] at h <;> omega

/-- `n` bytes from `i`. -/
def slice (bytes : List U8) (i n : ℕ) : List U8 := (bytes.drop i).take n

namespace BridgeMessage

/-- A message of a known type with the payload that its type prescribes. -/
def WellFormed (m : BridgeMessage) : Prop := payloadLengthOf m.messageType = some m.payload.length

theorem WellFormed.length_le {m : BridgeMessage} (h : m.WellFormed) : m.payload.length ≤ 44 :=
  payloadLengthOf_le h

/-- Version, type, payload length, sequence and timestamp, then the payload. -/
def body (m : BridgeMessage) : List U8 :=
  [1, m.messageType] ++ (toBE 2 m.payload.length ++ (toBE 2 m.sequence.toNat ++
    (toBE 8 m.timestampUs.toNat ++ m.payload)))

section Record

variable (crc : List U8 → U16)

/-- The body and its checksum. -/
def record (m : BridgeMessage) : List U8 := m.body ++ toBE 2 (crc m.body).toNat

/-- The frame of a message: its record, stuffed, and the delimiter. -/
def frame (m : BridgeMessage) : List U8 := Cobs.encode (m.record crc) ++ [0]

/-- `encoded` is a stuffed string that stands for the record of `m`. -/
def Carries (encoded : List U8) (m : BridgeMessage) : Prop :=
  Cobs.message encoded = some (m.record crc)

end Record

variable {crc : List U8 → U16} {m m' : BridgeMessage}

@[simp] theorem length_body (m : BridgeMessage) : m.body.length = 14 + m.payload.length := by
  simp [body]
  omega

@[simp] theorem length_record (m : BridgeMessage) :
    (m.record crc).length = 16 + m.payload.length := by
  simp [record]
  omega

theorem take_record (m : BridgeMessage) :
    (m.record crc).take (14 + m.payload.length) = m.body := by
  rw [record, ← length_body, List.take_left]

/-! ### The fields of a record -/

section Fields

variable (m)

theorem getD_record_zero : (m.record crc).getD 0 0 = 1 := by simp [record, body]

theorem getD_record_one : (m.record crc).getD 1 0 = m.messageType := by simp [record, body]

theorem slice_record_length : slice (m.record crc) 2 2 = toBE 2 m.payload.length := by
  simp [slice, record, body]

theorem slice_record_sequence : slice (m.record crc) 4 2 = toBE 2 m.sequence.toNat := by
  simp [slice, record, body]

theorem slice_record_timestamp : slice (m.record crc) 6 8 = toBE 8 m.timestampUs.toNat := by
  simp [slice, record, body, List.drop_append, List.take_append]

theorem slice_record_payload : slice (m.record crc) 14 m.payload.length = m.payload := by
  simp (disch := simp) [slice, record, body, List.drop_append, List.drop_eq_nil_of_le]

theorem slice_record_crc :
    slice (m.record crc) (14 + m.payload.length) 2 = toBE 2 (crc m.body).toNat := by
  rw [slice, record, ← length_body, List.drop_left, List.take_of_length_le (by simp)]

end Fields

/-! ### A record from its fields -/

theorem slice_append_slice (r : List U8) (i a b : ℕ) :
    slice r i a ++ slice r (i + a) b = slice r i (a + b) := by
  rw [slice, slice, slice, List.take_add, List.drop_drop]

theorem length_slice {r : List U8} {i n : ℕ} (h : i + n ≤ r.length) : (slice r i n).length = n := by
  rw [slice, List.length_take, List.length_drop]
  omega

theorem toBE_ofBE_slice {r : List U8} {i n : ℕ} (h : i + n ≤ r.length) :
    toBE n (ofBE (slice r i n)) = slice r i n := by
  have hback := toBE_ofBE (slice r i n)
  rwa [length_slice h] at hback

/-- The number in the bytes of a field fits its width. -/
theorem ofBE_slice_lt {r : List U8} {i n : ℕ} (h : i + n ≤ r.length) :
    ofBE (slice r i n) < 256 ^ n := by
  have hlt := ofBE_lt (slice r i n)
  rwa [length_slice h] at hlt

/-- The message that a record with a payload of `n` bytes spells. -/
def ofRecord (r : List U8) (n : ℕ) : BridgeMessage where
  messageType := r.getD 1 0
  sequence := BitVec.ofNat 16 (ofBE (slice r 4 2))
  timestampUs := BitVec.ofNat 64 (ofBE (slice r 6 8))
  payload := slice r 14 n

theorem ofRecord_record (m : BridgeMessage) : ofRecord (m.record crc) m.payload.length = m := by
  have hseq : m.sequence.toNat < 256 ^ 2 := m.sequence.isLt
  have htime : m.timestampUs.toNat < 256 ^ 8 := m.timestampUs.isLt
  rw [ofRecord, getD_record_one, slice_record_sequence, slice_record_timestamp,
    slice_record_payload, ofBE_toBE_of_lt hseq, ofBE_toBE_of_lt htime, BitVec.ofNat_toNat,
    BitVec.ofNat_toNat, BitVec.setWidth_eq, BitVec.setWidth_eq]

/-- A byte string with the right length, version, payload length and checksum is a record. -/
theorem record_ofRecord {r : List U8} {n : ℕ} (hlength : r.length = 16 + n)
    (hversion : r.getD 0 0 = 1) (hpayload : ofBE (slice r 2 2) = n)
    (hcrc : ofBE (slice r (14 + n) 2) = (crc (r.take (14 + n))).toNat) :
    (ofRecord r n).record crc = r := by
  have hseq : (ofRecord r n).sequence.toNat = ofBE (slice r 4 2) := by
    have hlt : ofBE (slice r 4 2) < 2 ^ 16 := ofBE_slice_lt (by omega)
    rw [ofRecord, BitVec.toNat_ofNat, Nat.mod_eq_of_lt hlt]
  have htime : (ofRecord r n).timestampUs.toNat = ofBE (slice r 6 8) := by
    have hlt : ofBE (slice r 6 8) < 2 ^ 64 := ofBE_slice_lt (by omega)
    rw [ofRecord, BitVec.toNat_ofNat, Nat.mod_eq_of_lt hlt]
  have hpay : (ofRecord r n).payload = slice r 14 n := rfl
  have hhead : [1, (ofRecord r n).messageType] = slice r 0 2 := by
    cases r with
    | nil => rw [List.length_nil] at hlength; omega
    | cons a r =>
      obtain rfl : a = 1 := hversion
      cases r with
      | nil => simp at hlength; omega
      | cons b r => rfl
  have hcount : toBE 2 n = slice r 2 2 := by rw [← toBE_ofBE_slice (by omega), hpayload]
  have hbody : (ofRecord r n).body = r.take (14 + n) := by
    rw [body, hseq, htime, hpay, length_slice (by omega), hcount, hhead,
      toBE_ofBE_slice (by omega), toBE_ofBE_slice (by omega), slice_append_slice r 6 8 n,
      slice_append_slice r 4 2, slice_append_slice r 2 2, slice_append_slice r 0 2, slice,
      List.drop_zero]
    congr 1
    omega
  have hrest : slice r (14 + n) 2 = r.drop (14 + n) :=
    List.take_of_length_le (by rw [List.length_drop]; omega)
  rw [record, hbody, ← hcrc, toBE_ofBE_slice (by omega), hrest, List.take_append_drop]

/-- A byte string carries at most one message of a given payload length. -/
theorem Carries.unique {encoded : List U8} (h : Carries crc encoded m) (h' : Carries crc encoded m') :
    m = m' := by
  have hrec : m.record crc = m'.record crc := by
    rw [Carries] at h h'
    rw [h, Option.some.injEq] at h'
    exact h'
  have hlen : m.payload.length = m'.payload.length := by
    have := congrArg List.length hrec
    simpa using this
  rw [← @ofRecord_record crc m, hrec, hlen, ofRecord_record]

/-- The stuffed record of a message carries it. -/
theorem carries_encode (m : BridgeMessage) : Carries crc (Cobs.encode (m.record crc)) m :=
  Cobs.message_encode _

end BridgeMessage

end SilverwareTx
