import SilverwareTx.Word

/-!
# The radio as the control loop sees it (`radio/xn297.cpp`, `radio/radio_validation.h`)
-/

namespace SilverwareTx

/-- `enum class Xn297TxStatus` -/
inductive Xn297TxStatus
  | pending
  | sent
  | error
  deriving DecidableEq, Repr

/-- `nrf24_payload_length_valid` -/
def nrf24PayloadLengthValid (length : ℕ) : Bool := decide (1 ≤ length ∧ length ≤ 32)

/-- `xn297_tx_payload_length_valid` -/
def xn297TxPayloadLengthValid (length : ℕ) : Bool := decide (1 ≤ length ∧ length ≤ 25)

/-- `NRF24_RX_DR`, the data-ready bit of `STATUS`. -/
def nrf24RxDr : U8 := 0x40

/-- `xn297_decode_tx_status` -/
def xn297DecodeTxStatus (status : U8) : Xn297TxStatus :=
  let txSent : U8 := 0x20
  let maxRetries : U8 := 0x10
  if status &&& maxRetries ≠ 0 then .error
  else if status &&& txSent ≠ 0 then .sent
  else .pending

/-- `xn297_is_rx_ready` on the value of `STATUS`. -/
def xn297IsRxReady (status : U8) : Bool := status &&& nrf24RxDr != 0

/-- The result of `xn297_set_rx_address`. -/
def xn297SetRxAddress (payloadLen : ℕ) : Bool := nrf24PayloadLengthValid payloadLen

/-- The result of `xn297_write_payload`, given that of `nrf24_write_payload`. -/
def xn297WritePayload (len : ℕ) (nrf24Ok : Bool) : Bool :=
  if !xn297TxPayloadLengthValid len then false else nrf24Ok

/-- The result of `xn297_read_payload`, given what `nrf24_read_payload` decodes to. -/
def xn297ReadPayload (len : ℕ) (received : Option Packet) : Option Packet :=
  if !nrf24PayloadLengthValid len then none else received

end SilverwareTx
