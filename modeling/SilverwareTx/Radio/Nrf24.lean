import SilverwareTx.Lib.SpiBus
import SilverwareTx.Radio.Xn297Emulation

/-!
# The nRF24 driver on its bus (`radio/nrf24.cpp`)

Each function of the driver is the list of what it does to the lines, CE being the pin of `SpiBus`;
what the chip answers on MISO is an argument where the function branches on it. `Told` is the chip's
side of the bus: the registers as they were last written, and the payload accesses with the registers
at that moment. Nothing is said of what the chip does with them.

Delays and pin modes are left out.
-/

namespace SilverwareTx

namespace Nrf24

open SpiBus Xn297

/-- What happens on the pins and the SPI bus. -/
abbrev BusEvent := SpiBus.Event U8

/-! ### Commands and registers -/

/-- `NRF24_R_REGISTER` -/
def rRegister : U8 := 0x00

/-- `NRF24_W_REGISTER` -/
def wRegister : U8 := 0x20

/-- `NRF24_R_RX_PAYLOAD` -/
def rRxPayload : U8 := 0x61

/-- `NRF24_W_TX_PAYLOAD` -/
def wTxPayload : U8 := 0xA0

/-- `NRF24_FLUSH_TX` -/
def flushTxCommand : U8 := 0xE1

/-- `NRF24_FLUSH_RX` -/
def flushRxCommand : U8 := 0xE2

/-- `NRF24_NOP` -/
def nop : U8 := 0xFF

/-- `NRF24_REG_CONFIG` -/
def regConfig : U8 := 0x00

/-- `NRF24_REG_EN_AA` -/
def regEnAa : U8 := 0x01

/-- `NRF24_REG_EN_RXADDR` -/
def regEnRxaddr : U8 := 0x02

/-- `NRF24_REG_SETUP_AW` -/
def regSetupAw : U8 := 0x03

/-- `NRF24_REG_SETUP_RETR` -/
def regSetupRetr : U8 := 0x04

/-- `NRF24_REG_RF_CH` -/
def regRfCh : U8 := 0x05

/-- `NRF24_REG_RF_SETUP` -/
def regRfSetup : U8 := 0x06

/-- `NRF24_REG_STATUS` -/
def regStatus : U8 := 0x07

/-- `NRF24_REG_DYNPD` -/
def regDynpd : U8 := 0x1C

/-- `NRF24_REG_FEATURE` -/
def regFeature : U8 := 0x1D

/-! ### The driver -/

/-- `nrf24_read_reg_multi` -/
def readRegMulti (reg : U8) (len : ℕ) : List BusEvent :=
  command ((rRegister ||| (reg &&& 0x1F)) :: List.replicate len 0xFF)

/-- `nrf24_write_reg_multi` -/
def writeRegMulti (reg : U8) (buf : List U8) : List BusEvent :=
  command ((wRegister ||| (reg &&& 0x1F)) :: buf)

/-- `nrf24_read_reg` -/
def readReg (reg : U8) : List BusEvent := readRegMulti reg 1

/-- `nrf24_write_reg` -/
def writeReg (reg value : U8) : List BusEvent := writeRegMulti reg [value]

/-- `nrf24_flush_tx` -/
def flushTx : List BusEvent := command [flushTxCommand]

/-- `nrf24_flush_rx` -/
def flushRx : List BusEvent := command [flushRxCommand]

/-- `nrf24_write_payload`: its result and what it does. -/
def writePayload (buf : List U8) : Bool × List BusEvent :=
  if !nrf24PayloadLengthValid buf.length then (false, []) else (true, command (wTxPayload :: buf))

/-- `nrf24_read_payload` -/
def readPayload (len : ℕ) : Bool × List BusEvent :=
  if !nrf24PayloadLengthValid len then (false, [])
  else (true, command (rRxPayload :: List.replicate len 0xFF))

/-- `nrf24_set_tx_mode` -/
def setTxMode : List BusEvent := [.pin false] ++ flushTx ++ writeReg regConfig 0x02 ++ [.pin true]

/-- `nrf24_set_rx_mode` -/
def setRxMode : List BusEvent := [.pin false] ++ flushRx ++ writeReg regConfig 0x03 ++ [.pin true]

/-- `nrf24_set_standby` -/
def setStandby : List BusEvent := [.pin false] ++ writeReg regConfig 0x00

/-- `nrf24_set_channel` -/
def setChannel (channel : U8) : List BusEvent := writeReg regRfCh channel

/-- `nrf24_clear_irq_flags` -/
def clearIrqFlags : List BusEvent := writeReg regStatus (0x40 ||| 0x20 ||| 0x10)

/-- `nrf24_get_status` -/
def getStatus : List BusEvent := command [nop]

/-- `nrf24_test`, with the two values that the channel register reads as. -/
def test (original test : U8) : Bool × List BusEvent :=
  (test == 0x55,
    readReg regRfCh ++ writeReg regRfCh 0x55 ++ readReg regRfCh ++ writeReg regRfCh original)

/-- `rf_setup` of `nrf24_init` for `BAYANG_RF_POWER`. -/
def rfSetup (power : ℕ) : U8 :=
  if power = 0 then 0x00 else if power = 1 then 0x02 else if power = 2 then 0x04 else 0x06

/-- `BAYANG_RF_POWER` -/
def bayangRfPower : ℕ := 3

/-- `nrf24_init` up to the test. -/
def configure : List BusEvent :=
  [.pin false, .deselect] ++ setStandby ++ flushTx ++ flushRx ++ writeReg regEnAa 0x00 ++
    writeReg regEnRxaddr 0x01 ++ writeReg regSetupAw 0x03 ++ writeReg regSetupRetr 0x00 ++
    writeReg regRfSetup (rfSetup bayangRfPower) ++ writeReg regDynpd 0x00 ++
    writeReg regFeature 0x01

/-- `nrf24_init`, with the answers to its test. -/
def init (original answer : U8) : Bool × List BusEvent :=
  let tested := test original answer
  if !tested.1 then (false, configure ++ tested.2)
  else (true, configure ++ tested.2 ++ writeReg regConfig 0x02)

/-! ### What the chip was told -/

/-- The registers and CE when a payload is accessed, each register as it was last written. -/
structure Context where
  ce : Bool
  config : List U8
  enAa : List U8
  enRxaddr : List U8
  setupAw : List U8
  setupRetr : List U8
  rfCh : List U8
  rfSetup : List U8
  rxAddrP0 : List U8
  txAddr : List U8
  rxPwP0 : List U8
  dynpd : List U8
  feature : List U8
  deriving DecidableEq

/-- An access to a payload. `flushed` is whether its FIFO was flushed since the last such access. -/
inductive Access
  | write (context : Context) (flushed : Bool) (payload : List U8)
  | read (context : Context) (flushed : Bool) (length : ℕ)
  deriving DecidableEq

/-- CE and the registers as the chip was last told, and the payload accesses so far. -/
structure Told where
  ce : Bool := false
  registers : U8 → List U8 := fun _ => []
  txFlushed : Bool := false
  rxFlushed : Bool := false
  accesses : List Access := []

/-- The context of an access at this point. -/
def Told.context (t : Told) : Context where
  ce := t.ce
  config := t.registers regConfig
  enAa := t.registers regEnAa
  enRxaddr := t.registers regEnRxaddr
  setupAw := t.registers regSetupAw
  setupRetr := t.registers regSetupRetr
  rfCh := t.registers regRfCh
  rfSetup := t.registers regRfSetup
  rxAddrP0 := t.registers nrf24RegRxAddrP0
  txAddr := t.registers nrf24RegTxAddr
  rxPwP0 := t.registers nrf24RegRxPwP0
  dynpd := t.registers regDynpd
  feature := t.registers regFeature

/-- A command word says what the words after it are. -/
def Told.command (t : Told) : List U8 → Told
  | [] => t
  | first :: rest =>
    if first &&& 0xE0 = wRegister then
      { t with registers := Function.update t.registers (first &&& 0x1F) rest }
    else if first = wTxPayload then
      { t with txFlushed := false, accesses := t.accesses ++ [.write t.context t.txFlushed rest] }
    else if first = rRxPayload then
      { t with
        rxFlushed := false
        accesses := t.accesses ++ [.read t.context t.rxFlushed rest.length] }
    else if first = flushTxCommand then { t with txFlushed := true }
    else if first = flushRxCommand then { t with rxFlushed := true }
    else t

/-- The chip's side of the bus. -/
def chip : Chip U8 Told where
  pin t high := { t with ce := high }
  command := Told.command

/-- A listener between two commands. -/
def idle (t : Told) : Listener U8 Told := ⟨t, .idle, true⟩

/-- The listener after a list of events. -/
abbrev listen (l : Listener U8 Told) (events : List BusEvent) : Listener U8 Told :=
  Listener.listen chip l events

/-- A write of a register. -/
def Told.set (t : Told) (reg : U8) (value : List U8) : Told :=
  { t with registers := Function.update t.registers reg value }

section Commands

variable (t : Told)

@[simp] theorem listen_pin (high : Bool) (events : List BusEvent) :
    listen (idle t) (.pin high :: events) = listen (idle { t with ce := high }) events := rfl

@[simp] theorem listen_deselect (events : List BusEvent) :
    listen (idle t) (.deselect :: events) = listen (idle t) events := rfl

theorem listen_command (words : List U8) :
    listen (idle t) (command words) = idle (t.command words) := Listener.listen_command words

theorem listen_writeRegMulti {reg : U8} (hreg : reg &&& 0x1F = reg) (buf : List U8) :
    listen (idle t) (writeRegMulti reg buf) = idle (t.set reg buf) := by
  have hfirst : (wRegister ||| (reg &&& 0x1F)) &&& 0xE0 = wRegister ∧
      (wRegister ||| (reg &&& 0x1F)) &&& 0x1F = reg &&& 0x1F := by
    clear hreg
    revert reg
    decide
  rw [hreg] at hfirst
  rw [writeRegMulti, listen_command, Told.command, hreg, if_pos hfirst.1, hfirst.2]
  rfl

theorem listen_writeReg {reg : U8} (hreg : reg &&& 0x1F = reg) (value : U8) :
    listen (idle t) (writeReg reg value) = idle (t.set reg [value]) :=
  listen_writeRegMulti t hreg [value]

/-- A read leaves what the chip was told. -/
@[simp] theorem listen_readReg (reg : U8) : listen (idle t) (readReg reg) = idle t := by
  have hkinds : (rRegister ||| (reg &&& 0x1F)) &&& 0xE0 ≠ wRegister ∧
      rRegister ||| (reg &&& 0x1F) ≠ wTxPayload ∧ rRegister ||| (reg &&& 0x1F) ≠ rRxPayload ∧
      rRegister ||| (reg &&& 0x1F) ≠ flushTxCommand ∧
      rRegister ||| (reg &&& 0x1F) ≠ flushRxCommand := by
    revert reg
    decide
  obtain ⟨hwrite, htx, hrx, hflush, hflush'⟩ := hkinds
  rw [readReg, readRegMulti, listen_command, Told.command, if_neg hwrite, if_neg htx, if_neg hrx,
    if_neg hflush, if_neg hflush']

@[simp] theorem listen_flushTx : listen (idle t) flushTx = idle { t with txFlushed := true } :=
  listen_command t _

@[simp] theorem listen_flushRx : listen (idle t) flushRx = idle { t with rxFlushed := true } :=
  listen_command t _

@[simp] theorem listen_getStatus : listen (idle t) getStatus = idle t := listen_command t _

@[simp] theorem listen_append (l : Listener U8 Told) (events events' : List BusEvent) :
    listen l (events ++ events') = listen (listen l events) events' :=
  Listener.listen_append l events events'

@[simp] theorem listen_nil (l : Listener U8 Told) : listen l [] = l := rfl

/-- A payload that is written. -/
theorem listen_writePayload {buf : List U8} (h : nrf24PayloadLengthValid buf.length = true) :
    listen (idle t) (writePayload buf).2 =
      idle { t with
        txFlushed := false
        accesses := t.accesses ++ [.write t.context t.txFlushed buf] } := by
  rw [writePayload, h]
  exact listen_command t _

/-- A payload that is read. -/
theorem listen_readPayload {len : ℕ} (h : nrf24PayloadLengthValid len = true) :
    listen (idle t) (readPayload len).2 =
      idle { t with
        rxFlushed := false
        accesses := t.accesses ++ [.read t.context t.rxFlushed len] } := by
  rw [readPayload, h]
  refine (listen_command t _).trans ?_
  change idle { t with rxFlushed := false, accesses := t.accesses ++
    [.read t.context t.rxFlushed (List.replicate len (0xFF : U8)).length] } = _
  rw [List.length_replicate]

@[simp] theorem listen_setTxMode :
    listen (idle t) setTxMode = idle { t.set regConfig [0x02] with ce := true, txFlushed := true } := by
  rw [setTxMode, listen_append, listen_append, listen_append, listen_pin, listen_nil,
    listen_flushTx, listen_writeReg _ (by decide)]
  rfl

@[simp] theorem listen_setRxMode :
    listen (idle t) setRxMode = idle { t.set regConfig [0x03] with ce := true, rxFlushed := true } := by
  rw [setRxMode, listen_append, listen_append, listen_append, listen_pin, listen_nil,
    listen_flushRx, listen_writeReg _ (by decide)]
  rfl

end Commands

end Nrf24

end SilverwareTx
