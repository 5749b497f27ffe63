import SilverwareTx.ControlLoop.RadioFault
import SilverwareTx.Radio.Nrf24

/-!
# The control loop on the radio's bus

What the start and each cycle of the loop do on the lines of the nRF24, and what the chip is told by
them: `bus_follows_loop` says that the payloads written are the transmissions of the loop, each with
the channel, the address and the set-up of that transmission and a flushed FIFO.
-/

namespace SilverwareTx

open SpiBus Xn297 Nrf24

/-! ### The functions of `xn297.cpp` on the bus -/

/-- `nrf24_write_reg_multi` -/
def Xn297.RegisterWrite.events (w : RegisterWrite) : List BusEvent := writeRegMulti w.reg w.bytes

/-- `xn297_set_tx_mode`: the interrupt flags are cleared before the mode is set. -/
def xn297SetTxMode : List BusEvent := clearIrqFlags ++ setTxMode

/-- `xn297_set_rx_mode`: the interrupt flags are cleared before the mode is set. -/
def xn297SetRxMode : List BusEvent := clearIrqFlags ++ setRxMode

/-- `xn297_write_payload`: what reaches the driver. -/
def xn297WriteEvents (address : Vector U8 5) (packet : Packet) : List BusEvent :=
  match Xn297.writePayload ⟨address⟩ packet.toList bayangPacketSize with
  | some (_, some buf) => (Nrf24.writePayload buf).2
  | _ => []

/-- `xn297_read_payload` -/
def xn297ReadEvents (len : ℕ) : List BusEvent :=
  if !nrf24PayloadLengthValid len then [] else (Nrf24.readPayload len).2

/-! ### The loop -/

/-- The loop of `transmit_packet`. -/
def pollEvents (startUs : ℤ) : List (ℤ × U8) → List BusEvent
  | [] => []
  | (nowUs, status) :: polls =>
    if nowUs - startUs ≤ radioTxTimeoutUs then
      getStatus ++
        match xn297DecodeTxStatus status with
        | .sent => []
        | .error => []
        | .pending => pollEvents startUs polls
    else []

/-- The transmission of a cycle, up to the result of `transmit_packet`. -/
def transmitEvents (tx : Transmission) (i : CycleInput) : List BusEvent :=
  (setTxAddress ⟨tx.address⟩ tx.address).2.events ++ setChannel tx.rfChannel ++ xn297SetTxMode ++
    xn297WriteEvents tx.address tx.packet ++ pollEvents i.txStartUs i.txPolls

/-- The receive loop. -/
def receiveEvents (receiveDeadlineUs : ℤ) : List RxPoll → List BusEvent
  | [] => []
  | poll :: polls =>
    if poll.nowUs < receiveDeadlineUs then
      if poll.irqAsserted then
        getStatus ++
          if xn297IsRxReady poll.status then xn297ReadEvents bayangPacketSize
          else receiveEvents receiveDeadlineUs polls
      else receiveEvents receiveDeadlineUs polls
    else []

/-- What a cycle does on the bus. -/
def cycleEvents (c : Setup) (s : LoopState) (i : CycleInput) : List BusEvent :=
  match transmission c s i with
  | none => []
  | some tx =>
    transmitEvents tx i ++
      if packetSent c s i && !(stateAtBuild s i = .binding) then
        xn297SetRxMode ++ receiveEvents (i.cycleStartUs + telemetryRxDeadlineUs) i.rxPolls
      else []

/-- What `setup` and the start of the task do on the bus, with the answers to the radio's test. -/
def startEvents (c : Setup) (original answer : U8) : List BusEvent :=
  (Nrf24.init original answer).2 ++
    if (Nrf24.init original answer).1 && bayangEnableTelemetry then
      match setRxAddress c.txId bayangPacketSize with
      | some (_, writes) => writes.flatMap RegisterWrite.events
      | none => []
    else []

/-- The setup that the answers of the radio make. -/
def Setup.withRadio (c : Setup) (original answer : U8) : Setup :=
  { c with radioInitialized := (Nrf24.init original answer).1 }

/-- The bus up to cycle `n`. -/
def runEvents (c : Setup) (original answer : U8) (ins : ℕ → CycleInput) (n : ℕ) : List BusEvent :=
  startEvents c original answer ++ (List.range n).flatMap fun k =>
    cycleEvents (c.withRadio original answer) (loopState (c.withRadio original answer) ins k) (ins k)

/-! ### What the chip should be told -/

/-- The registers of a transmission: standard frames of one megabit without acknowledgement,
retransmission or checksum, on the transmission's channel. -/
def txContext (c : Setup) (tx : Transmission) : Context where
  ce := true
  config := [0x02]
  enAa := [0x00]
  enRxaddr := [0x01]
  setupAw := [0x03]
  setupRetr := [0x00]
  rfCh := [tx.rfChannel]
  rfSetup := [0x06]
  rxAddrP0 := physicalAddress c.txId
  txAddr := [0x55, 0x0F, 0x71, 0x0C, 0x00]
  rxPwP0 := [15]
  dynpd := [0x00]
  feature := [0x01]

/-- The registers of the answer: the same, in receive mode. -/
def rxContext (c : Setup) (tx : Transmission) : Context := { txContext c tx with config := [0x03] }

/-- The bytes on the air: address, packet and CRC. -/
def onAir (tx : Transmission) : List U8 :=
  scrambled tx.address tx.packet.toList ++
    BigEndian.toBE 2 (payloadCrc tx.address tx.packet.toList).toNat

/-- The payload accesses of a cycle. -/
def cycleAccesses (c : Setup) (s : LoopState) (i : CycleInput) : List Access :=
  match transmission c s i with
  | none => []
  | some tx =>
    .write (txContext c tx) true (onAir tx) ::
      if (servedPoll c s i).isSome then [.read (rxContext c tx) true bayangPacketSize] else []

/-! ### One cycle -/

/-- The set-up that no cycle changes. -/
structure Configured (c : Setup) (t : Told) : Prop where
  enAa : t.registers regEnAa = [0x00]
  enRxaddr : t.registers regEnRxaddr = [0x01]
  setupAw : t.registers regSetupAw = [0x03]
  setupRetr : t.registers regSetupRetr = [0x00]
  rfSetup : t.registers regRfSetup = [0x06]
  rxAddrP0 : t.registers nrf24RegRxAddrP0 = physicalAddress c.txId
  rxPwP0 : t.registers nrf24RegRxPwP0 = [15]
  dynpd : t.registers regDynpd = [0x00]
  feature : t.registers regFeature = [0x01]

section Cycle

variable {c : Setup} {s : LoopState} {i : CycleInput} {t : Told}

theorem listen_pollEvents (t : Told) (startUs : ℤ) (polls : List (ℤ × U8)) :
    listen (idle t) (pollEvents startUs polls) = idle t := by
  induction polls with
  | nil => rfl
  | cons poll polls ih =>
    obtain ⟨nowUs, status⟩ := poll
    unfold pollEvents
    split_ifs
    · rw [listen_append, listen_getStatus]
      cases xn297DecodeTxStatus status with
      | pending => exact ih
      | sent => rfl
      | error => rfl
    · rfl

/-- The receive loop reads a payload exactly when a turn serves one. -/
theorem listen_receiveEvents (t : Told) (deadline : ℤ) (polls : List RxPoll) :
    listen (idle t) (receiveEvents deadline polls) =
      if (receiveLoop deadline polls).isSome then
        idle { t with
          rxFlushed := false
          accesses := t.accesses ++ [.read t.context t.rxFlushed bayangPacketSize] }
      else idle t := by
  induction polls with
  | nil => rfl
  | cons poll polls ih =>
    unfold receiveEvents receiveLoop
    by_cases hdeadline : poll.nowUs < deadline
    · rw [if_pos hdeadline, if_pos hdeadline]
      cases hirq : poll.irqAsserted with
      | false => exact ih
      | true =>
        rw [if_pos rfl, listen_append, listen_getStatus]
        cases hready : xn297IsRxReady poll.status with
        | false => exact ih
        | true => exact listen_readPayload t (by decide)
    · rw [if_neg hdeadline, if_neg hdeadline]
      rfl

theorem listen_xn297WriteEvents (t : Told) (tx : Transmission) :
    listen (idle t) (xn297WriteEvents tx.address tx.packet) =
      idle { t with
        txFlushed := false
        accesses := t.accesses ++ [.write t.context t.txFlushed (onAir tx)] } := by
  have hlen : tx.packet.toList.length = bayangPacketSize := Vector.length_toList
  have hvalid : nrf24PayloadLengthValid (onAir tx).length = true := by
    rw [onAir, List.length_append, length_scrambled, BigEndian.length_toBE, hlen]
    decide
  have hfits : xn297TxPayloadLengthValid tx.packet.toList.length = true := by
    rw [hlen]
    decide
  have hwrite := writePayload_eq ⟨tx.address⟩ hfits
  rw [hlen] at hwrite
  rw [xn297WriteEvents, hwrite]
  exact listen_writePayload t hvalid

/-- The writes of a cycle leave the set-up. -/
theorem Configured.set (h : Configured c t) {reg : U8} (value : List U8)
    (hreg : reg = regConfig ∨ reg = regRfCh ∨ reg = regStatus ∨ reg = nrf24RegTxAddr) :
    Configured c (t.set reg value) := by
  have hframe : ∀ reg', reg' ≠ regConfig → reg' ≠ regRfCh → reg' ≠ regStatus →
      reg' ≠ nrf24RegTxAddr → (t.set reg value).registers reg' = t.registers reg' := by
    intro reg' hconfig hch hstatus htx
    refine Function.update_of_ne ?_ _ _
    rcases hreg with rfl | rfl | rfl | rfl <;> assumption
  constructor
  · exact (hframe regEnAa (by decide) (by decide) (by decide) (by decide)).trans h.enAa
  · exact (hframe regEnRxaddr (by decide) (by decide) (by decide) (by decide)).trans h.enRxaddr
  · exact (hframe regSetupAw (by decide) (by decide) (by decide) (by decide)).trans h.setupAw
  · exact (hframe regSetupRetr (by decide) (by decide) (by decide) (by decide)).trans h.setupRetr
  · exact (hframe regRfSetup (by decide) (by decide) (by decide) (by decide)).trans h.rfSetup
  · exact (hframe nrf24RegRxAddrP0 (by decide) (by decide) (by decide) (by decide)).trans h.rxAddrP0
  · exact (hframe nrf24RegRxPwP0 (by decide) (by decide) (by decide) (by decide)).trans h.rxPwP0
  · exact (hframe regDynpd (by decide) (by decide) (by decide) (by decide)).trans h.dynpd
  · exact (hframe regFeature (by decide) (by decide) (by decide) (by decide)).trans h.feature

/-- What the chip was told when the packet is written. -/
def toldBefore (t : Told) (tx : Transmission) : Told :=
  { (((t.set nrf24RegTxAddr [0x55, 0x0F, 0x71, 0x0C, 0x00]).set regRfCh [tx.rfChannel]).set regStatus
      [0x70]).set regConfig [0x02] with
    ce := true
    txFlushed := true }

/-- What the chip was told when the receive loop starts. -/
def toldListening (t : Told) : Told :=
  { (t.set regStatus [0x70]).set regConfig [0x03] with
    ce := true
    rxFlushed := true }

/-- Only the registers matter. -/
theorem Configured.congr {t' : Told} (h : Configured c t) (ht : t'.registers = t.registers) :
    Configured c t' where
  enAa := by rw [ht, h.enAa]
  enRxaddr := by rw [ht, h.enRxaddr]
  setupAw := by rw [ht, h.setupAw]
  setupRetr := by rw [ht, h.setupRetr]
  rfSetup := by rw [ht, h.rfSetup]
  rxAddrP0 := by rw [ht, h.rxAddrP0]
  rxPwP0 := by rw [ht, h.rxPwP0]
  dynpd := by rw [ht, h.dynpd]
  feature := by rw [ht, h.feature]

theorem Configured.toldBefore (h : Configured c t) (tx : Transmission) :
    Configured c (toldBefore t tx) := by
  have haddr := h.set [0x55, 0x0F, 0x71, 0x0C, 0x00] (.inr (.inr (.inr rfl)))
  have hch := haddr.set [tx.rfChannel] (.inr (.inl rfl))
  have hstatus := hch.set [0x70] (.inr (.inr (.inl rfl)))
  exact (hstatus.set [0x02] (.inl rfl)).congr rfl

theorem Configured.toldListening (h : Configured c t) : Configured c (toldListening t) := by
  have hstatus := h.set [0x70] (.inr (.inr (.inl rfl)))
  exact (hstatus.set [0x03] (.inl rfl)).congr rfl

/-- The registers when the packet is written are those of the transmission. -/
theorem Configured.context_toldBefore (h : Configured c t) (tx : Transmission) :
    (SilverwareTx.toldBefore t tx).context = txContext c tx := by
  have hb := h.toldBefore tx
  rw [Told.context, hb.enAa, hb.enRxaddr, hb.setupAw, hb.setupRetr, hb.rfSetup, hb.rxAddrP0,
    hb.rxPwP0, hb.dynpd, hb.feature]
  rfl

theorem Configured.context_toldListening (h : Configured c t) {tx : Transmission}
    (hcontext : t.context = txContext c tx) :
    (SilverwareTx.toldListening t).context = rxContext c tx := by
  have hch : (SilverwareTx.toldListening t).registers regRfCh = [tx.rfChannel] :=
    congrArg Context.rfCh hcontext
  have haddr : (SilverwareTx.toldListening t).registers nrf24RegTxAddr =
      [0x55, 0x0F, 0x71, 0x0C, 0x00] := congrArg Context.txAddr hcontext
  have hl := h.toldListening
  rw [Told.context, hl.enAa, hl.enRxaddr, hl.setupAw, hl.setupRetr, hl.rfSetup, hl.rxAddrP0,
    hl.rxPwP0, hl.dynpd, hl.feature, hch, haddr]
  rfl

theorem listen_transmitEvents (t : Told) (tx : Transmission) (i : CycleInput) :
    listen (idle t) (transmitEvents tx i) =
      idle { toldBefore t tx with
        txFlushed := false
        accesses := t.accesses ++ [.write (toldBefore t tx).context true (onAir tx)] } := by
  have haddress : listen (idle t) (setTxAddress ⟨tx.address⟩ tx.address).2.events =
      idle (t.set nrf24RegTxAddr [0x55, 0x0F, 0x71, 0x0C, 0x00]) :=
    listen_writeRegMulti t (show nrf24RegTxAddr &&& 0x1F = nrf24RegTxAddr by decide) _
  rw [transmitEvents, listen_append, listen_append, listen_append, listen_append, haddress,
    setChannel, listen_writeReg _ (by decide), xn297SetTxMode, listen_append, clearIrqFlags,
    listen_writeReg _ (by decide), listen_setTxMode]
  change listen (listen (idle (toldBefore t tx)) _) _ = _
  rw [listen_xn297WriteEvents, listen_pollEvents]
  rfl

theorem listen_xn297SetRxMode (t : Told) :
    listen (idle t) xn297SetRxMode = idle (toldListening t) := by
  rw [xn297SetRxMode, listen_append, clearIrqFlags, listen_writeReg _ (by decide), listen_setRxMode]
  rfl

/-- **One cycle on the bus.** -/
theorem listen_cycleEvents (h : Configured c t) (s : LoopState) (i : CycleInput) :
    ∃ t', listen (idle t) (cycleEvents c s i) = idle t' ∧ Configured c t' ∧
      t'.accesses = t.accesses ++ cycleAccesses c s i := by
  unfold cycleEvents cycleAccesses
  cases htx : transmission c s i with
  | none => exact ⟨t, rfl, h, by simp⟩
  | some tx =>
    dsimp only
    have hbefore := h.toldBefore tx
    rw [listen_append, listen_transmitEvents, h.context_toldBefore]
    set sent : Told := { toldBefore t tx with
      txFlushed := false
      accesses := t.accesses ++ [.write (txContext c tx) true (onAir tx)] } with hsent
    have hconfigured : Configured c sent := hbefore.congr rfl
    have hcontext : sent.context = txContext c tx := h.context_toldBefore tx
    unfold servedPoll
    split_ifs with hanswered hserved hserved
    · rw [listen_append, listen_xn297SetRxMode, listen_receiveEvents, if_pos hserved,
        hconfigured.context_toldListening hcontext]
      exact ⟨_, rfl, hconfigured.toldListening.congr rfl, List.append_assoc _ _ _⟩
    · rw [listen_append, listen_xn297SetRxMode, listen_receiveEvents, if_neg hserved]
      exact ⟨_, rfl, hconfigured.toldListening, rfl⟩
    · simp at hserved
    · exact ⟨sent, rfl, hconfigured, rfl⟩

end Cycle

/-! ### The start and the run -/

/-- What the chip was told by `nrf24_init` up to its test. -/
def toldConfigured : Told :=
  ((((((({ ({} : Told).set regConfig [0x00] with txFlushed := true, rxFlushed := true }.set regEnAa
    [0x00]).set regEnRxaddr [0x01]).set regSetupAw [0x03]).set regSetupRetr [0x00]).set regRfSetup
    [0x06]).set regDynpd [0x00]).set regFeature [0x01])

theorem listen_configure : listen (idle {}) configure = idle toldConfigured := by
  unfold configure setStandby
  simp (disch := decide) only [listen_append, listen_pin, listen_deselect, listen_nil,
    listen_writeReg, listen_flushTx, listen_flushRx]
  rfl

theorem listen_test (t : Told) (original answer : U8) :
    listen (idle t) (Nrf24.test original answer).2 =
      idle ((t.set regRfCh [0x55]).set regRfCh [original]) := by
  unfold Nrf24.test
  simp (disch := decide) only [listen_append, listen_readReg, listen_writeReg]

theorem listen_rxAddress (t : Told) (address : List U8) :
    listen (idle t) ([⟨nrf24RegRxAddrP0, address⟩,
      ⟨nrf24RegRxPwP0, [BitVec.ofNat 8 bayangPacketSize]⟩].flatMap RegisterWrite.events) =
        idle ((t.set nrf24RegRxAddrP0 address).set nrf24RegRxPwP0 [15]) := by
  rw [List.flatMap_cons, List.flatMap_cons, List.flatMap_nil, List.append_nil, listen_append]
  change listen (listen (idle t) (writeRegMulti nrf24RegRxAddrP0 address))
    (writeRegMulti nrf24RegRxPwP0 [15]) = _
  rw [listen_writeRegMulti _ (by decide), listen_writeRegMulti _ (by decide)]

/-- After a start with a working radio the chip is set up for the loop. -/
theorem listen_startEvents (c : Setup) {original answer : U8}
    (hinit : (Nrf24.init original answer).1 = true) :
    ∃ t, listen (idle {}) (startEvents c original answer) = idle t ∧ Configured c t ∧
      t.accesses = [] := by
  have htested : (Nrf24.test original answer).1 = true := by
    by_contra hfailed
    rw [Bool.not_eq_true] at hfailed
    simp [Nrf24.init, hfailed] at hinit
  have hevents : (Nrf24.init original answer).2 =
      configure ++ (Nrf24.test original answer).2 ++ writeReg regConfig 0x02 := by
    simp [Nrf24.init, htested]
  refine ⟨(((((toldConfigured.set regRfCh [0x55]).set regRfCh [original]).set regConfig [0x02]).set
    nrf24RegRxAddrP0 (physicalAddress c.txId)).set nrf24RegRxPwP0 [15]), ?_, ?_, rfl⟩
  · rw [startEvents, hinit, hevents, setRxAddress_eq c.txId (by decide)]
    rw [listen_append, listen_append, listen_append, listen_configure, listen_test,
      listen_writeReg _ (by decide)]
    exact listen_rxAddress _ _
  · exact ⟨rfl, rfl, rfl, rfl, rfl, rfl, rfl, rfl, rfl⟩

/-- **The bus follows the loop.** In every run, from power-up and with whatever the radio answers,
every word is shifted in a transaction of the selected chip; the payloads that the chip is told to
send are the loop's transmissions in order, one each, encoded as XN297 packets, into a flushed FIFO
with CE high and the registers of that transmission; and a payload is read exactly where the receive
loop serves one, in receive mode on the channel of the transmission before it. -/
theorem bus_follows_loop (c : Setup) (original answer : U8) (ins : ℕ → CycleInput) (n : ℕ) :
    ∃ t, listen (idle {}) (runEvents c original answer ins n) = idle t ∧
      t.accesses = (List.range n).flatMap fun k =>
        cycleAccesses (c.withRadio original answer)
          (loopState (c.withRadio original answer) ins k) (ins k) := by
  cases hinit : (Nrf24.init original answer).1 with
  | true =>
    have hrun : ∃ t, listen (idle {}) (runEvents c original answer ins n) = idle t ∧
        Configured (c.withRadio original answer) t ∧
        t.accesses = (List.range n).flatMap fun k =>
          cycleAccesses (c.withRadio original answer)
            (loopState (c.withRadio original answer) ins k) (ins k) := by
      induction n with
      | zero =>
        obtain ⟨t, hstart, hconfigured, hnone⟩ :=
          listen_startEvents (c.withRadio original answer) hinit
        refine ⟨t, ?_, hconfigured, hnone⟩
        rw [runEvents, List.range_zero, List.flatMap_nil, List.append_nil]
        exact hstart
      | succ n ih =>
        obtain ⟨t, ht, hconfigured, haccesses⟩ := ih
        obtain ⟨t', ht', hconfigured', haccesses'⟩ := listen_cycleEvents hconfigured
          (loopState (c.withRadio original answer) ins n) (ins n)
        refine ⟨t', ?_, hconfigured', ?_⟩
        · rw [runEvents, List.range_succ, List.flatMap_append, ← List.append_assoc, listen_append]
          change listen (listen (idle {}) (runEvents c original answer ins n)) _ = _
          rw [ht, List.flatMap_singleton]
          exact ht'
        · rw [haccesses', haccesses, List.range_succ, List.flatMap_append, List.flatMap_singleton]
    obtain ⟨t, ht, -, haccesses⟩ := hrun
    exact ⟨t, ht, haccesses⟩
  | false =>
    -- the run starts in the fault, so nothing is transmitted
    have hfault : systemState (c.withRadio original answer) ins 0 = .radioError :=
      failsafeAtStart_of_not_initialized hinit
    have hnone : ∀ k, transmission (c.withRadio original answer)
        (loopState (c.withRadio original answer) ins k) (ins k) = none :=
      fun k => (radioError_absorbing (c.withRadio original answer) ins (Nat.zero_le k) hfault).2.2
    have hcycles : ((List.range n).flatMap fun k => cycleEvents (c.withRadio original answer)
        (loopState (c.withRadio original answer) ins k) (ins k)) = [] := by
      rw [List.flatMap_eq_nil_iff]
      intro k _
      rw [cycleEvents, hnone k]
    have haccesses : ((List.range n).flatMap fun k => cycleAccesses (c.withRadio original answer)
        (loopState (c.withRadio original answer) ins k) (ins k)) = [] := by
      rw [List.flatMap_eq_nil_iff]
      intro k _
      rw [cycleAccesses, hnone k]
    have htested : (Nrf24.test original answer).1 = false := by
      by_contra htested
      rw [Bool.not_eq_false] at htested
      simp [Nrf24.init, htested] at hinit
    have hstart : startEvents c original answer = configure ++ (Nrf24.test original answer).2 := by
      rw [startEvents, hinit, Bool.false_and]
      simp [Nrf24.init, htested]
    refine ⟨(toldConfigured.set regRfCh [0x55]).set regRfCh [original], ?_, ?_⟩
    · rw [runEvents, hcycles, List.append_nil, hstart, listen_append, listen_configure, listen_test]
    · rw [haccesses]
      rfl

end SilverwareTx
