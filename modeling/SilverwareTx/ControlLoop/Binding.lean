import SilverwareTx.ControlLoop.PacketSafety
import SilverwareTx.ControlLoop.RadioFault

/-!
# Binding episodes and hopping

* `binding_entry`, `binding_step`: how a run enters and leaves `BINDING`, with the time of the entry
  in the failsafe module;
* `hopping_inv`: the hopping index is the number of data packets since the last binding cycle,
  modulo 4.
-/

namespace SilverwareTx

open InputRun

section Run

variable (c : Setup) (ins : ℕ → CycleInput)

/-- Cycle `n` is in `BINDING`. -/
def inBinding (n : ℕ) : Bool := decide ((loopOutput c ins n).state = .binding)

/-- Cycle `n` puts a data packet on the air. -/
def sendsData (n : ℕ) : Bool :=
  (loopOutput c ins n).transmission.any fun tx => !tx.bindingPacket

/-- The data packets before cycle `n` since the start or the last cycle in `BINDING`. -/
def dataPacketsSince (n : ℕ) : ℕ := countSince (inBinding c ins) (sendsData c ins) n

/-- Cycle `e` enters `BINDING`. -/
def entersBinding (e : ℕ) : Prop :=
  (loopOutput c ins e).state = .binding ∧ systemState c ins e ≠ .binding

end Run

section Cycle

variable {c : Setup} {s : LoopState} {i : CycleInput}

/-- The packet of a binding cycle, on channel 0 with the zero address. -/
theorem transmission_of_binding (h : stateAtBuild s i = .binding) :
    transmission c s i = some {
      packet := bayangBuildBindPacket (bayangInit c.txId) bayangBindA3
      address := #v[0, 0, 0, 0, 0]
      rfChannel := 0
      bindingPacket := true } := if_pos h

/-- The packet of every other cycle is a data packet on the current hopping channel. -/
theorem transmission_of_data (hb : stateAtBuild s i ≠ .binding)
    (he : stateAtBuild s i ≠ .radioError) :
    transmission c s i = some {
      packet := bayangBuildDataPacket (bayangInit c.txId) (controlAtBuild c s i)
      address := c.txId
      rfChannel := (bayangInit c.txId).hoppingChannels.get (channelAtBuild s i)
      bindingPacket := false } := (if_neg hb).trans (if_pos he)

/-- A binding cycle receives nothing. -/
theorem acceptedPacket_of_binding (h : stateAtBuild s i = .binding) :
    acceptedPacket c s i = none := by
  have hserved : servedPoll c s i = none := if_neg (by simp [h])
  rw [acceptedPacket, servedPacket, hserved]
  rfl

/-- From `BINDING` the packet is built in `WAIT_GAMEPAD`, `LOCKED` or `BINDING`. -/
theorem stateAtBuild_of_binding (h : s.failsafe.currentState = .binding) :
    stateAtBuild s i =
      if gamepadLive i then
        if i.cycleStartUs - s.failsafe.bindStart > bindDurationUs then .locked else .binding
      else .waitGamepad := by
  have hupdate : (failsafeUpdated s i).currentState =
      if gamepadLive i then
        if i.cycleStartUs - s.failsafe.bindStart > bindDurationUs then .locked else .binding
      else .waitGamepad := by
    rw [failsafeUpdated, failsafeUpdateAt_of_binding h]
    by_cases hlive : gamepadLive i
    · rw [if_pos hlive, gamepadTimeout_eq_false_iff_live.2 hlive, if_neg Bool.false_ne_true]
      split_ifs
      · rfl
      · exact h
    · have htimeout := mt gamepadTimeout_eq_false_iff_live.1 hlive
      rw [Bool.not_eq_false] at htimeout
      rw [if_neg hlive, htimeout, if_pos rfl]
  have hne : (failsafeUpdated s i).currentState ≠ .prearmMode := by
    rw [hupdate]
    split_ifs <;> simp
  rw [stateAtBuild, failsafeAtBuild_of_ne_prearmMode hne, failsafeGetState, hupdate]

end Cycle

section Run

variable {c : Setup} {ins : ℕ → CycleInput}

/-- `BINDING` is entered from `LOCKED` only. -/
theorem binding_entry {e : ℕ} (h : entersBinding c ins e) :
    systemState c ins e = .locked ∧ (loopOutput c ins e).edges.viewClicked = true ∧
      (ins e).controls.throttleRaw.toNat ≤ 10 ∧ gamepadLive (ins e) := by
  obtain ⟨hlive, hcase⟩ := stateAtBuild_eq_binding_iff.1 h.1
  rcases hcase with ⟨hbinding, -⟩ | ⟨hlocked, hview, hidle⟩
  · exact absurd hbinding h.2
  · exact ⟨hlocked, hview, hidle, hlive⟩

/-- The bind time is the start of the cycle that entered `BINDING`, while it lasts. -/
theorem bindStart_since {e n : ℕ} (he : entersBinding c ins e)
    (hlast : ∀ j, e < j → j ≤ n → systemState c ins j = .binding) (hen : e < n) :
    (loopState c ins n).failsafe.bindStart = (ins e).cycleStartUs := by
  induction n, hen using Nat.le_induction with
  | base =>
    rw [loopState_succ]
    exact bindStart_failsafeAfter.trans (if_pos ⟨(binding_entry he).1, he.1⟩)
  | succ n hen ih =>
    have hn : (loopState c ins n).failsafe.currentState = .binding := hlast n hen (Nat.le_succ n)
    have hne : ¬ ((loopState c ins n).failsafe.currentState = .locked ∧
        stateAtBuild (loopState c ins n) (ins n) = .binding) := by
      rw [hn]
      simp
    rw [loopState_succ]
    exact (bindStart_failsafeAfter.trans (if_neg hne)).trans
      (ih fun j hj hjn => hlast j hj (by omega))

/-- The next cycle of a binding episode: it goes on until the gamepad times out or the bind time has
passed. -/
theorem binding_step {e n : ℕ} (he : entersBinding c ins e)
    (hlast : ∀ j, e < j → j ≤ n → systemState c ins j = .binding) (hen : e < n) :
    (loopOutput c ins n).state =
      if gamepadLive (ins n) then
        if (ins n).cycleStartUs - (ins e).cycleStartUs > 2000000 then .locked else .binding
      else .waitGamepad := by
  have hstate : (loopOutput c ins n).state = stateAtBuild (loopState c ins n) (ins n) := rfl
  rw [hstate, stateAtBuild_of_binding (hlast n hen le_rfl), bindStart_since he hlast hen]
  rfl

/-- A binding cycle ends in `BINDING` unless it completes three consecutive failures. -/
theorem systemState_succ_of_binding {n : ℕ} (h : (loopOutput c ins n).state = .binding) :
    (thirdFailure c ins n ∧ systemState c ins (n + 1) = .radioError) ∨
      (¬ thirdFailure c ins n ∧ systemState c ins (n + 1) = .binding) := by
  have hbuild : stateAtBuild (loopState c ins n) (ins n) = .binding := h
  have hne : systemState c ins n ≠ .radioError := by
    intro herr
    have := stateAtBuild_eq_radioError_iff (i := ins n).2 herr
    rw [hbuild] at this
    exact SystemState.noConfusion this
  have hinit : c.radioInitialized = true := by
    by_contra hfalse
    exact hne (radioError_absorbing c ins (Nat.zero_le n)
      (failsafeAtStart_of_not_initialized (Bool.eq_false_of_not_eq_true hfalse))).1
  by_cases hthird : thirdFailure c ins n
  · exact .inl ⟨hthird, (systemState_succ_eq_radioError_iff c ins hinit hne).2 hthird⟩
  · refine .inr ⟨hthird, ?_⟩
    have hnot := mt (systemState_succ_eq_radioError_iff c ins hinit hne).1 hthird
    rw [systemState_succ, stateAfter_eq] at hnot ⊢
    split_ifs at hnot ⊢
    · exact absurd rfl hnot
    · exact hbuild

/-! ### Hopping -/

theorem inBinding_eq_false {n : ℕ} (h : (loopOutput c ins n).state ≠ .binding) :
    inBinding c ins n = false := decide_eq_false h

theorem sendsData_of_data {n : ℕ} (hb : (loopOutput c ins n).state ≠ .binding)
    (he : (loopOutput c ins n).state ≠ .radioError) : sendsData c ins n = true := by
  have htx : (loopOutput c ins n).transmission = _ := transmission_of_data hb he
  rw [sendsData, htx]
  rfl

/-- What the hopping index says between two cycles: it counts the data packets since the last
binding cycle, except right after a binding cycle, which leaves it for the next cycle to reset. -/
def HoppingInv (c : Setup) (ins : ℕ → CycleInput) (n : ℕ) : Prop :=
  systemState c ins n = .radioError ∨
    (systemState c ins n = .binding ∧ dataPacketsSince c ins n = 0) ∨
    (systemState c ins n ≠ .binding ∧
      (loopState c ins n).channelIndex.val = dataPacketsSince c ins n % 4)

/-- A data packet goes out on the channel of its number since the last binding cycle. -/
theorem channelAtBuild_of_data {n : ℕ} (hinv : HoppingInv c ins n)
    (hb : (loopOutput c ins n).state ≠ .binding) (he : (loopOutput c ins n).state ≠ .radioError) :
    (channelAtBuild (loopState c ins n) (ins n)).val = dataPacketsSince c ins n % 4 := by
  have hprevious := (loopState_inv c ins n).2
  rcases hinv with herr | ⟨hbinding, hzero⟩ | ⟨hnot, hcount⟩
  · exact absurd (stateAtBuild_eq_radioError_iff.2 herr) he
  · have hreset : channelAtBuild (loopState c ins n) (ins n) = 0 :=
      if_pos ⟨hprevious.trans hbinding, hb⟩
    rw [hreset, hzero]
    rfl
  · have hkeep : channelAtBuild (loopState c ins n) (ins n) = (loopState c ins n).channelIndex :=
      if_neg fun h => hnot (hprevious.symm.trans h.1)
    rw [hkeep, hcount]

theorem hopping_inv (n : ℕ) : HoppingInv c ins n := by
  induction n with
  | zero =>
    refine .inr (.inr ⟨?_, rfl⟩)
    rcases systemState_zero c ins with h | h <;> simp [h]
  | succ n ih =>
    by_cases herr : systemState c ins (n + 1) = .radioError
    · exact .inl herr
    · have hbuild : (loopOutput c ins n).state = systemState c ins (n + 1) :=
        stateAtBuild_of_stateAfter rfl herr
      by_cases hb : (loopOutput c ins n).state = .binding
      · exact .inr (.inl ⟨hbuild.symm.trans hb, countSince_of_reset (decide_eq_true hb)⟩)
      · have he : (loopOutput c ins n).state ≠ .radioError := hbuild ▸ herr
        have hchannel := channelAtBuild_of_data ih hb he
        have hnext : (loopState c ins (n + 1)).channelIndex =
            channelAtBuild (loopState c ins n) (ins n) + 1 := if_pos ⟨hb, he⟩
        have hcount : dataPacketsSince c ins (n + 1) = dataPacketsSince c ins n + 1 :=
          countSince_of_mark (inBinding_eq_false hb) (sendsData_of_data hb he)
        refine .inr (.inr ⟨hbuild ▸ hb, ?_⟩)
        rw [hnext, hcount, Fin.val_add, hchannel]
        exact Nat.mod_add_mod _ 4 1

/-- The state that a cycle in or after `BINDING` can leave. -/
theorem systemState_of_leaving {n : ℕ} (h : systemState c ins n = .binding)
    (hleft : systemState c ins (n + 1) ≠ .binding) :
    systemState c ins (n + 1) = .waitGamepad ∨ systemState c ins (n + 1) = .locked ∨
      systemState c ins (n + 1) = .radioError := by
  have hbuild := stateAtBuild_of_binding (i := ins n) h
  rw [systemState_succ, stateAfter_eq] at hleft ⊢
  rw [hbuild] at hleft ⊢
  split_ifs at hleft ⊢ <;> simp_all

end Run

/-- **Binding episodes and hopping.** `BINDING` is entered from `LOCKED` by View; in it every packet
is the bind packet of the stored ID on channel 0 and nothing is accepted; it goes on until the
gamepad times out, the bind time has passed or the transmission fails a third time, and then ends in
`WAIT_GAMEPAD`, `LOCKED` or the radio fault. Data packet `k` since the start or the last binding
cycle is sent on hopping channel `k` modulo 4. -/
theorem binding_and_hopping (c : Setup) (ins : ℕ → CycleInput) :
    (∀ e, entersBinding c ins e →
      systemState c ins e = .locked ∧ (loopOutput c ins e).edges.viewClicked = true ∧
        (ins e).controls.throttleRaw.toNat ≤ 10 ∧ gamepadLive (ins e)) ∧
    (∀ n, (loopOutput c ins n).state = .binding →
      (∃ packet, (loopOutput c ins n).transmission = some ⟨packet, #v[0, 0, 0, 0, 0], 0, true⟩ ∧
        packet = bayangBuildBindPacket (bayangInit c.txId) 0xA3 ∧ packet.byte 0 = 0xA3 ∧
        (∀ j : Fin 5, packet.byte (1 + j.val) = c.txId.get j) ∧
        packet.byte 14 = bayangCalculateChecksum packet) ∧
      (loopOutput c ins n).accepted = none) ∧
    (∀ e n, entersBinding c ins e → e < n →
      (∀ j, e < j → j ≤ n → systemState c ins j = .binding) →
      (loopOutput c ins n).state =
        if gamepadLive (ins n) then
          if (ins n).cycleStartUs - (ins e).cycleStartUs > 2000000 then .locked else .binding
        else .waitGamepad) ∧
    (∀ n, (loopOutput c ins n).state = .binding →
      (thirdFailure c ins n ∧ systemState c ins (n + 1) = .radioError) ∨
        (¬ thirdFailure c ins n ∧ systemState c ins (n + 1) = .binding)) ∧
    (∀ n, systemState c ins n = .binding → systemState c ins (n + 1) ≠ .binding →
      systemState c ins (n + 1) = .waitGamepad ∨ systemState c ins (n + 1) = .locked ∨
        systemState c ins (n + 1) = .radioError) ∧
    (∀ n tx, (loopOutput c ins n).transmission = some tx → tx.bindingPacket = false →
      tx.address = c.txId ∧
      tx.rfChannel = (bayangInit c.txId).hoppingChannels.get
        ⟨dataPacketsSince c ins n % 4, Nat.mod_lt _ (Nat.succ_pos 3)⟩) := by
  refine ⟨fun e => binding_entry, fun n h => ⟨⟨_, transmission_of_binding h, rfl, ?_, ?_, ?_⟩, ?_⟩,
    fun e n he hen hlast => binding_step he hlast hen, fun n => systemState_succ_of_binding,
    fun n => systemState_of_leaving, fun n tx htx hdata => ?_⟩
  · exact setChecksum_get (by omega)
  · intro j
    rw [bayangBuildBindPacket, setChecksum_get (by omega)]
    fin_cases j <;> rfl
  · exact setChecksum_valid _
  · exact acceptedPacket_of_binding h
  · have htx' : transmission c (loopState c ins n) (ins n) = some tx := htx
    have he : (loopOutput c ins n).state ≠ .radioError := by
      intro herr
      have hsome := isSome_transmission.1 (Option.isSome_of_mem htx')
      exact hsome (stateAtBuild_eq_radioError_iff.1 herr)
    have hb : (loopOutput c ins n).state ≠ .binding := by
      intro hbind
      rw [transmission_of_binding hbind] at htx'
      obtain rfl := Option.some.inj htx'
      exact Bool.noConfusion hdata
    -- outside `BINDING` and the radio fault the packet is a data packet
    have hchannel := channelAtBuild_of_data (hopping_inv n) hb he
    rw [transmission_of_data hb he] at htx'
    obtain rfl := Option.some.inj htx'
    refine ⟨rfl, ?_⟩
    exact congrArg (fun k : Fin 4 => (bayangInit c.txId).hoppingChannels.get k) (Fin.ext hchannel)

end SilverwareTx
