import SilverwareTx.ControlLoop.Run

/-!
# The radio fault of a run

* `systemState_eq_radioError_iff`: the fault is there exactly from the end of the third consecutive
  failed transmission on;
* `radioError_absorbing`: nothing leaves it, and nothing is transmitted in it;
* `stats_loopState`: the counters are the numbers of cycles they count, modulo 2^32.
-/

namespace SilverwareTx

open InputRun

section Run

variable (c : Setup) (ins : ℕ → CycleInput)

/-- Cycle `n` puts a packet on the air. -/
def transmitted (n : ℕ) : Bool := (loopOutput c ins n).transmission.isSome

/-- The transmission of cycle `n` succeeds. -/
def succeeded (n : ℕ) : Bool := (loopOutput c ins n).sent

/-- The transmission of cycle `n` fails. -/
def failed (n : ℕ) : Bool := transmitted c ins n && !succeeded c ins n

/-- The failed transmissions before cycle `n` since the last successful one. -/
def consecutiveFailures (n : ℕ) : ℕ := countSince (succeeded c ins) (failed c ins) n

/-- Cycle `n` completes three consecutive failed transmissions. -/
def thirdFailure (n : ℕ) : Prop := failed c ins n = true ∧ consecutiveFailures c ins n = 2

end Run

section Cycle

variable {c : Setup} {s : LoopState} {i : CycleInput}

theorem packetFailed_eq :
    packetFailed c s i = ((transmission c s i).isSome && !packetSent c s i) := by
  unfold packetFailed packetSent
  cases (transmission c s i).isSome <;> cases transmitPacket i <;> rfl

/-- A cycle in the radio fault. -/
theorem cycle_of_radioError (h : s.failsafe.currentState = .radioError) :
    stateAtBuild s i = .radioError ∧ transmission c s i = none ∧ packetSent c s i = false ∧
      packetFailed c s i = false ∧ stateAfter c s i = .radioError ∧
      consecutiveFailuresAfter c s i = s.consecutiveTxFailures := by
  have hbuild : stateAtBuild s i = .radioError := stateAtBuild_eq_radioError_iff.2 h
  have hnone : transmission c s i = none := by
    rw [← Option.not_isSome_iff_eq_none, isSome_transmission]
    exact not_not.2 h
  have hsent : packetSent c s i = false := by rw [packetSent, hnone]; rfl
  have hfailed : packetFailed c s i = false := by rw [packetFailed, hnone]; rfl
  refine ⟨hbuild, hnone, hsent, hfailed, ?_, ?_⟩
  · rw [stateAfter_eq, hfailed, if_neg (by simp), hbuild]
  · rw [consecutiveFailuresAfter, hsent, hfailed]
    rfl

/-- A cycle outside the radio fault transmits a packet. -/
theorem sent_or_failed (h : s.failsafe.currentState ≠ .radioError) :
    (packetSent c s i = true ∧ packetFailed c s i = false) ∨
      (packetSent c s i = false ∧ packetFailed c s i = true) := by
  have hsome : (transmission c s i).isSome = true := isSome_transmission.2 h
  unfold packetSent packetFailed
  rw [hsome]
  cases transmitPacket i <;> simp

end Cycle

section Run

variable (c : Setup) (ins : ℕ → CycleInput)

theorem failed_eq (n : ℕ) : failed c ins n = packetFailed c (loopState c ins n) (ins n) :=
  packetFailed_eq.symm

/-- **Nothing leaves the radio fault**, and nothing is transmitted in it. -/
theorem radioError_absorbing {m n : ℕ} (hmn : m ≤ n) (h : systemState c ins m = .radioError) :
    systemState c ins n = .radioError ∧ (loopOutput c ins n).state = .radioError ∧
      (loopOutput c ins n).transmission = none := by
  have hn : systemState c ins n = .radioError :=
    run_absorbing (P := fun s : LoopState => s.failsafe.currentState = .radioError)
      (fun _ _ hs => (cycle_of_radioError hs).2.2.2.2.1) hmn h
  obtain ⟨hbuild, hnone, -⟩ := cycle_of_radioError (c := c) (i := ins n) hn
  exact ⟨hn, hbuild, hnone⟩

/-! ### The latch -/

/-- The loop counts the consecutive failures; the third is the fault, and the counter stops
there. -/
theorem failures_inv (hinit : c.radioInitialized = true) (n : ℕ) :
    (loopState c ins n).consecutiveTxFailures.toNat = consecutiveFailures c ins n ∧
      consecutiveFailures c ins n ≤ 3 ∧
      (systemState c ins n = .radioError ↔ consecutiveFailures c ins n = 3) := by
  induction n with
  | zero =>
    have hstart : systemState c ins 0 = .waitGamepad := failsafeAtStart_of_initialized hinit
    exact ⟨rfl, Nat.zero_le _, by rw [hstart]; simp [consecutiveFailures]⟩
  | succ n ih =>
    obtain ⟨hcount, hle, hfault⟩ := ih
    have hcounter : (loopState c ins (n + 1)).consecutiveTxFailures =
        consecutiveFailuresAfter c (loopState c ins n) (ins n) := rfl
    -- in the fault nothing is sent, so neither the counter nor the state moves
    by_cases herr : systemState c ins n = .radioError
    · obtain ⟨-, -, hsent, hfailed, hafter, hkeep⟩ := cycle_of_radioError (c := c) (i := ins n) herr
      have hsame : consecutiveFailures c ins (n + 1) = consecutiveFailures c ins n :=
        countSince_of_not_mark hsent ((failed_eq c ins n).trans hfailed)
      rw [hcounter, hkeep, hsame, systemState_succ, hafter]
      exact ⟨hcount, hle, iff_of_true rfl (hfault.1 herr)⟩
    · have hlt : consecutiveFailures c ins n < 3 := by
        have hne := mt hfault.2 herr
        omega
      have hbuild : stateAtBuild (loopState c ins n) (ins n) ≠ .radioError :=
        mt stateAtBuild_eq_radioError_iff.1 herr
      rcases sent_or_failed (c := c) (i := ins n) herr with ⟨hsent, hfailed⟩ | ⟨hsent, hfailed⟩
      · have hzero : consecutiveFailures c ins (n + 1) = 0 := countSince_of_reset hsent
        rw [hcounter, hzero, systemState_succ, stateAfter_eq, hfailed, if_neg (by simp),
          consecutiveFailuresAfter, hsent]
        exact ⟨rfl, by omega, iff_of_false hbuild (by omega)⟩
      · have hsucc : consecutiveFailures c ins (n + 1) = consecutiveFailures c ins n + 1 :=
          countSince_of_mark hsent ((failed_eq c ins n).trans hfailed)
        -- the counter has 8 bits and does not wrap, since it is below three here
        have hval : (consecutiveFailuresAfter c (loopState c ins n) (ins n)).toNat =
            consecutiveFailures c ins n + 1 := by
          rw [consecutiveFailuresAfter, hsent, hfailed, if_neg (by simp), if_pos rfl,
            BitVec.toNat_add, hcount, show (1 : U8).toNat = 1 from rfl]
          exact Nat.mod_eq_of_lt (by omega)
        rw [hcounter, hsucc, hval, systemState_succ, stateAfter_eq, hfailed, hval]
        refine ⟨rfl, by omega, ?_⟩
        simp only [true_and]
        by_cases hthree : consecutiveFailures c ins n + 1 ≥ radioFailureLimit
        · rw [if_pos hthree]
          exact iff_of_true rfl (by unfold radioFailureLimit at hthree; omega)
        · rw [if_neg hthree]
          exact iff_of_false hbuild (by unfold radioFailureLimit at hthree; omega)

/-- A cycle outside the fault ends in it exactly when it completes three consecutive failures. -/
theorem systemState_succ_eq_radioError_iff (hinit : c.radioInitialized = true) {n : ℕ}
    (h : systemState c ins n ≠ .radioError) :
    systemState c ins (n + 1) = .radioError ↔ thirdFailure c ins n := by
  rw [(failures_inv c ins hinit (n + 1)).2.2]
  have hne := mt (failures_inv c ins hinit n).2.2.2 h
  rcases sent_or_failed (c := c) (i := ins n) h with ⟨hsent, hfailed⟩ | ⟨hsent, hfailed⟩
  · have hzero : consecutiveFailures c ins (n + 1) = 0 := countSince_of_reset hsent
    rw [hzero, thirdFailure, failed_eq, hfailed]
    simp
  · have hsucc : consecutiveFailures c ins (n + 1) = consecutiveFailures c ins n + 1 :=
      countSince_of_mark hsent ((failed_eq c ins n).trans hfailed)
    rw [hsucc, thirdFailure, failed_eq, hfailed]
    simp

/-- The fault is there at the end of cycle `n` exactly when some cycle up to `n` completed three
consecutive failures. -/
theorem systemState_eq_radioError_iff (hinit : c.radioInitialized = true) (n : ℕ) :
    systemState c ins n = .radioError ↔ ∃ k < n, thirdFailure c ins k := by
  induction n with
  | zero =>
    have hstart : systemState c ins 0 = .waitGamepad := failsafeAtStart_of_initialized hinit
    rw [hstart]
    simp
  | succ n ih =>
    by_cases herr : systemState c ins n = .radioError
    · obtain ⟨k, hkn, hk⟩ := ih.1 herr
      exact iff_of_true (radioError_absorbing c ins (Nat.le_succ n) herr).1 ⟨k, by omega, hk⟩
    · rw [systemState_succ_eq_radioError_iff c ins hinit herr]
      refine ⟨fun h => ⟨n, by omega, h⟩, ?_⟩
      rintro ⟨k, hkn, hk⟩
      rcases Nat.lt_or_eq_of_le (Nat.le_of_lt_succ hkn) with hlt | rfl
      · exact absurd (ih.2 ⟨k, hlt, hk⟩) herr
      · exact hk

/-! ### The counters -/

/-- The number of cycles before `n` that satisfy `p`. -/
def cyclesBefore (p : ℕ → Bool) (n : ℕ) : ℕ := (List.range n).countP p

theorem cyclesBefore_succ (p : ℕ → Bool) (n : ℕ) :
    cyclesBefore p (n + 1) = cyclesBefore p n + (p n).toNat := by
  rw [cyclesBefore, List.range_succ, List.countP_append, cyclesBefore]
  cases h : p n <;> simp [h]

/-- Cycle `n` accepts a telemetry packet. -/
def acceptedIn (n : ℕ) : Bool := (loopOutput c ins n).accepted.isSome

/-- Cycle `n` reads a payload and does not accept it. -/
def rejectedIn (n : ℕ) : Bool :=
  (servedPoll c (loopState c ins n) (ins n)).isSome && !acceptedIn c ins n

/-- A transmission fails, or at most one payload answers it. -/
theorem outcomes_le (n : ℕ) :
    (failed c ins n).toNat + (acceptedIn c ins n).toNat + (rejectedIn c ins n).toNat ≤
      (transmitted c ins n).toNat := by
  -- the receiver is polled only after a transmission that succeeded
  have hserved : (acceptedIn c ins n).toNat + (rejectedIn c ins n).toNat ≤
      (succeeded c ins n).toNat := by
    have hnone : succeeded c ins n = false →
        servedPoll c (loopState c ins n) (ins n) = none := by
      intro h
      have hsent : packetSent c (loopState c ins n) (ins n) = false := h
      rw [servedPoll, hsent, if_neg (by simp)]
    cases hsent : succeeded c ins n with
    | false =>
      have haccepted : acceptedIn c ins n = false := by
        show (acceptedPacket c (loopState c ins n) (ins n)).isSome = false
        rw [acceptedPacket, servedPacket, hnone hsent]
        rfl
      rw [rejectedIn, hnone hsent, haccepted]
      simp
    | true =>
      rw [rejectedIn]
      cases acceptedIn c ins n <;> simp [Bool.toNat_le]
  have htx : succeeded c ins n = true → transmitted c ins n = true := by
    intro h
    have hsent : packetSent c (loopState c ins n) (ins n) = true := h
    rw [packetSent, Bool.and_eq_true] at hsent
    exact hsent.1
  rw [failed]
  cases hs : succeeded c ins n with
  | false =>
    rw [hs] at hserved
    simp only [Bool.toNat_false] at hserved
    simp only [Bool.not_false, Bool.and_true]
    omega
  | true =>
    rw [hs] at hserved
    rw [htx hs]
    simpa using hserved

theorem countIf_ofNat (b : Bool) (k : ℕ) :
    countIf b (BitVec.ofNat 32 k) = BitVec.ofNat 32 (k + b.toNat) := by
  cases b with
  | false => rfl
  | true => exact (BitVec.ofNat_add k 1).symm

/-- **The counters** of a run, modulo 2^32. -/
theorem stats_loopState (n : ℕ) :
    (loopState c ins n).stats.txPackets = BitVec.ofNat 32 (cyclesBefore (transmitted c ins) n) ∧
      (loopState c ins n).stats.txFailures = BitVec.ofNat 32 (cyclesBefore (failed c ins) n) ∧
      (loopState c ins n).stats.telemetryAccepted =
        BitVec.ofNat 32 (cyclesBefore (acceptedIn c ins) n) ∧
      (loopState c ins n).stats.telemetryRejected =
        BitVec.ofNat 32 (cyclesBefore (rejectedIn c ins) n) := by
  induction n with
  | zero => exact ⟨rfl, rfl, rfl, rfl⟩
  | succ n ih =>
    obtain ⟨htx, hfail, hacc, hrej⟩ := ih
    have hstats : (loopState c ins (n + 1)).stats = statsAfter c (loopState c ins n) (ins n) := rfl
    rw [hstats, cyclesBefore_succ, cyclesBefore_succ, cyclesBefore_succ, cyclesBefore_succ,
      ← countIf_ofNat, ← countIf_ofNat, ← countIf_ofNat, ← countIf_ofNat, ← htx, ← hfail, ← hacc,
      ← hrej, failed_eq]
    exact ⟨rfl, rfl, rfl, rfl⟩

theorem outcomesBefore_le (n : ℕ) :
    cyclesBefore (failed c ins) n + cyclesBefore (acceptedIn c ins) n +
      cyclesBefore (rejectedIn c ins) n ≤ cyclesBefore (transmitted c ins) n := by
  induction n with
  | zero => exact Nat.zero_le _
  | succ n ih =>
    have hstep := outcomes_le c ins n
    rw [cyclesBefore_succ, cyclesBefore_succ, cyclesBefore_succ, cyclesBefore_succ]
    omega

end Run

/-- **The radio fault latch.** With a working radio the fault is there exactly from the end of the
first cycle that completes three consecutive failed transmissions; nothing leaves it and nothing is
transmitted in it; the counters are consistent while fewer than 2^32 packets were transmitted.
Without a working radio the fault is there from the start. -/
theorem radio_fault_latch (c : Setup) (ins : ℕ → CycleInput) :
    (c.radioInitialized = true →
      (∀ n, systemState c ins n = .radioError ↔ ∃ k < n, thirdFailure c ins k) ∧
      (∀ n, (loopOutput c ins n).state = .radioError ↔ systemState c ins n = .radioError) ∧
      (∀ m n, m ≤ n → systemState c ins m = .radioError →
        systemState c ins n = .radioError ∧ (loopOutput c ins n).state = .radioError ∧
          (loopOutput c ins n).transmission = none) ∧
      (∀ n, (loopState c ins n).consecutiveTxFailures.toNat ≤ 3) ∧
      (∀ n, cyclesBefore (transmitted c ins) n < 2 ^ 32 →
        (loopState c ins n).stats.txFailures.toNat ≤ (loopState c ins n).stats.txPackets.toNat ∧
        (loopState c ins n).stats.telemetryAccepted.toNat +
            (loopState c ins n).stats.telemetryRejected.toNat ≤
          (loopState c ins n).stats.txPackets.toNat -
            (loopState c ins n).stats.txFailures.toNat)) ∧
    (c.radioInitialized = false → ∀ n,
      systemState c ins n = .radioError ∧ (loopOutput c ins n).state = .radioError ∧
        (loopOutput c ins n).transmission = none) := by
  refine ⟨fun hinit => ⟨systemState_eq_radioError_iff c ins hinit, fun n => ?_, fun m n => ?_,
    fun n => ?_, fun n hn => ?_⟩, fun hinit n => ?_⟩
  · exact stateAtBuild_eq_radioError_iff
  · exact radioError_absorbing c ins
  · obtain ⟨hcount, hle, -⟩ := failures_inv c ins hinit n
    rw [hcount]
    exact hle
  · obtain ⟨htx, hfail, hacc, hrej⟩ := stats_loopState c ins n
    have hle := outcomesBefore_le c ins n
    rw [htx, hfail, hacc, hrej, BitVec.toNat_ofNat, BitVec.toNat_ofNat, BitVec.toNat_ofNat,
      BitVec.toNat_ofNat, Nat.mod_eq_of_lt hn, Nat.mod_eq_of_lt (by omega),
      Nat.mod_eq_of_lt (by omega), Nat.mod_eq_of_lt (by omega)]
    omega
  · exact radioError_absorbing c ins (Nat.zero_le n) (failsafeAtStart_of_not_initialized hinit)

end SilverwareTx
