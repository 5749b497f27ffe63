import SilverwareTx.Telemetry.PcTelemetryState

/-!
# The gamepad's freshness in the local state message

The safety state machine compares the gamepad's age in microseconds with the timeout. The status
flag compares the age that the message carries, which is cut down to whole milliseconds, so the two
part during the last millisecond before the cut age passes the timeout (`gamepad_fresh_agrees_iff`).
-/

namespace SilverwareTx

/-- `PC_TELEMETRY_STATUS_GAMEPAD_FRESH` -/
def pcTelemetryStatusGamepadFresh : U16 := 1#16 <<< 1

/-- The bits of a flag word are its conditions. -/
theorem getLsbD_flagWord {w : ℕ} (conditions : List Bool) {i : ℕ} (hi : i < w) :
    (flagWord w conditions).getLsbD i = conditions.getD i false := by
  induction conditions using List.reverseRecOn with
  | nil => simp [flagWord]
  | append_singleton conditions condition ih =>
    rw [flagWord, List.mapIdx_concat, List.foldl_append, ← flagWord, List.foldl_cons,
      List.foldl_nil, BitVec.getLsbD_or, ih, List.getD_eq_getElem?_getD, List.getD_eq_getElem?_getD,
      List.getElem?_append]
    rcases lt_trichotomy i conditions.length with hlt | rfl | hgt
    · cases condition <;> simp [hlt, hi]
    · cases condition <;> simp [hi]
    · have hge : ¬i < conditions.length := by omega
      have hsub : i - conditions.length ≠ 0 := by omega
      rw [List.getElem?_eq_none (by omega), if_neg hge]
      cases condition <;> simp [hi, hsub]

/-- An age that was seen is the whole milliseconds of the clamped age, at most the largest age. -/
theorem toNat_elapsedAgeMs (ageUs : ℤ) :
    (elapsedAgeMs ageUs true).toNat = min (ageUs.toNat / 1000) pcTelemetryAgeMax.toNat := by
  have hclamp : (if ageUs < 0 then 0 else ageUs).toNat = ageUs.toNat := by
    split_ifs with hneg
    · rw [Int.toNat_of_nonpos hneg.le]
      rfl
    · rfl
  have hmax : pcTelemetryAgeMax.toNat = 65534 := rfl
  rw [elapsedAgeMs, if_neg (by simp)]
  simp only [hclamp, hmax]
  split_ifs with hlong
  · rw [hmax]
    omega
  · rw [BitVec.toNat_ofNat]
    omega

/-- The flag is set while the age has not reached the millisecond after the timeout. -/
theorem gamepadFresh_iff {input : PcTelemetryLocalStateInput}
    (hconnected : input.controls.connected = true) (hupdate : input.controls.lastUpdateUs > 0) :
    (pcTelemetryMakeLocalState input).statusFlags &&& pcTelemetryStatusGamepadFresh ≠ 0 ↔
      input.nowUs - input.controls.lastUpdateUs < (gamepadTimeoutMs + 1) * 1000 := by
  have hage := toNat_elapsedAgeMs (input.nowUs - input.controls.lastUpdateUs)
  have hmax : pcTelemetryAgeMax.toNat = 65534 := rfl
  have hnever : elapsedAgeMs (input.nowUs - input.controls.lastUpdateUs) true ≠
      pcTelemetryAgeNever := by
    intro h
    rw [h, hmax, show pcTelemetryAgeNever.toNat = 65535 from rfl] at hage
    omega
  have hmask : pcTelemetryStatusGamepadFresh = BitVec.twoPow 16 1 := by decide
  have hbit : ((pcTelemetryMakeLocalState input).statusFlags).getLsbD 1 =
      decide ((elapsedAgeMs (input.nowUs - input.controls.lastUpdateUs) true).toNat ≤
        gamepadTimeoutMs) := by
    simp only [pcTelemetryMakeLocalState, statusFlags, getLsbD_flagWord _ (show 1 < 16 by norm_num),
      hconnected, hupdate, decide_true, ageMs]
    simp [hnever]
  rw [hmask, BitVec.and_twoPow, hbit, hage, hmax, gamepadTimeoutMs]
  have hnonzero : (BitVec.twoPow 16 1 : U16) ≠ 0 := by decide
  split_ifs with hfresh
  · have hle := of_decide_eq_true hfresh
    refine iff_of_true hnonzero ?_
    omega
  · have hgt := mt decide_eq_true hfresh
    refine iff_of_false (not_not_intro rfl) ?_
    omega

/-- **When the exported flag agrees with the safety logic.** For a connected gamepad that was
updated, the flag says what the safety state machine decides at the same time exactly when the age
is not in the millisecond after the timeout. -/
theorem gamepad_fresh_agrees_iff (input : PcTelemetryLocalStateInput) (m : FailsafeModule)
    (idle unlock bind : Bool) (hconnected : input.controls.connected = true)
    (hupdate : input.controls.lastUpdateUs > 0) (hactive : m.currentState = .active) :
    let age := input.nowUs - input.controls.lastUpdateUs
    let fresh := (pcTelemetryMakeLocalState input).statusFlags &&& pcTelemetryStatusGamepadFresh ≠ 0
    ((fresh ↔ gamepadTimeout input.nowUs input.controls.connected input.controls.lastUpdateUs =
        false) ↔
      ¬(gamepadTimeoutMs * 1000 < age ∧ age < (gamepadTimeoutMs + 1) * 1000)) ∧
    ((fresh ↔
        (failsafeUpdateAt m input.nowUs input.controls.connected input.controls.lastUpdateUs idle
          unlock bind false).currentState = .active) ↔
      ¬(gamepadTimeoutMs * 1000 < age ∧ age < (gamepadTimeoutMs + 1) * 1000)) := by
  have hstays := @failsafeUpdateAt_eq_active_iff m input.nowUs input.controls.lastUpdateUs
    input.controls.connected idle unlock bind false
  simp only [hactive, true_and, and_true] at hstays
  -- the flag compares whole milliseconds, the safety logic microseconds
  have hagree :
      ((pcTelemetryMakeLocalState input).statusFlags &&& pcTelemetryStatusGamepadFresh ≠ 0 ↔
        gamepadTimeout input.nowUs input.controls.connected input.controls.lastUpdateUs = false) ↔
      ¬(gamepadTimeoutMs * 1000 < input.nowUs - input.controls.lastUpdateUs ∧
        input.nowUs - input.controls.lastUpdateUs < (gamepadTimeoutMs + 1) * 1000) := by
    rw [gamepadFresh_iff hconnected hupdate, gamepadTimeout_eq_false_iff, gamepadTimeoutMs]
    constructor
    · intro hsame hwindow
      have := (hsame.1 hwindow.2).2
      omega
    · intro hwindow
      constructor
      · intro hlt
        refine ⟨hconnected, ?_⟩
        omega
      · intro hlive
        omega
  refine ⟨hagree, ?_⟩
  rw [hstays]
  exact hagree

/-- An input in `ACTIVE` whose gamepad was updated at one second. -/
def freshnessInput (nowUs : ℤ) : PcTelemetryLocalStateInput where
  nowUs := nowUs
  systemState := .active
  controls := { connected := true, lastUpdateUs := 1000000 }
  auxState := {}
  radioInitialized := true
  consecutiveTxFailures := 0
  nextHoppingChannelIndex := 0
  telemetry := telemetryGetSnapshot telemetryInit nowUs
  txPackets := 0
  txFailures := 0
  telemetryAccepted := 0
  telemetryRejected := 0
  deadlineMisses := 0
  exportQueueDrops := 0

/-- Half a millisecond past the timeout the flag is set and the safety logic has given up. -/
theorem gamepad_fresh_after_timeout :
    (pcTelemetryMakeLocalState (freshnessInput 1500500)).statusFlags &&&
        pcTelemetryStatusGamepadFresh ≠ 0 ∧
      gamepadTimeout 1500500 true 1000000 = true ∧
      (failsafeUpdateAt { currentState := .active } 1500500 true 1000000 true false false
        false).currentState = .gamepadFailsafe := by
  decide +kernel

theorem gamepad_fresh_agrees_at_timeout :
    (pcTelemetryMakeLocalState (freshnessInput 1500000)).statusFlags &&&
        pcTelemetryStatusGamepadFresh ≠ 0 ↔
      gamepadTimeout 1500000 true 1000000 = false :=
  (gamepad_fresh_agrees_iff (freshnessInput 1500000) { currentState := .active } true false false rfl
    (by decide) rfl).1.2 (by decide)

end SilverwareTx
