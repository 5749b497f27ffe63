import SilverwareTx.Lib.InputRun
import SilverwareTx.Lib.Sampling
import SilverwareTx.Radio.NfeSilverwareProfile

/-!
# The stick waveform of a gesture

`fcGesture` is the table of `docs/controls.md`, and `Waveform` the output it asks for at a time
after the start. Once a gesture has started (`Started`), no request changes what is left of it
(`commands_while_playing`), so every call until the end gives the waveform, and a receiver that
holds samples of it sees the FC's timing (`SeenGesture`): `gesture_waveform`.
-/

namespace SilverwareTx

open InputRun Sampling

/-! ### The documented waveform -/

/-- Where a stroke takes the stick. -/
inductive StickDirection
  | up
  | down
  | left
  | right
  deriving DecidableEq, Repr

/-- Roll and pitch. -/
def StickDirection.sticks : StickDirection → U16 × U16
  | .up => (512, 1023)
  | .down => (512, 0)
  | .left => (0, 512)
  | .right => (1023, 512)

/-- The column "FC gesture". -/
def fcGesture : NfeSilverwareGesture → List StickDirection
  | .none => []
  | .toggleBindStorage => [.up, .up, .up]
  | .save => [.down, .down, .down]
  | .toggleLowVoltageLanding => [.left, .left, .left]
  | .toggleFeature1 => [.right, .right, .right]
  | .togglePropsDirection => [.down, .up, .down]
  | .stickTravelOff => [.left, .left, .down]
  | .stickTravelOn => [.right, .right, .down]
  | .nextPidTerm => [.up, .down, .up]
  | .nextPidAxis => [.up, .down, .down]
  | .increasePid => [.up, .down, .right]
  | .decreasePid => [.up, .down, .left]

/-- Roll and pitch of an output. -/
def NfeSilverwareGestureOutput.sticks (output : NfeSilverwareGestureOutput) : U16 × U16 :=
  (output.roll, output.pitch)

/-- The sticks at rest. -/
def centeredSticks : U16 × U16 := (512, 512)

/-- `elapsed` lies in the window of direction `k`. -/
def InDirection (k : Fin 3) (elapsed : ℤ) : Prop :=
  800000 + 400000 * (k : ℤ) ≤ elapsed ∧ elapsed < 1000000 + 400000 * (k : ℤ)

/-- What a gesture emits `elapsed` microseconds after its start. -/
structure Waveform (gesture : NfeSilverwareGesture) (elapsed : ℤ)
    (output : NfeSilverwareGestureOutput) : Prop where
  active_iff : output.active = true ↔ elapsed < 2000000
  direction : ∀ k, InDirection k elapsed →
    (fcGesture gesture)[k.val]?.map StickDirection.sticks = some output.sticks
  centered : (∀ k, ¬InDirection k elapsed) → output.sticks = centeredSticks

/-- What a receiver sees of a gesture: direction `k` from `start k` to `stop k`, and the sticks
centered otherwise, for as long as the FC asks for. -/
structure SeenGesture (gesture : NfeSilverwareGesture) (time : ℕ → ℤ)
    (output : ℕ → NfeSilverwareGestureOutput) (start : Fin 4 → ℤ) (stop : Fin 3 → ℤ) : Prop where
  idle : Shows time output (fun o => o.sticks = centeredSticks) (time 0) (start 0)
  idle_long : 700000 < start 0 - time 0
  direction : ∀ k : Fin 3, Shows time output
    (fun o => (fcGesture gesture)[k.val]?.map StickDirection.sticks = some o.sticks)
    (start k.castSucc) (stop k)
  direction_long : ∀ k : Fin 3, 100000 < stop k - start k.castSucc
  direction_short : ∀ k : Fin 3, stop k - start k.castSucc < 500000
  gap : ∀ k : Fin 3, Shows time output (fun o => o.sticks = centeredSticks) (stop k) (start k.succ)
  gap_long : ∀ k : Fin 3, 100000 < start k.succ - stop k

/-! ### The player -/

/-- A call of `nfe_silverware_update_gesture`. -/
structure GestureCall where
  request : NfeSilverwareGesture
  nowUs : ℤ

/-- The player before call `n`. -/
def playerAt (player : NfeSilverwareGesturePlayer) (calls : ℕ → GestureCall) (n : ℕ) :
    NfeSilverwareGesturePlayer :=
  run (fun player call => (nfeSilverwareUpdateGesture player call.request call.nowUs).2)
    player calls n

/-- What call `n` returns. -/
def gestureOutputAt (player : NfeSilverwareGesturePlayer) (calls : ℕ → GestureCall) (n : ℕ) :
    NfeSilverwareGestureOutput :=
  (nfeSilverwareUpdateGesture (playerAt player calls n) (calls n).request (calls n).nowUs).1

/-- The first call starts the gesture at `startUs`, and the clock never goes back. -/
structure Started (player : NfeSilverwareGesturePlayer) (calls : ℕ → GestureCall)
    (gesture : NfeSilverwareGesture) (startUs : ℤ) : Prop where
  idle : player.command = .none
  released : player.previousRequest = .none
  request : (calls 0).request = gesture
  gesture_ne : gesture ≠ .none
  now : (calls 0).nowUs = startUs
  mono : Monotone fun n => (calls n).nowUs

/-- The emitted stick position is the documented one. -/
theorem gestureDirections_documented {gesture : NfeSilverwareGesture} (h : gesture ≠ .none)
    (k : Fin 3) :
    (fcGesture gesture)[k.val]?.map StickDirection.sticks =
      some (gestureOutput ((gestureDirections gesture).toList.getD k.val 0)).sticks := by
  cases gesture with
  | none => exact absurd rfl h
  | save | toggleBindStorage | stickTravelOff | stickTravelOn | nextPidTerm | nextPidAxis
  | increasePid | decreasePid | toggleFeature1 | toggleLowVoltageLanding
  | togglePropsDirection =>
    revert k
    decide

theorem gestureOutput_active (direction : ℤ) : (gestureOutput direction).active = true := by
  unfold gestureOutput
  split_ifs <;> rfl

/-- The step of a time is even exactly in the window of a direction. -/
theorem inDirection_iff {elapsed : ℤ} (hidle : 800000 ≤ elapsed) (k : Fin 3) :
    InDirection k elapsed ↔ ((elapsed - gestureIdleUs) / gestureStepUs).toNat = 2 * k.val := by
  unfold InDirection gestureIdleUs gestureStepUs
  omega

/-- A call while a gesture plays emits the waveform and leaves the gesture alone until its end. -/
theorem updateGesture_playing {player : NfeSilverwareGesturePlayer}
    (request : NfeSilverwareGesture) {nowUs : ℤ} (hcommand : player.command ≠ .none)
    (hstarted : player.startedUs ≤ nowUs) :
    Waveform player.command (nowUs - player.startedUs)
      (nfeSilverwareUpdateGesture player request nowUs).1 ∧
    (nowUs - player.startedUs < 2000000 →
      (nfeSilverwareUpdateGesture player request nowUs).2 =
        { player with previousRequest := request }) := by
  obtain ⟨elapsed, helapsed⟩ : ∃ elapsed, nowUs - player.startedUs = elapsed := ⟨_, rfl⟩
  have hpos : ¬elapsed < 0 := by omega
  simp only [nfeSilverwareUpdateGesture, hcommand, false_and, if_false, helapsed]
  -- the branches of the player: the gesture is over, the idle time, a pause, a direction
  by_cases hend : elapsed ≥ gestureIdleUs + 6 * gestureStepUs
  · rw [if_pos (Or.inr hend)]
    have hlong : 2000000 ≤ elapsed := hend
    refine ⟨⟨?_, ?_, fun _ => rfl⟩, fun h => absurd hlong (not_le.2 h)⟩
    · exact iff_of_false Bool.false_ne_true (not_lt.2 hlong)
    · intro k hk
      have := hk.2
      omega
  rw [if_neg (not_or_intro hpos hend)]
  have hactive : elapsed < 2000000 := not_le.1 hend
  by_cases hidle : elapsed < gestureIdleUs
  · rw [if_pos hidle]
    have hshort : elapsed < 800000 := hidle
    refine ⟨⟨iff_of_true rfl hactive, ?_, fun _ => rfl⟩, fun _ => rfl⟩
    intro k hk
    have := hk.1
    omega
  rw [if_neg hidle]
  have hwindow := inDirection_iff (not_lt.1 hidle)
  by_cases hodd : ((elapsed - gestureIdleUs) / gestureStepUs).toNat % 2 = 1
  · rw [if_pos hodd]
    refine ⟨⟨iff_of_true rfl hactive, ?_, fun _ => rfl⟩, fun _ => rfl⟩
    intro k hk
    have := (hwindow k).1 hk
    omega
  · rw [if_neg hodd]
    refine ⟨⟨iff_of_true (gestureOutput_active _) hactive, ?_, ?_⟩, fun _ => rfl⟩
    · intro k hk
      have hhalf : ((elapsed - gestureIdleUs) / gestureStepUs).toNat / 2 = k.val := by
        have := (hwindow k).1 hk
        omega
      rw [hhalf]
      exact gestureDirections_documented hcommand k
    · -- An even step below six is the step of a direction.
      intro hnone
      have hstep : ((elapsed - gestureIdleUs) / gestureStepUs).toNat / 2 < 3 := by
        unfold gestureIdleUs gestureStepUs at hend ⊢
        omega
      refine absurd ((hwindow ⟨_, hstep⟩).2 ?_) (hnone ⟨_, hstep⟩)
      show _ = 2 * (_ / 2)
      omega

/-- A call that starts a gesture is a call while that gesture plays. -/
theorem updateGesture_start {player : NfeSilverwareGesturePlayer} {request : NfeSilverwareGesture}
    (nowUs : ℤ) (hidle : player.command = .none) (hreleased : player.previousRequest = .none)
    (hrequest : request ≠ .none) :
    nfeSilverwareUpdateGesture player request nowUs =
      nfeSilverwareUpdateGesture ⟨request, request, nowUs⟩ request nowUs := by
  simp [nfeSilverwareUpdateGesture, hidle, hreleased, hrequest]

/-! ### A whole gesture -/

section Gesture

variable {player : NfeSilverwareGesturePlayer} {calls : ℕ → GestureCall}
  {gesture : NfeSilverwareGesture} {startUs : ℤ}

/-- While the gesture plays, the player keeps its command and its start. -/
theorem playerAt_playing (h : Started player calls gesture startUs) {n : ℕ}
    (hbefore : ∀ k ≤ n, (calls k).nowUs - startUs < 2000000) :
    (playerAt player calls (n + 1)).command = gesture ∧
      (playerAt player calls (n + 1)).startedUs = startUs := by
  have hnow : ∀ k, startUs ≤ (calls k).nowUs := fun k => h.now ▸ h.mono (Nat.zero_le k)
  induction n with
  | zero =>
    have hfirst : playerAt player calls 1 =
        (nfeSilverwareUpdateGesture ⟨gesture, gesture, startUs⟩ gesture startUs).2 := by
      have hstart := updateGesture_start startUs h.idle h.released h.gesture_ne
      rw [← hstart, ← h.request, ← h.now]
      rfl
    have hplaying : (⟨gesture, gesture, startUs⟩ : NfeSilverwareGesturePlayer).command ≠ .none :=
      h.gesture_ne
    rw [hfirst, (updateGesture_playing gesture hplaying le_rfl).2 (by simp)]
    exact ⟨rfl, rfl⟩
  | succ n ih =>
    obtain ⟨hcommand, hstarted⟩ := ih fun k hk => hbefore k (Nat.le_succ_of_le hk)
    have hplaying : (playerAt player calls (n + 1)).command ≠ .none := hcommand ▸ h.gesture_ne
    have hstep := (updateGesture_playing (calls (n + 1)).request hplaying
      (hstarted.trans_le (hnow (n + 1)))).2 (by rw [hstarted]; exact hbefore (n + 1) le_rfl)
    have hnext : playerAt player calls (n + 1 + 1) =
        { playerAt player calls (n + 1) with previousRequest := (calls (n + 1)).request } := hstep
    rw [hnext]
    exact ⟨hcommand, hstarted⟩

/-- Every call until the end emits the waveform. -/
theorem waveform_gestureOutputAt (h : Started player calls gesture startUs) {n : ℕ}
    (hbefore : ∀ k < n, (calls k).nowUs - startUs < 2000000) :
    Waveform gesture ((calls n).nowUs - startUs) (gestureOutputAt player calls n) := by
  cases n with
  | zero =>
    have hfirst : gestureOutputAt player calls 0 =
        (nfeSilverwareUpdateGesture ⟨gesture, gesture, startUs⟩ gesture startUs).1 := by
      rw [← updateGesture_start startUs h.idle h.released h.gesture_ne, ← h.request, ← h.now]
      rfl
    have hplaying : (⟨gesture, gesture, startUs⟩ : NfeSilverwareGesturePlayer).command ≠ .none :=
      h.gesture_ne
    rw [hfirst, h.now]
    exact (updateGesture_playing gesture hplaying le_rfl).1
  | succ n =>
    obtain ⟨hcommand, hstarted⟩ := playerAt_playing h fun k hk => hbefore k (Nat.lt_succ_of_le hk)
    have hnow : startUs ≤ (calls (n + 1)).nowUs := h.now ▸ h.mono (Nat.zero_le (n + 1))
    have hstep := (updateGesture_playing (calls (n + 1)).request
      (hcommand ▸ h.gesture_ne) (hstarted.trans_le hnow)).1
    rw [hcommand, hstarted] at hstep
    exact hstep

/-- A receiver that gets a sample at least every 50 ms sees the FC's timing. -/
theorem seenGesture (h : Started player calls gesture startUs) {sample : ℕ → ℕ}
    (hsample : Monotone sample) (hfirst : (calls (sample 0)).nowUs - startUs ≤ 50000)
    (hgap : ∀ i, (calls (sample (i + 1))).nowUs - (calls (sample i)).nowUs ≤ 50000)
    (hend : ∃ N, startUs + 2000000 ≤ (calls (sample N)).nowUs) :
    ∃ start stop, SeenGesture gesture (fun i => (calls (sample i)).nowUs)
      (fun i => gestureOutputAt player calls (sample i)) start stop := by
  obtain ⟨N, hN⟩ := hend
  have hmono : Monotone fun i => (calls (sample i)).nowUs := h.mono.comp hsample
  -- the samples cross every edge of the waveform less than 50 ms late
  have hcross : ∀ offset : ℤ, 50000 < offset → offset ≤ 2000000 → ∃ a, startUs + offset ≤ a ∧
      a < startUs + offset + 50000 ∧ a ≤ (calls (sample N)).nowUs ∧
        Crossing (fun i => (calls (sample i)).nowUs) (startUs + offset) a := by
    intro offset hlo hhi
    exact exists_crossing hmono hgap (by omega) (show _ ≤ (calls (sample N)).nowUs by omega)
  have hwave : ∀ i, (calls (sample i)).nowUs < startUs + 2000000 →
      Waveform gesture ((calls (sample i)).nowUs - startUs)
        (gestureOutputAt player calls (sample i)) := by
    intro i hi
    apply waveform_gestureOutputAt h
    intro k hk
    have hle : (calls k).nowUs ≤ (calls (sample i)).nowUs := h.mono hk.le
    omega
  -- the directions start 400 ms apart; a fourth start is the end of the gesture
  choose start hstart_lo hstart_hi hstart_le hstart using fun k : Fin 4 =>
    hcross (800000 + 400000 * (k : ℤ)) (by omega) (by omega)
  choose stop hstop_lo hstop_hi hstop_le hstop using fun k : Fin 3 =>
    hcross (1000000 + 400000 * (k : ℤ)) (by omega) (by omega)
  have hcast : ∀ k : Fin 3, ((k.castSucc : Fin 4) : ℤ) = k := fun k => rfl
  have hsucc : ∀ k : Fin 3, ((k.succ : Fin 4) : ℤ) = k + 1 := fun k => by simp
  refine ⟨start, stop, ?_, ?_, ?_, ?_, ?_, ?_, ?_⟩
  · have := hstart_lo 0
    refine (crossing_first hmono).shows (hstart 0) le_rfl (hstart_le 0) ?_
    intro i _ hi
    refine (hwave i (by omega)).centered ?_
    rintro k ⟨hlo, -⟩
    omega
  · have := hstart_lo 0
    omega
  · intro k
    have := hstart_lo k.castSucc
    refine (hstart k.castSucc).shows (hstop k) (by omega) (hstop_le k) ?_
    intro i hlo hhi
    rw [hcast] at hlo
    exact (hwave i (by omega)).direction k ⟨by omega, by omega⟩
  · intro k
    have := hstart_hi k.castSucc
    have := hstop_lo k
    rw [hcast] at *
    omega
  · intro k
    have := hstart_lo k.castSucc
    have := hstop_hi k
    rw [hcast] at *
    omega
  · intro k
    have := hstop_lo k
    refine (hstop k).shows (hstart k.succ) (by omega) (hstart_le k.succ) ?_
    intro i hlo hhi
    rw [hsucc] at hhi
    refine (hwave i (by omega)).centered ?_
    rintro m ⟨hlo', hhi'⟩
    omega
  · intro k
    have := hstop_hi k
    have := hstart_lo k.succ
    rw [hsucc] at *
    omega

/-- **A started gesture plays its documented waveform to the end**, whatever is requested meanwhile,
and every receiver that gets a sample at least every 50 ms sees the FC's timing. -/
theorem gesture_waveform (h : Started player calls gesture startUs) :
    (∀ n, (∀ k < n, (calls k).nowUs - startUs < 2000000) →
      Waveform gesture ((calls n).nowUs - startUs) (gestureOutputAt player calls n)) ∧
    ∀ sample : ℕ → ℕ, Monotone sample → (calls (sample 0)).nowUs - startUs ≤ 50000 →
      (∀ i, (calls (sample (i + 1))).nowUs - (calls (sample i)).nowUs ≤ 50000) →
      (∃ N, startUs + 2000000 ≤ (calls (sample N)).nowUs) →
      ∃ start stop, SeenGesture gesture (fun i => (calls (sample i)).nowUs)
        (fun i => gestureOutputAt player calls (sample i)) start stop :=
  ⟨fun _ => waveform_gestureOutputAt h, fun _ hsample hfirst hgap hend =>
    seenGesture h hsample hfirst hgap hend⟩

end Gesture

/-- A shortcut pressed again and again every 20 ms. -/
def repeatedCalls (n : ℕ) : GestureCall where
  request := if n % 3 = 0 then .nextPidAxis else .none
  nowUs := 20000 * n

theorem started_repeatedCalls : Started {} repeatedCalls .nextPidAxis 0 where
  idle := rfl
  released := rfl
  request := rfl
  gesture_ne := nofun
  now := rfl
  mono := by
    intro m n hmn
    simp only [repeatedCalls]
    omega

theorem gesture_waveform_repeatedCalls :
    Waveform .nextPidAxis 900000 (gestureOutputAt {} repeatedCalls 45) ∧
    ∃ start stop, SeenGesture .nextPidAxis (fun i => (repeatedCalls (2 * i)).nowUs)
      (fun i => gestureOutputAt {} repeatedCalls (2 * i)) start stop := by
  have hwaveform := gesture_waveform started_repeatedCalls
  constructor
  · refine hwaveform.1 45 fun k hk => ?_
    simp only [repeatedCalls]
    omega
  · refine hwaveform.2 (fun i => 2 * i) ?_ ?_ ?_ ⟨50, ?_⟩
    · intro i j hij
      simp only
      omega
    · decide
    · intro i
      simp only [repeatedCalls]
      push_cast
      omega
    · decide

end SilverwareTx
