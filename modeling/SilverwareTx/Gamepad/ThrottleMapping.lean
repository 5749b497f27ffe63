import SilverwareTx.ControlLoop.Cycle
import SilverwareTx.Lib.ResponseCurve

/-!
# Throttle and stick mapping

`mapBayangChannel` composes the curves of `ResponseCurve`, so it is monotone for every dead zone and
exponent. `mapHalfStickThrottle` and `gamepadUpdate` say what throttle the gamepad's left stick asks
for, and `throttle_and_stick_mapping` what of it reaches the packet.
-/

namespace SilverwareTx

open ResponseCurve

/-! ### The throttle of the gamepad -/

/-- `map_trigger_throttle` -/
def mapTriggerThrottle (rawValue : ℤ) : U16 :=
  if rawValue < 0 then 0
  else if rawValue > 1023 then 1023
  else BitVec.ofInt 16 rawValue

/-- `map_half_stick_throttle` -/
def mapHalfStickThrottle (rawAxisY : ℤ) (deadband : ℚ) : U16 :=
  let deadband := clampFloat deadband 0 (99 / 100)
  let normalized := clampFloat (-rawAxisY / 511) (-1) 1
  if normalized ≤ deadband then 0
  else
    let normalized := (normalized - deadband) / (1 - deadband)
    toU16 (clampFloat normalized 0 1 * 1023)

/-- `enum class ThrottleSource` -/
inductive ThrottleSource
  | trigger
  | leftStickHalf
  deriving DecidableEq

/-- `THROTTLE_SOURCE` -/
def throttleSource : ThrottleSource := .leftStickHalf

/-- What `gamepad_update` reads of a connected controller. -/
structure ControllerReading where
  axisX : ℤ
  axisY : ℤ
  axisRX : ℤ
  axisRY : ℤ
  throttle : ℤ
  a : Bool
  b : Bool
  x : Bool
  y : Bool
  l1 : Bool
  r1 : Bool
  thumbL : Bool
  thumbR : Bool
  miscStart : Bool
  miscSelect : Bool
  dpad : U8

/-- `gamepad_update`; there is a reading while a controller is connected. -/
def gamepadUpdate (controller : Option ControllerReading) (dataUpdated : Bool) (nowUs : ℤ)
    (currentState : ControlState) : ControlState :=
  match controller with
  | none => {}
  | some controller =>
    if !dataUpdated then currentState
    else
      { rollRaw := BitVec.ofInt 16 controller.axisRX
        pitchRaw := BitVec.ofInt 16 (-controller.axisRY)
        yawRaw := BitVec.ofInt 16 controller.axisX
        throttleRaw :=
          match throttleSource with
          | .trigger => mapTriggerThrottle controller.throttle
          | .leftStickHalf => mapHalfStickThrottle controller.axisY stickDeadband
        btnA := controller.a
        btnB := controller.b
        btnX := controller.x
        btnY := controller.y
        btnLB := controller.l1
        btnRB := controller.r1
        btnL3 := controller.thumbL
        btnR3 := controller.thumbR
        btnStart := controller.miscStart
        btnView := controller.miscSelect
        btnDPadUp := flagSet controller.dpad 0x01
        btnDPadDown := flagSet controller.dpad 0x02
        btnDPadRight := flagSet controller.dpad 0x04
        btnDPadLeft := flagSet controller.dpad 0x08
        connected := true
        lastUpdateUs := nowUs }

/-- The throttle of the packet that `active_control` makes of the controls. -/
def transmittedThrottle (b : BayangModule) (controls : ControlState)
    (auxState : NfeSilverwareAuxState) : ℕ :=
  packetThrottle (bayangBuildDataPacket b (activeControl mapBayangChannel controls auxState))

/-! ### The curves of the model -/

theorem clampFloat_eq (x lo hi : ℚ) : clampFloat x lo hi = clamp x lo hi := by
  unfold clampFloat clamp
  split_ifs <;> rfl

theorem applyDeadband_eq (x d : ℚ) : applyDeadband x d = deadZone d x := by
  unfold applyDeadband deadZone
  split_ifs <;> rfl

theorem monotone_clampFloat {lo hi : ℚ} (h : lo ≤ hi) : Monotone fun x => clampFloat x lo hi := by
  simp only [clampFloat_eq]
  exact monotone_clamp h

theorem le_clampFloat {lo hi : ℚ} (h : lo ≤ hi) (x : ℚ) : lo ≤ clampFloat x lo hi := by
  rw [clampFloat_eq]
  exact le_clamp h x

theorem clampFloat_le {lo hi : ℚ} (h : lo ≤ hi) (x : ℚ) : clampFloat x lo hi ≤ hi := by
  rw [clampFloat_eq]
  exact clamp_le h x

/-- The conversion to `uint16_t` inside its range. -/
theorem toNat_toU16 {x : ℚ} (h0 : 0 ≤ x) (h1 : x < 65536) : (toU16 x).toNat = ⌊x⌋.toNat := by
  have hfloor : 0 ≤ ⌊x⌋ := Int.floor_nonneg.2 h0
  have hlt : ⌊x⌋ < 65536 := by
    rw [Int.floor_lt]
    exact_mod_cast h1
  rw [toU16, BitVec.toNat_ofInt]
  have hmod : ⌊x⌋ % ((2 ^ 16 : ℕ) : ℤ) = ⌊x⌋ := Int.emod_eq_of_lt hfloor (by push_cast; omega)
  rw [hmod]

theorem toNat_toU16_mono {x y : ℚ} (h0 : 0 ≤ x) (hxy : x ≤ y) (h1 : y < 65536) :
    (toU16 x).toNat ≤ (toU16 y).toNat := by
  rw [toNat_toU16 h0 (hxy.trans_lt h1), toNat_toU16 (h0.trans hxy) h1]
  exact Int.toNat_le_toNat (Int.floor_mono hxy)

theorem toNat_toU16_le {x : ℚ} {n : ℕ} (h0 : 0 ≤ x) (h1 : x < n + 1) (hn : n < 65535) :
    (toU16 x).toNat ≤ n := by
  have hcast : (n : ℚ) + 1 < 65536 := by exact_mod_cast (by omega : n + 1 < 65536)
  have hfloor : ⌊x⌋ < n + 1 := by
    rw [Int.floor_lt]
    push_cast
    exact h1
  rw [toNat_toU16 h0 (h1.trans hcast)]
  omega

/-- The dead zone and the exponent that the code clamps to. -/
theorem clampedDeadband_mem (deadband : ℚ) :
    0 ≤ clampFloat deadband 0 (99 / 100) ∧ clampFloat deadband 0 (99 / 100) < 1 :=
  ⟨le_clampFloat (by norm_num) _, (clampFloat_le (by norm_num) _).trans_lt (by norm_num)⟩

theorem clampedExpo_mem (expo : ℚ) : 0 ≤ clampFloat expo 0 1 ∧ clampFloat expo 0 1 ≤ 1 :=
  ⟨le_clampFloat (by norm_num) _, clampFloat_le (by norm_num) _⟩

/-! ### Sticks -/

/-- The curve of a stick: dead zone, exponent, and the range of ten bits. -/
def stickCurve (deadband expo x : ℚ) : ℚ :=
  (clampFloat (expoCurve (clampFloat expo 0 1) (applyDeadband x (clampFloat deadband 0 (99 / 100))))
    (-1) 1 + 1) * (1023 / 2) + 1 / 2

/-- The normalized raw value of a stick. -/
def stickInput (reversed : Bool) (raw : ℤ) : ℚ :=
  if reversed then -clampFloat (raw / 512) (-1) 1 else clampFloat (raw / 512) (-1) 1

theorem mapBayangChannel_stick (raw : ℤ) (reversed : Bool) (deadband expo : ℚ) :
    mapBayangChannel raw false reversed deadband expo =
      toU16 (stickCurve deadband expo (stickInput reversed raw)) := rfl

theorem monotone_stickCurve (deadband expo : ℚ) : Monotone (stickCurve deadband expo) := by
  intro x y hxy
  obtain ⟨hd, hd1⟩ := clampedDeadband_mem deadband
  obtain ⟨he, he1⟩ := clampedExpo_mem expo
  have hzone := monotone_deadZone hd hd1 hxy
  rw [← applyDeadband_eq, ← applyDeadband_eq] at hzone
  have hexpo := monotone_expoCurve he he1 hzone
  have hclamp := monotone_clampFloat (by norm_num : (-1 : ℚ) ≤ 1) hexpo
  unfold stickCurve
  dsimp only at hclamp
  linarith

theorem stickCurve_mem (deadband expo x : ℚ) :
    0 ≤ stickCurve deadband expo x ∧ stickCurve deadband expo x < (1023 : ℕ) + 1 := by
  unfold stickCurve
  generalize expoCurve (clampFloat expo 0 1) _ = y
  have hlo := le_clampFloat (by norm_num : (-1 : ℚ) ≤ 1) y
  have hhi := clampFloat_le (by norm_num : (-1 : ℚ) ≤ 1) y
  constructor
  · linarith
  · push_cast
    linarith

theorem monotone_stickInput : Monotone (stickInput false) := by
  intro a b hab
  have hdiv : (a : ℚ) / 512 ≤ b / 512 := by
    have : (a : ℚ) ≤ b := by exact_mod_cast hab
    linarith
  exact monotone_clampFloat (by norm_num : (-1 : ℚ) ≤ 1) hdiv

theorem stickInput_true (raw : ℤ) : stickInput true raw = -stickInput false raw := rfl

/-- A dead or centred stick. -/
theorem stickCurve_of_dead {deadband x : ℚ} (expo : ℚ)
    (h : x = 0 ∨ |x| < clampFloat deadband 0 (99 / 100)) : stickCurve deadband expo x = 512 := by
  have hzone : applyDeadband x (clampFloat deadband 0 (99 / 100)) = 0 := by
    rw [applyDeadband_eq]
    rcases h with rfl | h
    · exact deadZone_zero (clampedDeadband_mem deadband).1
    · exact deadZone_of_abs_lt h
  rw [stickCurve, hzone, expoCurve_zero, clampFloat_eq, clamp_of_mem (by norm_num) (by norm_num)]
  norm_num

/-- A raw value inside the dead zone is not clamped. -/
theorem abs_stickInput (reversed : Bool) {raw : ℤ} (h : ((|raw| : ℤ) : ℚ) / 512 ≤ 1) :
    |stickInput reversed raw| = ((|raw| : ℤ) : ℚ) / 512 := by
  rw [Int.cast_abs] at h ⊢
  have hsmall : |(raw : ℚ) / 512| ≤ 1 := by rwa [abs_div, abs_of_pos (by norm_num : (0 : ℚ) < 512)]
  obtain ⟨hlo, hhi⟩ := abs_le.1 hsmall
  have hinput : clampFloat (raw / 512) (-1) 1 = (raw : ℚ) / 512 := by
    rw [clampFloat_eq, clamp_of_mem hlo hhi]
  have habs : |stickInput reversed raw| = |(raw : ℚ) / 512| := by
    unfold stickInput
    rw [hinput]
    cases reversed with
    | false => rfl
    | true => exact abs_neg _
  rw [habs, abs_div, abs_of_pos (by norm_num : (0 : ℚ) < 512)]

/-! ### The throttle channel -/

/-- The normalized raw value of the throttle. -/
def throttleInput (reversed : Bool) (raw : ℤ) : ℚ :=
  if reversed then 1 - clampFloat (raw / 1023) 0 1 else clampFloat (raw / 1023) 0 1

theorem mapBayangChannel_throttle (raw : ℤ) (reversed : Bool) (deadband expo : ℚ) :
    mapBayangChannel raw true reversed deadband expo =
      toU16 (throttleInput reversed raw * 1023 * throttleMaxPercent / 100) := rfl

theorem throttleInput_mem (reversed : Bool) (raw : ℤ) :
    0 ≤ throttleInput reversed raw ∧ throttleInput reversed raw ≤ 1 := by
  have hlo := le_clampFloat (by norm_num : (0 : ℚ) ≤ 1) (raw / 1023)
  have hhi := clampFloat_le (by norm_num : (0 : ℚ) ≤ 1) (raw / 1023)
  cases reversed with
  | false => exact ⟨hlo, hhi⟩
  | true => exact ⟨sub_nonneg.2 hhi, sub_le_self _ hlo⟩

theorem monotone_throttleInput : Monotone (throttleInput false) := by
  intro a b hab
  have hdiv : (a : ℚ) / 1023 ≤ b / 1023 := by
    have : (a : ℚ) ≤ b := by exact_mod_cast hab
    linarith
  exact monotone_clampFloat (by norm_num : (0 : ℚ) ≤ 1) hdiv

theorem throttleInput_true (raw : ℤ) : throttleInput true raw = 1 - throttleInput false raw := rfl

/-- The conversion of a throttle between none and full. -/
theorem throttleScale_mono {x y : ℚ} (h0 : 0 ≤ x) (hxy : x ≤ y) (h1 : y ≤ 1) :
    (toU16 (x * 1023 * throttleMaxPercent / 100)).toNat ≤
      (toU16 (y * 1023 * throttleMaxPercent / 100)).toNat := by
  unfold throttleMaxPercent
  apply toNat_toU16_mono <;> linarith

/-- The largest throttle command. -/
theorem floor_throttleMax : ⌊1023 * throttleMaxPercent / 100⌋₊ = 511 := by
  rw [throttleMaxPercent, Nat.floor_eq_iff (by norm_num)]
  norm_num

theorem mapBayangChannel_throttle_le (raw : ℤ) (reversed : Bool) (deadband expo : ℚ) :
    (mapBayangChannel raw true reversed deadband expo).toNat ≤ 511 := by
  obtain ⟨hlo, hhi⟩ := throttleInput_mem reversed raw
  rw [mapBayangChannel_throttle, throttleMaxPercent]
  apply toNat_toU16_le _ _ (by norm_num)
  · linarith
  · push_cast
    linarith

/-! ### Half of a stick as the throttle -/

/-- The normalized upper half of the stick; up is negative. -/
def halfStickInput (raw : ℤ) : ℚ := clampFloat (-raw / 511) (-1) 1

theorem antitone_halfStickInput : Antitone halfStickInput := by
  intro a b hab
  have hdiv : -(b : ℚ) / 511 ≤ -a / 511 := by
    have : (a : ℚ) ≤ b := by exact_mod_cast hab
    linarith
  exact monotone_clampFloat (by norm_num : (-1 : ℚ) ≤ 1) hdiv

/-- The dead zone of the half stick, and the rest stretched over the full range. -/
def halfStickCurve (deadband x : ℚ) : ℚ := clampFloat ((x - deadband) / (1 - deadband)) 0 1 * 1023

theorem halfStickCurve_of_le {deadband x : ℚ} (hd1 : deadband < 1) (hx : x ≤ deadband) :
    halfStickCurve deadband x = 0 := by
  have hquot : (x - deadband) / (1 - deadband) ≤ 0 :=
    div_nonpos_of_nonpos_of_nonneg (sub_nonpos.2 hx) (sub_pos.2 hd1).le
  rw [halfStickCurve, clampFloat_eq, clamp_of_le (by norm_num) hquot, zero_mul]

/-- The guard of the source and its clamp agree. -/
theorem mapHalfStickThrottle_eq (raw : ℤ) (deadband : ℚ) :
    mapHalfStickThrottle raw deadband =
      toU16 (halfStickCurve (clampFloat deadband 0 (99 / 100)) (halfStickInput raw)) := by
  have hinput : clampFloat (-raw / 511) (-1) 1 = halfStickInput raw := rfl
  unfold mapHalfStickThrottle
  simp only [hinput]
  by_cases hdead : halfStickInput raw ≤ clampFloat deadband 0 (99 / 100)
  · rw [if_pos hdead, halfStickCurve_of_le (clampedDeadband_mem deadband).2 hdead]
    rfl
  · rw [if_neg hdead]
    rfl

theorem monotone_halfStickCurve {deadband : ℚ} (hd1 : deadband < 1) :
    Monotone (halfStickCurve deadband) := by
  intro x y hxy
  have hquot : (x - deadband) / (1 - deadband) ≤ (y - deadband) / (1 - deadband) :=
    (div_le_div_iff_of_pos_right (sub_pos.2 hd1)).2 (sub_le_sub_right hxy deadband)
  have hclamp := monotone_clampFloat (by norm_num : (0 : ℚ) ≤ 1) hquot
  unfold halfStickCurve
  dsimp only at hclamp
  linarith

theorem halfStickCurve_mem (deadband x : ℚ) :
    0 ≤ halfStickCurve deadband x ∧ halfStickCurve deadband x ≤ 1023 := by
  have hlo := le_clampFloat (by norm_num : (0 : ℚ) ≤ 1) ((x - deadband) / (1 - deadband))
  have hhi := clampFloat_le (by norm_num : (0 : ℚ) ≤ 1) ((x - deadband) / (1 - deadband))
  unfold halfStickCurve
  constructor <;> linarith

/-! ### The three mappings -/

/-- What `map_bayang_channel` does with a dead zone and an exponent. -/
structure ChannelMapping (deadband expo : ℚ) : Prop where
  divisor_pos : 0 < 1 - clampFloat deadband 0 (99 / 100)
  monotone : ∀ isThrottle,
    Monotone fun raw : ℤ => (mapBayangChannel raw isThrottle false deadband expo).toNat
  antitone_reversed : ∀ isThrottle,
    Antitone fun raw : ℤ => (mapBayangChannel raw isThrottle true deadband expo).toNat
  le_full : ∀ raw isThrottle reversed,
    (mapBayangChannel raw isThrottle reversed deadband expo).toNat ≤ 1023
  centred : ∀ (raw : ℤ) reversed,
    raw = 0 ∨ ((|raw| : ℤ) : ℚ) / 512 < clampFloat deadband 0 (99 / 100) →
      (mapBayangChannel raw false reversed deadband expo).toNat = 512
  throttle_le : ∀ raw reversed,
    (mapBayangChannel raw true reversed deadband expo).toNat ≤ ⌊1023 * throttleMaxPercent / 100⌋₊

/-- What `map_half_stick_throttle` does with a dead zone. -/
structure HalfStickMapping (deadband : ℚ) : Prop where
  divisor_pos : 0 < 1 - clampFloat deadband 0 (99 / 100)
  antitone : Antitone fun raw : ℤ => (mapHalfStickThrottle raw deadband).toNat
  le_full : ∀ raw, (mapHalfStickThrottle raw deadband).toNat ≤ 1023
  lower_half : ∀ raw, 0 ≤ raw → mapHalfStickThrottle raw deadband = 0

theorem channelMapping (deadband expo : ℚ) : ChannelMapping deadband expo where
  divisor_pos := sub_pos.2 (clampedDeadband_mem deadband).2
  monotone := by
    intro isThrottle a b hab
    cases isThrottle with
    | true =>
      exact throttleScale_mono (throttleInput_mem false a).1 (monotone_throttleInput hab)
        (throttleInput_mem false b).2
    | false =>
      have hcurve := monotone_stickCurve deadband expo (monotone_stickInput hab)
      exact toNat_toU16_mono (stickCurve_mem deadband expo _).1 hcurve
        ((stickCurve_mem deadband expo _).2.trans (by norm_num))
  antitone_reversed := by
    intro isThrottle a b hab
    cases isThrottle with
    | true =>
      -- reversing turns the axis round before the curve, for a throttle and a stick alike
      have hinput : throttleInput true b ≤ throttleInput true a := by
        rw [throttleInput_true, throttleInput_true]
        exact sub_le_sub_left (monotone_throttleInput hab) 1
      exact throttleScale_mono (throttleInput_mem true b).1 hinput (throttleInput_mem true a).2
    | false =>
      have hinput : stickInput true b ≤ stickInput true a := by
        rw [stickInput_true, stickInput_true]
        exact neg_le_neg (monotone_stickInput hab)
      have hcurve := monotone_stickCurve deadband expo hinput
      exact toNat_toU16_mono (stickCurve_mem deadband expo _).1 hcurve
        ((stickCurve_mem deadband expo _).2.trans (by norm_num))
  le_full := by
    intro raw isThrottle reversed
    cases isThrottle with
    | true => exact (mapBayangChannel_throttle_le raw reversed deadband expo).trans (by norm_num)
    | false =>
      obtain ⟨hlo, hhi⟩ := stickCurve_mem deadband expo (stickInput reversed raw)
      exact toNat_toU16_le hlo hhi (by norm_num)
  centred := by
    intro raw reversed h
    have hdead : stickInput reversed raw = 0 ∨
        |stickInput reversed raw| < clampFloat deadband 0 (99 / 100) := by
      rcases h with rfl | h
      · left
        rw [← abs_eq_zero, abs_stickInput reversed (by norm_num)]
        norm_num
      · right
        rwa [abs_stickInput reversed (h.le.trans (clampFloat_le (by norm_num) _ |>.trans
          (by norm_num)))]
    rw [mapBayangChannel_stick, stickCurve_of_dead expo hdead]
    decide
  throttle_le := by
    intro raw reversed
    rw [floor_throttleMax]
    exact mapBayangChannel_throttle_le raw reversed deadband expo

theorem halfStickMapping (deadband : ℚ) : HalfStickMapping deadband where
  divisor_pos := sub_pos.2 (clampedDeadband_mem deadband).2
  antitone := by
    intro a b hab
    have hcurve := monotone_halfStickCurve (clampedDeadband_mem deadband).2
      (antitone_halfStickInput hab)
    simp only [mapHalfStickThrottle_eq]
    exact toNat_toU16_mono (halfStickCurve_mem _ _).1 hcurve
      ((halfStickCurve_mem _ _).2.trans_lt (by norm_num))
  le_full := by
    intro raw
    obtain ⟨hlo, hhi⟩ :=
      halfStickCurve_mem (clampFloat deadband 0 (99 / 100)) (halfStickInput raw)
    rw [mapHalfStickThrottle_eq]
    exact toNat_toU16_le hlo (hhi.trans_lt (by norm_num)) (by norm_num)
  lower_half := by
    intro raw hraw
    have hinput : halfStickInput raw ≤ 0 := by
      have hnonpos : -(raw : ℚ) / 511 ≤ 0 := by
        have : (0 : ℚ) ≤ raw := by exact_mod_cast hraw
        linarith
      have hmono := monotone_clampFloat (by norm_num : (-1 : ℚ) ≤ 1) hnonpos
      have hzero : clampFloat 0 (-1) 1 = 0 := by
        rw [clampFloat_eq, clamp_of_mem (by norm_num) (by norm_num)]
      exact hmono.trans_eq hzero
    rw [mapHalfStickThrottle_eq, halfStickCurve_of_le (clampedDeadband_mem deadband).2
      (hinput.trans (clampedDeadband_mem deadband).1)]
    rfl

/-! ### What is transmitted -/

theorem transmittedThrottle_eq (b : BayangModule) (controls : ControlState)
    (auxState : NfeSilverwareAuxState) :
    transmittedThrottle b controls auxState =
      (mapBayangChannel controls.throttleRaw.toNat true false 0 0).toNat := by
  have hle := (mapBayangChannel_throttle_le controls.throttleRaw.toNat false 0 0).trans
    (by norm_num : 511 ≤ 1023)
  have hthrottle : (activeControl mapBayangChannel controls auxState).throttle =
      mapBayangChannel controls.throttleRaw.toNat true false 0 0 := rfl
  rw [transmittedThrottle, packetThrottle_bayangBuildDataPacket, hthrottle, min_eq_left hle]

/-- An idle throttle is transmitted as at most 5. -/
theorem transmittedThrottle_of_idle (b : BayangModule) {controls : ControlState}
    (auxState : NfeSilverwareAuxState) (h : controls.throttleRaw.toNat ≤ armThrottleMax) :
    transmittedThrottle b controls auxState ≤ 5 := by
  have hraw : ((controls.throttleRaw.toNat : ℤ) : ℚ) ≤ 10 := by exact_mod_cast h
  have hinput : throttleInput false controls.throttleRaw.toNat ≤ 10 / 1023 := by
    have hmono := monotone_clampFloat (by norm_num : (0 : ℚ) ≤ 1)
      (by linarith : ((controls.throttleRaw.toNat : ℤ) : ℚ) / 1023 ≤ 10 / 1023)
    have hten : clampFloat (10 / 1023) 0 1 = 10 / 1023 := by
      rw [clampFloat_eq, clamp_of_mem (by norm_num) (by norm_num)]
    exact hmono.trans_eq hten
  have hpos := (throttleInput_mem false controls.throttleRaw.toNat).1
  rw [transmittedThrottle_eq, mapBayangChannel_throttle, throttleMaxPercent]
  apply toNat_toU16_le _ _ (by norm_num)
  · linarith
  · push_cast
    linarith

/-- What the left stick puts into the packets of an armed cycle. -/
structure StickThrottle (b : BayangModule) (auxState : NfeSilverwareAuxState)
    (controls : ControllerReading → ControlState) : Prop where
  le_half : ∀ r, transmittedThrottle b (controls r) auxState ≤ 511
  lower_half : ∀ r, 0 ≤ r.axisY → transmittedThrottle b (controls r) auxState = 0
  antitone : ∀ r r', r.axisY ≤ r'.axisY →
    transmittedThrottle b (controls r') auxState ≤ transmittedThrottle b (controls r) auxState

theorem stickThrottle (b : BayangModule) (auxState : NfeSilverwareAuxState) (nowUs : ℤ)
    (currentState : ControlState) :
    StickThrottle b auxState fun r => gamepadUpdate (some r) true nowUs currentState where
  le_half := by
    intro r
    rw [transmittedThrottle_eq]
    exact mapBayangChannel_throttle_le _ _ _ _
  lower_half := by
    intro r hr
    have hraw : (gamepadUpdate (some r) true nowUs currentState).throttleRaw = 0 :=
      (halfStickMapping stickDeadband).lower_half r.axisY hr
    have hinput : throttleInput false 0 = 0 := by
      rw [throttleInput, clampFloat_eq, clamp_of_le (by norm_num) (by norm_num)]
      rfl
    rw [transmittedThrottle_eq, hraw, mapBayangChannel_throttle]
    have hzero : ((0 : U16).toNat : ℤ) = 0 := rfl
    rw [hzero, hinput, throttleMaxPercent]
    norm_num [toU16]
  antitone := by
    intro r r' hrr'
    rw [transmittedThrottle_eq, transmittedThrottle_eq]
    have hraw := (halfStickMapping stickDeadband).antitone hrr'
    exact (channelMapping 0 0).monotone true (by exact_mod_cast hraw)

/-- **Throttle and stick mapping.** In exact arithmetic the stick and throttle channels are monotone,
in range and centred in the dead zone for every dead zone and exponent, the half stick is antitone
and zero below its middle, and what reaches the packet is at most half throttle, follows the stick,
and is at most 5 while the throttle counts as idle. -/
theorem throttle_and_stick_mapping :
    (∀ deadband expo, ChannelMapping deadband expo) ∧
      (∀ deadband, HalfStickMapping deadband) ∧
      (∀ b auxState nowUs currentState, StickThrottle b auxState fun r =>
        gamepadUpdate (some r) true nowUs currentState) ∧
      ∀ b auxState (controls : ControlState), controls.throttleRaw.toNat ≤ armThrottleMax →
        transmittedThrottle b controls auxState ≤ 5 :=
  ⟨channelMapping, halfStickMapping, stickThrottle,
    fun b auxState _ h => transmittedThrottle_of_idle b auxState h⟩

end SilverwareTx
