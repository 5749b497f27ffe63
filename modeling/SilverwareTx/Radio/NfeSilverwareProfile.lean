import SilverwareTx.Radio.Bayang

/-!
# The flight controller's AUX and gesture profile (`radio/nfe_silverware_profile.cpp`)

* AUX selections: `nfeSilverwareUpdateAux` toggles on rising edges while active and leaves the
  button history alone otherwise, `nfeSilverwareAuxFlags` and `nfeSilverwareRestoreAux` pack them in
  a byte;
* gestures: `nfeSilverwareUpdateGesture` plays a timed stick sequence;
* `nfeSilverwareApplyMultiAux` and `nfeSilverwareMakeLockedControl` fill the control state.
-/

namespace SilverwareTx

/-! ### AUX selections -/

/-- `NFE_SILVERWARE_AUX_LEVEL` -/
def nfeSilverwareAuxLevel : U8 := 1#8 <<< 0

/-- `NFE_SILVERWARE_AUX_RACE` -/
def nfeSilverwareAuxRace : U8 := 1#8 <<< 1

/-- `NFE_SILVERWARE_AUX_HORIZON` -/
def nfeSilverwareAuxHorizon : U8 := 1#8 <<< 2

/-- `NFE_SILVERWARE_AUX_PID_PROFILE` -/
def nfeSilverwareAuxPidProfile : U8 := 1#8 <<< 3

/-- `NFE_SILVERWARE_AUX_LEDS` -/
def nfeSilverwareAuxLeds : U8 := 1#8 <<< 4

/-- `NFE_SILVERWARE_AUX_MASK` -/
def nfeSilverwareAuxMask : U8 :=
  nfeSilverwareAuxLevel ||| nfeSilverwareAuxRace ||| nfeSilverwareAuxHorizon |||
  nfeSilverwareAuxPidProfile ||| nfeSilverwareAuxLeds

/-- `struct NfeSilverwareAuxState`; the defaults are those of `= {}`. -/
structure NfeSilverwareAuxState where
  levelMode : Bool := false
  raceMode : Bool := false
  horizonMode : Bool := false
  pidProfile : Bool := false
  leds : Bool := false
  previousA : Bool := false
  previousX : Bool := false
  previousY : Bool := false
  previousRB : Bool := false
  previousLB : Bool := false
  deriving DecidableEq

/-- `nfe_silverware_aux_flags` -/
def nfeSilverwareAuxFlags (state : NfeSilverwareAuxState) : U8 :=
  (if state.levelMode then nfeSilverwareAuxLevel else 0) |||
  (if state.raceMode then nfeSilverwareAuxRace else 0) |||
  (if state.horizonMode then nfeSilverwareAuxHorizon else 0) |||
  (if state.pidProfile then nfeSilverwareAuxPidProfile else 0) |||
  (if state.leds then nfeSilverwareAuxLeds else 0)

/-- `nfe_silverware_restore_aux` -/
def nfeSilverwareRestoreAux (flags : U8) : NfeSilverwareAuxState where
  levelMode := flagSet flags nfeSilverwareAuxLevel
  raceMode := flagSet flags nfeSilverwareAuxRace
  horizonMode := flagSet flags nfeSilverwareAuxHorizon
  pidProfile := flagSet flags nfeSilverwareAuxPidProfile
  leds := flagSet flags nfeSilverwareAuxLeds

/-- `toggle_on_rising_edge`, its new `*value`; the new `*previous` is `current`. -/
def toggleOnRisingEdge (current previous value : Bool) : Bool :=
  if current && !previous then !value else value

/-- `nfe_silverware_update_aux`: a button that has gone down flips its selection, where that is
allowed. -/
def nfeSilverwareUpdateAux (state : NfeSilverwareAuxState)
    (active buttonA buttonX buttonY buttonRb buttonLb : Bool) : NfeSilverwareAuxState :=
  if !active then state
  else
    { levelMode := toggleOnRisingEdge buttonA state.previousA state.levelMode
      raceMode := toggleOnRisingEdge buttonX state.previousX state.raceMode
      horizonMode := toggleOnRisingEdge buttonY state.previousY state.horizonMode
      pidProfile := toggleOnRisingEdge buttonRb state.previousRB state.pidProfile
      leds := toggleOnRisingEdge buttonLb state.previousLB state.leds
      previousA := buttonA
      previousX := buttonX
      previousY := buttonY
      previousRB := buttonRb
      previousLB := buttonLb }

/-- CH5 carries `active`, CH6 to CH10 the selections. -/
def nfeSilverwareApplyMultiAux (controls : BayangControlState) (active : Bool)
    (state : NfeSilverwareAuxState) : BayangControlState :=
  { controls with
    auxFlip := active
    auxRth := state.levelMode
    auxPicture := state.raceMode
    auxVideo := state.horizonMode
    auxHeadless := state.pidProfile
    auxInverted := state.leds }

/-- `nfe_silverware_make_locked_control` -/
def nfeSilverwareMakeLockedControl (gestureEnabled : Bool) (gestureRoll gesturePitch : U16) :
    BayangControlState where
  roll := if gestureEnabled then gestureRoll else 512
  pitch := if gestureEnabled then gesturePitch else 512
  yaw := 512
  throttle := 0

/-! ### Gestures -/

/-- `GESTURE_IDLE_US`: how long the sticks rest first. -/
def gestureIdleUs : ℤ := 800000

/-- `GESTURE_STEP_US`: how long each position is held. -/
def gestureStepUs : ℤ := 200000

/-- `GESTURE_LOW` -/
def gestureLow : U16 := 0

/-- `GESTURE_CENTER` -/
def gestureCenter : U16 := 512

/-- `GESTURE_HIGH` -/
def gestureHigh : U16 := 1023

/-- `enum class NfeSilverwareGesture` -/
inductive NfeSilverwareGesture
  | none
  | save
  | toggleBindStorage
  | stickTravelOff
  | stickTravelOn
  | nextPidTerm
  | nextPidAxis
  | increasePid
  | decreasePid
  | toggleFeature1
  | toggleLowVoltageLanding
  | togglePropsDirection
  deriving DecidableEq, Repr

/-- The three directions of a gesture: `±1` is right or left, `±2` is up or down. -/
def gestureDirections : NfeSilverwareGesture → Vector ℤ 3
  | .save => #v[-2, -2, -2]
  | .toggleBindStorage => #v[2, 2, 2]
  | .stickTravelOff => #v[-1, -1, -2]
  | .stickTravelOn => #v[1, 1, -2]
  | .nextPidTerm => #v[2, -2, 2]
  | .nextPidAxis => #v[2, -2, -2]
  | .increasePid => #v[2, -2, 1]
  | .decreasePid => #v[2, -2, -1]
  | .toggleFeature1 => #v[1, 1, 1]
  | .toggleLowVoltageLanding => #v[-1, -1, -1]
  | .togglePropsDirection => #v[-2, 2, -2]
  | .none => #v[0, 0, 0]

/-- `NfeSilverwareGesturePlayer`: the gesture in progress and the request before. -/
structure NfeSilverwareGesturePlayer where
  command : NfeSilverwareGesture := .none
  previousRequest : NfeSilverwareGesture := .none
  startedUs : ℤ := 0
  deriving DecidableEq

/-- `NfeSilverwareGestureOutput`: whether the sticks are overridden, and with what. -/
structure NfeSilverwareGestureOutput where
  active : Bool := false
  roll : U16 := 0
  pitch : U16 := 0
  deriving DecidableEq

/-- The stick position for a direction. -/
def gestureOutput (direction : ℤ) : NfeSilverwareGestureOutput :=
  if direction = -1 then ⟨true, gestureLow, gestureCenter⟩
  else if direction = 1 then ⟨true, gestureHigh, gestureCenter⟩
  else if direction = -2 then ⟨true, gestureCenter, gestureLow⟩
  else if direction = 2 then ⟨true, gestureCenter, gestureHigh⟩
  else ⟨true, gestureCenter, gestureCenter⟩

/-- `nfe_silverware_update_gesture`: a new request starts its gesture. -/
def nfeSilverwareUpdateGesture (player : NfeSilverwareGesturePlayer)
    (request : NfeSilverwareGesture) (nowUs : ℤ) :
    NfeSilverwareGestureOutput × NfeSilverwareGesturePlayer :=
  let idle : NfeSilverwareGestureOutput := ⟨false, gestureCenter, gestureCenter⟩
  let player :=
    if player.command = .none ∧ request ≠ .none ∧ player.previousRequest = .none then
      { player with command := request, startedUs := nowUs }
    else player
  let player := { player with previousRequest := request }
  if player.command = .none then (idle, player)
  else
    let elapsed := nowUs - player.startedUs
    let totalUs := gestureIdleUs + 6 * gestureStepUs
    if elapsed < 0 ∨ elapsed ≥ totalUs then (idle, { player with command := .none })
    else if elapsed < gestureIdleUs then ({ idle with active := true }, player)
    else
      let step := ((elapsed - gestureIdleUs) / gestureStepUs).toNat
      if step % 2 = 1 then ({ idle with active := true }, player)
      else (gestureOutput ((gestureDirections player.command).toList.getD (step / 2) 0), player)

/-- `nfe_silverware_cancel_gesture`: the player is reset, its last request included. -/
def nfeSilverwareCancelGesture (_player : NfeSilverwareGesturePlayer) :
    NfeSilverwareGesturePlayer := {}

/-! ### What the profile does -/

@[simp] theorem nfeSilverwareUpdateAux_inactive (state : NfeSilverwareAuxState)
    (a x y rb lb : Bool) : nfeSilverwareUpdateAux state false a x y rb lb = state := rfl

/-- A toggle keeps its value exactly when its button has no rising edge. -/
theorem toggleOnRisingEdge_eq_iff (current previous value : Bool) :
    toggleOnRisingEdge current previous value = value ↔ ¬ (current = true ∧ previous = false) := by
  cases current <;> cases previous <;> cases value <;> decide

/-- The selections of `state` with the button history cleared. -/
def NfeSilverwareAuxState.selections (state : NfeSilverwareAuxState) : NfeSilverwareAuxState where
  levelMode := state.levelMode
  raceMode := state.raceMode
  horizonMode := state.horizonMode
  pidProfile := state.pidProfile
  leds := state.leds

theorem nfeSilverwareAuxFlags_selections (state : NfeSilverwareAuxState) :
    nfeSilverwareAuxFlags state.selections = nfeSilverwareAuxFlags state := rfl

/-- The packed selections use only the bits of the mask. -/
theorem nfeSilverwareAuxFlags_masked (state : NfeSilverwareAuxState) :
    nfeSilverwareAuxFlags state &&& ~~~nfeSilverwareAuxMask = 0 := by
  have hflags : ∀ level race horizon profile leds : Bool,
      nfeSilverwareAuxFlags ⟨level, race, horizon, profile, leds, false, false, false, false, false⟩
        &&& ~~~nfeSilverwareAuxMask = 0 := by decide
  exact hflags state.levelMode state.raceMode state.horizonMode state.pidProfile state.leds

/-- Unpacking gives the selections back, without a button history. -/
theorem nfeSilverwareRestoreAux_auxFlags (state : NfeSilverwareAuxState) :
    nfeSilverwareRestoreAux (nfeSilverwareAuxFlags state) = state.selections := by
  have hround : ∀ level race horizon profile leds : Bool,
      nfeSilverwareRestoreAux (nfeSilverwareAuxFlags
          ⟨level, race, horizon, profile, leds, false, false, false, false, false⟩) =
        ⟨level, race, horizon, profile, leds, false, false, false, false, false⟩ := by decide
  exact hround state.levelMode state.raceMode state.horizonMode state.pidProfile state.leds

/-- Flags of the mask survive unpacking and packing. -/
theorem nfeSilverwareAuxFlags_restoreAux {flags : U8} (h : flags &&& ~~~nfeSilverwareAuxMask = 0) :
    nfeSilverwareAuxFlags (nfeSilverwareRestoreAux flags) = flags := by
  revert flags
  decide

end SilverwareTx
