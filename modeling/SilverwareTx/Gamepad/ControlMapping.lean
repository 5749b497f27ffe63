import SilverwareTx.Config
import SilverwareTx.Word

/-!
# Gamepad snapshot, button edges and channel mapping

* `ControlState` is the snapshot that `gamepad_get_state` copies out;
* `detectButtonEdges` is `gamepad/button_edges.cpp`;
* `mapBayangChannel` is `gamepad/control_mapping.cpp` with the `float` arithmetic carried out
  exactly. The control loop takes the mapping as a parameter, so what is proved of the loop holds
  of every mapping, the rounded one included.
-/

namespace SilverwareTx

/-- `struct ControlState`; the defaults are those of `= {}`. -/
structure ControlState where
  rollRaw : I16 := 0
  pitchRaw : I16 := 0
  yawRaw : I16 := 0
  throttleRaw : U16 := 0
  btnA : Bool := false
  btnB : Bool := false
  btnX : Bool := false
  btnY : Bool := false
  btnLB : Bool := false
  btnRB : Bool := false
  btnL3 : Bool := false
  btnR3 : Bool := false
  btnStart : Bool := false
  btnView : Bool := false
  btnDPadUp : Bool := false
  btnDPadDown : Bool := false
  btnDPadLeft : Bool := false
  btnDPadRight : Bool := false
  connected : Bool := false
  lastUpdateUs : ℤ := 0
  deriving DecidableEq

/-- `ButtonEdgeState`: the buttons as the cycle before saw them. -/
structure ButtonEdgeState where
  start : Bool := false
  view : Bool := false
  b : Bool := false
  deriving DecidableEq

/-- `ButtonEdges`: the buttons that have gone down since. -/
structure ButtonEdges where
  startClicked : Bool
  viewClicked : Bool
  bClicked : Bool
  deriving DecidableEq

/-- `detect_button_edges`, with the state it leaves. -/
def detectButtonEdges (previous : ButtonEdgeState) (start view b : Bool) :
    ButtonEdges × ButtonEdgeState :=
  ({ startClicked := start && !previous.start
     viewClicked := view && !previous.view
     bClicked := b && !previous.b },
   { start := start, view := view, b := b })

/-! ### Channel mapping -/

/-- The signature of `gamepad_get_bayang_channel`. -/
abbrev ChannelMap :=
  (rawValue : ℤ) → (isThrottle reversed : Bool) → (deadband expo : ℚ) → U16

/-- `THROTTLE_MAX_PERCENT` -/
def throttleMaxPercent : ℚ := 50

/-- `clamp_float` -/
def clampFloat (value minimum maximum : ℚ) : ℚ :=
  if value < minimum then minimum else if value > maximum then maximum else value

/-- `static_cast<uint16_t>` of a non-negative value. -/
def toU16 (value : ℚ) : U16 := BitVec.ofInt 16 ⌊value⌋

/-- The dead zone around the centre, and the rest stretched over the full range. -/
def applyDeadband (normalized deadband : ℚ) : ℚ :=
  if |normalized| < deadband then 0
  else (if normalized > 0 then 1 else -1) * ((|normalized| - deadband) / (1 - deadband))

/-- `map_bayang_channel`, over exact rationals. -/
def mapBayangChannel : ChannelMap := fun rawValue isThrottle reversed deadband expo =>
  if isThrottle then
    let normalized := clampFloat (rawValue / 1023) 0 1
    let normalized := if reversed then 1 - normalized else normalized
    toU16 (normalized * 1023 * throttleMaxPercent / 100)
  else
    let deadband := clampFloat deadband 0 (99 / 100)
    let expo := clampFloat expo 0 1
    let normalized := clampFloat (rawValue / 512) (-1) 1
    let normalized := if reversed then -normalized else normalized
    let normalized := applyDeadband normalized deadband
    let normalized := expo * normalized * normalized * normalized + (1 - expo) * normalized
    toU16 ((clampFloat normalized (-1) 1 + 1) * (1023 / 2) + 1 / 2)

end SilverwareTx
