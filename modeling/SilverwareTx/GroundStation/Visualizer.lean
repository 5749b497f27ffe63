import Mathlib.Analysis.SpecialFunctions.Trigonometric.Basic
import Mathlib.Data.List.DropRight
import SilverwareTx.GroundStation.Canvas
import SilverwareTx.GroundStation.DashboardPanels
import SilverwareTx.GroundStation.FcTelemetry

/-!
# The quad of the dashboard (`Dashboard._visualizer_rows` in
`tools/ground_station/ground_station.py`)

What is drawn on the canvas, and in which order. Where the points of the quad lie on it comes from
floating-point trigonometry and is a parameter (`Projection`); `exactProjection` has the formulas of
`_rotate_body` and `_view_project` over the real numbers.
-/

namespace SilverwareTx

/-- A count with its factor as a number. -/
def Scaled.value (x : Scaled) : ℚ := x.count * x.mul / x.div

end SilverwareTx

namespace SilverwareTx.GroundStation

/-- `str.rstrip` -/
def rstrip (row : List Char) : List Char := row.rdropWhile TextWrap.isSpace

namespace TerminalCanvas

/-- `rows`: the cells row by row, without the spaces at their ends. -/
def rows (self : TerminalCanvas) : List (List Char) :=
  (List.range self.height).map fun y =>
    rstrip ((List.range self.width).map fun x => self.cells y x)

/-- `line`, with as many turns as its loop makes. -/
def drawLine (self : TerminalCanvas) (priority : ℤ) (a b : ℤ × ℤ) : TerminalCanvas :=
  (self.line a.1 a.2 b.1 b.2 priority (lineLength a.1 a.2 b.1 b.2 + 1)).getD self

theorem line_eq_drawLine (self : TerminalCanvas) (priority : ℤ) (a b : ℤ × ℤ) :
    self.line a.1 a.2 b.1 b.2 priority (lineLength a.1 a.2 b.1 b.2 + 1) =
      some (self.drawLine priority a b) := by
  rw [drawLine, line, plotLine_eq, length_linePoints, if_neg (lt_irrefl _), Option.getD_some]

end TerminalCanvas

namespace BrailleCanvas

/-- `DOT_BITS[(dot_x, dot_y)]` -/
def dotBits : ℕ → ℕ → ℕ
  | 0, 0 => 0x01
  | 0, 1 => 0x02
  | 0, 2 => 0x04
  | 0, _ => 0x40
  | _, 0 => 0x08
  | _, 1 => 0x10
  | _, 2 => 0x20
  | _, _ => 0x80

/-- The bits of the dots in a cell. -/
def cellBits (self : BrailleCanvas) (cellX cellY : ℕ) : ℕ :=
  (List.range 2).foldl (fun bits dotX =>
    (List.range 4).foldl (fun bits dotY =>
      if (((cellX * 2 + dotX : ℕ) : ℤ), ((cellY * 4 + dotY : ℕ) : ℤ)) ∈ self.pixels then
        bits ||| dotBits dotX dotY
      else bits) bits) 0

/-- `rows`: the cells row by row, without the spaces at their ends. -/
def rows (self : BrailleCanvas) : List (List Char) :=
  (List.range self.heightChars).map fun cellY =>
    rstrip ((List.range self.widthChars).map fun cellX =>
      let bits := self.cellBits cellX cellY
      if bits ≠ 0 then Char.ofNat (0x2800 + bits) else ' ')

/-- `filled_dot(x, y, radius=1)` -/
def filledDot (self : BrailleCanvas) (center : ℤ × ℤ) : BrailleCanvas :=
  [-1, 0, 1].foldl (fun canvas oy =>
    [-1, 0, 1].foldl (fun canvas ox =>
      if ox * ox + oy * oy ≤ 1 then canvas.dot (center.1 + ox) (center.2 + oy) else canvas)
      canvas) self

/-- `line`, with as many turns as its loop makes. -/
def drawLine (self : BrailleCanvas) (a b : ℤ × ℤ) : BrailleCanvas :=
  (self.line a.1 a.2 b.1 b.2 (lineLength a.1 a.2 b.1 b.2 + 1)).getD self

theorem line_eq_drawLine (self : BrailleCanvas) (a b : ℤ × ℤ) :
    self.line a.1 a.2 b.1 b.2 (lineLength a.1 a.2 b.1 b.2 + 1) = some (self.drawLine a b) := by
  rw [drawLine, line, plotLine_eq, length_linePoints, if_neg (lt_irrefl _), Option.getD_some]

end BrailleCanvas

/-! ### The quad -/

/-- A point of the quad, in its own coordinates. -/
inductive QuadPoint
  | body (x y z : ℚ)
  /-- Step `step` of `steps` around the rotor of a motor. -/
  | rotor (motor : ℚ × ℚ) (step steps : ℕ)

/-- The displayed attitude, in degrees. -/
structure Attitude where
  roll : ℚ
  pitch : ℚ
  yaw : ℚ

/-- The functions `p` of `_visualizer_rows`: where a point lies on a canvas of this width and
height. -/
structure Projection where
  braille : Attitude → (width height : ℕ) → QuadPoint → ℤ × ℤ
  terminal : Attitude → (width height : ℕ) → QuadPoint → ℤ × ℤ

section Exact

open Real

/-- `int(round(x))`, with ties to even. -/
noncomputable def nearest (x : ℝ) : ℤ :=
  let below := ⌊x⌋
  if x - below < 1 / 2 then below
  else if 1 / 2 < x - below then below + 1
  else if below % 2 = 0 then below
  else below + 1

/-- The point in the frame of the quad. -/
noncomputable def QuadPoint.coordinates : QuadPoint → ℝ × ℝ × ℝ
  | .body x y z => (x, y, z)
  | .rotor motor step steps =>
    (motor.1 + 0.34 * cos (2 * π * step / steps), motor.2 + 0.34 * sin (2 * π * step / steps), 0)

/-- `_rotate_body` -/
noncomputable def rotateBody (point : ℝ × ℝ × ℝ) (attitude : Attitude) : ℝ × ℝ × ℝ :=
  let (x, y, z) := point
  let roll := attitude.roll * π / 180
  let pitch := attitude.pitch * π / 180
  let yaw := attitude.yaw * π / 180
  let (y, z) := (y * cos roll - z * sin roll, y * sin roll + z * cos roll)
  let (x, z) := (x * cos pitch + z * sin pitch, -x * sin pitch + z * cos pitch)
  let (x, y) := (x * cos yaw - y * sin yaw, x * sin yaw + y * cos yaw)
  (x, y, z)

/-- `_view_project`, without the depth that nothing uses. -/
noncomputable def viewProject (point : ℝ × ℝ × ℝ) : ℝ × ℝ :=
  let (x, y, z) := point
  (x * 0.8480 + y * 0.5300 + z * 0, x * -0.2257 + y * 0.3611 + z * 0.9044)

/-- Both functions `p`; `ratio` is the height of a step on the screen as a part of its width. -/
noncomputable def projectPoint (scale ratio : ℝ) (attitude : Attitude) (width height : ℕ)
    (point : QuadPoint) : ℤ × ℤ :=
  let (sx, sy) := viewProject (rotateBody point.coordinates attitude)
  (nearest ((width - 1) * 0.5 + sx * scale), nearest ((height - 1) * 0.5 - sy * scale * ratio))

/-- The projection over the reals, before it is rounded. -/
noncomputable def exactProjection : Projection where
  braille attitude width height :=
    projectPoint (max 6 (min ((width : ℝ) / 3.4) (height / 3.4) * 0.86)) 1 attitude width height
  terminal attitude width height :=
    projectPoint (max 3.1 (min ((width : ℝ) / 3.65) (height / 1.72))) 0.52 attitude width height

end Exact

/-- The places of the motors. -/
def motors : List (ℚ × ℚ) :=
  [(21 / 20, 21 / 20), (21 / 20, -21 / 20), (-21 / 20, 21 / 20), (-21 / 20, -21 / 20)]

/-- The center of the quad. -/
def center : QuadPoint := .body 0 0 0

/-- The corners of the body. -/
def corners : List QuadPoint :=
  [-7 / 50, 7 / 50].flatMap fun z =>
    [.body (17 / 50) (27 / 100) z, .body (17 / 50) (-27 / 100) z, .body (-17 / 50) (-27 / 100) z,
      .body (-17 / 50) (27 / 100) z]

/-- The edges of the body, by the places of their ends in `corners`. -/
def bodyEdges : List (ℕ × ℕ) :=
  [(0, 1), (1, 2), (2, 3), (3, 0), (4, 5), (5, 6), (6, 7), (7, 4), (0, 4), (1, 5), (2, 6), (3, 7)]

/-- Where the nose begins. -/
def noseBase : QuadPoint := .body (17 / 50) 0 (3 / 25)

/-- The tip of the nose. -/
def noseTip : QuadPoint := .body (49 / 50) 0 (1 / 5)

/-- The left end of the arrow. -/
def noseLeft : QuadPoint := .body (39 / 50) (7 / 50) (4 / 25)

/-- The right end of the arrow. -/
def noseRight : QuadPoint := .body (39 / 50) (-7 / 50) (4 / 25)

/-- What both canvases draw: the arms, the rotors with their hubs, the body and the nose, up to its
last line. -/
def drawQuad {σ : Type} (line : (priority : ℤ) → ℤ × ℤ → ℤ × ℤ → σ → σ) (hub : ℤ × ℤ → σ → σ)
    (rotorSteps : ℕ) (p : QuadPoint → ℤ × ℤ) (canvas : σ) : σ :=
  let canvas := motors.foldl (fun canvas motor =>
    line 1 (p center) (p (.body motor.1 motor.2 0)) canvas) canvas
  let canvas := motors.foldl (fun canvas motor =>
    let ring (step : ℕ) := p (.rotor motor (step % rotorSteps) rotorSteps)
    let canvas := (List.range rotorSteps).foldl (fun canvas index =>
      line 1 (ring index) (ring (index + 1)) canvas) canvas
    hub (p (.body motor.1 motor.2 0)) canvas) canvas
  let canvas := bodyEdges.foldl (fun canvas edge =>
    line 2 (p (corners.getD edge.1 center)) (p (corners.getD edge.2 center)) canvas) canvas
  let canvas := line 3 (p noseBase) (p noseTip) canvas
  let canvas := line 3 (p noseTip) (p noseLeft) canvas
  line 3 (p noseTip) (p noseRight) canvas

/-- The quad on a canvas of dots. -/
def brailleQuad (p : QuadPoint → ℤ × ℤ) (canvas : BrailleCanvas) : BrailleCanvas :=
  let canvas := drawQuad (fun _ a b canvas => canvas.drawLine a b)
    (fun hub canvas => canvas.filledDot hub) 32 p canvas
  (canvas.drawLine (p noseLeft) (p noseRight)).filledDot (p center)

/-- The quad on a canvas of characters. -/
def terminalQuad (p : QuadPoint → ℤ × ℤ) (canvas : TerminalCanvas) : TerminalCanvas :=
  let canvas := drawQuad (fun priority a b canvas => canvas.drawLine priority a b)
    (fun hub canvas => canvas.put hub.1 hub.2 'o' 4) 16 p canvas
  let canvas := canvas.put (p noseTip).1 (p noseTip).2 '^' 6
  canvas.put (p center).1 (p center).2 '#' 5

/-- The attitude that is drawn: the display turns the yaw by 180 degrees. -/
def displayedAttitude (fc : FcTelemetry) : Attitude :=
  if fc.protocol = .extendedV1 ∧ fc.pageMask.testBit 1 then
    ⟨fc.rollDeg.value, fc.pitchDeg.value, fc.relativeYawDeg.value + 180⟩
  else ⟨0, 0, 180⟩

/-- `_visualizer_rows` -/
def Dashboard.visualizerRows (self : Dashboard) (projection : Projection) (fc : FcTelemetry)
    (contentWidth : ℕ) : List (List Char) :=
  let width := max 4 contentWidth
  let canvasHeight : ℕ := if width < 31 then 9 else 11
  let attitude := displayedAttitude fc
  let rows :=
    if self.useUnicode then
      let canvas := BrailleCanvas.create width canvasHeight
      (brailleQuad (projection.braille attitude canvas.width canvas.height) canvas).rows
    else
      let canvas := TerminalCanvas.create width canvasHeight
      (terminalQuad (projection.terminal attitude width canvasHeight) canvas).rows
  rows.map fun row => if row ≠ [] then self.color row Dashboard.valueCode else row

end SilverwareTx.GroundStation
