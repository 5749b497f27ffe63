import Mathlib.Data.List.Chain
import SilverwareTx.Lib.LineWalk
import SilverwareTx.Word

/-!
# The canvases of the dashboard (`TerminalCanvas`, `BrailleCanvas` in
`tools/ground_station/ground_station.py`)

The `while True` loop of `line` is `lineLoop`, which says what it leaves if it stops within a number
of turns. Its points are those of `LineWalk` (`plotLine_eq`), so it stops after exactly as many turns
as the longer distance and one more, and both canvases plot the same points
(`line_rasterisation`).
-/

namespace SilverwareTx.GroundStation

/-! ### The loop of `line` -/

/-- The variables of the loop. -/
structure LineState where
  x : ℤ
  y : ℤ
  err : ℤ

/-- What `line` computes before its loop. -/
structure LineSetup where
  x1 : ℤ
  y1 : ℤ
  dx : ℤ
  dy : ℤ
  sx : ℤ
  sy : ℤ

/-- The locals of `line` before its loop, but for the ones that it changes. -/
def lineSetup (x0 y0 x1 y1 : ℤ) : LineSetup where
  x1 := x1
  y1 := y1
  dx := |x1 - x0|
  dy := -|y1 - y0|
  sx := if x0 < x1 then 1 else -1
  sy := if y0 < y1 then 1 else -1

/-- The part of the loop's body after the test for the end. -/
def lineAdvance (setup : LineSetup) (s : LineState) : LineState :=
  let twice := 2 * s.err
  let s := if twice ≥ setup.dy then { s with err := s.err + setup.dy, x := s.x + setup.sx } else s
  if twice ≤ setup.dx then { s with err := s.err + setup.dx, y := s.y + setup.sy } else s

/-- The loop, with `plot` for the call that draws a point; `none` if it has not stopped after
`turns` turns. -/
def lineLoop {σ : Type} (plot : ℤ → ℤ → σ → σ) (setup : LineSetup) :
    (turns : ℕ) → LineState → σ → Option σ
  | 0, _, _ => none
  | turns + 1, s, canvas =>
    let canvas := plot s.x s.y canvas
    if s.x = setup.x1 ∧ s.y = setup.y1 then some canvas
    else lineLoop plot setup turns (lineAdvance setup s) canvas

/-- `line` of a canvas with this `plot`. -/
def plotLine {σ : Type} (plot : ℤ → ℤ → σ → σ) (x0 y0 x1 y1 : ℤ) (turns : ℕ) (canvas : σ) :
    Option σ :=
  let setup := lineSetup x0 y0 x1 y1
  lineLoop plot setup turns { x := x0, y := y0, err := setup.dx + setup.dy } canvas

/-! ### `TerminalCanvas` -/

/-- `TerminalCanvas`: a character and its priority for each cell. -/
structure TerminalCanvas where
  width : ℕ
  height : ℕ
  /-- `cells[y][x]` -/
  cells : ℤ → ℤ → Char := fun _ _ => ' '
  /-- `priority[y][x]` -/
  priority : ℤ → ℤ → ℤ := fun _ _ => -1

namespace TerminalCanvas

/-- The constructor: at least one cell. -/
def create (width height : ℤ) : TerminalCanvas where
  width := (max 1 width).toNat
  height := (max 1 height).toNat

/-- The character that a line of this slope is drawn with. -/
def lineChar (dx dy : ℤ) : Char :=
  if |dx| ≥ 3 * |dy| then '-'
  else if |dy| ≥ 2 * |dx| then '|'
  else if dx * dy ≥ 0 then '\\' else '/'

/-- `put`: nothing gives way to a lower priority. -/
def put (self : TerminalCanvas) (x y : ℤ) (char : Char) (priority : ℤ) : TerminalCanvas :=
  if ¬ (0 ≤ x ∧ x < self.width ∧ 0 ≤ y ∧ y < self.height) then self
  else
    let previous := self.priority y x
    if priority < previous then self
    else
      let char :=
        if priority = previous ∧ priority ≤ 1 ∧ self.cells y x ≠ ' ' ∧ self.cells y x ≠ char then
          '+'
        else char
      { self with
        cells := Function.update self.cells y (Function.update (self.cells y) x char)
        priority := Function.update self.priority y (Function.update (self.priority y) x priority) }

/-- The call of `put` in the loop of `line`. -/
def plot (x0 y0 x1 y1 priority : ℤ) (x y : ℤ) (self : TerminalCanvas) : TerminalCanvas :=
  self.put x y (lineChar (x1 - x0) (y1 - y0)) priority

/-- `line`, with a bound on the turns of its loop. -/
def line (self : TerminalCanvas) (x0 y0 x1 y1 priority : ℤ) (turns : ℕ) : Option TerminalCanvas :=
  plotLine (plot x0 y0 x1 y1 priority) x0 y0 x1 y1 turns self

end TerminalCanvas

/-! ### `BrailleCanvas` -/

/-- `BrailleCanvas`: cells of two by four dots. -/
structure BrailleCanvas where
  widthChars : ℕ
  heightChars : ℕ
  pixels : Finset (ℤ × ℤ) := ∅

namespace BrailleCanvas

/-- The constructor: at least one cell. -/
def create (width height : ℤ) : BrailleCanvas where
  widthChars := (max 1 width).toNat
  heightChars := (max 1 height).toNat

/-- `width`: the dots in a row. -/
def width (self : BrailleCanvas) : ℕ := self.widthChars * 2

/-- `height`: the dots in a column. -/
def height (self : BrailleCanvas) : ℕ := self.heightChars * 4

/-- `dot`: outside of the canvas it sets nothing. -/
def dot (self : BrailleCanvas) (x y : ℤ) : BrailleCanvas :=
  if 0 ≤ x ∧ x < self.width ∧ 0 ≤ y ∧ y < self.height then
    { self with pixels := insert (x, y) self.pixels }
  else self

/-- `line`, with a bound on the turns of its loop. -/
def line (self : BrailleCanvas) (x0 y0 x1 y1 : ℤ) (turns : ℕ) : Option BrailleCanvas :=
  plotLine (fun x y canvas => canvas.dot x y) x0 y0 x1 y1 turns self

end BrailleCanvas

/-! ### The points of a line -/

open LineWalk

section Points

variable (x0 y0 x1 y1 : ℤ)

/-- The number of cells between the end points on the longer axis. -/
def lineLength : ℕ := max (x1 - x0).natAbs (y1 - y0).natAbs

/-- Point `k` of a line. -/
def linePoint (k : ℕ) : ℤ × ℤ :=
  (x0 + (lineSetup x0 y0 x1 y1).sx * (walk (x1 - x0).natAbs (y1 - y0).natAbs k).i,
    y0 + (lineSetup x0 y0 x1 y1).sy * (walk (x1 - x0).natAbs (y1 - y0).natAbs k).j)

/-- The points of a line, in order. -/
def linePoints : List (ℤ × ℤ) := (List.range (lineLength x0 y0 x1 y1 + 1)).map (linePoint x0 y0 x1 y1)

/-- The state of the loop before turn `k`. -/
def lineStateAt (k : ℕ) : LineState where
  x := (linePoint x0 y0 x1 y1 k).1
  y := (linePoint x0 y0 x1 y1 k).2
  err := (walk (x1 - x0).natAbs (y1 - y0).natAbs k).err

variable {x0 y0 x1 y1}

/-- The end of an axis is its start and as many steps as the distance. -/
theorem add_mul_natAbs (u v : ℤ) : u + (if u < v then 1 else -1) * ((v - u).natAbs : ℤ) = v := by
  split_ifs <;> omega

theorem linePoint_zero : linePoint x0 y0 x1 y1 0 = (x0, y0) := by simp [linePoint, walk]

/-- The last point is the end of the line. -/
theorem linePoint_lineLength : linePoint x0 y0 x1 y1 (lineLength x0 y0 x1 y1) = (x1, y1) := by
  obtain ⟨hi, hj⟩ := walk_end (x1 - x0).natAbs (y1 - y0).natAbs
  rw [linePoint, lineLength, hi, hj]
  exact Prod.ext (add_mul_natAbs x0 x1) (add_mul_natAbs y0 y1)

theorem lineStateAt_succ (k : ℕ) :
    lineAdvance (lineSetup x0 y0 x1 y1) (lineStateAt x0 y0 x1 y1 k) =
      lineStateAt x0 y0 x1 y1 (k + 1) := by
  have hdx : (lineSetup x0 y0 x1 y1).dx = ((x1 - x0).natAbs : ℤ) := Int.abs_eq_natAbs _
  have hdy : (lineSetup x0 y0 x1 y1).dy = -((y1 - y0).natAbs : ℤ) := by
    rw [← Int.abs_eq_natAbs]
    rfl
  simp only [lineAdvance, lineStateAt, linePoint, walk, advance, hdx, hdy]
  split_ifs <;> rw [LineState.mk.injEq] <;> refine ⟨?_, ?_, ?_⟩ <;> ring

/-- Before its last turn the loop is not at the end. -/
theorem lineStateAt_ne_end {k : ℕ} (hk : k < lineLength x0 y0 x1 y1) :
    ¬ ((lineStateAt x0 y0 x1 y1 k).x = (lineSetup x0 y0 x1 y1).x1 ∧
      (lineStateAt x0 y0 x1 y1 k).y = (lineSetup x0 y0 x1 y1).y1) := by
  rintro ⟨hx, hy⟩
  unfold lineLength at hk
  unfold lineStateAt at hx hy
  rcases le_total (y1 - y0).natAbs (x1 - x0).natAbs with h | h
  · rw [linePoint, walk_i h] at hx
    simp only [lineSetup] at hx
    split_ifs at hx <;> omega
  · rw [linePoint, walk_j h] at hy
    simp only [lineSetup] at hy
    split_ifs at hy <;> omega

@[simp] theorem length_linePoints :
    (linePoints x0 y0 x1 y1).length = lineLength x0 y0 x1 y1 + 1 := by
  simp [linePoints]

theorem getElem_linePoints {k : ℕ} (hk : k < (linePoints x0 y0 x1 y1).length) :
    (linePoints x0 y0 x1 y1)[k] = linePoint x0 y0 x1 y1 k := by
  simp [linePoints]

theorem drop_linePoints {k : ℕ} (hk : k ≤ lineLength x0 y0 x1 y1) :
    (linePoints x0 y0 x1 y1).drop k =
      linePoint x0 y0 x1 y1 k :: (linePoints x0 y0 x1 y1).drop (k + 1) := by
  have hlt : k < (linePoints x0 y0 x1 y1).length := by
    rw [length_linePoints]
    omega
  rw [List.drop_eq_getElem_cons hlt, getElem_linePoints hlt]

/-- The loop from turn `k` on, with `rest` turns after it to the end. -/
theorem lineLoop_from {σ : Type} (plot : ℤ → ℤ → σ → σ) {k rest : ℕ}
    (h : k + rest = lineLength x0 y0 x1 y1) (turns : ℕ) (canvas : σ) :
    lineLoop plot (lineSetup x0 y0 x1 y1) turns (lineStateAt x0 y0 x1 y1 k) canvas =
      if turns ≤ rest then none
      else some (((linePoints x0 y0 x1 y1).drop k).foldl (fun c p => plot p.1 p.2 c) canvas) := by
  induction rest generalizing k turns canvas with
  | zero =>
    have hlast : linePoint x0 y0 x1 y1 k = (x1, y1) := by
      rw [← linePoint_lineLength, ← h, Nat.add_zero]
    cases turns with
    | zero => rfl
    | succ turns =>
      have hend : (lineStateAt x0 y0 x1 y1 k).x = (lineSetup x0 y0 x1 y1).x1 ∧
          (lineStateAt x0 y0 x1 y1 k).y = (lineSetup x0 y0 x1 y1).y1 :=
        ⟨congrArg Prod.fst hlast, congrArg Prod.snd hlast⟩
      have hnil : (linePoints x0 y0 x1 y1).drop (k + 1) = [] :=
        List.drop_eq_nil_of_le (by rw [length_linePoints]; omega)
      rw [lineLoop, if_pos hend, if_neg (by omega), drop_linePoints (by omega), hnil]
      rfl
  | succ rest ih =>
    cases turns with
    | zero => rfl
    | succ turns =>
      have hturns : turns ≤ rest ↔ turns + 1 ≤ rest + 1 := by omega
      rw [lineLoop, if_neg (lineStateAt_ne_end (by omega)), lineStateAt_succ, ih (by omega),
        drop_linePoints (by omega : k ≤ lineLength x0 y0 x1 y1), if_congr hturns rfl rfl]
      rfl

/-- **The loop stops after its last point**, and has plotted the points of the line. -/
theorem plotLine_eq {σ : Type} (plot : ℤ → ℤ → σ → σ) (turns : ℕ) (canvas : σ) :
    plotLine plot x0 y0 x1 y1 turns canvas =
      if turns < (linePoints x0 y0 x1 y1).length then none
      else some ((linePoints x0 y0 x1 y1).foldl (fun c p => plot p.1 p.2 c) canvas) := by
  have hstart : lineStateAt x0 y0 x1 y1 0 =
      { x := x0, y := y0, err := (lineSetup x0 y0 x1 y1).dx + (lineSetup x0 y0 x1 y1).dy } := by
    have hpoint := @linePoint_zero x0 y0 x1 y1
    simp only [lineStateAt, hpoint, walk, lineSetup, Int.abs_eq_natAbs]
    rfl
  have hfrom := lineLoop_from plot (Nat.zero_add (lineLength x0 y0 x1 y1)) turns canvas
  rw [hstart, List.drop_zero] at hfrom
  rw [plotLine, length_linePoints]
  exact hfrom.trans (if_congr (by omega) rfl rfl)

/-- One turn of the loop moves by at most one cell on each axis, and by one on the longer one. -/
structure LineMove (x0 y0 x1 y1 : ℤ) (p q : ℤ × ℤ) : Prop where
  horizontal : |q.1 - p.1| ≤ 1
  vertical : |q.2 - p.2| ≤ 1
  longer_horizontal : |y1 - y0| ≤ |x1 - x0| → |q.1 - p.1| = 1
  longer_vertical : |x1 - x0| ≤ |y1 - y0| → |q.2 - p.2| = 1

theorem lineMove_succ (k : ℕ) :
    LineMove x0 y0 x1 y1 (linePoint x0 y0 x1 y1 k) (linePoint x0 y0 x1 y1 (k + 1)) := by
  -- the steps of the walk are those of the line up to the direction
  have hsign : ∀ u v d : ℤ, |(if u < v then (1 : ℤ) else -1) * d| = |d| := by
    intro u v d
    split_ifs <;> simp
  have hx : |(linePoint x0 y0 x1 y1 (k + 1)).1 - (linePoint x0 y0 x1 y1 k).1| =
      |(walk (x1 - x0).natAbs (y1 - y0).natAbs (k + 1)).i -
        (walk (x1 - x0).natAbs (y1 - y0).natAbs k).i| := by
    rw [linePoint, linePoint, add_sub_add_left_eq_sub, ← mul_sub]
    exact hsign _ _ _
  have hy : |(linePoint x0 y0 x1 y1 (k + 1)).2 - (linePoint x0 y0 x1 y1 k).2| =
      |(walk (x1 - x0).natAbs (y1 - y0).natAbs (k + 1)).j -
        (walk (x1 - x0).natAbs (y1 - y0).natAbs k).j| := by
    rw [linePoint, linePoint, add_sub_add_left_eq_sub, ← mul_sub]
    exact hsign _ _ _
  obtain ⟨hi, hi1, hj, hj1⟩ := advance_bounds (x1 - x0).natAbs (y1 - y0).natAbs
    (walk (x1 - x0).natAbs (y1 - y0).natAbs k)
  refine ⟨?_, ?_, fun h => ?_, fun h => ?_⟩
  · rw [hx, walk, abs_of_nonneg hi]
    exact hi1
  · rw [hy, walk, abs_of_nonneg hj]
    exact hj1
  · have hlong : (y1 - y0).natAbs ≤ (x1 - x0).natAbs := by
      rwa [Int.abs_eq_natAbs, Int.abs_eq_natAbs, Int.ofNat_le] at h
    rw [hx, walk_i hlong, walk_i hlong]
    push_cast
    simp
  · have hlong : (x1 - x0).natAbs ≤ (y1 - y0).natAbs := by
      rwa [Int.abs_eq_natAbs, Int.abs_eq_natAbs, Int.ofNat_le] at h
    rw [hy, walk_j hlong, walk_j hlong]
    push_cast
    simp

end Points

/-- **Line rasterisation terminates and connects its end points.** Between any two points the loops
of both canvases stop after as many turns as the longer distance and one more; they plot the same
points, from the first end to the last, each one cell from the one before on the longer axis and at
most one cell on the other. -/
theorem line_rasterisation (x0 y0 x1 y1 : ℤ) :
    ∃ points : List (ℤ × ℤ),
      (points.length : ℤ) = max |x1 - x0| |y1 - y0| + 1 ∧
      points.head? = some (x0, y0) ∧ points.getLast? = some (x1, y1) ∧
      points.IsChain (LineMove x0 y0 x1 y1) ∧
      (∀ turns, plotLine (fun x y visited => visited ++ [(x, y)]) x0 y0 x1 y1 turns [] =
        if turns < points.length then none else some points) ∧
      (∀ (canvas : BrailleCanvas) turns, canvas.line x0 y0 x1 y1 turns =
        if turns < points.length then none
        else some (points.foldl (fun c p => c.dot p.1 p.2) canvas)) ∧
      ∀ (canvas : TerminalCanvas) priority turns, canvas.line x0 y0 x1 y1 priority turns =
        if turns < points.length then none
        else some (points.foldl (fun c p =>
          c.put p.1 p.2 (TerminalCanvas.lineChar (x1 - x0) (y1 - y0)) priority) canvas) := by
  refine ⟨linePoints x0 y0 x1 y1, ?_, ?_, ?_, ?_, fun turns => ?_,
    fun canvas turns => plotLine_eq _ turns canvas,
    fun canvas priority turns => plotLine_eq _ turns canvas⟩
  · rw [length_linePoints, lineLength, Int.abs_eq_natAbs, Int.abs_eq_natAbs]
    push_cast
    rfl
  · rw [linePoints, List.head?_map, List.head?_range, if_neg (Nat.succ_ne_zero _)]
    exact congrArg some linePoint_zero
  · rw [linePoints, List.range_succ, List.map_append, List.map_singleton, List.getLast?_concat,
      linePoint_lineLength]
  · rw [List.isChain_iff_getElem]
    intro k hk
    rw [getElem_linePoints, getElem_linePoints]
    exact lineMove_succ k
  · have hvisited : ∀ (points visited : List (ℤ × ℤ)),
        points.foldl (fun c p => c ++ [(p.1, p.2)]) visited = visited ++ points := by
      intro points
      induction points with
      | nil => simp
      | cons p points ih =>
        intro visited
        rw [List.foldl_cons, ih, List.append_assoc]
        rfl
    rw [plotLine_eq, hvisited, List.nil_append]

end SilverwareTx.GroundStation
