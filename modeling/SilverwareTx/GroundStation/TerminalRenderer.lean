import SilverwareTx.Lib.TerminalGrid
import SilverwareTx.Lib.TextLines

/-!
# Incremental drawing (`TerminalRenderer` in `tools/ground_station/ground_station.py`)

`draw` writes only the rows that differ from the lines it drew last, and everything when the size of
the terminal has changed. `Synced` relates what it remembers to the screen; one call keeps it
(`drawOn_synced`), so after any sequence of calls the screen is that of a full redraw
(`incremental_draw_eq_redraw`).
-/

namespace SilverwareTx.GroundStation

open TerminalGrid TextLines

/-- The size of the terminal. -/
structure ScreenSize where
  width : ℕ
  height : ℕ
  deriving DecidableEq

/-- `TerminalRenderer`: what it has drawn last. -/
structure TerminalRenderer where
  interactive : Bool
  previousLines : List (List Char) := []
  previousSize : Option ScreenSize := none

namespace TerminalRenderer

/-- `measure`, from the columns and lines that `get_terminal_size` finds; `none` is its
`OSError`. -/
def measure : Option (ℕ × ℕ) → ScreenSize
  | some (columns, lines) => ⟨max 8 (columns - 1), max 1 lines⟩
  | none => ⟨119, 40⟩

theorem measure_bounds (found : Option (ℕ × ℕ)) :
    8 ≤ (measure found).width ∧ 1 ≤ (measure found).height := by
  rcases found with _ | ⟨columns, lines⟩
  · decide
  · exact ⟨le_max_left .., le_max_left ..⟩

/-- What `start` writes. -/
def enterScreen : List Char := "\x1b[?1049h\x1b[?25l\x1b[?7l\x1b[2J\x1b[H".toList

/-- What `stop` writes. -/
def leaveScreen : List Char := "\x1b[0m\x1b[?7h\x1b[?25h\x1b[?1049l".toList

/-- What `start` writes. -/
def start (self : TerminalRenderer) : List Char := if self.interactive then enterScreen else []

/-- What `stop` writes. -/
def stop (self : TerminalRenderer) : List Char := if self.interactive then leaveScreen else []

/-- The row that says that some are cut off. -/
def notice : List Char := "[dashboard clipped: enlarge the terminal to view all panels]".toList

/-- The lines of the frame that are drawn; `none` is the `IndexError` of `lines[-1]` when the height
is zero. -/
def clip (lines : List (List Char)) (size : ScreenSize) : Option (List (List Char)) :=
  if lines.length > size.height then
    let lines := lines.take size.height
    if lines = [] then none
    else some (lines.set (lines.length - 1) (notice.take size.width))
  else some lines

/-- The turn of the loop for one index: the command it appends, if any. -/
def rowCommand (lines previous : List (List Char)) (index : ℕ) : Option (List Char) :=
  let current := lines[index]?.getD []
  if some current = previous[index]? then none
  else some ("\x1b[".toList ++ Nat.toDigits 10 (index + 1) ++ ";1H\x1b[0m\x1b[2K".toList ++ current)

/-- `commands` after the loop of `draw`. -/
def commands (self : TerminalRenderer) (lines : List (List Char)) (size : ScreenSize) :
    List (List Char) :=
  let resized := some size ≠ self.previousSize
  let previous := if resized then [] else self.previousLines
  let rowCount := max lines.length previous.length
  (if resized then ["\x1b[2J\x1b[H".toList] else []) ++
    (List.range rowCount).filterMap (rowCommand lines previous)

/-- What `draw` writes and the renderer it leaves. -/
def draw (self : TerminalRenderer) (frame : List Char) (size : ScreenSize) :
    Option (List Char × TerminalRenderer) :=
  if !self.interactive then some (frame ++ "\n\n".toList, self)
  else do
    let lines ← clip (splitlines frame) size
    let commands := self.commands lines size
    let commands := if commands = [] then [] else commands ++ ["\x1b[H".toList]
    some (commands.flatten, { self with previousLines := lines, previousSize := some size })

end TerminalRenderer

open TerminalRenderer

/-! ### A terminal with a renderer -/

/-- One call of `draw` on a terminal that has the rows of `size`. -/
def drawOn (device : Device) (self : TerminalRenderer) (terminal : Terminal)
    (frame : List Char) (size : ScreenSize) : Option (TerminalRenderer × Terminal) :=
  (self.draw frame size).map fun drawn =>
    let terminal := { terminal with screen := { terminal.screen with height := size.height } }
    (drawn.2, device.write terminal drawn.1)

/-- The calls of `draw`, one after the other. -/
def drawAll (device : Device) (self : TerminalRenderer) (terminal : Terminal) :
    List (List Char × ScreenSize) → Option (TerminalRenderer × Terminal)
  | [] => some (self, terminal)
  | (frame, size) :: calls =>
    (drawOn device self terminal frame size).bind fun drawn =>
      drawAll device drawn.1 drawn.2 calls

/-- A new interactive renderer after `start`, and the calls of `draw`. -/
def drawSession (device : Device) (terminal : Terminal) (calls : List (List Char × ScreenSize)) :
    Option (TerminalRenderer × Terminal) :=
  let self : TerminalRenderer := { interactive := true }
  drawAll device self (device.write terminal self.start) calls

/-- Rows that show the lines and are blank otherwise. -/
def shownRows (lines : List (List Char)) (row : ℕ) : List Char := lines[row]?.getD []

/-- Clearing the screen and writing every line to its row. -/
def redraw (lines : List (List Char)) : List Char :=
  clear ++ setRows (fun row => some (shownRows lines row)) lines.length ++ home

/-- The row that a frame puts on the screen: its line, or the notice in the last row when the frame
is too high. -/
def expectedRow (frame : List Char) (size : ScreenSize) (row : ℕ) : List Char :=
  if size.height < (splitlines frame).length ∧ row + 1 = size.height then notice.take size.width
  else if row < size.height then (splitlines frame)[row]?.getD []
  else []

/-! ### Clipping -/

theorem clip_spec (frame : List Char) {size : ScreenSize} (hheight : 1 ≤ size.height) :
    ∃ lines, clip (splitlines frame) size = some lines ∧ lines.length ≤ size.height ∧
      shownRows lines = expectedRow frame size ∧
      ∀ line ∈ lines, line ∈ splitlines frame ∨ line = notice.take size.width := by
  by_cases hclip : (splitlines frame).length > size.height
  · set lines := (splitlines frame).take size.height with hlines
    have hlength : lines.length = size.height := by
      rw [hlines, List.length_take]
      omega
    have hsome : lines ≠ [] := by
      rintro hnil
      rw [hnil, List.length_nil] at hlength
      omega
    refine ⟨lines.set (lines.length - 1) (notice.take size.width), ?_, ?_, ?_, ?_⟩
    · simp only [clip, if_pos hclip, ← hlines, if_neg hsome]
    · rw [List.length_set, hlength]
    · funext row
      simp only [shownRows, expectedRow, hlength]
      -- above the last row, in it, where the notice stands, and below it
      rcases Nat.lt_trichotomy (row + 1) size.height with hrow | hrow | hrow
      · rw [List.getElem?_set_ne (by omega), if_neg (by omega), if_pos (by omega), hlines,
          List.getElem?_take_of_lt (by omega)]
      · rw [if_pos ⟨hclip, hrow⟩, show size.height - 1 = row by omega,
          List.getElem?_set_self (by omega), Option.getD_some]
      · rw [if_neg (by omega), if_neg (by omega), List.getElem?_eq_none (by simp; omega),
          Option.getD_none]
    · intro line hline
      rcases List.mem_or_eq_of_mem_set hline with hline | rfl
      · exact .inl (List.mem_of_mem_take hline)
      · exact .inr rfl
  · refine ⟨splitlines frame, by rw [clip, if_neg hclip], by omega, ?_, fun _ h => .inl h⟩
    funext row
    rw [shownRows, expectedRow, if_neg (by omega)]
    split_ifs with hrow
    · rfl
    · rw [List.getElem?_eq_none (by omega), Option.getD_none]

/-! ### One call of `draw` -/

/-- The new text of a row, if it differs from what the renderer remembers. -/
def changed (lines previous : List (List Char)) (row : ℕ) : Option (List Char) :=
  if some (shownRows lines row) = previous[row]? then none else some (shownRows lines row)

theorem rowCommand_eq (lines previous : List (List Char)) :
    rowCommand lines previous = fun row => (changed lines previous row).map (setRow row) := by
  funext row
  unfold rowCommand changed shownRows
  simp only
  split_ifs
  · rfl
  · simp [setRow, moveTo, esc]

theorem changed_getD (lines previous : List (List Char)) (row : ℕ) :
    (changed lines previous row).getD (shownRows previous row) = shownRows lines row := by
  unfold changed
  split_ifs with h
  · rw [Option.getD_none, shownRows, ← h, Option.getD_some]
  · rw [Option.getD_some]

theorem shownRows_of_le {lines : List (List Char)} {row : ℕ} (h : lines.length ≤ row) :
    shownRows lines row = [] := by
  rw [shownRows, List.getElem?_eq_none h, Option.getD_none]

theorem cursorFree_shownRows {device : Device} {lines : List (List Char)}
    (hfree : ∀ line ∈ lines, device.CursorFree line) (row : ℕ) :
    device.CursorFree (shownRows lines row) := by
  unfold shownRows
  cases h : lines[row]? with
  | none => exact device.cursorFree_of_plain .nil
  | some line => exact hfree line (List.mem_of_getElem? h)

/-- **The changed rows turn the screen of the old lines into that of the new ones.** -/
theorem write_changed {device : Device} {lines previous : List (List Char)} {t : Terminal}
    (hlines : lines.length ≤ t.screen.height) (hprevious : previous.length ≤ t.screen.height)
    (hfree : ∀ line ∈ lines, device.CursorFree line)
    (hrows : t.settled.rows = shownRows previous) :
    (device.write t
      (setRows (changed lines previous) (max lines.length previous.length))).settled.rows =
        shownRows lines := by
  have htext : ∀ row text, changed lines previous row = some text → device.CursorFree text := by
    intro row text h
    unfold changed at h
    split_ifs at h
    cases h
    exact cursorFree_shownRows hfree row
  rw [(device.write_setRows t (by omega) htext).2, hrows]
  funext row
  split_ifs with hrow
  · exact changed_getD lines previous row
  · rw [shownRows_of_le (by omega), shownRows_of_le (by omega)]

/-- What the renderer remembers is on the screen. -/
structure Synced (renderer : TerminalRenderer) (terminal : Terminal) : Prop where
  interactive : renderer.interactive = true
  ground : terminal.mode = .ground
  rows : ∀ size, renderer.previousSize = some size →
    terminal.screen.rows = shownRows renderer.previousLines ∧
      renderer.previousLines.length ≤ size.height

theorem cursorFree_notice (device : Device) (width : ℕ) :
    device.CursorFree (notice.take width) := by
  apply device.cursorFree_of_plain
  apply plain_of_printable
  have hnotice : notice.all (!isControl ·) = true := by decide
  exact List.all_eq_true.2 fun c hc => List.all_eq_true.1 hnotice c (List.mem_of_mem_take hc)

/-- The lines of a clipped frame leave the cursor alone if those of the frame do. -/
theorem cursorFree_clipped {device : Device} {frame : List Char} {size : ScreenSize}
    {lines : List (List Char)}
    (hmem : ∀ line ∈ lines, line ∈ splitlines frame ∨ line = notice.take size.width)
    (hfree : ∀ line ∈ splitlines frame, device.CursorFree line) :
    ∀ line ∈ lines, device.CursorFree line := by
  intro line hline
  rcases hmem line hline with hline | rfl
  · exact hfree line hline
  · exact cursorFree_notice device size.width

/-- The last command moves the cursor home; without any command nothing is written. -/
theorem write_commands (device : Device) {t : Terminal} (ht : t.mode = .ground)
    (commands : List (List Char)) :
    let after := device.write t (if commands = [] then [] else commands ++ [home]).flatten
    after.mode = .ground ∧ after.screen.rows = (device.write t commands.flatten).settled.rows := by
  intro after
  by_cases hempty : commands = []
  · subst hempty
    refine ⟨ht, ?_⟩
    obtain ⟨screen, mode⟩ := t
    cases ht
    simp [after]
  · have hafter : after = device.write (device.write t commands.flatten) home := by
      simp only [after, if_neg hempty, List.flatten_append, Device.write_append,
        List.flatten_singleton]
    rw [hafter, Device.write_home]
    exact ⟨rfl, rfl⟩

/-- The screen after the commands of `draw`, before the cursor is moved home. -/
theorem write_draw {device : Device} {self : TerminalRenderer} {t : Terminal} (h : Synced self t)
    {size : ScreenSize} (hsize : t.screen.height = size.height) {lines : List (List Char)}
    (hlength : lines.length ≤ size.height) (hfree : ∀ line ∈ lines, device.CursorFree line) :
    (device.write t (self.commands lines size).flatten).settled.rows = shownRows lines := by
  by_cases hresized : some size ≠ self.previousSize
  · have hcommands : (self.commands lines size).flatten =
        clear ++ setRows (changed lines []) (max lines.length ([] : List (List Char)).length) := by
      simp only [commands, if_pos hresized, rowCommand_eq, List.flatten_append,
        List.flatten_singleton, setRows]
      rfl
    rw [hcommands, Device.write_append, Device.write_clear]
    refine write_changed (by simpa [hsize] using hlength) (by simp) hfree ?_
    funext row
    simp [shownRows]
  · have hcommands : (self.commands lines size).flatten = setRows (changed lines self.previousLines)
        (max lines.length self.previousLines.length) := by
      simp only [commands, if_neg hresized, rowCommand_eq, List.nil_append, setRows]
    obtain ⟨hrows, hold⟩ := h.rows size (not_not.mp hresized).symm
    rw [hcommands]
    refine write_changed (by omega) (by omega) hfree ?_
    rw [Terminal.settled, h.ground, ← hrows]
    simp [Mode.pending]

/-- **A call of `draw` puts its frame on the screen** and remembers it. -/
theorem drawOn_synced {device : Device} {self : TerminalRenderer} {terminal : Terminal}
    (h : Synced self terminal) {frame : List Char} {size : ScreenSize} (hheight : 1 ≤ size.height)
    (hfree : ∀ line ∈ splitlines frame, device.CursorFree line) :
    ∃ drawn, drawOn device self terminal frame size = some drawn ∧ Synced drawn.1 drawn.2 ∧
      drawn.2.screen.rows = expectedRow frame size := by
  obtain ⟨lines, hclip, hlength, hshown, hmem⟩ := clip_spec frame hheight
  have hlines := cursorFree_clipped hmem hfree
  let t : Terminal := { terminal with screen := { terminal.screen with height := size.height } }
  have ht : Synced self t := ⟨h.interactive, h.ground, h.rows⟩
  obtain ⟨hground, hrows⟩ := write_commands device ht.ground (self.commands lines size)
  rw [write_draw ht rfl hlength hlines] at hrows
  have hdraw : self.draw frame size =
      some ((if self.commands lines size = [] then []
          else self.commands lines size ++ [home]).flatten,
        { self with previousLines := lines, previousSize := some size }) := by
    simp only [draw, h.interactive, hclip, Bool.not_true, Bool.false_eq_true, if_false]
    rfl
  refine ⟨_, by rw [drawOn, hdraw, Option.map_some], ⟨h.interactive, hground, ?_⟩, ?_⟩
  · rintro _ ⟨⟩
    exact ⟨hrows, hlength⟩
  · exact hrows.trans hshown

/-! ### A session -/

/-- The height is one that `measure` gives, and the lines of the frame leave the cursor alone. -/
def Drawable (device : Device) (call : List Char × ScreenSize) : Prop :=
  1 ≤ call.2.height ∧ ∀ line ∈ splitlines call.1, device.CursorFree line

theorem start_synced (device : Device) (terminal : Terminal) :
    Synced { interactive := true } (device.write terminal (start { interactive := true })) := by
  refine ⟨rfl, ?_, by simp⟩
  have hstart : start { interactive := true } =
      "\x1b[?1049h\x1b[?25l\x1b[?7l\x1b[2J".toList ++ home := by
    decide
  rw [hstart, Device.write_append, Device.write_home]

theorem drawAll_concat (device : Device) (self : TerminalRenderer) (terminal : Terminal)
    (calls : List (List Char × ScreenSize)) (call : List Char × ScreenSize) :
    drawAll device self terminal (calls ++ [call]) =
      (drawAll device self terminal calls).bind fun drawn =>
        drawOn device drawn.1 drawn.2 call.1 call.2 := by
  induction calls generalizing self terminal with
  | nil =>
    simp only [List.nil_append, drawAll, Option.bind_some]
    cases drawOn device self terminal call.1 call.2 <;> rfl
  | cons first calls ih =>
    simp only [List.cons_append, drawAll, ih, Option.bind_assoc]

/-- No call of a session fails, and what the renderer remembers stays what the screen shows. -/
theorem drawAll_synced {device : Device} {calls : List (List Char × ScreenSize)}
    (hcalls : ∀ call ∈ calls, Drawable device call) {self : TerminalRenderer} {terminal : Terminal}
    (h : Synced self terminal) :
    ∃ drawn, drawAll device self terminal calls = some drawn ∧ Synced drawn.1 drawn.2 := by
  induction calls generalizing self terminal with
  | nil => exact ⟨_, rfl, h⟩
  | cons call calls ih =>
    obtain ⟨hheight, hfree⟩ := hcalls call List.mem_cons_self
    obtain ⟨drawn, hdrawn, hsynced, -⟩ := drawOn_synced h hheight hfree
    obtain ⟨last, hlast, hend⟩ := ih (fun c hc => hcalls c (List.mem_cons_of_mem call hc)) hsynced
    exact ⟨last, by rw [drawAll, hdrawn, Option.bind_some, hlast], hend⟩

/-- The screen after a full redraw. -/
theorem write_redraw (device : Device) {t : Terminal} {lines : List (List Char)}
    (hlength : lines.length ≤ t.screen.height) (hfree : ∀ line ∈ lines, device.CursorFree line) :
    (device.write t (redraw lines)).screen.rows = shownRows lines := by
  have htext : ∀ row text, some (shownRows lines row) = some text → device.CursorFree text := by
    rintro row _ ⟨⟩
    exact cursorFree_shownRows hfree row
  have hcount : lines.length ≤ (device.write t clear).screen.height := by
    rwa [Device.write_clear]
  have hrows := (device.write_setRows (device.write t clear) hcount htext).2
  rw [redraw, Device.write_append, Device.write_home, Device.write_append]
  simp only [hrows]
  funext row
  split_ifs with hrow
  · rfl
  · rw [Device.write_clear, Terminal.settled_ground, shownRows_of_le (not_lt.mp hrow)]

/-- **Incremental drawing equals a full redraw.** Whatever an interactive renderer drew after
`start`, and at whatever sizes, the screen then shows the lines of the last frame, with the notice
in the last row if they are too many, and blank rows below; it is the screen that clearing a
terminal of that height and writing every line gives. -/
theorem incremental_draw_eq_redraw (device : Device) (terminal : Terminal)
    (calls : List (List Char × ScreenSize)) (last : List Char × ScreenSize)
    (hcalls : ∀ call ∈ calls ++ [last], Drawable device call) :
    ∃ renderer after lines, drawSession device terminal (calls ++ [last]) = some (renderer, after) ∧
      after.screen.rows = expectedRow last.1 last.2 ∧
      clip (splitlines last.1) last.2 = some lines ∧
      ∀ other : Terminal, other.screen.height = last.2.height →
        (device.write other (redraw lines)).screen.rows = after.screen.rows := by
  obtain ⟨hheight, hfree⟩ := hcalls last (by simp)
  have hbefore : ∀ call ∈ calls, Drawable device call := fun call hcall =>
    hcalls call (List.mem_append_left [last] hcall)
  obtain ⟨drawn, hdrawn, hsynced⟩ := drawAll_synced hbefore (start_synced device terminal)
  obtain ⟨⟨renderer, after⟩, hlast, -, hrows⟩ := drawOn_synced hsynced hheight hfree
  obtain ⟨lines, hclip, hlength, hshown, hmem⟩ := clip_spec last.1 hheight
  refine ⟨renderer, after, lines, ?_, hrows, hclip, ?_⟩
  · simp only [drawSession, drawAll_concat, hdrawn, Option.bind_some, hlast]
  · intro other hother
    rw [write_redraw device (by omega) (cursorFree_clipped hmem hfree), hshown, hrows]

/-- Three lines, then a red one and a plain one on a terminal with a single row. -/
theorem incremental_draw_eq_redraw_resized :
    ∃ renderer after lines, drawSession ⟨fun _ => none⟩ ⟨⟨10, fun _ => ['x'], 3⟩, .escape⟩
        ([("one\ntwo\nthree".toList, ⟨40, 10⟩)] ++ [("\x1b[31mred\x1b[0m\nplain".toList, ⟨9, 1⟩)]) =
          some (renderer, after) ∧
      after.screen.rows = expectedRow "\x1b[31mred\x1b[0m\nplain".toList ⟨9, 1⟩ ∧
      clip (splitlines "\x1b[31mred\x1b[0m\nplain".toList) ⟨9, 1⟩ = some lines ∧
      ∀ other : Terminal, other.screen.height = 1 →
        (Device.write ⟨fun _ => none⟩ other (redraw lines)).screen.rows = after.screen.rows := by
  refine incremental_draw_eq_redraw ⟨fun _ => none⟩ ⟨⟨10, fun _ => ['x'], 3⟩, .escape⟩
    [("one\ntwo\nthree".toList, ⟨40, 10⟩)] ("\x1b[31mred\x1b[0m\nplain".toList, ⟨9, 1⟩) ?_
  have hred : Plain "\x1b[31mred\x1b[0m".toList :=
    @Plain.colour ['3', '1'] _ (List.all_eq_true.1 (by decide))
      (.char (by decide) (.char (by decide) (.char (by decide)
        (@Plain.colour ['0'] _ (List.all_eq_true.1 (by decide)) .nil))))
  have hfirst : splitlines "one\ntwo\nthree".toList =
      ["one".toList, "two".toList, "three".toList] := by
    decide
  have hsecond : splitlines "\x1b[31mred\x1b[0m\nplain".toList =
      ["\x1b[31mred\x1b[0m".toList, "plain".toList] := by
    decide
  intro call hcall
  simp only [List.cons_append, List.nil_append, List.mem_cons, List.not_mem_nil, or_false] at hcall
  rcases hcall with rfl | rfl
  · refine ⟨by decide, fun line hline => ?_⟩
    rw [hfirst] at hline
    apply Device.cursorFree_of_plain
    apply plain_of_printable
    fin_cases hline <;> decide
  · refine ⟨by decide, fun line hline => ?_⟩
    rw [hsecond] at hline
    apply Device.cursorFree_of_plain
    fin_cases hline
    · exact hred
    · exact plain_of_printable (by decide)

end SilverwareTx.GroundStation
