import Mathlib.Tactic

/-!
# A terminal as a grid of rows

A row holds the text written to it since it was last erased, colour codes included. The terminal
reads its input character by character; it clears the screen on `ESC[2J`, erases the cursor's row on
`ESC[2K`, moves the cursor on `ESC[H` and `ESC[row;1H`, and takes the sequences that end in `m` for
text. What any other control character or escape sequence does is left to a `Device`.

* `write_clear`, `write_setRow`: what the commands of a redraw do, on any device and whatever was
  written before;
* `cursorFree_of_plain`: printable characters and colour codes only add to the row of the cursor.
-/

namespace TerminalGrid

/-- The rows of a screen and the row of the cursor. -/
structure Screen where
  /-- The number of rows. -/
  height : ℕ
  rows : ℕ → List Char
  /-- The row of the cursor. -/
  row : ℕ

/-- Text adds to the row of the cursor. -/
def Screen.type (s : Screen) (text : List Char) : Screen :=
  { s with rows := Function.update s.rows s.row (s.rows s.row ++ text) }

/-- What the sequences do that are not described here; `none` for one that is text of its row. -/
structure Device where
  effect : List Char → Option (Screen → Screen)

/-- What a complete escape sequence asks for. -/
inductive Command
  | clear
  | eraseRow
  | moveTo (row : ℕ)

/-- The command that `ESC[` and `body` stand for. Rows are counted from 1 there, and `ESC[H` is
`ESC[1;1H`. -/
def command? (body : List Char) : Option Command :=
  if body = ['2', 'J'] then some .clear
  else if body = ['2', 'K'] then some .eraseRow
  else if body = ['H'] then some (.moveTo 0)
  else
    let digits := body.takeWhile Char.isDigit
    if digits ≠ [] ∧ body.dropWhile Char.isDigit = [';', '1', 'H'] then
      some (.moveTo (Nat.ofDigitChars 10 digits 0 - 1))
    else none

/-- The cursor never leaves the grid. -/
def Command.run (s : Screen) : Command → Screen
  | .clear => { s with rows := fun _ => [] }
  | .eraseRow => { s with rows := Function.update s.rows s.row [] }
  | .moveTo row => { s with row := min row (s.height - 1) }

/-- The escape character. -/
def esc : Char := '\x1b'

/-- A whole control sequence, with its `ESC[`. -/
def Device.sequence (device : Device) (s : Screen) (body : List Char) : Screen :=
  match command? body with
  | some command => command.run s
  | none =>
    if body.getLast? = some 'm' then s.type (esc :: '[' :: body)
    else (device.effect (esc :: '[' :: body)).elim (s.type (esc :: '[' :: body)) (· s)

/-- Any other character or escape sequence that is no text. -/
def Device.other (device : Device) (s : Screen) (text : List Char) : Screen :=
  (device.effect text).elim (s.type text) (· s)

/-- The control characters. -/
def isControl (c : Char) : Bool := c.toNat < 0x20 || (0x7f ≤ c.toNat && c.toNat < 0xa0)

/-- The characters that end a control sequence. -/
def isFinal (c : Char) : Bool := 0x40 ≤ c.toNat && c.toNat ≤ 0x7e

/-- The characters that a control sequence goes on with. -/
def isInner (c : Char) : Bool := c != esc && !isFinal c

/-- Where the terminal stands in its input. -/
inductive Mode
  | ground
  | escape
  | control (body : List Char)
  deriving DecidableEq

/-- The characters of a sequence that is not complete. -/
def Mode.pending : Mode → List Char
  | .ground => []
  | .escape => [esc]
  | .control body => esc :: '[' :: body

/-- A screen and the sequence that is still open. -/
structure Terminal where
  screen : Screen
  mode : Mode := .ground

/-- The screen, with the characters of an unfinished sequence as text. -/
def Terminal.settled (t : Terminal) : Screen := t.screen.type t.mode.pending

/-- One character. `ESC` begins a new sequence wherever it stands. -/
def Device.step (device : Device) (t : Terminal) (c : Char) : Terminal :=
  if c = esc then ⟨t.settled, .escape⟩
  else
    match t.mode with
    | .ground =>
      if isControl c then ⟨device.other t.screen [c], .ground⟩
      else ⟨t.screen.type [c], .ground⟩
    | .escape =>
      if c = '[' then ⟨t.screen, .control []⟩
      else ⟨device.other t.screen [esc, c], .ground⟩
    | .control body =>
      if isFinal c then ⟨device.sequence t.screen (body ++ [c]), .ground⟩
      else ⟨t.screen, .control (body ++ [c])⟩

/-- The terminal after a text. -/
def Device.write (device : Device) (t : Terminal) (text : List Char) : Terminal :=
  text.foldl device.step t

/-- Written to a row, the text does nothing but stand there. -/
def Device.CursorFree (device : Device) (text : List Char) : Prop :=
  ∀ s : Screen, (device.write ⟨s, .ground⟩ text).settled = s.type text

/-- The text `ESC[row;1H`, with the row counted from 0. -/
def moveTo (row : ℕ) : List Char := esc :: '[' :: Nat.toDigits 10 (row + 1) ++ [';', '1', 'H']

/-- Move to a row, end all colours, erase the row and write a text there. -/
def setRow (row : ℕ) (text : List Char) : List Char :=
  moveTo row ++ [esc, '[', '0', 'm'] ++ [esc, '[', '2', 'K'] ++ text

/-- Clear the screen and move to its first row. -/
def clear : List Char := [esc, '[', '2', 'J', esc, '[', 'H']

/-- The sequence that moves the cursor to the first column of the first row. -/
def home : List Char := [esc, '[', 'H']

/-! ### Writing -/

@[simp] theorem Screen.type_nil (s : Screen) : s.type [] = s := by
  simp [Screen.type]

theorem Screen.type_append (s : Screen) (a b : List Char) :
    s.type (a ++ b) = (s.type a).type b := by
  simp [Screen.type]

@[simp] theorem Terminal.settled_ground (s : Screen) : Terminal.settled ⟨s, .ground⟩ = s :=
  s.type_nil

variable (device : Device)

@[simp] theorem Device.write_nil (t : Terminal) : device.write t [] = t := rfl

theorem Device.write_cons (t : Terminal) (c : Char) (text : List Char) :
    device.write t (c :: text) = device.write (device.step t c) text := rfl

theorem Device.write_append (t : Terminal) (a b : List Char) :
    device.write t (a ++ b) = device.write (device.write t a) b := List.foldl_append

/-- What was written before does not change how a sequence is read. -/
theorem Device.write_esc (t : Terminal) (text : List Char) :
    device.write t (esc :: text) = device.write ⟨t.settled, .ground⟩ (esc :: text) := by
  have hstep : device.step t esc = device.step ⟨t.settled, .ground⟩ esc := by
    simp [Device.step]
  rw [Device.write_cons, hstep, Device.write_cons]

/-- The parameters of a control sequence are collected. -/
theorem Device.write_body (s : Screen) {body : List Char}
    (hbody : ∀ c ∈ body, isInner c = true) (start : List Char) :
    device.write ⟨s, .control start⟩ body = ⟨s, .control (start ++ body)⟩ := by
  induction body generalizing start with
  | nil => simp
  | cons c body ih =>
    obtain ⟨hesc, hfinal⟩ : c ≠ esc ∧ isFinal c = false := by
      simpa [isInner] using hbody c List.mem_cons_self
    have hstep : device.step ⟨s, .control start⟩ c = ⟨s, .control (start ++ [c])⟩ := by
      simp [Device.step, hesc, hfinal]
    rw [Device.write_cons, hstep, ih fun d hd => hbody d (List.mem_cons_of_mem c hd)]
    simp

/-- A whole control sequence, read after anything. -/
theorem Device.write_sequence (t : Terminal) {body : List Char}
    (hbody : ∀ c ∈ body, isInner c = true) {last : Char} (hesc : last ≠ esc)
    (hlast : isFinal last = true) :
    device.write t (esc :: '[' :: (body ++ [last])) =
      ⟨device.sequence t.settled (body ++ [last]), .ground⟩ := by
  have hopen : device.write t [esc, '['] = ⟨t.settled, .control []⟩ := by
    rw [Device.write_esc]
    simp [Device.write, Device.step, Terminal.settled, Mode.pending, esc]
  have hclose : device.step ⟨t.settled, .control body⟩ last =
      ⟨device.sequence t.settled (body ++ [last]), .ground⟩ := by
    simp [Device.step, hesc, hlast]
  calc device.write t (esc :: '[' :: (body ++ [last]))
      = device.write (device.write (device.write t [esc, '[']) body) [last] := by
        rw [← Device.write_append, ← Device.write_append]
        rfl
    _ = device.step ⟨t.settled, .control body⟩ last := by
        rw [hopen, device.write_body _ hbody, List.nil_append]
        rfl
    _ = _ := hclose

/-! ### The commands of a redraw -/

theorem isInner_digit {c : Char} (h : c.isDigit = true) : isInner c = true := by
  have hrange : 48 ≤ c.toNat ∧ c.toNat ≤ 57 := by
    have h : 48 ≤ c.val ∧ c.val ≤ 57 := by
      simpa [Char.isDigit] using h
    exact ⟨h.1, h.2⟩
  have hesc : c ≠ esc := by
    rintro rfl
    exact absurd hrange.1 (by decide)
  have hfinal : isFinal c = false := by
    simp only [isFinal, Bool.and_eq_false_iff, decide_eq_false_iff_not]
    omega
  simp [isInner, hesc, hfinal]

theorem command?_moveTo (row : ℕ) :
    command? (Nat.toDigits 10 (row + 1) ++ [';', '1', 'H']) = some (.moveTo row) := by
  have hdigit : ∀ c ∈ Nat.toDigits 10 (row + 1), c.isDigit = true := fun c hc =>
    Nat.isDigit_of_mem_toDigits (by decide) (by decide) hc
  have hsome : Nat.toDigits 10 (row + 1) ≠ [] := Nat.toDigits_ne_nil
  have htake : (Nat.toDigits 10 (row + 1) ++ [';', '1', 'H']).takeWhile Char.isDigit =
      Nat.toDigits 10 (row + 1) := by
    rw [List.takeWhile_append_of_pos hdigit]
    simp [List.takeWhile]
  have hdrop : (Nat.toDigits 10 (row + 1) ++ [';', '1', 'H']).dropWhile Char.isDigit =
      [';', '1', 'H'] := by
    rw [List.dropWhile_append_of_pos hdigit]
    rfl
  have hlength : 4 ≤ (Nat.toDigits 10 (row + 1) ++ [';', '1', 'H']).length := by
    have := List.length_pos_of_ne_nil hsome
    simp
    omega
  have hne : ∀ body : List Char, body.length < 4 →
      Nat.toDigits 10 (row + 1) ++ [';', '1', 'H'] ≠ body := by
    rintro body hbody rfl
    omega
  rw [command?, if_neg (hne _ (by decide)), if_neg (hne _ (by decide)), if_neg (hne _ (by decide))]
  simp only [htake, hdrop, Nat.ofDigitChars_ten_toDigits]
  simp [hsome]

theorem Device.write_moveTo (t : Terminal) {row : ℕ} (hrow : row < t.screen.height) :
    device.write t (moveTo row) = ⟨{ t.settled with row := row }, .ground⟩ := by
  have hbody : ∀ c ∈ Nat.toDigits 10 (row + 1) ++ [';', '1'], isInner c = true := by
    intro c hc
    rcases List.mem_append.mp hc with hc | hc
    · exact isInner_digit (Nat.isDigit_of_mem_toDigits (by decide) (by decide) hc)
    · fin_cases hc <;> decide
  have hwrite := device.write_sequence t hbody (show 'H' ≠ esc by decide) (by decide)
  have hclamp : min row (t.screen.height - 1) = row := by omega
  rw [List.append_assoc] at hwrite
  rw [show moveTo row = esc :: '[' :: (Nat.toDigits 10 (row + 1) ++ ([';', '1'] ++ ['H'])) by
    simp [moveTo], hwrite]
  simp only [Device.sequence, List.cons_append, List.nil_append, command?_moveTo, Command.run]
  simp only [Terminal.settled, Screen.type, hclamp]

theorem Device.write_home (t : Terminal) :
    device.write t home = ⟨{ t.settled with row := 0 }, .ground⟩ := by
  have hbody : ∀ c ∈ ([] : List Char), isInner c = true := by simp
  have hwrite := device.write_sequence t hbody (show 'H' ≠ esc by decide) (by decide)
  rw [show home = esc :: '[' :: ([] ++ ['H']) from rfl, hwrite]
  simp [Device.sequence, command?, Command.run]

/-- **The screen is blank after `clear`.** -/
theorem Device.write_clear (t : Terminal) :
    device.write t clear = ⟨⟨t.screen.height, fun _ => [], 0⟩, .ground⟩ := by
  have hbody : ∀ c ∈ ['2'], isInner c = true := List.all_eq_true.1 (by decide)
  have hwrite := device.write_sequence t hbody (show 'J' ≠ esc by decide) (by decide)
  rw [show clear = (esc :: '[' :: (['2'] ++ ['J'])) ++ home from rfl, Device.write_append, hwrite,
    Device.write_home]
  simp [Device.sequence, command?, Command.run, Terminal.settled, Screen.type, Mode.pending]

/-- **The row shows the text after `setRow`**, and the other rows are as they were. -/
theorem Device.write_setRow (t : Terminal) {row : ℕ} (hrow : row < t.screen.height)
    {text : List Char} (hfree : device.CursorFree text) :
    (device.write t (setRow row text)).settled =
      ⟨t.screen.height, Function.update t.settled.rows row text, row⟩ := by
  have hzero : ∀ c ∈ ['0'], isInner c = true := List.all_eq_true.1 (by decide)
  have htwo : ∀ c ∈ ['2'], isInner c = true := List.all_eq_true.1 (by decide)
  have hcolour := fun t => device.write_sequence t hzero (show 'm' ≠ esc by decide) (by decide)
  have herase := fun t => device.write_sequence t htwo (show 'K' ≠ esc by decide) (by decide)
  have hsettled : (device.write t (moveTo row ++ [esc, '[', '0', 'm'] ++ [esc, '[', '2', 'K'])) =
      ⟨⟨t.screen.height, Function.update t.settled.rows row [], row⟩, .ground⟩ := by
    rw [Device.write_append, Device.write_append, device.write_moveTo t hrow,
      show [esc, '[', '0', 'm'] = esc :: '[' :: (['0'] ++ ['m']) from rfl, hcolour,
      show [esc, '[', '2', 'K'] = esc :: '[' :: (['2'] ++ ['K']) from rfl, herase]
    simp [Device.sequence, command?, Command.run, Terminal.settled, Screen.type, List.takeWhile,
      List.dropWhile]
  rw [setRow, Device.write_append, hsettled, hfree]
  simp [Screen.type]

/-- The updates of some rows, written one after the other. -/
def setRows (update : ℕ → Option (List Char)) (count : ℕ) : List Char :=
  ((List.range count).filterMap fun row => (update row).map (setRow row)).flatten

theorem setRows_succ (update : ℕ → Option (List Char)) (count : ℕ) :
    setRows update (count + 1) =
      setRows update count ++ ((update count).map (setRow count)).getD [] := by
  unfold setRows
  rw [List.range_succ, List.filterMap_append, List.flatten_append]
  cases h : update count <;> simp [h]

/-- **The rows after a run of updates**: each has its new text, if there is one, and is as it was
otherwise. -/
theorem Device.write_setRows (t : Terminal) {update : ℕ → Option (List Char)} {count : ℕ}
    (hcount : count ≤ t.screen.height)
    (hfree : ∀ row text, update row = some text → device.CursorFree text) :
    (device.write t (setRows update count)).screen.height = t.screen.height ∧
      (device.write t (setRows update count)).settled.rows = fun row =>
        if row < count then (update row).getD (t.settled.rows row) else t.settled.rows row := by
  induction count with
  | zero => simp [setRows]
  | succ count ih =>
    obtain ⟨hheight, hrows⟩ := ih (by omega)
    rw [setRows_succ, Device.write_append]
    cases hupdate : update count with
    | none =>
      refine ⟨hheight, hrows.trans ?_⟩
      funext row
      rcases Nat.lt_trichotomy row count with hrow | rfl | hrow
      · rw [if_pos hrow, if_pos (by omega)]
      · rw [if_neg (by omega), if_pos (by omega), hupdate, Option.getD_none]
      · rw [if_neg (by omega), if_neg (by omega)]
    | some text =>
      have hlt : count < (device.write t (setRows update count)).screen.height := by omega
      have hset := device.write_setRow _ hlt (hfree count text hupdate)
      have hset_rows := congrArg Screen.rows hset
      refine ⟨(congrArg Screen.height hset).trans hheight, ?_⟩
      simp only at hset_rows
      rw [Option.map_some, Option.getD_some, hset_rows]
      funext row
      rcases Nat.lt_trichotomy row count with hrow | rfl | hrow
      · rw [Function.update_of_ne (by omega), hrows]
        simp only [if_pos hrow, if_pos (Nat.lt_succ_of_lt hrow)]
      · rw [Function.update_self, if_pos (by omega), hupdate, Option.getD_some]
      · rw [Function.update_of_ne (by omega), hrows]
        simp only [if_neg (show ¬row < count by omega), if_neg (show ¬row < count + 1 by omega)]

/-! ### Lines that leave the cursor alone -/

/-- Printable characters and colour codes. -/
inductive Plain : List Char → Prop
  | nil : Plain []
  | char {c : Char} {text : List Char} (hc : isControl c = false) (htext : Plain text) :
    Plain (c :: text)
  | colour {body text : List Char} (hbody : ∀ c ∈ body, isInner c = true)
    (htext : Plain text) : Plain (esc :: '[' :: (body ++ ['m']) ++ text)

theorem command?_colour (body : List Char) : command? (body ++ ['m']) = none := by
  have hlast {other : List Char} (h : other.getLast? ≠ some 'm') : body ++ ['m'] ≠ other := by
    rintro rfl
    simp at h
  have hmove : (body ++ ['m']).dropWhile Char.isDigit ≠ [';', '1', 'H'] := by
    intro hdrop
    have hsplit := List.takeWhile_append_dropWhile (p := Char.isDigit) (l := body ++ ['m'])
    rw [hdrop] at hsplit
    refine hlast ?_ hsplit.symm
    simp
  rw [command?, if_neg (hlast (by decide)), if_neg (hlast (by decide)), if_neg (hlast (by decide))]
  simp only [hmove, and_false, if_false]

theorem plain_of_printable {text : List Char} (h : text.all (!isControl ·) = true) :
    Plain text := by
  induction text with
  | nil => exact .nil
  | cons c text ih =>
    rw [List.all_cons, Bool.and_eq_true, Bool.not_eq_true'] at h
    exact .char h.1 (ih h.2)

theorem Device.cursorFree_of_plain {text : List Char} (h : Plain text) :
    device.CursorFree text := by
  have hwrite (s : Screen) : device.write ⟨s, .ground⟩ text = ⟨s.type text, .ground⟩ := by
    induction h generalizing s with
    | nil => simp
    | @char c text hc _ ih =>
      have hesc : c ≠ esc := by
        rintro rfl
        exact absurd hc (by decide)
      have hstep : device.step ⟨s, .ground⟩ c = ⟨s.type [c], .ground⟩ := by
        simp [Device.step, hesc, hc]
      rw [Device.write_cons, hstep, ih, ← Screen.type_append]
      rfl
    | @colour body text hbody _ ih =>
      rw [Device.write_append, device.write_sequence _ hbody (by decide) (by decide), ih,
        Screen.type_append]
      simp [Device.sequence, command?_colour]
  intro s
  rw [hwrite s, Terminal.settled_ground]

end TerminalGrid
