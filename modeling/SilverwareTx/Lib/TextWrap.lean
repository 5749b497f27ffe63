import Mathlib.Tactic

/-!
# Wrapping a text

`wrap` is `textwrap.wrap` with tabs expanded, white space dropped at the ends of lines, long words
broken and hyphens left alone: the text is divided into words and the spaces between them, and every
line takes as many of these chunks as fit. `length_le_of_mem_wrap` says that no line is too long.
-/

namespace TextWrap

/-- The characters `c` with `c.isspace()`. -/
def isSpace (c : Char) : Bool :=
  c ∈ ['\t', '\n', '\x0b', '\x0c', '\r', '\x1c', '\x1d', '\x1e', '\x1f', ' ', '\x85', '\xa0',
    '\u1680', '\u2028', '\u2029', '\u202f', '\u205f', '\u3000'] ||
  ('\u2000' ≤ c && c ≤ '\u200a')

/-- The characters that are replaced by a space. -/
def isWhitespace (c : Char) : Bool := c ∈ ['\t', '\n', '\x0b', '\x0c', '\r', ' ']

/-- `text.expandtabs(8)`, from a column on. -/
def expandTabs : (column : ℕ) → List Char → List Char
  | _, [] => []
  | column, '\t' :: text => List.replicate (8 - column % 8) ' ' ++ expandTabs 0 text
  | column, c :: text => c :: expandTabs (if c = '\n' ∨ c = '\r' then 0 else column + 1) text

/-- `_munge_whitespace` -/
def mungeWhitespace (text : List Char) : List Char :=
  (expandTabs 0 text).map fun c => if isWhitespace c then ' ' else c

/-- `_split`: the words and the spaces between them. -/
def split (text : List Char) : List (List Char) :=
  text.splitBy fun a b => isWhitespace a == isWhitespace b

/-- The chunks that fit behind `len` characters, and the others. -/
def fill (width : ℕ) : (len : ℕ) → List (List Char) → List (List Char) × List (List Char)
  | _, [] => ([], [])
  | len, chunk :: chunks =>
    if len + chunk.length ≤ width then
      let filled := fill width (len + chunk.length) chunks
      (chunk :: filled.1, filled.2)
    else ([], chunk :: chunks)

/-- `_handle_long_word`, if the next chunk is longer than a line. -/
def breakLongWord (width : ℕ) :
    List (List Char) × List (List Char) → List (List Char) × List (List Char)
  | (line, []) => (line, [])
  | (line, chunk :: chunks) =>
    if width < chunk.length then
      let spaceLeft := if width < 1 then 1 else width - line.flatten.length
      (line ++ [chunk.take spaceLeft], chunk.drop spaceLeft :: chunks)
    else (line, chunk :: chunks)

/-- A chunk of white space. -/
def isBlank (chunk : List Char) : Bool := chunk.all isSpace

/-- The line without white space at its end. -/
def dropBlank (line : List (List Char)) : List (List Char) :=
  match line.getLast? with
  | some chunk => if isBlank chunk then line.dropLast else line
  | none => line

/-- The chunks of the next line, and the others. -/
def nextLine (width : ℕ) (chunks : List (List Char)) : List (List Char) × List (List Char) :=
  let broken := breakLongWord width (fill width 0 chunks)
  (dropBlank broken.1, broken.2)

/-- The chunks without white space at the start of a line that is not the first. -/
def skipBlank (started : Bool) : List (List Char) → List (List Char)
  | [] => []
  | chunk :: chunks => if started && isBlank chunk then chunks else chunk :: chunks

/-- The characters and the chunks: every line takes some of them. -/
def size (chunks : List (List Char)) : ℕ := (chunks.map fun chunk => chunk.length + 1).sum

/-! ### One line -/

theorem fill_append (width len : ℕ) (chunks : List (List Char)) :
    (fill width len chunks).1 ++ (fill width len chunks).2 = chunks := by
  induction chunks generalizing len with
  | nil => rfl
  | cons chunk chunks ih =>
    rw [fill]
    split_ifs
    · exact congrArg (chunk :: ·) (ih _)
    · rfl

theorem length_fill {width len : ℕ} (chunks : List (List Char)) (h : len ≤ width) :
    len + (fill width len chunks).1.flatten.length ≤ width := by
  induction chunks generalizing len with
  | nil => simpa [fill] using h
  | cons chunk chunks ih =>
    rw [fill]
    split_ifs with hfits
    · have := ih hfits
      simp only [List.flatten_cons, List.length_append]
      omega
    · simpa using h

/-- A line that takes no chunk is followed by one that is too long for any line. -/
theorem fill_eq_nil {width : ℕ} {chunk : List Char} {chunks : List (List Char)}
    (h : (fill width 0 (chunk :: chunks)).1 = []) :
    width < chunk.length ∧ (fill width 0 (chunk :: chunks)).2 = chunk :: chunks := by
  by_cases hfits : 0 + chunk.length ≤ width
  · rw [fill, if_pos hfits] at h
    exact absurd h (by simp)
  · rw [fill, if_neg hfits]
    exact ⟨by omega, rfl⟩

theorem size_append (a b : List (List Char)) : size (a ++ b) = size a + size b := by
  simp [size]

theorem length_breakLongWord {width : ℕ} {line : List (List Char)} (chunks : List (List Char))
    (h : line.flatten.length ≤ width) :
    (breakLongWord width (line, chunks)).1.flatten.length ≤ max 1 width := by
  cases chunks with
  | nil => exact h.trans (le_max_right ..)
  | cons chunk chunks =>
    by_cases hlong : width < chunk.length
    · simp only [breakLongWord, if_pos hlong, List.flatten_append, List.flatten_singleton,
        List.length_append, List.length_take]
      split_ifs <;> omega
    · simp only [breakLongWord, if_neg hlong]
      exact h.trans (le_max_right ..)

theorem size_breakLongWord_le (width : ℕ) (line chunks : List (List Char)) :
    size (breakLongWord width (line, chunks)).2 ≤ size chunks := by
  cases chunks with
  | nil => exact le_rfl
  | cons chunk chunks =>
    by_cases hlong : width < chunk.length
    · simp only [breakLongWord, if_pos hlong, size, List.map_cons, List.sum_cons, List.length_drop]
      omega
    · simp only [breakLongWord, if_neg hlong, le_refl]

/-- **Every line takes something.** -/
theorem size_nextLine (width : ℕ) {chunks : List (List Char)} (h : chunks ≠ []) :
    size (nextLine width chunks).2 < size chunks := by
  obtain ⟨chunk, rest, rfl⟩ := List.exists_cons_of_ne_nil h
  unfold nextLine
  cases hfill : fill width 0 (chunk :: rest) with
  | mk line others =>
    have happend := fill_append width 0 (chunk :: rest)
    rw [hfill] at happend
    cases line with
    | nil =>
      obtain ⟨hlong, hothers⟩ := fill_eq_nil (by rw [hfill] : (fill width 0 (chunk :: rest)).1 = [])
      rw [hfill] at hothers
      obtain rfl : others = chunk :: rest := hothers
      simp only [breakLongWord, if_pos hlong, size, List.map_cons, List.sum_cons, List.length_drop,
        List.flatten_nil, List.length_nil]
      split_ifs <;> omega
    | cons first line =>
      have hle := size_breakLongWord_le width (first :: line) others
      rw [← happend, size_append]
      have hfirst : 0 < size (first :: line) := by simp [size]
      exact hle.trans_lt (Nat.lt_add_of_pos_left hfirst)

theorem length_dropBlank_le (line : List (List Char)) :
    (dropBlank line).flatten.length ≤ line.flatten.length := by
  unfold dropBlank
  split
  · split_ifs
    · exact (List.Sublist.flatten (List.dropLast_sublist line)).length_le
    · exact le_rfl
  · exact le_rfl

theorem length_nextLine (width : ℕ) (chunks : List (List Char)) :
    (nextLine width chunks).1.flatten.length ≤ max 1 width := by
  have hfill := length_fill chunks (Nat.zero_le width)
  rw [Nat.zero_add] at hfill
  exact (length_dropBlank_le _).trans (length_breakLongWord _ hfill)

theorem size_skipBlank_le (started : Bool) (chunks : List (List Char)) :
    size (skipBlank started chunks) ≤ size chunks := by
  cases chunks with
  | nil => exact le_rfl
  | cons chunk chunks =>
    rw [skipBlank]
    split_ifs
    · simp [size]
    · exact le_rfl

/-- The chunks left by a line of `_wrap_chunks`. -/
theorem size_rest_lt (width : ℕ) (started : Bool) (chunk : List Char) (chunks : List (List Char)) :
    size (nextLine width (skipBlank started (chunk :: chunks))).2 < size (chunk :: chunks) := by
  have hskip := size_skipBlank_le started (chunk :: chunks)
  by_cases hnil : skipBlank started (chunk :: chunks) = []
  · rw [hnil]
    simp [nextLine, fill, breakLongWord, size]
  · exact (size_nextLine width hnil).trans_le hskip

/-! ### All lines -/

/-- The indent of a line. -/
def margin (indent : List Char) (started : Bool) : List Char := if started then indent else []

/-- `_wrap_chunks`, with `indent` before every line but the first; `started` says whether there is
a line already. -/
def wrapChunks (width : ℕ) (indent : List Char) (started : Bool) :
    List (List Char) → List (List Char)
  | [] => []
  | chunk :: chunks =>
    let line :=
      nextLine (width - (margin indent started).length) (skipBlank started (chunk :: chunks))
    if line.1 = [] then wrapChunks width indent started line.2
    else (margin indent started ++ line.1.flatten) :: wrapChunks width indent true line.2
  termination_by chunks => size chunks
  decreasing_by
    all_goals exact size_rest_lt _ _ _ _

/-- `textwrap.wrap` -/
def wrap (text : List Char) (width : ℕ) (subsequentIndent : List Char) : List (List Char) :=
  wrapChunks width subsequentIndent false (split (mungeWhitespace text))

theorem length_le_of_mem_wrapChunks {width : ℕ} {indent : List Char} (h : indent.length < width)
    (started : Bool) (chunks : List (List Char)) :
    ∀ line ∈ wrapChunks width indent started chunks, line.length ≤ width := by
  induction started, chunks using wrapChunks.induct width indent with
  | case1 => simp [wrapChunks]
  | case2 started chunk chunks line hnil ih =>
    rw [wrapChunks, if_pos hnil]
    exact ih
  | case3 started chunk chunks line hline ih =>
    rw [wrapChunks, if_neg hline]
    intro other hother
    rcases List.mem_cons.1 hother with rfl | hother
    · have hmargin : (margin indent started).length < width := by
        unfold margin
        split_ifs
        · exact h
        · exact (Nat.zero_le _).trans_lt h
      have hlength := length_nextLine (width - (margin indent started).length)
        (skipBlank started (chunk :: chunks))
      rw [List.length_append]
      omega
    · exact ih other hother

/-- **No line is too long.** -/
theorem length_le_of_mem_wrap {text : List Char} {width : ℕ} {indent line : List Char}
    (h : indent.length < width) (hline : line ∈ wrap text width indent) : line.length ≤ width :=
  length_le_of_mem_wrapChunks h false _ line hline

end TextWrap
