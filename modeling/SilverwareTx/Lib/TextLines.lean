import Mathlib.Tactic

/-!
# Lines of a text

`splitlines` divides a text at the line boundaries of Unicode, with `\r\n` as one of them, and gives
no line after the last boundary.
-/

namespace TextLines

/-- The characters at which a line ends. -/
def isBreak (c : Char) : Bool :=
  c ∈ ['\n', '\r', '\x0b', '\x0c', '\x1c', '\x1d', '\x1e', '\x85', '\u2028', '\u2029']

/-- A character in front of the first line. -/
def addChar (c : Char) : List (List Char) → List (List Char)
  | [] => [[c]]
  | line :: lines => (c :: line) :: lines

/-- The lines of a text. -/
def splitlines : List Char → List (List Char)
  | [] => []
  | '\r' :: '\n' :: rest => [] :: splitlines rest
  | c :: rest => if isBreak c then [] :: splitlines rest else addChar c (splitlines rest)

example : splitlines "one\r\n\ntwo\n".toList = ["one".toList, [], "two".toList] := by decide

/-- What follows a boundary: the line feed after a carriage return belongs to it. -/
def afterBreak (c : Char) (rest : List Char) : List Char :=
  if c = '\r' ∧ rest.head? = some '\n' then rest.tail else rest

theorem splitlines_break {c : Char} (hc : isBreak c = true) (rest : List Char) :
    splitlines (c :: rest) = [] :: splitlines (afterBreak c rest) := by
  by_cases hpair : c = '\r' ∧ rest.head? = some '\n'
  · obtain ⟨rfl, hhead⟩ := hpair
    obtain ⟨tail, rfl⟩ : ∃ tail, rest = '\n' :: tail := by
      cases rest with
      | nil => simp at hhead
      | cons d tail => exact ⟨tail, by simpa using hhead⟩
    rw [splitlines, afterBreak, if_pos ⟨rfl, hhead⟩, List.tail_cons]
  · have hne : ∀ tail, c = '\r' → rest = '\n' :: tail → False := by
      rintro tail rfl rfl
      exact hpair ⟨rfl, rfl⟩
    rw [splitlines.eq_3 _ _ hne, if_pos hc, afterBreak, if_neg hpair]

theorem splitlines_char {c : Char} (hc : isBreak c = false) (rest : List Char) :
    splitlines (c :: rest) = addChar c (splitlines rest) := by
  rw [splitlines.eq_3, if_neg (by simp [hc])]
  rintro _ rfl
  exact absurd hc (by decide)

/-- A line ends at the first boundary. -/
theorem splitlines_append_cons {a : List Char} (ha : ∀ x ∈ a, isBreak x = false) {c : Char}
    (hc : isBreak c = true) (b : List Char) :
    splitlines (a ++ c :: b) = a :: splitlines (afterBreak c b) := by
  induction a with
  | nil => exact splitlines_break hc b
  | cons x a ih =>
    rw [List.cons_append, splitlines_char (ha x List.mem_cons_self),
      ih fun y hy => ha y (List.mem_cons_of_mem x hy)]
    rfl

/-- A text without a boundary is one line. -/
theorem splitlines_plain {a : List Char} (ha : ∀ x ∈ a, isBreak x = false) (hne : a ≠ []) :
    splitlines a = [a] := by
  induction a with
  | nil => exact absurd rfl hne
  | cons x a ih =>
    rw [splitlines_char (ha x List.mem_cons_self)]
    by_cases hnil : a = []
    · rw [hnil]
      rfl
    · rw [ih (fun y hy => ha y (List.mem_cons_of_mem x hy)) hnil]
      rfl

/-- A text has no boundary or a first one. -/
theorem exists_first_break (text : List Char) :
    (∀ x ∈ text, isBreak x = false) ∨
      ∃ a c b, text = a ++ c :: b ∧ (∀ x ∈ a, isBreak x = false) ∧ isBreak c = true := by
  induction text with
  | nil => exact .inl fun x hx => absurd hx List.not_mem_nil
  | cons x text ih =>
    cases hx : isBreak x with
    | true => exact .inr ⟨[], x, text, rfl, fun y hy => absurd hy List.not_mem_nil, hx⟩
    | false =>
      rcases ih with hplain | ⟨a, c, b, rfl, ha, hc⟩
      · exact .inl (by simpa [hx] using hplain)
      · exact .inr ⟨x :: a, c, b, rfl, by simpa [hx] using ha, hc⟩

theorem length_afterBreak_le (c : Char) (rest : List Char) :
    (afterBreak c rest).length ≤ rest.length := by
  unfold afterBreak
  split_ifs
  · simp
  · exact le_rfl

/-- **Lines of a joined text**: those of the second piece, after lines of the first one or a blank
line. -/
theorem splitlines_append_newline (a b : List Char) :
    ∃ front, splitlines (a ++ '\n' :: b) = front ++ splitlines b ∧
      ∀ line ∈ front, line ∈ splitlines a ∨ line = [] := by
  have hnewline : isBreak '\n' = true := by decide
  induction hlength : a.length using Nat.strong_induction_on generalizing a with
  | _ n ih =>
    rcases exists_first_break a with ha | ⟨first, c, rest, rfl, hfirst, hc⟩
    · refine ⟨[a], splitlines_append_cons ha hnewline b, fun line hline => ?_⟩
      obtain rfl := List.mem_singleton.1 hline
      by_cases hnil : line = []
      · exact .inr hnil
      · exact .inl (by rw [splitlines_plain ha hnil]; exact List.mem_singleton_self line)
    · rw [List.append_assoc, List.cons_append, splitlines_append_cons hfirst hc,
        splitlines_append_cons hfirst hc]
      by_cases hmerged : c = '\r' ∧ rest = []
      · -- the carriage return and the line feed of the join are one boundary
        obtain ⟨rfl, rfl⟩ := hmerged
        refine ⟨[first], by rfl, fun line hline => ?_⟩
        exact .inl (by rw [List.mem_singleton.1 hline]; exact List.mem_cons_self)
      · have hafter : afterBreak c (rest ++ '\n' :: b) = afterBreak c rest ++ '\n' :: b := by
          unfold afterBreak
          cases rest with
          | nil => simp_all
          | cons d rest => split_ifs <;> simp_all
        have hshorter := length_afterBreak_le c rest
        obtain ⟨front, hfront, hmem⟩ := ih (afterBreak c rest).length
          (by rw [← hlength, List.length_append, List.length_cons]; omega) _ rfl
        refine ⟨first :: front, by rw [hafter, hfront, List.cons_append], fun line hline => ?_⟩
        rcases List.mem_cons.1 hline with rfl | hline
        · exact .inl List.mem_cons_self
        · exact (hmem line hline).imp_left (List.mem_cons_of_mem first)

/-- `"\n".join(rows)` -/
def joinLines : List (List Char) → List Char
  | [] => []
  | [row] => row
  | row :: rows => row ++ '\n' :: joinLines rows

theorem mem_splitlines_joinLines {rows : List (List Char)} {line : List Char}
    (h : line ∈ splitlines (joinLines rows)) : line = [] ∨ ∃ row ∈ rows, line ∈ splitlines row := by
  induction rows using joinLines.induct with
  | case1 => exact absurd h (by simp [joinLines, splitlines])
  | case2 row => exact .inr ⟨row, List.mem_singleton_self row, h⟩
  | case3 row rows hne ih =>
    obtain ⟨front, hfront, hmem⟩ := splitlines_append_newline row (joinLines rows)
    rw [joinLines.eq_3 _ _ hne, hfront] at h
    rcases List.mem_append.1 h with h | h
    · rcases hmem line h with hrow | hnil
      · exact .inr ⟨row, List.mem_cons_self, hrow⟩
      · exact .inl hnil
    · rcases ih h with hnil | ⟨other, hother, hline⟩
      · exact .inl hnil
      · exact .inr ⟨other, List.mem_cons_of_mem row hother, hline⟩

/-- A row without a boundary is a line of the joined rows. -/
theorem mem_joinLines {rows : List (List Char)} {row : List Char} (h : row ∈ rows)
    (hplain : ∀ x ∈ row, isBreak x = false) (hne : row ≠ []) :
    row ∈ splitlines (joinLines rows) := by
  induction rows using joinLines.induct with
  | case1 => exact absurd h List.not_mem_nil
  | case2 other =>
    obtain rfl := List.mem_singleton.1 h
    rw [joinLines, splitlines_plain hplain hne]
    exact List.mem_singleton_self row
  | case3 other rows hmore ih =>
    rw [joinLines.eq_3 _ _ hmore]
    rcases List.mem_cons.1 h with rfl | h
    · rw [splitlines_append_cons hplain (by decide)]
      exact List.mem_cons_self
    · obtain ⟨front, hfront, -⟩ := splitlines_append_newline other (joinLines rows)
      rw [hfront]
      exact List.mem_append_right front (ih h)

end TextLines
