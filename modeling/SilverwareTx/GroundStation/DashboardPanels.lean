import SilverwareTx.Lib.Ansi
import SilverwareTx.Lib.TextWrap

/-!
# Panels of the dashboard (`class Dashboard` in `tools/ground_station/ground_station.py`)

The helpers of `Dashboard` that pad, wrap and frame texts. Padding never cuts a text, so what it
gives fits where the text does; wrapping always fits. A panel and a row of joined panels therefore
fit whatever their texts are (`panel_fits`, `joinManyColumns_fits`).
-/

namespace SilverwareTx.GroundStation

open Ansi

/-- The options of a `Dashboard`. -/
structure Dashboard where
  useColor : Bool := true
  /-- Whether the encoding of the output has the characters of the canvas. -/
  useUnicode : Bool := true

namespace Dashboard

/-- The color of a border. -/
def borderCode : List Char := "2;36".toList

/-- The color of a title. -/
def titleCode : List Char := "1;36".toList

/-- The color of a label. -/
def labelCode : List Char := "2".toList

/-- The color of a value. -/
def valueCode : List Char := "1".toList

/-- The color of a good value. -/
def goodCode : List Char := "1;32".toList

/-- The color of a warning. -/
def warnCode : List Char := "1;33".toList

/-- The color of a bad value. -/
def badCode : List Char := "1;31".toList

/-- The color of a plain value. -/
def infoCode : List Char := "1;36".toList

/-- The column at which the value of a field begins. -/
def fieldValueColumn : ℕ := 20

/-- `" " * count` -/
def spaces (count : ℕ) : List Char := List.replicate count ' '

/-- `color`: a text between the codes, where colors are on. -/
def color (self : Dashboard) (text code : List Char) : List Char :=
  if self.useColor then "\x1b[".toList ++ code ++ ['m'] ++ text ++ "\x1b[0m".toList else text

/-- `badge`: a label and its value. -/
def badge (self : Dashboard) (label : String) (value code : List Char) : List Char :=
  self.color (['['] ++ label.toList ++ [':'] ++ value ++ [']']) code

/-- `bool_text`: one of two texts. -/
def boolText (self : Dashboard) (value : Bool) (trueText falseText : String)
    (warnWhenTrue : Bool) : List Char :=
  let text := (if value then trueText else falseText).toList
  if warnWhenTrue then self.color text (if value then badCode else goodCode)
  else self.color text (if value then goodCode else labelCode)

/-- `f"{label:<20}{value}"` -/
def field (label : String) (value : List Char) : List Char :=
  label.toList ++ spaces (fieldValueColumn - label.toList.length) ++ value

/-- The sides of `_align`. -/
inductive Alignment
  | left
  | center
  | right

/-- `_align`: a text is padded, and never cut. -/
def align (text : List Char) (width : ℕ) (alignment : Alignment) : List Char :=
  let padding := width - visibleLen text
  match alignment with
  | .right => spaces padding ++ text
  | .center =>
    let left := padding / 2
    spaces left ++ text ++ spaces (padding - left)
  | .left => text ++ spaces padding

/-- `_spread`: two texts at the ends of a row. -/
def spread (left right : List Char) (width : ℕ) : List Char :=
  let gap := max 2 (width - visibleLen left - visibleLen right)
  left ++ spaces gap ++ right

/-- `_fit`: a text is padded to a width. -/
def fit (text : List Char) (width : ℕ) : List Char := text ++ spaces (width - visibleLen text)

/-- `_wrap_line`: the escape sequences are taken out where a row must be wrapped. -/
def wrapLine (line : List Char) (width : ℕ) : List (List Char) :=
  if width ≤ 1 ∨ visibleLen line ≤ width then [line]
  else
    let wrapped := TextWrap.wrap (strip line) width (spaces 2)
    if wrapped = [] then [[]] else wrapped

/-- The upper border of a panel, without its colour. -/
def topPlain (title : List Char) (inner : ℕ) : List Char :=
  let titleText := [' '] ++ title ++ [' ']
  let titleText :=
    if titleText.length > inner then [' '] ++ title.take (max 1 (inner - 3)) ++ [' '] else titleText
  ['+'] ++ titleText ++ List.replicate (inner - titleText.length) '-' ++ ['+']

/-- `panel`: rows in a box with a title. -/
def panel (self : Dashboard) (title : String) (rows : List (List Char)) (width : ℕ) :
    List (List Char) :=
  let width := max 8 width
  let inner := width - 2
  let contentWidth := width - 4
  let bottomPlain := ['+'] ++ List.replicate inner '-' ++ ['+']
  [self.color (topPlain title.toList inner) borderCode] ++
    (rows.flatMap fun row => (wrapLine row contentWidth).map fun wrapped =>
      "| ".toList ++ fit wrapped contentWidth ++ " |".toList) ++
    [self.color bottomPlain borderCode]

/-- `_grow_panel`: a panel is padded to a height. -/
def growPanel (panel : List (List Char)) (width targetHeight : ℕ) : List (List Char) :=
  if panel.length ≥ targetHeight ∨ panel.length < 2 then panel
  else
    let blankRow := "| ".toList ++ spaces (width - 4) ++ " |".toList
    let extra := targetHeight - panel.length
    panel.dropLast ++ List.replicate extra blankRow ++ panel.getLast?.toList

/-- `_join_columns`: two panels side by side. -/
def joinColumns (left right : List (List Char)) (leftWidth rightWidth gap : ℕ) :
    List (List Char) :=
  (List.range (max left.length right.length)).map fun index =>
    left[index]?.getD (spaces leftWidth) ++ spaces gap ++ right[index]?.getD (spaces rightWidth)

/-- `_join_many_columns`: panels side by side. -/
def joinManyColumns (panels : List (List (List Char))) (widths : List ℕ) (gap : ℕ) :
    List (List Char) :=
  let height := (panels.map List.length).foldr max 0
  (List.range height).map fun row =>
    (spaces gap).intercalate
      (List.zipWith (fun panel width => panel[row]?.getD (spaces width)) panels widths)

/-! ### Visible lengths -/

/-- Every line fits the width. -/
def Fits (width : ℕ) (lines : List (List Char)) : Prop := ∀ line ∈ lines, visibleLen line ≤ width

theorem Fits.mono {v w : ℕ} (h : v ≤ w) {lines : List (List Char)} (hfits : Fits v lines) :
    Fits w lines := fun line hline => (hfits line hline).trans h

theorem fits_append {width : ℕ} {a b : List (List Char)} :
    Fits width (a ++ b) ↔ Fits width a ∧ Fits width b := List.forall_mem_append

theorem shows_spaces (count : ℕ) : Shows (spaces count) count := by
  have hplain : (spaces count).all isOrdinary = true := by
    rw [spaces, List.all_replicate]
    simp [isOrdinary, esc, TextLines.isBreak]
  have h := shows_plain hplain
  rwa [spaces, List.length_replicate] at h

@[simp] theorem visibleLen_spaces (count : ℕ) : visibleLen (spaces count) = count :=
  (shows_spaces count).visible

theorem visibleLen_append_spaces_le (text : List Char) (count : ℕ) :
    visibleLen (text ++ spaces count) ≤ visibleLen text + count := by
  have h := visibleLen_append_le text (spaces count)
  rwa [visibleLen_spaces] at h

theorem isSequence_colour {code : List Char} (hcode : code.all isParameter = true) :
    IsSequence ("\x1b[".toList ++ code ++ ['m']) :=
  ⟨code, [], 'm', List.all_eq_true.1 hcode, fun c hc => absurd hc List.not_mem_nil, by decide,
    by simp [esc]⟩

/-- Colour codes are not visible. -/
theorem visibleLen_color_le (self : Dashboard) (text : List Char) {code : List Char}
    (hcode : code.all isParameter = true) :
    visibleLen (self.color text code) ≤ visibleLen text := by
  unfold color
  split_ifs
  · have hzero : ['0'].all isParameter = true := by decide
    have hreset : IsSequence "\x1b[0m".toList := isSequence_colour hzero
    have hend := visibleLen_append_le text "\x1b[0m".toList
    rw [visibleLen, visibleLen, visibleLen, hreset.strip, List.length_nil, Nat.add_zero] at hend
    rw [List.append_assoc, visibleLen, (isSequence_colour hcode).strip_append]
    exact hend
  · exact le_rfl

theorem visibleLen_align_le (text : List Char) (width : ℕ) (alignment : Alignment) :
    visibleLen (align text width alignment) ≤ max width (visibleLen text) := by
  cases alignment with
  | left =>
    have h := visibleLen_append_spaces_le text (width - visibleLen text)
    simp only [align]
    omega
  | center =>
    have hleft := visibleLen_append_le (spaces ((width - visibleLen text) / 2)) text
    have h := visibleLen_append_spaces_le (spaces ((width - visibleLen text) / 2) ++ text)
      (width - visibleLen text - (width - visibleLen text) / 2)
    rw [visibleLen_spaces] at hleft
    simp only [align]
    omega
  | right =>
    have h := visibleLen_append_le (spaces (width - visibleLen text)) text
    rw [visibleLen_spaces] at h
    simp only [align]
    omega

theorem visibleLen_fit_le (text : List Char) (width : ℕ) :
    visibleLen (fit text width) ≤ max width (visibleLen text) :=
  visibleLen_align_le text width .left

theorem visibleLen_spread_le {left right : List Char} {width : ℕ}
    (h : visibleLen left + visibleLen right + 2 ≤ width) :
    visibleLen (spread left right width) ≤ width := by
  have hgap := visibleLen_append_spaces_le left
    (max 2 (width - visibleLen left - visibleLen right))
  have hright := visibleLen_append_le
    (left ++ spaces (max 2 (width - visibleLen left - visibleLen right))) right
  simp only [spread]
  omega

/-- The borders of a row. -/
theorem visibleLen_bordered_le {text : List Char} {width : ℕ} (h : visibleLen text ≤ width) :
    visibleLen ("| ".toList ++ text ++ " |".toList) ≤ width + 4 := by
  have hleft := visibleLen_append_le "| ".toList text
  have hright := visibleLen_append_le ("| ".toList ++ text) " |".toList
  have hbar : visibleLen "| ".toList = 2 := (shows_plain (by decide)).visible
  have hend : visibleLen " |".toList = 2 := (shows_plain (by decide)).visible
  omega

/-- **Wrapped lines fit.** -/
theorem wrapLine_fits (line : List Char) {width : ℕ} (h : 3 ≤ width) :
    Fits width (wrapLine line width) := by
  intro other hother
  by_cases hshort : width ≤ 1 ∨ visibleLen line ≤ width
  · rw [wrapLine, if_pos hshort] at hother
    rw [List.mem_singleton.1 hother]
    omega
  · simp only [wrapLine, if_neg hshort] at hother
    split_ifs at hother with hnil
    · rw [List.mem_singleton.1 hother, visibleLen_nil]
      exact Nat.zero_le width
    · have hindent : (spaces 2).length < width := by
        rw [spaces, List.length_replicate]
        omega
      exact (visibleLen_le_length other).trans (TextWrap.length_le_of_mem_wrap hindent hother)

/-! ### Exact lengths -/

theorem shows_color (self : Dashboard) {text code : List Char} (htext : text.all isOrdinary = true)
    (hcode : code.all isParameter = true) : Shows (self.color text code) text.length := by
  unfold color
  split_ifs
  · have hzero : ['0'].all isParameter = true := by decide
    have hreset : IsSequence "\x1b[0m".toList := isSequence_colour hzero
    have h := ((isSequence_colour hcode).shows.append (shows_plain htext)).append hreset.shows
    rwa [Nat.zero_add, Nat.add_zero] at h
  · exact shows_plain htext

theorem shows_badge (self : Dashboard) (label : String) {value code : List Char}
    (hlabel : label.toList.all isOrdinary = true) (hvalue : value.all isOrdinary = true)
    (hcode : code.all isParameter = true) :
    Shows (self.badge label value code) (label.toList.length + value.length + 3) := by
  have hbrackets : ['[', ':', ']'].all isOrdinary = true := by decide
  have htext : (['['] ++ label.toList ++ [':'] ++ value ++ [']']).all isOrdinary = true := by
    simp only [List.all_append, List.all_cons, List.all_nil, hlabel, hvalue] at hbrackets ⊢
    simpa [and_assoc] using hbrackets
  have hlength : (['['] ++ label.toList ++ [':'] ++ value ++ [']']).length =
      label.toList.length + value.length + 3 := by
    simp only [List.length_append, List.length_cons, List.length_nil]
    omega
  rw [← hlength]
  exact self.shows_color htext hcode

theorem shows_align {text : List Char} {length : ℕ} (h : Shows text length) (width : ℕ)
    (alignment : Alignment) : Shows (align text width alignment) (max width length) := by
  have hpad := shows_spaces
  cases alignment with
  | left =>
    have hall := h.append (hpad (width - length))
    rw [align, h.visible]
    rwa [show max width length = length + (width - length) by omega]
  | center =>
    have hall := ((hpad ((width - length) / 2)).append h).append
      (hpad (width - length - (width - length) / 2))
    rw [align, h.visible]
    rwa [show max width length = (width - length) / 2 + length +
      (width - length - (width - length) / 2) by omega]
  | right =>
    have hall := (hpad (width - length)).append h
    rw [align, h.visible]
    rwa [show max width length = width - length + length by omega]

/-! ### Panels -/

theorem length_topPlain (title : List Char) {inner : ℕ} (h : 4 ≤ inner) :
    (topPlain title inner).length = inner + 2 := by
  unfold topPlain
  simp only [List.length_append, List.length_cons, List.length_nil, List.length_replicate]
  split_ifs with hlong
  · simp only [List.length_append, List.length_cons, List.length_nil, List.length_take]
    omega
  · simp only [List.length_append, List.length_cons, List.length_nil]
    omega

theorem borderCode_parameters : borderCode.all isParameter = true := by decide

theorem border_fits (self : Dashboard) {width : ℕ} (h : 2 ≤ width) :
    Fits width [self.color (['+'] ++ List.replicate (width - 2) '-' ++ ['+']) borderCode] := by
  intro line hline
  rw [List.mem_singleton.1 hline]
  calc visibleLen (self.color (['+'] ++ List.replicate (width - 2) '-' ++ ['+']) borderCode)
      ≤ visibleLen (['+'] ++ List.replicate (width - 2) '-' ++ ['+']) :=
        visibleLen_color_le self _ borderCode_parameters
    _ ≤ (['+'] ++ List.replicate (width - 2) '-' ++ ['+']).length := visibleLen_le_length _
    _ = width := by
        simp only [List.length_append, List.length_cons, List.length_nil, List.length_replicate]
        omega

/-- **A panel fits its width**, whatever its title and rows are. -/
theorem panel_fits (self : Dashboard) (title : String) (rows : List (List Char)) {width : ℕ}
    (h : 8 ≤ width) : Fits width (self.panel title rows width) := by
  have hwidth : max 8 width = width := max_eq_right h
  simp only [panel, hwidth, fits_append]
  refine ⟨⟨?_, ?_⟩, ?_⟩
  · intro line hline
    rw [List.mem_singleton.1 hline]
    calc visibleLen (self.color (topPlain title.toList (width - 2)) borderCode)
        ≤ visibleLen (topPlain title.toList (width - 2)) :=
          visibleLen_color_le self _ borderCode_parameters
      _ ≤ (topPlain title.toList (width - 2)).length := visibleLen_le_length _
      _ = width := by
          rw [length_topPlain _ (by omega)]
          omega
  · intro line hline
    obtain ⟨row, -, hrow⟩ := List.mem_flatMap.1 hline
    obtain ⟨wrapped, hwrapped, rfl⟩ := List.mem_map.1 hrow
    have hfits := wrapLine_fits row (show 3 ≤ width - 4 by omega) wrapped hwrapped
    have hcontent : visibleLen (fit wrapped (width - 4)) ≤ width - 4 :=
      (visibleLen_fit_le wrapped (width - 4)).trans (by omega)
    have := visibleLen_bordered_le hcontent
    omega
  · exact self.border_fits (by omega)

theorem growPanel_fits {panel : List (List Char)} {width : ℕ} (h : 4 ≤ width)
    (hpanel : Fits width panel) (targetHeight : ℕ) :
    Fits width (growPanel panel width targetHeight) := by
  unfold growPanel
  split_ifs
  · exact hpanel
  · simp only [fits_append]
    refine ⟨⟨fun line hline => hpanel line (List.mem_of_mem_dropLast hline), ?_⟩, ?_⟩
    · intro line hline
      rw [List.eq_of_mem_replicate hline]
      have := visibleLen_bordered_le (visibleLen_spaces (width - 4)).le
      omega
    · intro line hline
      exact hpanel line (List.mem_of_getLast? (Option.mem_toList.1 hline))

/-- A panel that has been grown fits its width. -/
theorem grownPanel_fits (self : Dashboard) (title : String) (rows : List (List Char)) {width : ℕ}
    (h : 8 ≤ width) (targetHeight : ℕ) :
    Fits width (growPanel (self.panel title rows width) width targetHeight) :=
  growPanel_fits (by omega) (self.panel_fits title rows h) targetHeight

/-- Two panels with a blank row between them fit their width. -/
theorem stack_fits (self : Dashboard) (upper lower : String) (rows rows' : List (List Char))
    {width : ℕ} (h : 8 ≤ width) :
    Fits width (self.panel upper rows width ++ [spaces width] ++ self.panel lower rows' width) := by
  have hblank : Fits width [spaces width] := by
    intro line hline
    rw [List.mem_singleton.1 hline, visibleLen_spaces]
  exact fits_append.2
    ⟨fits_append.2 ⟨self.panel_fits upper rows h, hblank⟩, self.panel_fits lower rows' h⟩

theorem getD_fits {panel : List (List Char)} {width : ℕ} (h : Fits width panel) (index : ℕ) :
    visibleLen (panel[index]?.getD (spaces width)) ≤ width := by
  cases hrow : panel[index]? with
  | none => rw [Option.getD_none, visibleLen_spaces]
  | some row => exact h row (List.mem_of_getElem? hrow)

theorem joinColumns_fits {left right : List (List Char)} {leftWidth rightWidth : ℕ}
    (hleft : Fits leftWidth left) (hright : Fits rightWidth right) (gap : ℕ) :
    Fits (leftWidth + gap + rightWidth) (joinColumns left right leftWidth rightWidth gap) := by
  intro line hline
  obtain ⟨index, -, rfl⟩ := List.mem_map.1 hline
  have hl := getD_fits hleft index
  have hr := getD_fits hright index
  have hgap := visibleLen_append_spaces_le (left[index]?.getD (spaces leftWidth)) gap
  have hjoin := visibleLen_append_le (left[index]?.getD (spaces leftWidth) ++ spaces gap)
    (right[index]?.getD (spaces rightWidth))
  omega

/-- Three panels side by side. -/
theorem joinManyColumns_fits {first second third : List (List Char)} {a b c : ℕ}
    (hfirst : Fits a first) (hsecond : Fits b second) (hthird : Fits c third) (gap : ℕ) :
    Fits (a + gap + b + gap + c) (joinManyColumns [first, second, third] [a, b, c] gap) := by
  intro line hline
  obtain ⟨row, -, rfl⟩ := List.mem_map.1 hline
  have h1 := getD_fits hfirst row
  have h2 := getD_fits hsecond row
  have h3 := getD_fits hthird row
  simp only [List.zipWith_cons_cons, List.zipWith_nil_left, List.intercalate, List.intersperse,
    List.flatten_cons, List.flatten_nil, List.append_nil]
  generalize first[row]?.getD (spaces a) = x at h1
  generalize second[row]?.getD (spaces b) = y at h2
  generalize third[row]?.getD (spaces c) = z at h3
  have g1 := visibleLen_append_le x (spaces gap ++ (y ++ (spaces gap ++ z)))
  have g2 := visibleLen_append_le (spaces gap) (y ++ (spaces gap ++ z))
  have g3 := visibleLen_append_le y (spaces gap ++ z)
  have g4 := visibleLen_append_le (spaces gap) z
  rw [visibleLen_spaces] at g2 g4
  omega

end Dashboard

end SilverwareTx.GroundStation
