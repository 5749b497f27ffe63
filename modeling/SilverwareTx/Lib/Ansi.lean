import Mathlib.Data.List.TakeWhile
import SilverwareTx.Lib.TextLines

/-!
# Escape sequences in a text

`strip` takes the control sequences `ESC[…` out of a text and `visibleLen` counts what is left. A
sequence can begin in one piece of a text and end in the next, so a joined text may be shorter than
its pieces, never longer (`visibleLen_append_le`); pieces that are `Closed` add up exactly.
-/

namespace Ansi

open TextLines

/-- The escape character. -/
def esc : Char := '\x1b'

/-- The characters from the digits to the question mark. -/
def isParameter (c : Char) : Bool := 0x30 ≤ c.toNat && c.toNat ≤ 0x3f

/-- The characters from the space to the slash. -/
def isIntermediate (c : Char) : Bool := 0x20 ≤ c.toNat && c.toNat ≤ 0x2f

/-- The characters from the at sign to the tilde. -/
def isFinal (c : Char) : Bool := 0x40 ≤ c.toNat && c.toNat ≤ 0x7e

/-- What follows the control sequence that the text begins with, if it begins with one. -/
def afterSequence : List Char → Option (List Char)
  | c :: '[' :: body =>
    match (body.dropWhile isParameter).dropWhile isIntermediate with
    | last :: rest => if c = esc ∧ isFinal last then some rest else none
    | [] => none
  | _ => none

/-- A control sequence: `ESC[`, parameters, intermediates and a final character. -/
def IsSequence (seq : List Char) : Prop :=
  ∃ parameters intermediates last, (∀ c ∈ parameters, isParameter c = true) ∧
    (∀ c ∈ intermediates, isIntermediate c = true) ∧ isFinal last = true ∧
    seq = esc :: '[' :: (parameters ++ (intermediates ++ [last]))

theorem notParameter_of_isIntermediate {c : Char} (h : isIntermediate c = true) :
    isParameter c = false := by
  simp only [isIntermediate, isParameter, Bool.and_eq_true, Bool.and_eq_false_iff,
    decide_eq_true_eq, decide_eq_false_iff_not] at h ⊢
  omega

theorem notParameter_of_isFinal {c : Char} (h : isFinal c = true) : isParameter c = false := by
  simp only [isFinal, isParameter, Bool.and_eq_true, Bool.and_eq_false_iff, decide_eq_true_eq,
    decide_eq_false_iff_not] at h ⊢
  omega

theorem notIntermediate_of_isFinal {c : Char} (h : isFinal c = true) :
    isIntermediate c = false := by
  simp only [isFinal, isIntermediate, Bool.and_eq_true, Bool.and_eq_false_iff, decide_eq_true_eq,
    decide_eq_false_iff_not] at h ⊢
  omega

theorem afterSequence_eq_some_iff {text rest : List Char} :
    afterSequence text = some rest ↔ ∃ seq, IsSequence seq ∧ text = seq ++ rest := by
  constructor
  · intro h
    unfold afterSequence at h
    split at h
    · rename_i c body
      split at h
      · rename_i last after hafter
        split_ifs at h with hlast
        obtain ⟨rfl, hfinal⟩ := hlast
        obtain rfl := Option.some.inj h
        have houter := List.takeWhile_append_dropWhile (p := isParameter) (l := body)
        have hinner := List.takeWhile_append_dropWhile (p := isIntermediate)
          (l := body.dropWhile isParameter)
        refine ⟨_, ⟨body.takeWhile isParameter,
          (body.dropWhile isParameter).takeWhile isIntermediate, last,
          fun c hc => List.mem_takeWhile_imp hc, fun c hc => List.mem_takeWhile_imp hc, hfinal,
          rfl⟩, ?_⟩
        rw [hafter] at hinner
        simp only [List.cons_append, List.append_assoc, List.nil_append, hinner, houter]
      · exact absurd h (by simp)
    · exact absurd h (by simp)
  · rintro ⟨_, ⟨parameters, intermediates, last, hparameters, hintermediates, hlast, rfl⟩, rfl⟩
    -- the three classes are disjoint, so each run ends where the next class begins
    have hdrop : (intermediates ++ last :: rest).dropWhile isParameter =
        intermediates ++ last :: rest := by
      cases intermediates with
      | nil =>
        have hc := notParameter_of_isFinal hlast
        rw [List.nil_append, List.dropWhile_cons_of_neg (by simp [hc])]
      | cons c intermediates =>
        have hc := notParameter_of_isIntermediate (hintermediates c List.mem_cons_self)
        rw [List.cons_append, List.dropWhile_cons_of_neg (by simp [hc])]
    have hafter : ((parameters ++ (intermediates ++ last :: rest)).dropWhile isParameter).dropWhile
        isIntermediate = last :: rest := by
      rw [List.dropWhile_append_of_pos hparameters, hdrop,
        List.dropWhile_append_of_pos hintermediates,
        List.dropWhile_cons_of_neg (by simp [notIntermediate_of_isFinal hlast])]
    simp only [afterSequence, List.cons_append, List.append_assoc, List.nil_append, hafter, hlast,
      and_self, if_true]

theorem length_of_afterSequence {text rest : List Char} (h : afterSequence text = some rest) :
    rest.length < text.length := by
  obtain ⟨_, ⟨parameters, intermediates, last, -, -, -, rfl⟩, rfl⟩ := afterSequence_eq_some_iff.1 h
  simp only [List.length_append, List.length_cons]
  omega

/-- The text without its control sequences. -/
def strip : List Char → List Char
  | [] => []
  | c :: text =>
    match _h : afterSequence (c :: text) with
    | some rest => strip rest
    | none => c :: strip text
  termination_by text => text.length
  decreasing_by
    · exact length_of_afterSequence _h
    · exact Nat.lt_succ_self _

/-- The length without the escape sequences. -/
def visibleLen (text : List Char) : ℕ := (strip text).length

@[simp] theorem strip_nil : strip [] = [] := by
  rw [strip]

@[simp] theorem visibleLen_nil : visibleLen [] = 0 := by
  rw [visibleLen, strip_nil, List.length_nil]

theorem strip_of_afterSequence {text rest : List Char} (h : afterSequence text = some rest) :
    strip text = strip rest := by
  cases text with
  | nil => exact absurd h (by simp [afterSequence])
  | cons c text =>
    rw [strip]
    split
    · rename_i other hother
      rw [Option.some.inj (hother.symm.trans h)]
    · rename_i hnone
      exact absurd (hnone.symm.trans h) (by simp)

theorem strip_cons {c : Char} {text : List Char} (h : afterSequence (c :: text) = none) :
    strip (c :: text) = c :: strip text := by
  rw [strip]
  split
  · rename_i other hother
    exact absurd (h.symm.trans hother) (by simp)
  · rfl

theorem visibleLen_le_length (text : List Char) : visibleLen text ≤ text.length := by
  unfold visibleLen
  induction text using strip.induct with
  | case1 => simp
  | case2 c text rest h ih =>
    rw [strip_of_afterSequence h]
    have := length_of_afterSequence h
    omega
  | case3 c text h ih =>
    rw [strip_cons h, List.length_cons, List.length_cons]
    omega

/-! ### Joined texts -/

/-- The characters of a control sequence after `ESC`. -/
def isBody (c : Char) : Bool := 0x20 ≤ c.toNat && c.toNat ≤ 0x7e

theorem IsSequence.body {seq : List Char} (h : IsSequence seq) :
    ∃ body, seq = esc :: body ∧ ∀ c ∈ body, isBody c = true := by
  obtain ⟨parameters, intermediates, last, hparameters, hintermediates, hlast, rfl⟩ := h
  refine ⟨_, rfl, fun c hc => ?_⟩
  simp only [List.mem_cons, List.mem_append, List.not_mem_nil, or_false] at hc
  simp only [isBody, Bool.and_eq_true, decide_eq_true_eq]
  rcases hc with rfl | hc | hc | rfl
  · decide
  · have := hparameters c hc
    simp only [isParameter, Bool.and_eq_true, decide_eq_true_eq] at this
    omega
  · have := hintermediates c hc
    simp only [isIntermediate, Bool.and_eq_true, decide_eq_true_eq] at this
    omega
  · simp only [isFinal, Bool.and_eq_true, decide_eq_true_eq] at hlast
    omega

theorem afterSequence_append {a rest : List Char} (h : afterSequence a = some rest)
    (b : List Char) : afterSequence (a ++ b) = some (rest ++ b) := by
  obtain ⟨seq, hseq, rfl⟩ := afterSequence_eq_some_iff.1 h
  exact afterSequence_eq_some_iff.2 ⟨seq, hseq, List.append_assoc ..⟩

/-- A sequence that begins in `a` and ends in `b` takes its characters from the front of `b`. -/
theorem afterSequence_across {a b rest : List Char} (ha : a ≠ []) (hnone : afterSequence a = none)
    (h : afterSequence (a ++ b) = some rest) :
    ∃ front, front ≠ [] ∧ b = front ++ rest ∧ ∀ c ∈ front, isBody c = true := by
  obtain ⟨seq, hseq, hsplit⟩ := afterSequence_eq_some_iff.1 h
  obtain ⟨body, rfl, hbody⟩ := hseq.body
  rcases List.append_eq_append_iff.1 hsplit with ⟨front, hfront, hb⟩ | ⟨back, hback, -⟩
  · refine ⟨front, ?_, hb, fun c hc => hbody c ?_⟩
    · rintro rfl
      rw [List.append_nil] at hfront
      have hsome : afterSequence a = some [] :=
        afterSequence_eq_some_iff.2 ⟨a, hfront ▸ hseq, (List.append_nil a).symm⟩
      exact absurd (hnone.symm.trans hsome) (by simp)
    · obtain ⟨first, tail, rfl⟩ := List.exists_cons_of_ne_nil ha
      rw [List.cons_append, List.cons.injEq] at hfront
      rw [hfront.2]
      exact List.mem_append_right tail hc
  · have hsome : afterSequence a = some back := afterSequence_eq_some_iff.2 ⟨_, hseq, hback⟩
    exact absurd (hnone.symm.trans hsome) (by simp)

theorem strip_plain_append {a : List Char} (ha : ∀ c ∈ a, c ≠ esc) (b : List Char) :
    strip (a ++ b) = a ++ strip b := by
  induction a with
  | nil => rfl
  | cons c a ih =>
    have hnone : afterSequence (c :: (a ++ b)) = none := by
      by_contra hsome
      obtain ⟨rest, hrest⟩ := Option.ne_none_iff_exists'.1 hsome
      obtain ⟨seq, hseq, hsplit⟩ := afterSequence_eq_some_iff.1 hrest
      obtain ⟨body, rfl, -⟩ := hseq.body
      exact ha c List.mem_cons_self (List.cons.inj hsplit).1
    rw [List.cons_append, strip_cons hnone, ih fun d hd => ha d (List.mem_cons_of_mem c hd),
      List.cons_append]

theorem isBody_ne_esc {c : Char} (h : isBody c = true) : c ≠ esc := by
  rintro rfl
  exact absurd h (by decide)

/-- **A joined text is no longer than its pieces.** -/
theorem visibleLen_append_le (a b : List Char) :
    visibleLen (a ++ b) ≤ visibleLen a + visibleLen b := by
  unfold visibleLen
  induction a using strip.induct with
  | case1 => simp
  | case2 c text rest h ih =>
    rw [strip_of_afterSequence h, strip_of_afterSequence (afterSequence_append h b)]
    exact ih
  | case3 c text h ih =>
    rw [strip_cons h, List.length_cons]
    cases hacross : afterSequence (c :: text ++ b) with
    | none =>
      have hstrip : strip (c :: text ++ b) = c :: strip (text ++ b) := strip_cons hacross
      rw [hstrip, List.length_cons]
      omega
    | some rest =>
      obtain ⟨front, -, rfl, hfront⟩ := afterSequence_across (List.cons_ne_nil c text) h hacross
      rw [strip_of_afterSequence hacross,
        strip_plain_append (fun d hd => isBody_ne_esc (hfront d hd)), List.length_append]
      omega

/-- No sequence goes across a character that is not in its body. -/
theorem strip_append_cons {c : Char} (hesc : c ≠ esc) (hbody : isBody c = false) (a b : List Char) :
    strip (a ++ c :: b) = strip a ++ c :: strip b := by
  induction a using strip.induct with
  | case1 =>
    simpa using strip_plain_append (a := [c]) (by simpa using hesc) b
  | case2 d text rest h ih =>
    rw [strip_of_afterSequence h, strip_of_afterSequence (afterSequence_append h _), ih]
  | case3 d text h ih =>
    have hnone : afterSequence (d :: (text ++ c :: b)) = none := by
      by_contra hsome
      obtain ⟨rest, hrest⟩ := Option.ne_none_iff_exists'.1 hsome
      obtain ⟨front, hne, hsplit, hfront⟩ := afterSequence_across (List.cons_ne_nil d text) h hrest
      obtain ⟨first, tail, rfl⟩ := List.exists_cons_of_ne_nil hne
      rw [List.cons_append, List.cons.injEq] at hsplit
      have := hfront first List.mem_cons_self
      rw [← hsplit.1, hbody] at this
      exact absurd this (by simp)
    rw [strip_cons h, List.cons_append, strip_cons hnone, ih, List.cons_append]

/-! ### Lines -/

theorem isBreak_outside {c : Char} (h : isBreak c = true) : c ≠ esc ∧ isBody c = false := by
  simp only [isBreak, List.mem_cons, List.not_mem_nil, or_false, decide_eq_true_eq] at h
  rcases h with rfl | rfl | rfl | rfl | rfl | rfl | rfl | rfl | rfl | rfl <;> decide

theorem visibleLen_cons_break {c : Char} (h : isBreak c = true) (a b : List Char) :
    visibleLen (a ++ c :: b) = visibleLen a + (visibleLen b + 1) := by
  obtain ⟨hesc, hbody⟩ := isBreak_outside h
  rw [visibleLen, strip_append_cons hesc hbody, List.length_append, List.length_cons]
  rfl

theorem visibleLen_afterBreak_le (c : Char) (rest : List Char) :
    visibleLen (afterBreak c rest) ≤ visibleLen rest := by
  unfold afterBreak
  split_ifs with h
  · obtain ⟨tail, rfl⟩ : ∃ tail, rest = '\n' :: tail := by
      obtain ⟨-, hhead⟩ := h
      cases rest with
      | nil => simp at hhead
      | cons d tail => exact ⟨tail, by simpa using hhead⟩
    have hbreak := visibleLen_cons_break (show isBreak '\n' = true by decide) [] tail
    rw [List.nil_append] at hbreak
    rw [List.tail_cons, hbreak]
    omega
  · exact le_rfl

/-- A line is no longer than the text it is a line of. -/
theorem visibleLen_le_of_mem_splitlines {text line : List Char} (h : line ∈ splitlines text) :
    visibleLen line ≤ visibleLen text := by
  induction hlength : text.length using Nat.strong_induction_on generalizing text with
  | _ n ih =>
    rcases exists_first_break text with hplain | ⟨first, c, rest, rfl, hfirst, hc⟩
    · have hne : text ≠ [] := by
        rintro rfl
        exact absurd h List.not_mem_nil
      rw [splitlines_plain hplain hne] at h
      rw [List.mem_singleton.1 h]
    · rw [visibleLen_cons_break hc]
      rw [splitlines_append_cons hfirst hc] at h
      rcases List.mem_cons.1 h with rfl | h
      · exact Nat.le_add_right _ _
      · have hshorter := length_afterBreak_le c rest
        have hline := ih (afterBreak c rest).length
          (by rw [← hlength, List.length_append, List.length_cons]; omega) h rfl
        have hafter := visibleLen_afterBreak_le c rest
        omega

/-! ### Closed pieces -/

/-- No sequence goes from the text into what follows it. -/
def Closed (a : List Char) : Prop := ∀ b, strip (a ++ b) = strip a ++ strip b

theorem closed_plain {a : List Char} (ha : ∀ c ∈ a, c ≠ esc) : Closed a := by
  intro b
  have hself := strip_plain_append ha []
  rw [List.append_nil, strip_nil, List.append_nil] at hself
  rw [strip_plain_append ha, hself]

theorem IsSequence.strip_append {seq : List Char} (h : IsSequence seq) (b : List Char) :
    strip (seq ++ b) = strip b :=
  strip_of_afterSequence (afterSequence_eq_some_iff.2 ⟨seq, h, rfl⟩)

theorem IsSequence.strip {seq : List Char} (h : IsSequence seq) : strip seq = [] := by
  have hself := h.strip_append []
  rwa [List.append_nil, strip_nil] at hself

theorem IsSequence.closed {seq : List Char} (h : IsSequence seq) : Closed seq := by
  intro b
  rw [h.strip_append, h.strip, List.nil_append]

theorem Closed.append {a b : List Char} (ha : Closed a) (hb : Closed b) : Closed (a ++ b) := by
  intro c
  rw [List.append_assoc, ha, hb, ha b, List.append_assoc]

theorem Closed.visibleLen_append {a : List Char} (ha : Closed a) (b : List Char) :
    visibleLen (a ++ b) = visibleLen a + visibleLen b := by
  rw [visibleLen, ha b, List.length_append]
  rfl

theorem visibleLen_plain {a : List Char} (ha : ∀ c ∈ a, c ≠ esc) : visibleLen a = a.length := by
  have hself := strip_plain_append ha []
  rw [List.append_nil, strip_nil, List.append_nil] at hself
  rw [visibleLen, hself]

/-- A character that is visible in its line. -/
def isOrdinary (c : Char) : Bool := c != esc && !isBreak c

/-- A closed text in one line, of a known length. -/
structure Shows (text : List Char) (length : ℕ) : Prop where
  closed : Closed text
  unbroken : ∀ c ∈ text, isBreak c = false
  visible : visibleLen text = length

theorem shows_plain {a : List Char} (ha : a.all isOrdinary = true) : Shows a a.length := by
  have hordinary : ∀ c ∈ a, c ≠ esc ∧ isBreak c = false := by
    intro c hc
    simpa [isOrdinary] using List.all_eq_true.1 ha c hc
  exact ⟨closed_plain fun c hc => (hordinary c hc).1, fun c hc => (hordinary c hc).2,
    visibleLen_plain fun c hc => (hordinary c hc).1⟩

theorem IsSequence.shows {seq : List Char} (h : IsSequence seq) : Shows seq 0 := by
  refine ⟨h.closed, fun c hc => ?_, by rw [visibleLen, h.strip, List.length_nil]⟩
  obtain ⟨body, rfl, hbody⟩ := h.body
  rw [← Bool.not_eq_true]
  intro hbreak
  obtain ⟨hesc, hout⟩ := isBreak_outside hbreak
  rcases List.mem_cons.1 hc with rfl | hc
  · exact hesc rfl
  · exact absurd (hbody c hc) (by simp [hout])

theorem Shows.append {a b : List Char} {m n : ℕ} (ha : Shows a m) (hb : Shows b n) :
    Shows (a ++ b) (m + n) := by
  refine ⟨ha.closed.append hb.closed, fun c hc => ?_, ?_⟩
  · exact (List.mem_append.1 hc).elim (ha.unbroken c) (hb.unbroken c)
  · rw [ha.closed.visibleLen_append, ha.visible, hb.visible]

end Ansi
