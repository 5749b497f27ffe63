import Mathlib.Tactic

/-!
# Cyclic redundancy checks as a shift register

A register of `w` bits takes the message bit by bit, most significant bit of every byte first: the
register moves up one place and the generator is added when the bit that leaves it differs from the
message bit.

* the register is linear (`run_xor`), so a corrupted word leaves the residue of its error pattern;
* a word of at most `w` bits can be added at the top at once (`run_eq_iterate`), which is how a
  byte-wise implementation works and why a word followed by its CRC leaves zero
  (`run_append_eq_zero`);
* when the generator has its constant term no state but zero is advanced to zero, so every burst of
  at most `w` bits is seen (`run_burst_ne_zero`, `burst_detected`).
-/

namespace Crc

variable {w : ℕ}

/-- One turn of the register without input. -/
def advance (poly s : BitVec w) : BitVec w := if s.msb then (s <<< 1) ^^^ poly else s <<< 1

/-- One turn of the register with a message bit. -/
def feed (poly s : BitVec w) (b : Bool) : BitVec w :=
  if s.msb ^^ b then (s <<< 1) ^^^ poly else s <<< 1

/-- The register after a list of message bits. -/
def run (poly s : BitVec w) (bits : List Bool) : BitVec w := bits.foldl (feed poly) s

variable {poly s t : BitVec w} {bits : List Bool}

@[simp] theorem run_nil : run poly s [] = s := rfl

@[simp] theorem run_cons (b : Bool) : run poly s (b :: bits) = run poly (feed poly s b) bits := rfl

theorem run_append (bits' : List Bool) :
    run poly s (bits ++ bits') = run poly (run poly s bits) bits' := List.foldl_append

/-! ### Linearity -/

theorem shiftLeft_xor (s t : BitVec w) (n : ℕ) : (s ^^^ t) <<< n = s <<< n ^^^ t <<< n := by
  ext i hi
  by_cases hlow : i < n
  · simp [hlow]
  · simp [hlow]

theorem feed_xor (a b : Bool) :
    feed poly (s ^^^ t) (a ^^ b) = feed poly s a ^^^ feed poly t b := by
  have hcancel : ∀ x y : BitVec w, x ^^^ poly ^^^ (y ^^^ poly) = x ^^^ y := by
    intro x y
    rw [BitVec.xor_assoc, BitVec.xor_comm y, ← BitVec.xor_assoc poly, BitVec.xor_self,
      BitVec.zero_xor]
  rw [feed, feed, feed, BitVec.msb_xor, shiftLeft_xor]
  cases s.msb <;> cases t.msb <;> cases a <;> cases b <;> simp [hcancel, BitVec.xor_assoc] <;>
    rw [BitVec.xor_comm poly]

/-- The register is linear in its start value and the message. -/
theorem run_xor {e : List Bool} (h : bits.length = e.length) :
    run poly (s ^^^ t) (List.zipWith xor bits e) = run poly s bits ^^^ run poly t e := by
  induction bits generalizing s t e with
  | nil =>
    cases e with
    | nil => rfl
    | cons b e => cases h
  | cons a bits ih =>
    cases e with
    | nil => cases h
    | cons b e =>
      rw [List.zipWith_cons_cons, run_cons, run_cons, run_cons, feed_xor]
      exact ih (Nat.succ.inj h)

theorem feed_false : feed poly s false = advance poly s := by
  rw [feed, advance, Bool.xor_false]

theorem run_replicate_false (n : ℕ) :
    run poly s (List.replicate n false) = (advance poly)^[n] s := by
  induction n generalizing s with
  | zero => rfl
  | succ n ih =>
    rw [List.replicate_succ, run_cons, feed_false, ih, Function.iterate_succ_apply]

/-! ### Words added at the top -/

/-- The bits of a list from the top of the register down. -/
def top : List Bool → BitVec w
  | [] => 0
  | b :: bits => (if b then BitVec.twoPow w (w - 1) else 0) ^^^ (top bits >>> 1)

theorem getLsbD_top (bits : List Bool) (i : ℕ) :
    (top bits : BitVec w).getLsbD i = (decide (i < w) && bits.getD (w - 1 - i) false) := by
  induction bits generalizing i with
  | nil => simp [top]
  | cons b bits ih =>
    rw [top, BitVec.getLsbD_xor, BitVec.getLsbD_ushiftRight, ih]
    by_cases hi : i < w
    · by_cases hlast : i = w - 1
      · subst hlast
        cases b <;> simp [hi] <;> omega
      · have hidx : w - 1 - i = w - 1 - (1 + i) + 1 := by omega
        have hlt : 1 + i < w := by omega
        rw [hidx, List.getD_cons_succ]
        cases b <;> simp [hi, hlt, hlast]
    · have hge : ¬1 + i < w := by omega
      have hne : 0 < w → ¬w - 1 = i := by omega
      cases b <;> simp [hi, hge]
      exact hne

/-- A word shorter than the register leaves the lowest bit free. -/
theorem top_ushiftRight_shiftLeft (h : bits.length < w) :
    ((top bits : BitVec w) >>> 1) <<< 1 = top bits := by
  apply BitVec.eq_of_getLsbD_eq
  intro i hi
  rw [BitVec.getLsbD_shiftLeft, BitVec.getLsbD_ushiftRight]
  rcases Nat.eq_zero_or_pos i with rfl | hpos
  · have hlow : (top bits : BitVec w).getLsbD 0 = false := by
      rw [getLsbD_top, List.getD_eq_getElem?_getD, List.getElem?_eq_none (by omega)]
      simp
    simp [hlow]
  · rw [show 1 + (i - 1) = i by omega]
    simp [hi, hpos.ne']

theorem advance_top_ushiftRight (h : bits.length < w) :
    advance poly (top bits >>> 1) = top bits := by
  have hmsb : ((top bits : BitVec w) >>> 1).msb = false := by
    rw [BitVec.msb_eq_getLsbD_last, BitVec.getLsbD_ushiftRight]
    exact BitVec.getLsbD_of_ge _ _ (by omega)
  rw [advance, hmsb, if_neg Bool.false_ne_true, top_ushiftRight_shiftLeft h]

theorem advance_xor : advance poly (s ^^^ t) = advance poly s ^^^ advance poly t := by
  rw [← feed_false, ← feed_false, ← feed_false, ← feed_xor, Bool.xor_false]

/-- A message bit is added to the bit that leaves the register. -/
theorem feed_eq (hw : 0 < w) (b : Bool) :
    feed poly s b = advance poly (s ^^^ (if b then BitVec.twoPow w (w - 1) else 0)) := by
  cases b with
  | false => simp [feed_false]
  | true =>
    have hmsb : (BitVec.twoPow w (w - 1)).msb = true := by
      simp [BitVec.msb_eq_getLsbD_last, hw]
    have hshift : (BitVec.twoPow w (w - 1)) <<< 1 = 0#w := by
      apply BitVec.eq_of_getLsbD_eq
      intro i hi
      simp only [BitVec.getLsbD_shiftLeft, BitVec.getLsbD_twoPow]
      simp
      omega
    rw [if_pos rfl, feed, advance, BitVec.msb_xor, hmsb, shiftLeft_xor, hshift, BitVec.xor_zero]

/-- At most `w` message bits can be added at once, and the register then turns without input. -/
theorem run_eq_iterate (h : bits.length ≤ w) :
    run poly s bits = (advance poly)^[bits.length] (s ^^^ top bits) := by
  induction bits generalizing s with
  | nil => simp [top]
  | cons b bits ih =>
    rw [List.length_cons] at h
    rw [run_cons, ih (by omega), List.length_cons, Function.iterate_succ_apply, top,
      ← BitVec.xor_assoc, advance_xor, ← feed_eq (by omega), advance_top_ushiftRight (by omega)]

/-! ### Bytes -/

/-- The bits of a byte, most significant first. -/
def byteBits (b : BitVec 8) : List Bool := List.ofFn fun i : Fin 8 => b.getMsbD i

/-- The bits of a byte string in transmission order. -/
def bitsOf (bytes : List (BitVec 8)) : List Bool := bytes.flatMap byteBits

variable {bytes bytes' : List (BitVec 8)}

@[simp] theorem length_byteBits (b : BitVec 8) : (byteBits b).length = 8 := List.length_ofFn

@[simp] theorem bitsOf_nil : bitsOf [] = [] := rfl

theorem bitsOf_cons (b : BitVec 8) : bitsOf (b :: bytes) = byteBits b ++ bitsOf bytes := rfl

theorem bitsOf_append : bitsOf (bytes ++ bytes') = bitsOf bytes ++ bitsOf bytes' :=
  List.flatMap_append

@[simp] theorem length_bitsOf (bytes : List (BitVec 8)) :
    (bitsOf bytes).length = 8 * bytes.length := by
  induction bytes with
  | nil => rfl
  | cons b bytes ih =>
    rw [bitsOf_cons, List.length_append, length_byteBits, ih, List.length_cons]
    omega

theorem eight_mul_succ (b : BitVec 8) (n : ℕ) : 8 * (n + 1) = (byteBits b).length + 8 * n := by
  rw [length_byteBits]
  omega

theorem bitsOf_take (n : ℕ) : bitsOf (bytes.take n) = (bitsOf bytes).take (8 * n) := by
  induction bytes generalizing n with
  | nil => simp
  | cons b bytes ih =>
    cases n with
    | zero => rfl
    | succ n =>
      rw [List.take_succ_cons, bitsOf_cons, bitsOf_cons, ih, eight_mul_succ b,
        List.take_length_add_append]

theorem bitsOf_drop (n : ℕ) : bitsOf (bytes.drop n) = (bitsOf bytes).drop (8 * n) := by
  induction bytes generalizing n with
  | nil => simp
  | cons b bytes ih =>
    cases n with
    | zero => rfl
    | succ n =>
      rw [List.drop_succ_cons, bitsOf_cons, ih, eight_mul_succ b, List.drop_length_add_append]

theorem byteBits_xor (a b : BitVec 8) :
    byteBits (a ^^^ b) = List.zipWith xor (byteBits a) (byteBits b) := by
  apply List.ext_getElem
  · simp
  · intro i h h'
    simp [byteBits]

theorem bitsOf_zipWith_xor (h : bytes.length = bytes'.length) :
    bitsOf (List.zipWith (· ^^^ ·) bytes bytes') =
      List.zipWith xor (bitsOf bytes) (bitsOf bytes') := by
  induction bytes generalizing bytes' with
  | nil => rfl
  | cons a bytes ih =>
    cases bytes' with
    | nil => cases h
    | cons b bytes' =>
      rw [List.zipWith_cons_cons, bitsOf_cons, bitsOf_cons, bitsOf_cons,
        List.zipWith_append (by simp), byteBits_xor, ih (Nat.succ.inj h)]

theorem getD_byteBits (b : BitVec 8) (i : ℕ) : (byteBits b).getD i false = b.getMsbD i := by
  by_cases hi : i < 8
  · rw [List.getD_eq_getElem?_getD, List.getElem?_eq_getElem (by simpa using hi)]
    simp only [byteBits, List.getElem_ofFn, Option.getD_some]
  · rw [List.getD_eq_getElem?_getD, List.getElem?_eq_none (by simpa using hi)]
    simp [BitVec.getMsbD, hi]

theorem top_byteBits (h : 8 ≤ w) (b : BitVec 8) :
    (top (byteBits b) : BitVec w) = b.setWidth w <<< (w - 8) := by
  apply BitVec.eq_of_getLsbD_eq
  intro i hi
  rw [getLsbD_top, getD_byteBits, BitVec.getMsbD, BitVec.getLsbD_shiftLeft,
    BitVec.getLsbD_setWidth]
  by_cases hlow : i < w - 8
  · have : ¬w - 1 - i < 8 := by omega
    simp [hlow, this]
  · have hidx : 8 - 1 - (w - 1 - i) = i - (w - 8) := by omega
    have h8 : w - 1 - i < 8 := by omega
    have hw : i - (w - 8) < w := by omega
    rw [hidx]
    simp [hi, hlow, h8, hw]

/-- A byte is added at the top, and the register then turns eight times. -/
theorem run_byteBits (h : 8 ≤ w) (b : BitVec 8) :
    run poly s (byteBits b) = (advance poly)^[8] (s ^^^ (b.setWidth w <<< (w - 8))) := by
  rw [run_eq_iterate (by simpa using h), length_byteBits, top_byteBits h]

/-- A byte-wise loop runs the register over the bits. -/
theorem foldl_eq_run {step : BitVec w → BitVec 8 → BitVec w}
    (hstep : ∀ s b, step s b = run poly s (byteBits b)) :
    bytes.foldl step s = run poly s (bitsOf bytes) := by
  induction bytes generalizing s with
  | nil => rfl
  | cons b bytes ih => rw [List.foldl_cons, ih, hstep, bitsOf_cons, run_append]

theorem top_two_bytes (hi lo : BitVec 8) : (top (bitsOf [hi, lo]) : BitVec 16) = hi ++ lo := by
  apply BitVec.eq_of_getLsbD_eq
  intro i hi16
  have hlen := length_byteBits hi
  rw [getLsbD_top, BitVec.getLsbD_append, bitsOf_cons, bitsOf_cons, bitsOf_nil, List.append_nil]
  by_cases hlow : i < 8
  · rw [List.getD_eq_getElem?_getD, List.getElem?_append_right (by omega),
      ← List.getD_eq_getElem?_getD, getD_byteBits, BitVec.getMsbD, length_byteBits,
      show 8 - 1 - (16 - 1 - i - 8) = i by omega]
    have h8 : 16 - 1 - i - 8 < 8 := by omega
    simp only [hlow, h8, hi16, decide_true, Bool.true_and, if_true]
  · rw [List.getD_eq_getElem?_getD, List.getElem?_append_left (by omega),
      ← List.getD_eq_getElem?_getD, getD_byteBits, BitVec.getMsbD,
      show 8 - 1 - (16 - 1 - i) = i - 8 by omega]
    have h8 : 16 - 1 - i < 8 := by omega
    simp only [hlow, h8, hi16, decide_true, Bool.true_and, if_false]

/-! ### Bursts -/

/-- The set bits of an error pattern lie within `n` consecutive bits. -/
def IsBurst (n : ℕ) (e : List Bool) : Prop :=
  true ∈ e ∧ ∃ start, ∀ i, e.getD i false = true → start ≤ i ∧ i < start + n

theorem eq_replicate_false {l : List Bool} (h : ∀ i, l.getD i false = false) :
    l = List.replicate l.length false := by
  rw [List.eq_replicate_iff]
  refine ⟨rfl, fun b hb => ?_⟩
  obtain ⟨i, hi, rfl⟩ := List.getElem_of_mem hb
  rw [List.getElem_eq_getD false, h i]

/-- A burst is a short word with a set bit, and no other set bit before or after it. -/
theorem IsBurst.exists_window {n : ℕ} {e : List Bool} (h : IsBurst n e) :
    ∃ before window after,
      e = List.replicate before false ++ window ++ List.replicate after false ∧
        window.length ≤ n ∧ true ∈ window := by
  obtain ⟨hset, start, hwithin⟩ := h
  have hbefore : e.take start = List.replicate (e.take start).length false := by
    apply eq_replicate_false
    intro i
    rw [List.getD_eq_getElem?_getD, List.getElem?_take]
    split_ifs with hi
    · rw [← List.getD_eq_getElem?_getD]
      by_contra hbit
      have := (hwithin i (Bool.eq_true_of_not_eq_false hbit)).1
      omega
    · rfl
  have hafter : (e.drop start).drop n = List.replicate ((e.drop start).drop n).length false := by
    apply eq_replicate_false
    intro i
    rw [List.getD_eq_getElem?_getD, List.getElem?_drop, List.getElem?_drop,
      ← List.getD_eq_getElem?_getD]
    by_contra hbit
    have := (hwithin _ (Bool.eq_true_of_not_eq_false hbit)).2
    omega
  refine ⟨(e.take start).length, (e.drop start).take n, ((e.drop start).drop n).length, ?_,
    List.length_take_le _ _, ?_⟩
  · rw [← hbefore, ← hafter, List.append_assoc, List.take_append_drop, List.take_append_drop]
  · rw [← List.take_append_drop start e, ← List.take_append_drop n (e.drop start), hbefore,
      hafter, List.mem_append, List.mem_append] at hset
    rcases hset with hset | hset | hset
    · exact absurd (List.eq_of_mem_replicate hset) (by decide)
    · exact hset
    · exact absurd (List.eq_of_mem_replicate hset) (by decide)

theorem top_ne_zero (hlen : bits.length ≤ w) (hset : true ∈ bits) :
    (top bits : BitVec w) ≠ 0 := by
  obtain ⟨i, hi, hbit⟩ := List.getElem_of_mem hset
  intro hzero
  have hlsb := getLsbD_top (w := w) bits (w - 1 - i)
  rw [hzero, show w - 1 - (w - 1 - i) = i by omega, List.getD_eq_getElem?_getD,
    List.getElem?_eq_getElem hi, hbit] at hlsb
  simp at hlsb
  omega

/-! ### Detection -/

variable (hpoly : poly.getLsbD 0 = true)
include hpoly

/-- A generator with a constant term advances only zero to zero. -/
theorem advance_eq_zero_iff : advance poly s = 0 ↔ s = 0 := by
  have hw : 0 < w := by
    rcases Nat.eq_zero_or_pos w with rfl | hw
    · simp at hpoly
    · exact hw
  constructor
  · intro h
    rw [advance] at h
    split_ifs at h with hmsb
    · have hbit := congrArg (BitVec.getLsbD · 0) h
      simp [hpoly] at hbit
    · apply BitVec.eq_of_getLsbD_eq
      intro i hi
      by_cases hlast : i = w - 1
      · rw [hlast, ← BitVec.msb_eq_getLsbD_last]
        simpa using hmsb
      · have hbit := congrArg (BitVec.getLsbD · (i + 1)) h
        have hlt : i + 1 < w := by omega
        simpa [hlt, ← BitVec.getLsbD_eq_getElem] using hbit
  · rintro rfl
    simp [advance]

theorem iterate_advance_eq_zero_iff (n : ℕ) : (advance poly)^[n] s = 0 ↔ s = 0 := by
  induction n generalizing s with
  | zero => rfl
  | succ n ih => rw [Function.iterate_succ_apply, ih, advance_eq_zero_iff hpoly]

/-- A message and a check word leave zero exactly when the check word is the register after the
message. -/
theorem run_append_eq_zero {check : List Bool} (hcheck : check.length = w) :
    run poly s (bits ++ check) = 0 ↔ run poly s bits = top check := by
  rw [run_append, run_eq_iterate hcheck.le, iterate_advance_eq_zero_iff hpoly]
  exact BitVec.xor_eq_zero_iff

/-- A burst no longer than the register leaves a residue. -/
theorem run_burst_ne_zero {e : List Bool} (h : IsBurst w e) : run poly 0 e ≠ 0 := by
  obtain ⟨before, window, after, rfl, hlen, hset⟩ := h.exists_window
  have hstart : (0 : BitVec w) ^^^ top window = top window := BitVec.zero_xor
  rw [run_append, run_append, run_replicate_false, run_replicate_false, Ne,
    iterate_advance_eq_zero_iff hpoly, (iterate_advance_eq_zero_iff hpoly before).2 rfl,
    run_eq_iterate hlen, iterate_advance_eq_zero_iff hpoly, hstart]
  exact top_ne_zero hlen hset

/-- A word that carries its CRC no longer carries it after one burst no longer than the register. -/
theorem burst_detected {check e : List Bool} (hcheck : check.length = w)
    (hcrc : run poly s bits = top check) (hlen : e.length = bits.length + w) (he : IsBurst w e) :
    run poly s ((List.zipWith xor (bits ++ check) e).take bits.length) ≠
      top ((List.zipWith xor (bits ++ check) e).drop bits.length) := by
  have hword : (bits ++ check).length = e.length := by rw [List.length_append, hcheck, hlen]
  have hresidue : run poly s (List.zipWith xor (bits ++ check) e) = run poly 0 e := by
    have hclean := (run_append_eq_zero hpoly hcheck).2 hcrc
    rw [← BitVec.xor_zero (x := s), run_xor hword, hclean]
    exact BitVec.zero_xor
  rw [Ne, ← run_append_eq_zero hpoly (by simp [hcheck, hlen]), List.take_append_drop, hresidue]
  exact run_burst_ne_zero hpoly he

end Crc
