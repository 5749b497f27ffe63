import Mathlib.Tactic

/-!
# Consistent overhead byte stuffing

A COBS string is a list of blocks, each a code byte followed by at most 254 data bytes, where the
code is the number of data bytes plus one.

* `serialize` writes the blocks out and `parse` reads them back (`parse_serialize`,
  `serialize_of_parse`);
* `payload` is the message the blocks stand for: the data, with a zero after every block that is
  neither full nor last, `message` the message of a byte string (`message_drop`);
* `blocks` cuts a message into blocks (`payload_blocks`), whose serialization has no zero byte
  (`zero_notMem_encode`) and is at most `length_encode_le` long;
* a byte string without a zero whose last block is not full is the encoding of its message
  (`blocks_payload`, `encode_eq_iff`).
-/

namespace Cobs

/-- A byte. -/
abbrev Byte := BitVec 8

/-- A block: at most 254 data bytes. -/
structure Block where
  data : List Byte
  length_le : data.length ≤ 254

/-- The code byte of a block. -/
def Block.code (b : Block) : Byte := BitVec.ofNat 8 (b.data.length + 1)

/-- A full block stands for its data alone, with no zero after it. -/
def Block.full (b : Block) : Bool := b.data.length == 254

/-- The bytes of a list of blocks. -/
def serialize (bs : List Block) : List Byte := bs.flatMap fun b => b.code :: b.data

/-- The message a list of blocks stands for. -/
def payload : List Block → List Byte
  | [] => []
  | b :: bs => b.data ++ (if bs.isEmpty || b.full then [] else [0]) ++ payload bs

@[simp] theorem serialize_nil : serialize [] = [] := rfl

@[simp] theorem serialize_cons (b : Block) (bs : List Block) :
    serialize (b :: bs) = b.code :: (b.data ++ serialize bs) := by
  simp [serialize]

@[simp] theorem payload_nil : payload [] = [] := rfl

theorem payload_cons (b : Block) (bs : List Block) :
    payload (b :: bs) = b.data ++ (if bs.isEmpty || b.full then [] else [0]) ++ payload bs := rfl

@[simp] theorem toNat_code (b : Block) : b.code.toNat = b.data.length + 1 := by
  have := b.length_le
  rw [Block.code, BitVec.toNat_ofNat, Nat.mod_eq_of_lt (by omega)]

theorem code_ne_zero (b : Block) : b.code ≠ 0 := by
  intro h
  have := congrArg BitVec.toNat h
  simp at this

@[simp] theorem zero_ne_code (b : Block) : (0 : Byte) ≠ b.code := (code_ne_zero b).symm

theorem code_eq_max_iff (b : Block) : b.code = 0xFF ↔ b.full = true := by
  rw [Block.full, beq_iff_eq, ← BitVec.toNat_inj, toNat_code]
  simp

/-! ### Reading blocks back -/

/-- Read a byte string as blocks; `none` when a code is zero or a block is cut short. -/
def parse : List Byte → Option (List Block)
  | [] => some []
  | code :: rest =>
    if h : code = 0 ∨ rest.length < code.toNat - 1 then none
    else
      (parse (rest.drop (code.toNat - 1))).map
        (⟨rest.take (code.toNat - 1), by have := code.isLt; simp; omega⟩ :: ·)
  termination_by e => e.length
  decreasing_by simp

@[simp] theorem parse_nil : parse [] = some [] := by rw [parse]

theorem parse_bad {code : Byte} {rest : List Byte}
    (h : code = 0 ∨ rest.length < code.toNat - 1) : parse (code :: rest) = none := by
  rw [parse, dif_pos h]

theorem parse_block (b : Block) (rest : List Byte) :
    parse (b.code :: (b.data ++ rest)) = (parse rest).map (b :: ·) := by
  have hcode : b.code.toNat - 1 = b.data.length := by simp
  have hgood : ¬ (b.code = 0 ∨ (b.data ++ rest).length < b.code.toNat - 1) := by
    rw [hcode, List.length_append]
    rintro (h | h)
    · exact code_ne_zero b h
    · omega
  rw [parse, dif_neg hgood]
  simp only [hcode, List.drop_left, List.take_left]

/-- A code and enough bytes after it are a block and the bytes after the block. -/
theorem exists_block {code : Byte} {rest : List Byte}
    (h : ¬ (code = 0 ∨ rest.length < code.toNat - 1)) :
    ∃ b : Block, b.code = code ∧ b.data = rest.take (code.toNat - 1) ∧
      rest = b.data ++ rest.drop (code.toNat - 1) := by
  push Not at h
  obtain ⟨hne, hlen⟩ := h
  have hlt := code.isLt
  have hpos : 0 < code.toNat := by
    rcases Nat.eq_zero_or_pos code.toNat with h0 | h0
    · exact absurd (BitVec.eq_of_toNat_eq (by simpa using h0)) hne
    · exact h0
  refine ⟨⟨rest.take (code.toNat - 1), by simp; omega⟩, ?_, rfl, by simp⟩
  apply BitVec.eq_of_toNat_eq
  rw [toNat_code, List.length_take, min_eq_left hlen]
  omega

theorem parse_serialize (bs : List Block) : parse (serialize bs) = some bs := by
  induction bs with
  | nil => simp
  | cons b bs ih => rw [serialize_cons, parse_block, ih]; rfl

theorem serialize_of_parse {e : List Byte} {bs : List Block} (h : parse e = some bs) :
    serialize bs = e := by
  induction e using parse.induct generalizing bs with
  | case1 =>
    rw [parse_nil, Option.some.injEq] at h
    subst h
    rfl
  | case2 code rest hbad => rw [parse_bad hbad] at h; cases h
  | case3 code rest hgood ih =>
    obtain ⟨b, hcode, -, hrest⟩ := exists_block hgood
    rw [← hcode, hrest, parse_block] at h
    obtain ⟨bs', hbs', rfl⟩ := Option.map_eq_some_iff.1 h
    rw [serialize_cons, ih hbs', hcode, ← hrest]

/-- Only the empty string parses to no block. -/
theorem parse_isEmpty {e : List Byte} {bs : List Block} (h : parse e = some bs) :
    bs.isEmpty = e.isEmpty := by
  have := serialize_of_parse h
  subst this
  cases bs <;> simp

/-! ### The message of a byte string -/

/-- The message that a byte string stands for, if it is a list of blocks. -/
def message (e : List Byte) : Option (List Byte) := (parse e).map payload

@[simp] theorem message_nil : message [] = some [] := by simp [message]

theorem message_bad {code : Byte} {rest : List Byte}
    (h : code = 0 ∨ rest.length < code.toNat - 1) : message (code :: rest) = none := by
  rw [message, parse_bad h, Option.map_none]

/-- A block puts its data before the message of the rest, with a zero between when it is neither
full nor last. -/
theorem message_block {code : Byte} {rest : List Byte}
    (h : ¬ (code = 0 ∨ rest.length < code.toNat - 1)) :
    message (code :: rest) =
      (message (rest.drop (code.toNat - 1))).map fun tail =>
        rest.take (code.toNat - 1) ++
          (if code ≠ 0xFF ∧ code.toNat - 1 < rest.length then [0] else []) ++ tail := by
  obtain ⟨b, hcode, hdata, hrest⟩ := exists_block h
  have hlast : ∀ bs, parse (rest.drop (code.toNat - 1)) = some bs →
      (bs.isEmpty = true ↔ ¬ code.toNat - 1 < rest.length) := by
    intro bs hbs
    rw [parse_isEmpty hbs, List.isEmpty_iff, List.drop_eq_nil_iff]
    omega
  have hparse : parse (code :: rest) = (parse (rest.drop (code.toNat - 1))).map (b :: ·) := by
    rw [← parse_block, hcode, ← hrest]
  rw [message, hparse, message]
  cases hp : parse (rest.drop (code.toNat - 1)) with
  | none => rfl
  | some bs =>
    have hzero : (bs.isEmpty || b.full) = true ↔
        ¬ (code ≠ 0xFF ∧ code.toNat - 1 < rest.length) := by
      rw [Bool.or_eq_true, hlast bs hp, ← code_eq_max_iff, hcode]
      tauto
    simp only [Option.map_some, payload_cons, hdata, hzero, ite_not]

/-- `message_block` at a position of a longer string, as a decoder with an index reads it. -/
theorem message_drop {e : List Byte} {i : ℕ} (hi : i < e.length) :
    message (e.drop i) =
      if e.getD i 0 = 0 ∨ e.length < i + (e.getD i 0).toNat then none
      else
        (message (e.drop (i + (e.getD i 0).toNat))).map fun tail =>
          (e.drop (i + 1)).take ((e.getD i 0).toNat - 1) ++
            (if e.getD i 0 ≠ 0xFF ∧ i + (e.getD i 0).toNat < e.length then [0] else []) ++ tail := by
  have hcons : e.drop i = e.getD i 0 :: e.drop (i + 1) := by
    rw [List.drop_eq_getElem_cons hi, List.getElem_eq_getD 0]
  rw [hcons]
  generalize e.getD i 0 = code
  by_cases hzero : code = 0
  · rw [message_bad (.inl hzero), if_pos (.inl hzero)]
  have hpos : 0 < code.toNat :=
    Nat.pos_of_ne_zero fun h0 => hzero (BitVec.eq_of_toNat_eq (by simpa using h0))
  by_cases hshort : e.length < i + code.toNat
  · rw [message_bad (.inr (by rw [List.length_drop]; omega)), if_pos (.inr hshort)]
  · have hdrop : (e.drop (i + 1)).drop (code.toNat - 1) = e.drop (i + code.toNat) := by
      rw [List.drop_drop]
      congr 1
      omega
    have hmore : code.toNat - 1 < (e.drop (i + 1)).length ↔ i + code.toNat < e.length := by
      rw [List.length_drop]
      omega
    rw [if_neg (by tauto),
      message_block (by rw [List.length_drop]; rintro (h | h); exacts [hzero h, by omega]), hdrop]
    simp only [hmore]

/-! ### Cutting a message into blocks -/

/-- A run of data bytes that has not filled its block. -/
abbrev OpenRun := {run : List Byte // run.length < 254}

/-- The empty run. -/
def OpenRun.empty : OpenRun := ⟨[], by simp⟩

@[simp] theorem OpenRun.val_empty : OpenRun.empty.1 = [] := rfl

/-- The blocks of a message whose first block already holds `run`. A block that becomes full is
closed at once, so a message that ends there still gets an empty last block. -/
def blocksFrom : OpenRun → List Byte → List Block
  | run, [] => [⟨run.1, run.2.le⟩]
  | run, b :: x =>
    if b = 0 then ⟨run.1, run.2.le⟩ :: blocksFrom .empty x
    else if h : run.1.length + 1 = 254 then ⟨run.1 ++ [b], by simp; omega⟩ :: blocksFrom .empty x
    else blocksFrom ⟨run.1 ++ [b], by have := run.2; simp; omega⟩ x

/-- The blocks of a message. -/
def blocks (x : List Byte) : List Block := blocksFrom .empty x

/-- The COBS encoding of a message. -/
def encode (x : List Byte) : List Byte := serialize (blocks x)

theorem blocksFrom_ne_nil (run : OpenRun) (x : List Byte) : blocksFrom run x ≠ [] := by
  fun_induction blocksFrom run x <;> simp_all

/-- A code byte and the open run are written in any case. -/
theorem length_run_lt (run : OpenRun) (x : List Byte) :
    run.1.length < (serialize (blocksFrom run x)).length := by
  fun_induction blocksFrom run x with
  | case1 run => simp
  | case2 run x ih => simp
  | case3 run b x hb hfull ih => simp
  | case4 run b x hb hfull ih => simp at ih; omega

theorem serialize_blocksFrom_ne_nil (run : OpenRun) (x : List Byte) :
    serialize (blocksFrom run x) ≠ [] :=
  List.length_pos_iff.1 (Nat.zero_lt_of_lt (length_run_lt run x))

/-- The blocks of a message stand for it. -/
theorem payload_blocksFrom (run : OpenRun) (x : List Byte) :
    payload (blocksFrom run x) = run.1 ++ x := by
  fun_induction blocksFrom run x with
  | case1 run => simp [payload_cons]
  | case2 run x ih =>
    have hopen : run.1.length ≠ 254 := by have := run.2; omega
    rw [payload_cons, ih]
    simp [blocksFrom_ne_nil, Block.full, hopen]
  | case3 run b x hb hfull ih =>
    rw [payload_cons, ih]
    simp [Block.full, hfull]
  | case4 run b x hb hfull ih => rw [ih]; simp

theorem payload_blocks (x : List Byte) : payload (blocks x) = x := by
  rw [blocks, payload_blocksFrom]
  rfl

theorem zero_notMem_serialize_cons {b : Block} {bs : List Block} (hb : (0 : Byte) ∉ b.data)
    (hbs : (0 : Byte) ∉ serialize bs) : (0 : Byte) ∉ serialize (b :: bs) := by
  rw [serialize_cons, List.mem_cons, List.mem_append]
  rintro (h | h | h)
  · exact zero_ne_code b h
  · exact hb h
  · exact hbs h

theorem zero_notMem_concat {run : List Byte} {b : Byte} (hrun : (0 : Byte) ∉ run) (hb : b ≠ 0) :
    (0 : Byte) ∉ run ++ [b] := by
  rw [List.mem_append, List.mem_singleton]
  rintro (h | h)
  · exact hrun h
  · exact hb h.symm

theorem zero_notMem_serialize_blocksFrom (run : OpenRun) (x : List Byte)
    (hrun : (0 : Byte) ∉ run.1) : (0 : Byte) ∉ serialize (blocksFrom run x) := by
  fun_induction blocksFrom run x with
  | case1 run => exact zero_notMem_serialize_cons hrun (by simp)
  | case2 run x ih => exact zero_notMem_serialize_cons hrun (ih (by simp))
  | case3 run b x hb hfull ih =>
    exact zero_notMem_serialize_cons (zero_notMem_concat hrun hb) (ih (by simp))
  | case4 run b x hb hfull ih => exact ih (zero_notMem_concat hrun hb)

/-- An encoding has no zero byte. -/
theorem zero_notMem_encode (x : List Byte) : (0 : Byte) ∉ encode x :=
  zero_notMem_serialize_blocksFrom .empty x (by simp)

theorem length_serialize_blocksFrom_le (run : OpenRun) (x : List Byte) :
    (serialize (blocksFrom run x)).length ≤
      run.1.length + x.length + (run.1.length + x.length) / 254 + 1 := by
  fun_induction blocksFrom run x with
  | case1 run => simp
  | case2 run x ih =>
    simp only [OpenRun.val_empty, List.length_nil] at ih
    simp only [serialize_cons, List.length_cons, List.length_append]
    omega
  | case3 run b x hb hfull ih =>
    simp only [OpenRun.val_empty, List.length_nil] at ih
    simp only [serialize_cons, List.length_cons, List.length_append, List.length_nil]
    omega
  | case4 run b x hb hfull ih =>
    simp only [List.length_append, List.length_cons, List.length_nil] at ih ⊢
    omega

/-- The overhead is one byte, and one more for every 254 bytes. -/
theorem length_encode_le (x : List Byte) :
    (encode x).length ≤ x.length + x.length / 254 + 1 := by
  simpa [encode, blocks] using length_serialize_blocksFrom_le .empty x

theorem encode_ne_nil (x : List Byte) : encode x ≠ [] := serialize_blocksFrom_ne_nil .empty x

/-- An encoding stands for its message. -/
theorem message_encode (x : List Byte) : message (encode x) = some x := by
  rw [message, encode, parse_serialize, Option.map_some, payload_blocks]

/-! ### Canonical strings -/

/-- Data without a zero that leaves its block open joins the open run. -/
theorem blocksFrom_append_of_lt {data : List Byte} (run : OpenRun) (x : List Byte)
    (hzero : (0 : Byte) ∉ data) (hlen : run.1.length + data.length < 254) :
    blocksFrom run (data ++ x) =
      blocksFrom ⟨run.1 ++ data, by rw [List.length_append]; exact hlen⟩ x := by
  induction data generalizing run with
  | nil => simp
  | cons b data ih =>
    rw [List.mem_cons, not_or] at hzero
    rw [List.length_cons] at hlen
    rw [List.cons_append, blocksFrom, if_neg (Ne.symm hzero.1), dif_neg (by omega),
      ih _ hzero.2 (by simp; omega)]
    simp

/-- Data without a zero that fills its block closes it. -/
theorem blocksFrom_append_of_eq {data : List Byte} (run : OpenRun) (x : List Byte)
    (hzero : (0 : Byte) ∉ data) (hlen : run.1.length + data.length = 254) :
    blocksFrom run (data ++ x) =
      ⟨run.1 ++ data, by rw [List.length_append]; exact hlen.le⟩ :: blocksFrom .empty x := by
  have hrun := run.2
  obtain ⟨front, last, rfl⟩ : ∃ front last, data = front ++ [last] := by
    rcases List.eq_nil_or_concat data with rfl | ⟨front, last, h⟩
    · simp at hlen
      omega
    · exact ⟨front, last, by simpa using h⟩
  rw [List.mem_append, not_or, List.mem_singleton] at hzero
  rw [List.length_append, List.length_singleton] at hlen
  rw [List.append_assoc, blocksFrom_append_of_lt run _ hzero.1 (by omega), List.singleton_append,
    blocksFrom, if_neg (Ne.symm hzero.2), dif_pos (by simp; omega)]
  simp

variable {b : Block}

theorem blocksFrom_full (hdata : (0 : Byte) ∉ b.data) (hfull : b.full = true) (x : List Byte) :
    blocksFrom .empty (b.data ++ x) = b :: blocksFrom .empty x := by
  rw [Block.full, beq_iff_eq] at hfull
  rw [blocksFrom_append_of_eq .empty x hdata (by simpa using hfull)]
  simp

theorem blocksFrom_open (hdata : (0 : Byte) ∉ b.data) (hopen : b.full = false) (x : List Byte) :
    blocksFrom .empty (b.data ++ [0] ++ x) = b :: blocksFrom .empty x := by
  have hle := b.length_le
  rw [Block.full, beq_eq_false_iff_ne] at hopen
  rw [List.append_assoc, blocksFrom_append_of_lt .empty _ hdata (by simp; omega),
    List.singleton_append, blocksFrom, if_pos rfl]
  simp

theorem blocksFrom_last (hdata : (0 : Byte) ∉ b.data) (hopen : b.full = false) :
    blocksFrom .empty b.data = [b] := by
  have hle := b.length_le
  rw [Block.full, beq_eq_false_iff_ne] at hopen
  rw [← List.append_nil b.data, blocksFrom_append_of_lt .empty _ hdata (by simp; omega), blocksFrom]
  simp

/-- Blocks without a zero byte whose last block is not full are the blocks of their message. -/
theorem blocks_payload {bs : List Block} (hne : bs ≠ []) (hzero : (0 : Byte) ∉ serialize bs)
    (hlast : ∀ b ∈ bs.getLast?, b.full = false) : blocks (payload bs) = bs := by
  rw [blocks]
  induction bs with
  | nil => exact absurd rfl hne
  | cons b bs ih =>
    rw [serialize_cons, List.mem_cons, List.mem_append, not_or, not_or] at hzero
    obtain ⟨-, hdata, hrest⟩ := hzero
    by_cases hnil : bs = []
    · subst hnil
      simpa [payload_cons] using blocksFrom_last hdata (hlast b rfl)
    · have htail : blocksFrom .empty (payload bs) = bs := by
        apply ih hnil hrest
        rwa [List.getLast?_cons_of_ne_nil hnil] at hlast
      rw [payload_cons, List.isEmpty_eq_false_iff.2 hnil, Bool.false_or]
      by_cases hfull : b.full = true
      · rw [if_pos hfull, List.append_nil, blocksFrom_full hdata hfull, htail]
      · rw [if_neg hfull, blocksFrom_open hdata (Bool.eq_false_of_not_eq_true hfull), htail]

theorem length_data_le_payload {bs : List Block} (hb : b ∈ bs) :
    b.data.length ≤ (payload bs).length := by
  induction bs with
  | nil => cases hb
  | cons b' bs ih =>
    rw [payload_cons, List.length_append, List.length_append]
    rcases List.mem_cons.1 hb with rfl | hb
    · omega
    · have := ih hb
      omega

/-- A string that stands for a short message is its encoding exactly when it has no zero byte. -/
theorem encode_eq_iff {e x : List Byte} (hne : e ≠ []) (h : message e = some x)
    (hshort : x.length < 254) : encode x = e ↔ (0 : Byte) ∉ e := by
  constructor
  · rintro rfl
    exact zero_notMem_encode x
  · intro hzero
    obtain ⟨bs, hbs, rfl⟩ := Option.map_eq_some_iff.1 h
    obtain rfl := serialize_of_parse hbs
    rw [encode, blocks_payload ?_ hzero ?_]
    · rintro rfl
      exact hne rfl
    · intro b hb
      have := length_data_le_payload (List.mem_of_getLast? hb)
      rw [Block.full, beq_eq_false_iff_ne]
      omega

end Cobs
