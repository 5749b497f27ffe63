import Mathlib.Tactic

/-!
# Logs of records in rotating files

* `readAll`: reading the records of a stream one after another until its end or the first error,
  with `readAll_flatten`: blocks that each read back as a record read back together;
* `RotatingLog`: records appended to a current file that may be closed before any of them; its
  `contents` are the records in order, whatever the rotations.
-/

namespace RecordLog

variable {β ρ ε : Type*}

/-- The records of a stream, and the error that ended the reading, if any. Every record takes at
least one symbol, so as many turns as symbols are enough. -/
def readAll (next : List β → Except ε (ρ × List β)) : (turns : ℕ) → (stream : List β) →
    List ρ × Option ε
  | 0, _ => ([], none)
  | turns + 1, stream =>
    if stream.isEmpty then ([], none)
    else
      match next stream with
      | .error e => ([], some e)
      | .ok (record, rest) =>
        let read := readAll next turns rest
        (record :: read.1, read.2)

/-- `block` reads back as `record`, whatever follows it. -/
def ReadsAs (next : List β → Except ε (ρ × List β)) (record : ρ) (block : List β) : Prop :=
  block ≠ [] ∧ ∀ rest, next (block ++ rest) = .ok (record, rest)

variable {next : List β → Except ε (ρ × List β)}

theorem readAll_nil (turns : ℕ) : readAll next turns [] = ([], none) := by
  cases turns <;> rfl

theorem readAll_flatten {records : List ρ} {blocks : List (List β)}
    (h : List.Forall₂ (ReadsAs next) records blocks) {turns : ℕ} (hturns : records.length ≤ turns) :
    readAll next turns blocks.flatten = (records, none) := by
  induction h generalizing turns with
  | nil => exact readAll_nil turns
  | @cons record block records blocks hblock _ ih =>
    obtain ⟨turns, rfl⟩ : ∃ k, turns = k + 1 := ⟨turns - 1, by simp at hturns; omega⟩
    have hne : (block ++ blocks.flatten).isEmpty = false := by
      simp [hblock.1]
    rw [List.flatten_cons, readAll, hne, if_neg Bool.false_ne_true, hblock.2]
    simp only
    rw [ih (by simpa using hturns)]

theorem length_le_of_readsAs {records : List ρ} {blocks : List (List β)}
    (h : List.Forall₂ (ReadsAs next) records blocks) : records.length ≤ blocks.flatten.length := by
  induction h with
  | nil => simp
  | cons hblock _ ih =>
    have hpos := List.length_pos_of_ne_nil hblock.1
    rw [List.flatten_cons, List.length_append, List.length_cons]
    omega

/-! ### Streams that break off -/

/-- A stream that breaks off inside `block` is an error. -/
def TornIsError (next : List β → Except ε (ρ × List β)) (block : List β) : Prop :=
  ∀ k, 0 < k → k < block.length → ∃ e, next (block.take k) = .error e

/-- The end of the first `i` blocks. -/
def blockEnd (blocks : List (List β)) (i : ℕ) : ℕ := (blocks.take i).flatten.length

@[simp] theorem blockEnd_zero (blocks : List (List β)) : blockEnd blocks 0 = 0 := rfl

@[simp] theorem blockEnd_cons_succ (block : List β) (blocks : List (List β)) (i : ℕ) :
    blockEnd (block :: blocks) (i + 1) = block.length + blockEnd blocks i := by
  simp [blockEnd]

/-- The first `k` symbols of a log hold the whole records that end by then, and reading them ends
without an error exactly at the end of a record. -/
theorem readAll_take_flatten {records : List ρ} {blocks : List (List β)}
    (h : List.Forall₂ (fun record block => ReadsAs next record block ∧ TornIsError next block)
      records blocks) {k turns : ℕ} (hk : k ≤ blocks.flatten.length) (hturns : k ≤ turns) :
    ∃ n ≤ records.length,
      (readAll next turns (blocks.flatten.take k)).1 = records.take n ∧
      (∀ i ≤ records.length, blockEnd blocks i ≤ k ↔ i ≤ n) ∧
      ((readAll next turns (blocks.flatten.take k)).2 = none ↔ k = blockEnd blocks n) := by
  -- on the records: the cut is at the start, inside the first block, or behind it
  induction h generalizing k turns with
  | nil =>
    obtain rfl : k = 0 := by simpa using hk
    refine ⟨0, le_rfl, by rw [List.take_zero, readAll_nil]; rfl, ?_, ?_⟩
    · intro i hi
      obtain rfl : i = 0 := by simpa using hi
      simp
    · rw [List.take_zero, readAll_nil]
      exact iff_of_true rfl rfl
  | @cons record block records blocks hboth _ ih =>
    obtain ⟨hblock, htorn⟩ := hboth
    have hpos := List.length_pos_of_ne_nil hblock.1
    rcases Nat.eq_zero_or_pos k with rfl | hkpos
    · refine ⟨0, Nat.zero_le _, by rw [List.take_zero, readAll_nil]; rfl, ?_, ?_⟩
      · intro i _
        cases i with
        | zero => simp
        | succ i =>
          rw [blockEnd_cons_succ]
          omega
      · rw [List.take_zero, readAll_nil]
        exact iff_of_true rfl rfl
    obtain ⟨turns, rfl⟩ : ∃ t, turns = t + 1 := ⟨turns - 1, by omega⟩
    by_cases hinside : k < block.length
    -- inside the first block there is only the torn record to read
    · obtain ⟨e, he⟩ := htorn k hkpos hinside
      have hstream : (block :: blocks).flatten.take k = block.take k := by
        rw [List.flatten_cons, List.take_append_of_le_length hinside.le]
      have hread : readAll next (turns + 1) (block.take k) = ([], some e) := by
        have hne : (block.take k).isEmpty = false := by
          rw [List.isEmpty_eq_false_iff, ← List.length_pos_iff, List.length_take]
          omega
        rw [readAll, hne, if_neg Bool.false_ne_true, he]
      rw [hstream, hread]
      refine ⟨0, Nat.zero_le _, rfl, ?_, ?_⟩
      · intro i _
        cases i with
        | zero => simp
        | succ i =>
          rw [blockEnd_cons_succ]
          omega
      · rw [blockEnd_zero]
        exact iff_of_false (by simp) hkpos.ne'
    · obtain ⟨k, rfl⟩ : ∃ k', k = block.length + k' := ⟨k - block.length, by omega⟩
      rw [List.flatten_cons, List.length_append] at hk
      have hk' : k ≤ blocks.flatten.length := by omega
      have hturns' : k ≤ turns := by omega
      obtain ⟨n, hn, hrecords, hwhole, hend⟩ := ih hk' hturns'
      have hread : readAll next (turns + 1) ((block :: blocks).flatten.take (block.length + k)) =
          (record :: (readAll next turns (blocks.flatten.take k)).1,
            (readAll next turns (blocks.flatten.take k)).2) := by
        have hne : (block ++ blocks.flatten.take k).isEmpty = false := by simp [hblock.1]
        rw [List.flatten_cons, List.take_length_add_append, readAll, hne,
          if_neg Bool.false_ne_true, hblock.2]
      rw [hread]
      refine ⟨n + 1, Nat.succ_le_succ hn, by rw [hrecords]; rfl, ?_, ?_⟩
      · intro i hi
        cases i with
        | zero => simp
        | succ i =>
          have := hwhole i (Nat.le_of_succ_le_succ hi)
          rw [blockEnd_cons_succ]
          omega
      · rw [blockEnd_cons_succ, Nat.add_left_cancel_iff]
        exact hend

/-- Whole records in front of a stream whose next record is an error. -/
theorem readAll_flatten_append {records : List ρ} {blocks : List (List β)}
    (h : List.Forall₂ (ReadsAs next) records blocks) {rest : List β} {e : ε} (hrest : rest ≠ [])
    (herror : next rest = .error e) {turns : ℕ} (hturns : records.length < turns) :
    readAll next turns (blocks.flatten ++ rest) = (records, some e) := by
  induction h generalizing turns with
  | nil =>
    obtain ⟨turns, rfl⟩ : ∃ t, turns = t + 1 := ⟨turns - 1, by omega⟩
    rw [List.flatten_nil, List.nil_append, readAll, List.isEmpty_eq_false_iff.2 hrest,
      if_neg Bool.false_ne_true, herror]
  | @cons record block records blocks hblock _ ih =>
    obtain ⟨turns, rfl⟩ : ∃ t, turns = t + 1 := ⟨turns - 1, by omega⟩
    have hne : (block ++ (blocks.flatten ++ rest)).isEmpty = false := by simp [hblock.1]
    rw [List.flatten_cons, List.append_assoc, readAll, hne, if_neg Bool.false_ne_true, hblock.2]
    simp only
    rw [ih (by simpa using hturns)]

end RecordLog

/-- The records of the closed files and of the current one. -/
structure RotatingLog (ρ : Type*) where
  closed : List (List ρ) := []
  current : Option (List ρ) := none

namespace RotatingLog

variable {ρ : Type*} (log : RotatingLog ρ) (record : ρ)

/-- The records in the order of the files. -/
def contents : List ρ := log.closed.flatten ++ log.current.getD []

/-- A new file, unless one is open. -/
def ensureOpen : RotatingLog ρ := { log with current := some (log.current.getD []) }

/-- The current file is closed. -/
def close : RotatingLog ρ := ⟨log.closed ++ log.current.toList, none⟩

/-- A record at the end of the current file, or of a new one. -/
def push : RotatingLog ρ := { log with current := some (log.current.getD [] ++ [record]) }

@[simp] theorem contents_ensureOpen : log.ensureOpen.contents = log.contents := rfl

@[simp] theorem contents_close : log.close.contents = log.contents := by
  unfold contents close
  cases log.current <;> simp

@[simp] theorem contents_push : (log.push record).contents = log.contents ++ [record] := by
  simp [contents, push]

theorem flatten_closed_close : log.close.closed.flatten = log.contents := by
  rw [← contents_close, contents, close]
  simp

end RotatingLog
