import Mathlib.Data.List.Destutter
import Mathlib.Tactic

/-!
# A log of the changes of a value

A watcher is shown a value again and again and logs each change with the value before it. Of the
first value it logs nothing, unless that value is the alarming one. `log_eq` says that the log is
the sequence of the values without repetitions, step by step. `readBack_log` and `log_eq_nil_iff`
are what a reader of the log alone gets from it: the value that was shown last, and that nothing has
changed when the log is empty.
-/

namespace ChangeLog

variable {α : Type*} [DecidableEq α]

/-- An entry: the value before, when there was one, and the value now. -/
structure Entry (α : Type*) where
  previous : Option α
  current : α
  deriving DecidableEq

/-- What the watcher logs of a value, by what it remembers. -/
def note (alarm old : Option α) (value : α) : List (Entry α) :=
  match old with
  | none => if alarm = some value then [⟨none, value⟩] else []
  | some old => if old = value then [] else [⟨some old, value⟩]

/-- The log of a sequence of values, from what the watcher remembers. -/
def log (alarm : Option α) : Option α → List α → List (Entry α)
  | _, [] => []
  | old, value :: values => note alarm old value ++ log alarm (some value) values

/-- The entries of the steps of a sequence. -/
def steps : List α → List (Entry α)
  | first :: second :: rest => ⟨some first, second⟩ :: steps (second :: rest)
  | _ => []

variable {alarm old : Option α}

theorem log_append (values values' : List α) :
    log alarm old (values ++ values') =
      log alarm old values ++ log alarm (values.getLast?.or old) values' := by
  induction values generalizing old with
  | nil => rfl
  | cons value values ih =>
    rw [List.cons_append, log, ih, log, List.append_assoc, List.getLast?_cons]
    cases values.getLast? <;> rfl

theorem destutter'_eq_cons (first : α) (values : List α) :
    ∃ rest, values.destutter' (· ≠ ·) first = first :: rest := by
  induction values with
  | nil => exact ⟨[], rfl⟩
  | cons value values ih =>
    rw [List.destutter'_cons]
    split_ifs
    · exact ⟨_, rfl⟩
    · exact ih

theorem log_some (first : α) (values : List α) :
    log alarm (some first) values = steps (values.destutter' (· ≠ ·) first) := by
  induction values generalizing first with
  | nil => rfl
  | cons value values ih =>
    rw [log, note, ih, List.destutter'_cons]
    by_cases h : first = value
    · rw [if_pos h, if_neg (not_not_intro h), List.nil_append, h]
    · obtain ⟨rest, hrest⟩ := destutter'_eq_cons value values
      rw [if_neg h, if_pos h, hrest, steps]
      rfl

/-- **The log of a new watcher**: the first value if it is alarming, and then the steps of the
values without repetitions. -/
theorem log_eq (first : α) (values : List α) :
    log alarm none (first :: values) =
      (if alarm = some first then [⟨none, first⟩] else []) ++
        steps ((first :: values).destutter (· ≠ ·)) := by
  rw [log, log_some]
  rfl

/-! ### What a reader gets from the log -/

/-- What a reader of a log has at its end, from the value before it. -/
def readBack (old : Option α) (entries : List (Entry α)) : Option α :=
  (entries.getLast?.map Entry.current).or old

omit [DecidableEq α] in
theorem readBack_cons (entry : Entry α) (entries : List (Entry α)) :
    readBack old (entry :: entries) = readBack (some entry.current) entries := by
  rw [readBack, readBack, List.getLast?_cons]
  cases entries.getLast? <;> rfl

/-- **The last value is in the log**: a reader who knows the value before has the one after. -/
theorem readBack_log (first : α) (values : List α) :
    readBack (some first) (log alarm (some first) values) = some (values.getLastD first) := by
  induction values generalizing first with
  | nil => rfl
  | cons value values ih =>
    rw [log, note, List.getLastD_cons]
    by_cases h : first = value
    · rw [if_pos h, h, List.nil_append]
      exact ih value
    · rw [if_neg h, List.singleton_append, readBack_cons]
      exact ih value

/-- Nothing is logged exactly when the value has stayed what it was. -/
theorem log_eq_nil_iff (first : α) (values : List α) :
    log alarm (some first) values = [] ↔ ∀ value ∈ values, value = first := by
  induction values generalizing first with
  | nil => simp [log]
  | cons value values ih =>
    rw [log, note, List.append_eq_nil_iff, List.forall_mem_cons]
    by_cases h : first = value
    · subst h
      rw [if_pos rfl, ih]
      simp
    · rw [if_neg h]
      simp [Ne.symm h]

end ChangeLog
