import Mathlib.Tactic

/-!
# Loops that read lazily and catch exceptions

A reader gives items one after another, and an exception may end it (`Reading`). `readGuarded` is
the loop over one reader inside a `try` whose handler takes the exceptions that `handled` names, and
`scan` makes that loop for one file after another. `scan_eq_ok_iff`: a scan gets through exactly
when every exception is a handled one, and then it has absorbed every file.
-/

namespace GuardedReading

variable {ι ε σ φ : Type*}

/-- What a reader gives, and the exception that ends it, if any. -/
structure Reading (ι ε : Type*) where
  items : List ι
  failure : Option ε := none

section Scan

variable (handled : ε → Bool) (body : σ → ι → σ) (note : φ → σ → ε → σ) (reading : φ → Reading ι ε)

/-- The loop over the reader of one file; a handled exception is noted. -/
def readGuarded (state : σ) (file : φ) : Except ε σ :=
  let state := (reading file).items.foldl body state
  match (reading file).failure with
  | none => .ok state
  | some e => if handled e then .ok (note file state e) else .error e

/-- The loops over the files; an exception that is not handled ends them. -/
def scan (state : σ) (files : List φ) : Except ε σ :=
  files.foldlM (readGuarded handled body note reading) state

/-- What the loop over one file does to the state when it gets through. -/
def absorb (state : σ) (file : φ) : σ :=
  let state := (reading file).items.foldl body state
  match (reading file).failure with
  | none => state
  | some e => note file state e

variable {handled body note reading}

theorem scan_cons_of_caught {state : σ} {file : φ} {files : List φ}
    (h : ∀ e, (reading file).failure = some e → handled e = true) :
    scan handled body note reading state (file :: files) =
      scan handled body note reading (absorb body note reading state file) files := by
  have hread : readGuarded handled body note reading state file =
      .ok (absorb body note reading state file) := by
    rw [readGuarded, absorb]
    rcases hf : (reading file).failure with _ | e
    · rfl
    · simp [h e hf]
  rw [scan, List.foldlM_cons, hread]
  rfl

theorem scan_cons_of_escaped {state : σ} {file : φ} {files : List φ} {e : ε}
    (hf : (reading file).failure = some e) (he : ¬handled e = true) :
    scan handled body note reading state (file :: files) = .error e := by
  have hread : readGuarded handled body note reading state file = .error e := by
    rw [readGuarded, hf]
    exact if_neg he
  rw [scan, List.foldlM_cons, hread]
  rfl

/-- **A scan gets through** exactly when it handles every exception it meets, and leaves what
absorbing the files one after another leaves. -/
theorem scan_eq_ok_iff {state final : σ} {files : List φ} :
    scan handled body note reading state files = .ok final ↔
      (∀ file ∈ files, ∀ e, (reading file).failure = some e → handled e = true) ∧
        files.foldl (absorb body note reading) state = final := by
  induction files generalizing state with
  | nil => simp [scan, pure, Except.pure]
  | cons file files ih =>
    rw [List.forall_mem_cons]
    by_cases hcaught : ∀ e, (reading file).failure = some e → handled e = true
    · rw [scan_cons_of_caught hcaught, ih, List.foldl_cons, and_assoc]
      exact (and_iff_right hcaught).symm
    · obtain ⟨e, hf, he⟩ : ∃ e, (reading file).failure = some e ∧ ¬handled e = true := by
        simpa using hcaught
      rw [scan_cons_of_escaped hf he]
      constructor
      · intro h
        cases h
      · rintro ⟨⟨h, -⟩, -⟩
        exact absurd (h e hf) he

/-- Where no reader is ended by an exception, the scan is a loop over all the items. -/
theorem scan_of_undamaged {files : List φ} (h : ∀ file ∈ files, (reading file).failure = none)
    (state : σ) :
    scan handled body note reading state files =
      .ok ((files.flatMap fun file => (reading file).items).foldl body state) := by
  induction files generalizing state with
  | nil => rfl
  | cons file files ih =>
    obtain ⟨hfile, hrest⟩ := List.forall_mem_cons.1 h
    rw [scan_cons_of_caught (by simp [hfile]), ih hrest, List.flatMap_cons, List.foldl_append,
      absorb, hfile]

variable (body note reading)

/-- A quantity that an item changes by its weight and a note leaves alone adds up over the files. -/
theorem foldl_absorb_weight (quantity : σ → ℕ) (weight : ι → ℕ)
    (hbody : ∀ state item, quantity (body state item) = quantity state + weight item)
    (hnote : ∀ file state e, quantity (note file state e) = quantity state)
    (state : σ) (files : List φ) :
    quantity (files.foldl (absorb body note reading) state) =
      quantity state + (files.map fun file => ((reading file).items.map weight).sum).sum := by
  have hitems : ∀ (items : List ι) (state : σ),
      quantity (items.foldl body state) = quantity state + (items.map weight).sum := by
    intro items
    induction items with
    | nil => simp
    | cons item items ih =>
      intro state
      rw [List.foldl_cons, ih, hbody, List.map_cons, List.sum_cons, Nat.add_assoc]
  induction files generalizing state with
  | nil => simp
  | cons file files ih =>
    have hstep : quantity (absorb body note reading state file) =
        quantity state + ((reading file).items.map weight).sum := by
      rw [absorb]
      rcases (reading file).failure with _ | e
      · exact hitems _ _
      · exact (hnote _ _ _).trans (hitems _ _)
    rw [List.foldl_cons, ih, hstep, List.map_cons, List.sum_cons, Nat.add_assoc]

/-- Something that items leave alone changes only with the notes. -/
theorem foldl_absorb_notes {κ : Type*} (entries : σ → List κ) (entry : φ → ε → κ)
    (hbody : ∀ state item, entries (body state item) = entries state)
    (hnote : ∀ file state e, entries (note file state e) = entries state ++ [entry file e])
    (state : σ) (files : List φ) :
    entries (files.foldl (absorb body note reading) state) =
      entries state ++ files.filterMap fun file => (reading file).failure.map (entry file) := by
  have hitems :
      ∀ (items : List ι) (state : σ), entries (items.foldl body state) = entries state := by
    intro items
    induction items with
    | nil => simp
    | cons item items ih =>
      intro state
      rw [List.foldl_cons, ih, hbody]
  induction files generalizing state with
  | nil => simp
  | cons file files ih =>
    rw [List.foldl_cons, ih, absorb]
    rcases hf : (reading file).failure with _ | e
    · simp [hf, hitems]
    · simp [hf, hitems, hnote]

end Scan

end GuardedReading
