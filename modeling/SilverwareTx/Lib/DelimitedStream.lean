import Mathlib.Tactic

/-!
# Cutting a chunked stream at a delimiter

A receiver keeps a buffer, appends every chunk it reads, hands on the pieces that a delimiter ends
and keeps the open tail; a tail longer than `limit` is thrown away. `receive_pieces` says what it
hands on, however the stream is cut into chunks: one piece for each delimited piece of the stream,
in order, which is that piece itself when it is at most `limit` long and otherwise some end of it.
-/

namespace DelimitedStream

variable {α : Type*}

/-! ### What a receiver with a limit keeps of a piece -/

/-- What is left of a piece `p`: some end of it, and all of it when it is within the limit. -/
def Kept (limit : ℕ) (p kept : List α) : Prop := kept <:+ p ∧ (p.length ≤ limit → kept = p)

theorem Kept.refl (limit : ℕ) (p : List α) : Kept limit p p := ⟨List.suffix_refl p, fun _ => rfl⟩

theorem Kept.append {limit : ℕ} {p kept : List α} (h : Kept limit p kept) (t : List α) :
    Kept limit (p ++ t) (kept ++ t) := by
  refine ⟨?_, fun hlen => ?_⟩
  · obtain ⟨pre, rfl⟩ := h.1
    exact ⟨pre, by simp⟩
  · rw [h.2 (by rw [List.length_append] at hlen; omega)]

/-- Throwing an overlong buffer away keeps the relation to the true piece. -/
theorem Kept.clear {limit : ℕ} {p kept : List α} (h : Kept limit p kept) :
    Kept limit p (if kept.length > limit then [] else kept) := by
  split_ifs with hlong
  · have := h.1.length_le
    exact ⟨List.nil_suffix, fun hlen => by omega⟩
  · exact h

/-! ### Pieces and open tail -/

variable [DecidableEq α]

/-- The pieces of `s` that the delimiter `d` ends. -/
def complete (d : α) (s : List α) : List (List α) := (s.splitOn d).dropLast

/-- The part of `s` after its last delimiter. -/
def openTail (d : α) (s : List α) : List α := (s.splitOn d).getLast (List.splitOn_ne_nil d s)

theorem complete_of_notMem {d : α} {s : List α} (h : d ∉ s) : complete d s = [] := by
  simp [complete, List.splitOn_eq_singleton h]

theorem openTail_of_notMem {d : α} {s : List α} (h : d ∉ s) : openTail d s = s := by
  simp [openTail, List.splitOn_eq_singleton h]

theorem complete_append_cons {d : α} {s : List α} (h : d ∉ s) (t : List α) :
    complete d (s ++ d :: t) = s :: complete d t := by
  have hne := List.splitOn_ne_nil d t
  rw [complete, List.splitOn_append_cons_self_of_not_mem h, List.dropLast_cons_of_ne_nil hne]
  rfl

theorem openTail_append_cons {d : α} {s : List α} (h : d ∉ s) (t : List α) :
    openTail d (s ++ d :: t) = openTail d t := by
  have hne := List.splitOn_ne_nil d t
  simp only [openTail, List.splitOn_append_cons_self_of_not_mem h]
  exact List.getLast_cons hne

/-- A list has no delimiter, or has a first one. -/
theorem notMem_or_first (d : α) (s : List α) :
    d ∉ s ∨ ∃ a t, s = a ++ d :: t ∧ d ∉ a := by
  by_cases h : d ∈ s
  · exact .inr (List.eq_append_cons_of_mem h)
  · exact .inl h

theorem notMem_openTail (d : α) (s : List α) : d ∉ openTail d s := by
  induction hn : s.length using Nat.strong_induction_on generalizing s with
  | _ n ih =>
    rcases notMem_or_first d s with h | ⟨a, t, rfl, ha⟩
    · rwa [openTail_of_notMem h]
    · rw [openTail_append_cons ha]
      exact ih t.length (by simp at hn; omega) t rfl

/-- Reading on after `s` is reading on after its open tail. -/
theorem complete_append (d : α) (s t : List α) :
    complete d (s ++ t) = complete d s ++ complete d (openTail d s ++ t) ∧
      openTail d (s ++ t) = openTail d (openTail d s ++ t) := by
  induction hn : s.length using Nat.strong_induction_on generalizing s with
  | _ n ih =>
    rcases notMem_or_first d s with h | ⟨a, r, rfl, ha⟩
    · simp [openTail_of_notMem h, complete_of_notMem h]
    · obtain ⟨h1, h2⟩ := ih r.length (by simp at hn; omega) r rfl
      rw [List.append_assoc, List.cons_append, complete_append_cons ha, openTail_append_cons ha,
        complete_append_cons ha, openTail_append_cons ha, h1, h2]
      simp

/-- A stream of delimited pieces is cut back into them. -/
theorem complete_join (d : α) (pieces : List (List α)) (h : ∀ p ∈ pieces, d ∉ p) :
    complete d (pieces.flatMap (· ++ [d])) = pieces := by
  induction pieces with
  | nil => simp [complete]
  | cons p pieces ih =>
    rw [List.flatMap_cons, List.append_assoc, List.singleton_append,
      complete_append_cons (h p (by simp)), ih fun q hq => h q (by simp [hq])]

/-! ### The receiver -/

/-- One chunk: the pieces it ends and the new buffer. -/
def feed (d : α) (limit : ℕ) (buffer chunk : List α) : List (List α) × List α :=
  let tail := openTail d (buffer ++ chunk)
  (complete d (buffer ++ chunk), if tail.length > limit then [] else tail)

/-- All chunks in order: the pieces handed on and the last buffer. -/
def receive (d : α) (limit : ℕ) : List α → List (List α) → List (List α) × List α
  | buffer, [] => ([], buffer)
  | buffer, chunk :: chunks =>
    let now := feed d limit buffer chunk
    let later := receive d limit now.2 chunks
    (now.1 ++ later.1, later.2)

/-- A chunk read behind what is left of the open piece. -/
theorem feed_kept {d : α} {limit : ℕ} {p buffer : List α} (hp : d ∉ p) (h : Kept limit p buffer)
    (chunk : List α) :
    List.Forall₂ (Kept limit) (complete d (p ++ chunk)) (feed d limit buffer chunk).1 ∧
      Kept limit (openTail d (p ++ chunk)) (feed d limit buffer chunk).2 := by
  have hbuf : d ∉ buffer := fun hmem => hp (h.1.subset hmem)
  rcases notMem_or_first d chunk with hc | ⟨a, t, rfl, ha⟩
  · have hpc : d ∉ p ++ chunk := by simp [hp, hc]
    have hbc : d ∉ buffer ++ chunk := by simp [hbuf, hc]
    refine ⟨?_, ?_⟩
    · simp [feed, complete_of_notMem hpc, complete_of_notMem hbc]
    · simp only [feed, openTail_of_notMem hpc, openTail_of_notMem hbc]
      exact (h.append chunk).clear
  · have hpa : d ∉ p ++ a := by simp [hp, ha]
    have hba : d ∉ buffer ++ a := by simp [hbuf, ha]
    simp only [feed, ← List.append_assoc, complete_append_cons hpa, complete_append_cons hba,
      openTail_append_cons hpa, openTail_append_cons hba]
    exact ⟨.cons (h.append a) (List.forall₂_same.2 fun q _ => Kept.refl limit q),
      (Kept.refl limit _).clear⟩

/-- **What the receiver hands on**, for every way to cut the stream into chunks. -/
theorem receive_kept {d : α} {limit : ℕ} {p buffer : List α} (hp : d ∉ p)
    (h : Kept limit p buffer) (chunks : List (List α)) :
    List.Forall₂ (Kept limit) (complete d (p ++ chunks.flatten))
      (receive d limit buffer chunks).1 := by
  induction chunks generalizing p buffer with
  | nil => simp [receive, complete_of_notMem hp]
  | cons chunk chunks ih =>
    obtain ⟨hnow, hlater⟩ := feed_kept hp h chunk
    rw [List.flatten_cons, ← List.append_assoc, (complete_append d (p ++ chunk) chunks.flatten).1]
    exact List.rel_append hnow (ih (notMem_openTail d _) hlater)

/-- A receiver that starts with an empty buffer. -/
theorem receive_pieces {d : α} (limit : ℕ) {pieces chunks : List (List α)}
    (hpieces : ∀ p ∈ pieces, d ∉ p) (hstream : chunks.flatten = pieces.flatMap (· ++ [d])) :
    List.Forall₂ (Kept limit) pieces (receive d limit [] chunks).1 := by
  have h := receive_kept (d := d) (p := []) (by simp) (Kept.refl limit []) chunks
  rwa [List.nil_append, hstream, complete_join d pieces hpieces] at h

end DelimitedStream
