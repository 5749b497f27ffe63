import Mathlib.Data.List.DropRight
import Mathlib.Tactic

/-!
# Streams that lose entries

* `History` is a queue with its past: what was published is what was settled (delivered or lost, in
  order) followed by what still waits. Deliveries are in order, and every entry is accounted for.
* `innerLosses` counts the losses between the first and the last delivery of a stream.
* A receiver sees the numbers of the delivered entries, modulo `M`, and adds up the gaps between
  them. `gaps_eq_innerLosses`: while fewer than `M` consecutive entries are lost, the gaps are
  exactly the inner losses, for every key of a stream that numbers each key on its own.
-/

namespace LossyStream

variable {α κ : Type*}

/-! ### A queue with its past -/

/-- The settled entries, each with whether it was delivered, and the waiting ones. -/
structure History (α : Type*) where
  settled : List (α × Bool) := []
  waiting : List α := []

/-- The entries that were delivered. -/
def deliveries (settled : List (α × Bool)) : List α := (settled.filter Prod.snd).map Prod.fst

namespace History

variable (h : History α)

/-- All that was published, in order. -/
def published : List α := h.settled.map Prod.fst ++ h.waiting

/-- All that was delivered, in order. -/
def delivered : List α := deliveries h.settled

/-- How many were lost. -/
def losses : ℕ := h.settled.countP fun e => !e.2

/-- An entry joins the queue. -/
def push (x : α) : History α := { h with waiting := h.waiting ++ [x] }

/-- The oldest waiting entry is delivered or lost. -/
def settle (fate : Bool) : History α :=
  match h.waiting with
  | [] => h
  | x :: rest => ⟨h.settled ++ [(x, fate)], rest⟩

@[simp] theorem published_push (x : α) : (h.push x).published = h.published ++ [x] := by
  simp [published, push]

@[simp] theorem published_settle (fate : Bool) : (h.settle fate).published = h.published := by
  unfold settle published
  cases hw : h.waiting <;> simp [hw]

/-- A delivery takes the oldest waiting entry, so both lists together stay. -/
theorem delivered_append_waiting_settle_true :
    (h.settle true).delivered ++ (h.settle true).waiting = h.delivered ++ h.waiting := by
  unfold settle delivered deliveries
  cases hw : h.waiting <;> simp [hw]

/-- Deliveries and the waiting entries are in the order of publication. -/
theorem delivered_append_waiting_sublist : (h.delivered ++ h.waiting).Sublist h.published :=
  (List.filter_sublist.map Prod.fst).append (List.Sublist.refl _)

/-- Every published entry is delivered, lost or waiting. -/
theorem length_published :
    h.published.length = h.delivered.length + h.losses + h.waiting.length := by
  have hsplit := List.length_eq_countP_add_countP (Prod.snd : α × Bool → Bool) (l := h.settled)
  have hnot : h.losses = h.settled.countP fun e => decide ¬ Prod.snd e = true :=
    List.countP_congr fun e _ => by simp
  rw [published, delivered, deliveries, List.length_append, List.length_map, List.length_map, hnot,
    ← List.countP_eq_length_filter]
  omega

end History

/-! ### Losses between deliveries -/

/-- The losses after the first delivery and before the last one. -/
def innerLosses (fates : List Bool) : ℕ :=
  ((fates.dropWhile fun b => !b).rdropWhile fun b => !b).count false

theorem innerLosses_of_none {fates : List Bool} (h : true ∉ fates) : innerLosses fates = 0 := by
  have hall : ∀ b ∈ fates, (!b) = true := by
    intro b hb
    cases b with
    | false => rfl
    | true => exact absurd hb h
  rw [innerLosses, List.dropWhile_eq_nil_iff.2 hall]
  rfl

/-- Behind a delivery the first one is not moved. -/
theorem dropWhile_append_of_mem {fates : List Bool} (h : true ∈ fates) (tail : List Bool) :
    (fates ++ tail).dropWhile (fun b => !b) = fates.dropWhile (fun b => !b) ++ tail := by
  induction fates with
  | nil => exact absurd h List.not_mem_nil
  | cons b fates ih =>
    cases b with
    | true => rfl
    | false =>
      have hmem : true ∈ fates := by simpa using h
      rw [List.cons_append, List.dropWhile_cons_of_pos rfl, List.dropWhile_cons_of_pos rfl, ih hmem]

theorem innerLosses_append_false (fates : List Bool) :
    innerLosses (fates ++ [false]) = innerLosses fates := by
  by_cases h : true ∈ fates
  · rw [innerLosses, dropWhile_append_of_mem h, List.rdropWhile_concat_pos _ _ _ rfl, innerLosses]
  · rw [innerLosses_of_none h, innerLosses_of_none (by simpa using h)]

/-- A first delivery. -/
theorem innerLosses_append_true_of_none {fates : List Bool} (h : true ∉ fates) :
    innerLosses (fates ++ [true]) = 0 := by
  have hall : ∀ b ∈ fates, (!b) = true := by
    intro b hb
    cases b with
    | false => rfl
    | true => exact absurd hb h
  rw [innerLosses, List.dropWhile_append_of_pos hall]
  rfl

/-- A later delivery adds the losses since the last one. -/
theorem innerLosses_append_true (fates : List Bool) (t : ℕ) :
    innerLosses (fates ++ true :: List.replicate t false ++ [true]) =
      innerLosses (fates ++ true :: List.replicate t false) + t := by
  have hmem : true ∈ fates ++ [true] := by simp
  have hsplit :
      fates ++ true :: List.replicate t false = (fates ++ [true]) ++ List.replicate t false := by
    simp
  have hkeep :
      innerLosses (fates ++ true :: List.replicate t false) = innerLosses (fates ++ [true]) := by
    rw [hsplit]
    induction t with
    | zero => simp
    | succ t ih =>
      rw [List.replicate_succ', ← List.append_assoc, innerLosses_append_false]
      exact ih (by simp)
  have hend : ∀ l : List Bool, (l ++ [true]).rdropWhile (fun b => !b) = l ++ [true] :=
    fun l => List.rdropWhile_concat_neg _ _ _ (by simp)
  obtain ⟨front, hfront⟩ :
      ∃ front, (fates ++ [true]).dropWhile (fun b => !b) = front ++ [true] := by
    by_cases h : true ∈ fates
    · exact ⟨_, dropWhile_append_of_mem h [true]⟩
    · refine ⟨[], List.dropWhile_append_of_pos fun b hb => ?_⟩
      cases b with
      | false => rfl
      | true => exact absurd hb h
  rw [hkeep, innerLosses, innerLosses, hsplit, List.append_assoc, dropWhile_append_of_mem hmem,
    ← List.append_assoc, hend, hfront, hend, List.count_append, List.count_append]
  simp

/-! ### Numbered entries and the receiver's gaps -/

/-- What a receiver keeps: the last number and the gaps of each key. -/
structure Receiver (κ : Type*) where
  last : κ → Option ℕ
  gaps : κ → ℕ

/-- The receiver before the first delivery. -/
def Receiver.start : Receiver κ := ⟨fun _ => none, fun _ => 0⟩

/-- The numbers skipped from `last` to `number`, modulo `M`. -/
def gap (M : ℕ) (last : Option ℕ) (number : ℕ) : ℕ :=
  match last with
  | none => 0
  | some p => (((number : ℤ) - p - 1) % M).toNat

section Numbered

variable [DecidableEq κ] (key : α → κ) (number : α → ℕ) (M : ℕ)

/-- Every entry is numbered, modulo `M`, by the entries of its key before it. -/
def Numbered (entries : List α) : Prop :=
  ∀ front x back, entries = front ++ x :: back → number x = (front.countP (key · = key x)) % M

/-- The receiver takes one more entry. -/
def Receiver.receive (s : Receiver κ) (x : α) : Receiver κ where
  last := Function.update s.last (key x) (some (number x))
  gaps := Function.update s.gaps (key x) (s.gaps (key x) + gap M (s.last (key x)) (number x))

/-- What became of the entries of a key. -/
def fatesOf (k : κ) (settled : List (α × Bool)) : List Bool :=
  (settled.filter fun e => key e.1 = k).map Prod.snd

/-- The last number of a key is that of its last delivery, and its gaps are its inner losses. -/
def Tracks (fates : List Bool) (last : Option ℕ) (gaps : ℕ) : Prop :=
  gaps = innerLosses fates ∧
    ((true ∉ fates ∧ last = none) ∨
      ∃ front t, fates = front ++ true :: List.replicate t false ∧ last = some (front.length % M))

variable {key number M}

theorem Tracks.lost {fates : List Bool} {last : Option ℕ} {gaps : ℕ}
    (h : Tracks M fates last gaps) :
    Tracks M (fates ++ [false]) last gaps := by
  obtain ⟨hgaps, hlast⟩ := h
  refine ⟨by rw [innerLosses_append_false, hgaps], ?_⟩
  rcases hlast with ⟨hnone, hl⟩ | ⟨front, t, hfates, hl⟩
  · exact .inl ⟨by simpa using hnone, hl⟩
  · refine .inr ⟨front, t + 1, ?_, hl⟩
    rw [hfates, List.replicate_succ', List.append_assoc]
    rfl

/-- With fewer than `M` losses since the last delivery, the next gap is their number. -/
theorem Tracks.delivered {fates : List Bool} {last : Option ℕ} {gaps : ℕ}
    (h : Tracks M fates last gaps)
    (hfew : ¬ List.replicate M false <:+ fates) :
    Tracks M (fates ++ [true]) (some (fates.length % M))
      (gaps + gap M last (fates.length % M)) := by
  obtain ⟨hgaps, hlast⟩ := h
  refine ⟨?_, .inr ⟨fates, 0, rfl, rfl⟩⟩
  rcases hlast with ⟨hnone, rfl⟩ | ⟨front, t, rfl, rfl⟩
  · rw [innerLosses_append_true_of_none hnone, hgaps, innerLosses_of_none hnone]
    rfl
  · have ht : t < M := by
      by_contra hle
      refine hfew ⟨front ++ true :: List.replicate (t - M) false, ?_⟩
      rw [List.append_assoc, List.cons_append, ← List.replicate_add,
        Nat.sub_add_cancel (not_lt.1 hle)]
    have hgap : gap M (some (front.length % M))
        ((front ++ true :: List.replicate t false).length % M) = t := by
      have hlength : (front ++ true :: List.replicate t false).length = front.length + 1 + t := by
        simp
        omega
      have hdiff : ((((front.length + 1 + t) % M : ℕ) : ℤ) - ((front.length % M : ℕ) : ℤ) - 1) % M =
          (t : ℤ) % M := by
        have hcomm : ∀ a b : ℤ, a - b - 1 = a - 1 - b := fun a b => by ring
        rw [Int.natCast_mod, Int.natCast_mod, Int.sub_sub, Int.emod_sub_emod, ← Int.sub_sub, hcomm,
          Int.sub_emod_emod]
        congr 1
        push_cast
        ring
      rw [hlength, gap, hdiff, Int.emod_eq_of_lt (by omega) (by exact_mod_cast ht),
        Int.toNat_natCast]
    rw [innerLosses_append_true, hgap, hgaps]

/-! ### A whole stream -/

theorem deliveries_concat (settled : List (α × Bool)) (x : α) (fate : Bool) :
    deliveries (settled ++ [(x, fate)]) =
      if fate then deliveries settled ++ [x] else deliveries settled := by
  cases fate <;> simp [deliveries]

theorem fatesOf_concat (k : κ) (settled : List (α × Bool)) (x : α) (fate : Bool) :
    fatesOf key k (settled ++ [(x, fate)]) =
      if key x = k then fatesOf key k settled ++ [fate] else fatesOf key k settled := by
  by_cases h : key x = k <;> simp [fatesOf, h]

theorem length_fatesOf (k : κ) (settled : List (α × Bool)) :
    (fatesOf key k settled).length = (settled.map Prod.fst).countP (key · = k) := by
  rw [fatesOf, List.length_map, ← List.countP_eq_length_filter, List.countP_map]
  rfl

theorem Numbered.of_append {front back : List α} (h : Numbered key number M (front ++ back)) :
    Numbered key number M front := by
  rintro a x b rfl
  exact h a x (b ++ back) (by simp)

theorem Numbered.concat {entries : List α} (h : Numbered key number M entries) {x : α}
    (hx : number x = (entries.countP (key · = key x)) % M) :
    Numbered key number M (entries ++ [x]) := by
  intro front y back hsplit
  rcases List.eq_nil_or_concat' back with rfl | ⟨back, z, rfl⟩
  · obtain ⟨rfl, hy⟩ := List.append_inj' hsplit rfl
    obtain rfl : x = y := by simpa using hy
    exact hx
  · have hinit : entries = front ++ y :: back := by
      have hlast : entries ++ [x] = (front ++ y :: back) ++ [z] := by simpa using hsplit
      exact (List.append_inj' hlast rfl).1
    exact h front y back hinit

/-- **The gaps are the losses.** In a numbered stream of which no key loses `M` entries in a row,
the gaps a receiver has added up for a key are the losses between its first and last delivery. -/
theorem gaps_eq_innerLosses {settled : List (α × Bool)}
    (hnum : Numbered key number M (settled.map Prod.fst))
    (hfew : ∀ k, ¬ List.replicate M false <:+: fatesOf key k settled) (k : κ) :
    Tracks M (fatesOf key k settled)
      (((deliveries settled).foldl (Receiver.receive key number M) .start).last k)
      (((deliveries settled).foldl (Receiver.receive key number M) .start).gaps k) := by
  induction settled using List.reverseRecOn generalizing k with
  | nil => exact ⟨rfl, .inl ⟨List.not_mem_nil, rfl⟩⟩
  | append_singleton settled e ih =>
    obtain ⟨x, fate⟩ := e
    have hnum' : Numbered key number M (settled.map Prod.fst ++ [x]) := by
      rwa [List.map_append] at hnum
    have hfew' : ∀ k, ¬ List.replicate M false <:+: fatesOf key k settled := by
      intro k hrun
      refine hfew k (hrun.trans ?_)
      rw [fatesOf_concat]
      split_ifs
      · exact (List.prefix_append _ _).isInfix
      · exact List.infix_rfl
    have hprev := ih hnum'.of_append hfew'
    rw [deliveries_concat, fatesOf_concat]
    -- an entry counts for its own key only, and the receiver sees it only when it is delivered
    cases fate with
    | false =>
      rw [if_neg Bool.false_ne_true]
      split_ifs with hk
      · exact (hprev k).lost
      · exact hprev k
    | true =>
      rw [if_pos rfl, List.foldl_append]
      by_cases hk : key x = k
      · subst hk
        have hnumber : number x = (fatesOf key (key x) settled).length % M := by
          rw [length_fatesOf]
          exact hnum' _ x [] rfl
        have hstep := (hprev (key x)).delivered fun hsuffix => hfew' (key x) hsuffix.isInfix
        rw [← hnumber] at hstep
        rw [if_pos rfl]
        simpa [Receiver.receive] using hstep
      · rw [if_neg hk]
        simpa [Receiver.receive, Function.update_of_ne (Ne.symm hk)] using hprev k

end Numbered

end LossyStream
