import SilverwareTx.ControlLoop.PacketSafety

/-!
# Gesture shortcuts over a run

A gesture starts on the rising edge of its shortcut, which the player finds with `previousRequest`.
Every cycle outside `LOCKED` clears the player, and the edge with it: `startsGesture_iff`. A held
shortcut therefore starts its gesture once exactly when `LOCKED` is not entered during the hold
(`one_press_one_gesture_iff`).
-/

namespace SilverwareTx

/-! ### The player in a run -/

/-- The shortcut that cycle `n` reads. -/
def requestAt (ins : ℕ → CycleInput) (n : ℕ) : NfeSilverwareGesture :=
  gestureRequest (ins n).controls

/-- Cycle `n` starts an automatic gesture. -/
def StartsGesture (c : Setup) (ins : ℕ → CycleInput) (n : ℕ) : Prop :=
  (loopState c ins n).gesturePlayer.command = .none ∧
    (loopState c ins (n + 1)).gesturePlayer.command ≠ .none

instance (c : Setup) (ins : ℕ → CycleInput) (n : ℕ) : Decidable (StartsGesture c ins n) :=
  inferInstanceAs (Decidable (_ ∧ _))

/-- Cycle `n` comes back to `LOCKED`. -/
def EntersLocked (c : Setup) (ins : ℕ → CycleInput) (n : ℕ) : Prop :=
  (loopOutput c ins n).state = .locked ∧
    ∀ m, n = m + 1 → (loopOutput c ins m).state ≠ .locked

/-- From cycle `a`, where it is new, to cycle `b` the same shortcut is held. -/
structure ShortcutHeld (ins : ℕ → CycleInput) (shortcut : NfeSilverwareGesture) (a b : ℕ) :
    Prop where
  le : a ≤ b
  ne_none : shortcut ≠ .none
  held : ∀ n, a ≤ n → n ≤ b → requestAt ins n = shortcut
  pressed : ∀ m, a = m + 1 → requestAt ins m ≠ shortcut

/-- One press, one gesture, and only for a press in `LOCKED`. -/
structure OneGesture (c : Setup) (ins : ℕ → CycleInput) (a b : ℕ) : Prop where
  at_most_one : ∀ m n, a ≤ m → m ≤ b → a ≤ n → n ≤ b →
    StartsGesture c ins m → StartsGesture c ins n → m = n
  pressed_locked : ∀ n, a ≤ n → n ≤ b → StartsGesture c ins n → (loopOutput c ins a).state = .locked
  not_on_return : ∀ n, a < n → n ≤ b → EntersLocked c ins n → ¬StartsGesture c ins n

section Player

variable {player : NfeSilverwareGesturePlayer} {request : NfeSilverwareGesture} {nowUs : ℤ}

@[simp] theorem previousRequest_updateGesture :
    (nfeSilverwareUpdateGesture player request nowUs).2.previousRequest = request := by
  simp only [nfeSilverwareUpdateGesture]
  split_ifs <;> rfl

/-- An idle player starts exactly on an edge from no request to a request. -/
theorem command_updateGesture_ne_none_iff (hidle : player.command = .none) :
    (nfeSilverwareUpdateGesture player request nowUs).2.command ≠ .none ↔
      request ≠ .none ∧ player.previousRequest = .none := by
  by_cases hedge : request ≠ .none ∧ player.previousRequest = .none
  · refine iff_of_true ?_ hedge
    have hrunning : ¬gestureIdleUs + 6 * gestureStepUs ≤ 0 := by decide
    have hearly : 0 < gestureIdleUs := by decide
    simp [nfeSilverwareUpdateGesture, hidle, hedge.1, hedge.2, hrunning, hearly]
  · refine iff_of_false ?_ hedge
    simp only [nfeSilverwareUpdateGesture, hidle, true_and, if_neg hedge, if_true]
    exact not_not_intro rfl

end Player

section Run

variable {c : Setup} {ins : ℕ → CycleInput} {n : ℕ}

/-- The player after a cycle: played in `LOCKED`, cleared otherwise. -/
theorem gesturePlayer_succ : (loopState c ins (n + 1)).gesturePlayer =
    if (loopOutput c ins n).state = .locked then
      (nfeSilverwareUpdateGesture (loopState c ins n).gesturePlayer (requestAt ins n)
        (ins n).cycleStartUs).2
    else {} := by
  have hafter : (loopState c ins (n + 1)).gesturePlayer =
      (gestureAtBuild (loopState c ins n) (ins n)).2 := rfl
  rw [hafter, gestureAtBuild]
  by_cases hlocked : stateAtBuild (loopState c ins n) (ins n) = .locked
  · rw [if_pos hlocked, if_pos (show (loopOutput c ins n).state = .locked from hlocked)]
    rfl
  · rw [if_neg hlocked, if_neg (show ¬(loopOutput c ins n).state = .locked from hlocked)]
    rfl

/-- The player remembers a request only across two cycles in `LOCKED`. -/
theorem previousRequest_loopState : (loopState c ins (n + 1)).gesturePlayer.previousRequest =
    if (loopOutput c ins n).state = .locked then requestAt ins n else .none := by
  rw [gesturePlayer_succ]
  split_ifs
  · exact previousRequest_updateGesture
  · rfl

/-- When a cycle starts a gesture. -/
theorem startsGesture_iff : StartsGesture c ins n ↔
    (loopOutput c ins n).state = .locked ∧ requestAt ins n ≠ .none ∧
      (loopState c ins n).gesturePlayer.command = .none ∧
      (loopState c ins n).gesturePlayer.previousRequest = .none := by
  unfold StartsGesture
  rw [gesturePlayer_succ]
  by_cases hlocked : (loopOutput c ins n).state = .locked
  · rw [if_pos hlocked]
    constructor
    · rintro ⟨hidle, hstarts⟩
      obtain ⟨hrequest, hprevious⟩ := (command_updateGesture_ne_none_iff hidle).1 hstarts
      exact ⟨hlocked, hrequest, hidle, hprevious⟩
    · rintro ⟨-, hrequest, hidle, hprevious⟩
      exact ⟨hidle, (command_updateGesture_ne_none_iff hidle).2 ⟨hrequest, hprevious⟩⟩
  · rw [if_neg hlocked]
    constructor
    · rintro ⟨-, hstarts⟩
      exact absurd rfl hstarts
    · rintro ⟨h, -⟩
      exact absurd h hlocked

variable {shortcut : NfeSilverwareGesture} {a b : ℕ}

/-- After its first cycle a held shortcut starts a gesture in every cycle that comes back to
`LOCKED`, and in no other. -/
theorem ShortcutHeld.startsGesture_iff (h : ShortcutHeld ins shortcut a b) (ha : a < n)
    (hb : n ≤ b) : StartsGesture c ins n ↔ EntersLocked c ins n := by
  obtain ⟨m, rfl⟩ : ∃ m, n = m + 1 := ⟨n - 1, by omega⟩
  have hrequest : requestAt ins (m + 1) ≠ .none := h.held (m + 1) ha.le hb ▸ h.ne_none
  have hbefore : requestAt ins m ≠ .none := h.held m (by omega) (by omega) ▸ h.ne_none
  rw [SilverwareTx.startsGesture_iff, previousRequest_loopState]
  constructor
  · rintro ⟨hlocked, -, -, hprevious⟩
    refine ⟨hlocked, ?_⟩
    rintro k hk hreturn
    obtain rfl : m = k := by omega
    rw [if_pos hreturn] at hprevious
    exact hbefore hprevious
  · rintro ⟨hlocked, hreturn⟩
    have hne := hreturn m rfl
    refine ⟨hlocked, hrequest, ?_, if_neg hne⟩
    rw [gesturePlayer_succ, if_neg hne]

/-- **One press gives one gesture exactly when the hold does not come back to `LOCKED`.** -/
theorem one_press_one_gesture_iff (h : ShortcutHeld ins shortcut a b) :
    OneGesture c ins a b ↔ ∀ n, a < n → n ≤ b → ¬EntersLocked c ins n := by
  constructor
  · intro hone n ha hb hreturn
    exact hone.not_on_return n ha hb hreturn ((h.startsGesture_iff ha hb).2 hreturn)
  · intro hstay
    have hfirst : ∀ n, a ≤ n → n ≤ b → StartsGesture c ins n → n = a := by
      intro n ha hb hstarts
      by_contra hne
      have hlt : a < n := lt_of_le_of_ne ha (Ne.symm hne)
      exact hstay n hlt hb ((h.startsGesture_iff hlt hb).1 hstarts)
    constructor
    · intro m n hma hmb hna hnb hm hn
      rw [hfirst m hma hmb hm, hfirst n hna hnb hn]
    · intro n hna hnb hn
      obtain rfl := hfirst n hna hnb hn
      exact (SilverwareTx.startsGesture_iff.1 hn).1
    · intro n ha hb hreturn
      exact absurd hreturn (hstay n ha hb)

end Run

/-! ### A held shortcut and a flight -/

/-- The sample flight with R3 and D-pad Up held, and B pressed in cycle 3. -/
def heldShortcut (n : ℕ) : CycleInput :=
  { sampleFlight n with
    controls := { (sampleFlight n).controls with btnR3 := true, btnDPadUp := true, btnB := n = 3 } }

theorem shortcutHeld_heldShortcut (b : ℕ) : ShortcutHeld heldShortcut .toggleBindStorage 0 b where
  le := Nat.zero_le b
  ne_none := nofun
  held := fun _ _ _ => rfl
  pressed := nofun

/-- The shortcut is pressed once, and disarming with B starts its gesture a second time. -/
theorem gesture_restarts_after_flight :
    ShortcutHeld heldShortcut .toggleBindStorage 0 3 ∧
      StartsGesture sampleSetup heldShortcut 0 ∧
      (loopOutput sampleSetup heldShortcut 2).state = .active ∧
      StartsGesture sampleSetup heldShortcut 3 ∧
      ¬OneGesture sampleSetup heldShortcut 0 3 := by
  have hfirst : StartsGesture sampleSetup heldShortcut 0 := by decide +kernel
  have hsecond : StartsGesture sampleSetup heldShortcut 3 := by decide +kernel
  refine ⟨shortcutHeld_heldShortcut 3, hfirst, by decide +kernel, hsecond, ?_⟩
  intro hone
  have hsame := hone.at_most_one 0 3 le_rfl (by omega) (by omega) le_rfl hfirst hsecond
  exact absurd hsame (by decide)

theorem one_press_one_gesture_iff_heldShortcut : OneGesture sampleSetup heldShortcut 0 2 := by
  refine (one_press_one_gesture_iff (shortcutHeld_heldShortcut 2)).2 ?_
  rintro n ha hb ⟨hlocked, -⟩
  obtain rfl | rfl : n = 1 ∨ n = 2 := by omega
  · exact absurd hlocked (by decide)
  · exact absurd hlocked (by decide)

end SilverwareTx
