import SilverwareTx.Config

/-!
# The safety state machine (`safety/failsafe.cpp`)

`failsafeUpdateAt` is the transition function, `failsafeReportRadioError`, `failsafeCompletePrearm`
and `failsafeCancelPrearm` the other writers of the state. `failsafeUpdateAt_eq_*_iff` say once, for
each state, when an update ends in it.
-/

namespace SilverwareTx

/-- `enum SystemState` -/
inductive SystemState
  | boot
  | waitGamepad
  | binding
  | locked
  | active
  | gamepadFailsafe
  | radioError
  | prearmMode
  deriving DecidableEq, Repr

/-- The statics `current_state` and `bind_start`. -/
structure FailsafeModule where
  currentState : SystemState := .boot
  bindStart : ℤ := 0
  deriving DecidableEq

/-- `failsafe_init` -/
def failsafeInit (m : FailsafeModule) : FailsafeModule :=
  { m with currentState := .waitGamepad }

/-- The timeout check at the head of `failsafe_update_at`. -/
def gamepadTimeout (now : ℤ) (gamepadConnected : Bool) (lastGamepadUpdate : ℤ) : Bool :=
  if gamepadConnected then decide (now - lastGamepadUpdate > gamepadTimeoutMs * 1000) else true

/-- `failsafe_update_at` -/
def failsafeUpdateAt (m : FailsafeModule) (now : ℤ) (gamepadConnected : Bool)
    (lastGamepadUpdate : ℤ) (throttleIdle unlockClicked bindClicked disarmClicked : Bool) :
    FailsafeModule :=
  let timeout := gamepadTimeout now gamepadConnected lastGamepadUpdate
  match m.currentState with
  | .waitGamepad => if !timeout then { m with currentState := .locked } else m
  | .locked =>
    if timeout then { m with currentState := .waitGamepad }
    else if bindClicked && throttleIdle then { currentState := .binding, bindStart := now }
    else if unlockClicked && throttleIdle then { m with currentState := .prearmMode }
    else m
  | .prearmMode =>
    if timeout then { m with currentState := .gamepadFailsafe }
    else if disarmClicked || !throttleIdle then { m with currentState := .locked }
    else m
  | .binding =>
    if timeout then { m with currentState := .waitGamepad }
    else if now - m.bindStart > bindDurationUs then { m with currentState := .locked }
    else m
  | .active =>
    if timeout then { m with currentState := .gamepadFailsafe }
    else if disarmClicked then { m with currentState := .locked }
    else m
  | .gamepadFailsafe => if !timeout then { m with currentState := .locked } else m
  -- One-way hardware fault: only a reboot may retry radio initialization.
  | .radioError => m
  | .boot => m

/-- `failsafe_report_radio_error` -/
def failsafeReportRadioError (m : FailsafeModule) : FailsafeModule :=
  { m with currentState := .radioError }

/-- `failsafe_complete_prearm` -/
def failsafeCompletePrearm (m : FailsafeModule) : FailsafeModule :=
  if m.currentState = .prearmMode then { m with currentState := .active } else m

/-- `failsafe_cancel_prearm` -/
def failsafeCancelPrearm (m : FailsafeModule) : FailsafeModule :=
  if m.currentState = .prearmMode then { m with currentState := .locked } else m

/-- `failsafe_get_state` -/
def failsafeGetState (m : FailsafeModule) : SystemState := m.currentState

/-! ### Where an update can end -/

section Update

variable {m : FailsafeModule} {now last : ℤ} {connected idle unlock bind disarm : Bool}

/-- A gamepad that is not timed out is connected and was updated in time. -/
theorem gamepadTimeout_eq_false_iff :
    gamepadTimeout now connected last = false ↔
      connected = true ∧ now - last ≤ gamepadTimeoutMs * 1000 := by
  unfold gamepadTimeout
  split_ifs with h <;> simp [h]

/-- An update stays in `ACTIVE`; it never enters it. -/
theorem failsafeUpdateAt_eq_active_iff :
    (failsafeUpdateAt m now connected last idle unlock bind disarm).currentState = .active ↔
      m.currentState = .active ∧ gamepadTimeout now connected last = false ∧ disarm = false := by
  obtain ⟨state, start⟩ := m
  cases state <;> simp only [failsafeUpdateAt] <;> grind

/-- `PREARM_MODE` is entered from `LOCKED` by Start, and kept, only with a live gamepad and the
throttle at idle. -/
theorem failsafeUpdateAt_eq_prearmMode_iff :
    (failsafeUpdateAt m now connected last idle unlock bind disarm).currentState = .prearmMode ↔
      gamepadTimeout now connected last = false ∧ idle = true ∧
        ((m.currentState = .prearmMode ∧ disarm = false) ∨
          (m.currentState = .locked ∧ unlock = true ∧ bind = false)) := by
  obtain ⟨state, start⟩ := m
  cases state <;> simp only [failsafeUpdateAt] <;> grind

/-- `BINDING` is entered from `LOCKED` by View, with a live gamepad and the throttle at idle, and
kept while the gamepad is live and the bind time has not passed. -/
theorem failsafeUpdateAt_eq_binding_iff :
    (failsafeUpdateAt m now connected last idle unlock bind disarm).currentState = .binding ↔
      gamepadTimeout now connected last = false ∧
        ((m.currentState = .binding ∧ now - m.bindStart ≤ bindDurationUs) ∨
          (m.currentState = .locked ∧ bind = true ∧ idle = true)) := by
  obtain ⟨state, start⟩ := m
  cases state <;> simp only [failsafeUpdateAt] <;> grind

/-- An update neither enters nor leaves the radio fault. -/
theorem failsafeUpdateAt_eq_radioError_iff :
    (failsafeUpdateAt m now connected last idle unlock bind disarm).currentState = .radioError ↔
      m.currentState = .radioError := by
  obtain ⟨state, start⟩ := m
  cases state <;> simp only [failsafeUpdateAt] <;> grind

theorem failsafeUpdateAt_eq_boot_iff :
    (failsafeUpdateAt m now connected last idle unlock bind disarm).currentState = .boot ↔
      m.currentState = .boot := by
  obtain ⟨state, start⟩ := m
  cases state <;> simp only [failsafeUpdateAt] <;> grind

/-- From `BINDING` an update goes to `WAIT_GAMEPAD` or `LOCKED`, or stays. -/
theorem failsafeUpdateAt_of_binding (hm : m.currentState = .binding) :
    failsafeUpdateAt m now connected last idle unlock bind disarm =
      if gamepadTimeout now connected last then { m with currentState := .waitGamepad }
      else if now - m.bindStart > bindDurationUs then { m with currentState := .locked }
      else m := by
  simp only [failsafeUpdateAt, hm]

/-- The bind time starts at the update that enters `BINDING` and at no other. -/
theorem failsafeUpdateAt_bindStart :
    (failsafeUpdateAt m now connected last idle unlock bind disarm).bindStart =
      if m.currentState = .locked ∧
        (failsafeUpdateAt m now connected last idle unlock bind disarm).currentState = .binding
      then now else m.bindStart := by
  obtain ⟨state, start⟩ := m
  cases state <;> simp only [failsafeUpdateAt] <;> grind

end Update

theorem failsafeCompletePrearm_of_prearmMode {m : FailsafeModule} (h : m.currentState = .prearmMode) :
    failsafeCompletePrearm m = { m with currentState := .active } := if_pos h

theorem failsafeCancelPrearm_of_prearmMode {m : FailsafeModule} (h : m.currentState = .prearmMode) :
    failsafeCancelPrearm m = { m with currentState := .locked } := if_pos h

end SilverwareTx
