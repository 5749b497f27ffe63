import SilverwareTx.Radio.NfeSilverwareProfile
import SilverwareTx.Telemetry.Telemetry

/-!
# The pre-arm guard (`safety/prearm_guard.cpp`)

`prearmConfigurationConfirmed` decides whether the telemetry since the start of the pre-arm mode
confirms the selections. `prearmConfigurationConfirmed_iff` says what a confirmation means.
-/

namespace SilverwareTx

/-- `selected_flight_mode`: the mode that the AUX selections ask for. -/
def selectedFlightMode (auxState : NfeSilverwareAuxState) : FlightMode :=
  if !auxState.levelMode then .acro
  else if auxState.raceMode && auxState.horizonMode then .raceHorizon
  else if auxState.horizonMode then .horizon
  else if auxState.raceMode then .race
  else .level

/-- `prearm_configuration_confirmed` -/
def prearmConfigurationConfirmed (telemetry : TelemetrySnapshot) (auxState : NfeSilverwareAuxState)
    (prearmStartedUs : ℤ) : Bool :=
  if telemetry.freshness ≠ .fresh ∨ telemetry.data.lastValidUs ≤ prearmStartedUs then false
  -- A legacy response cannot echo the mode, the profile or the armed state.
  else if telemetry.data.protocol = .original then true
  else
    decide (telemetry.data.lastFlightPageUs > prearmStartedUs) && !telemetry.data.armed &&
      decide (telemetry.data.flightMode = selectedFlightMode auxState) &&
      decide (telemetry.data.pidProfile = auxState.pidProfile)

/-- The selections always name a mode. -/
theorem selectedFlightMode_ne_unknown (auxState : NfeSilverwareAuxState) :
    selectedFlightMode auxState ≠ .unknown := by
  unfold selectedFlightMode
  split_ifs <;> simp

/-- What a confirmation means. -/
theorem prearmConfigurationConfirmed_iff {telemetry : TelemetrySnapshot}
    {auxState : NfeSilverwareAuxState} {prearmStartedUs : ℤ} :
    prearmConfigurationConfirmed telemetry auxState prearmStartedUs = true ↔
      telemetry.freshness = .fresh ∧ prearmStartedUs < telemetry.data.lastValidUs ∧
        (telemetry.data.protocol = .extendedV1 →
          prearmStartedUs < telemetry.data.lastFlightPageUs ∧ telemetry.data.armed = false ∧
            telemetry.data.flightMode = selectedFlightMode auxState ∧
            telemetry.data.pidProfile = auxState.pidProfile) := by
  unfold prearmConfigurationConfirmed
  split_ifs with hstale hlegacy
  · have hnot :
        ¬ (telemetry.freshness = .fresh ∧ prearmStartedUs < telemetry.data.lastValidUs) := by
      rintro ⟨hfresh, hlast⟩
      rcases hstale with h | h
      · exact h hfresh
      · omega
    exact iff_of_false not_false fun h => hnot ⟨h.1, h.2.1⟩
  · have hfresh : telemetry.freshness = .fresh ∧ prearmStartedUs < telemetry.data.lastValidUs := by
      rw [not_or, not_not, not_le] at hstale
      exact hstale
    rw [hlegacy]
    exact iff_of_true rfl ⟨hfresh.1, hfresh.2, fun h => TelemetryProtocol.noConfusion h⟩
  · have hext : telemetry.data.protocol = .extendedV1 := by
      cases h : telemetry.data.protocol with
      | original => exact absurd h hlegacy
      | extendedV1 => rfl
    rw [not_or, not_not, not_le] at hstale
    simp only [Bool.and_eq_true, decide_eq_true_eq, Bool.not_eq_true', hext, true_implies, hstale.1,
      hstale.2, true_and, gt_iff_lt, and_assoc]

end SilverwareTx
