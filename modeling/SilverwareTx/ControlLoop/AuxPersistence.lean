import SilverwareTx.ControlLoop.PacketSafety

/-!
# The AUX selections across a reboot

While every write succeeds, what a start would take from the storage is what the loop has selected
(`AuxStored`), from the first cycle on and whatever the storage held.
-/

namespace SilverwareTx

/-- The stored flags are the selected ones. -/
def AuxStored (s : LoopState) : Prop :=
  effectiveAuxFlags s.storedAux = nfeSilverwareAuxFlags s.auxState

theorem settingsAuxMask_eq : settingsAuxMask = nfeSilverwareAuxMask := by decide

theorem auxState_startState (c : Setup) :
    (startState c).auxState = nfeSilverwareRestoreAux (effectiveAuxFlags c.storedAux) := by
  rw [startState, effectiveAuxFlags]
  cases loadAuxFlagsFrom c.storedAux with
  | none => rfl
  | some flags => rfl

theorem auxStored_startState (c : Setup) : AuxStored (startState c) := by
  have hvalid := effectiveAuxFlags_valid c.storedAux
  rw [settingsAuxMask_eq] at hvalid
  rw [AuxStored, auxState_startState, nfeSilverwareAuxFlags_restoreAux hvalid]
  rfl

/-- The flags of a cycle pass the check of a save. -/
theorem auxFlags_valid (state : NfeSilverwareAuxState) :
    nfeSilverwareAuxFlags state &&& ~~~settingsAuxMask = 0 := by
  rw [settingsAuxMask_eq]
  exact nfeSilverwareAuxFlags_masked state

/-- A cycle saves a change, and without one there is nothing to save. -/
theorem auxStored_controlCycle {c : Setup} {s : LoopState} {i : CycleInput}
    (hwrite : i.auxWriteOk = true) (h : AuxStored s) : AuxStored (controlCycle c s i) := by
  have hstored : (controlCycle c s i).storedAux = storedAuxAtBuild s i := rfl
  have haux : (controlCycle c s i).auxState = auxAtBuild s i := rfl
  rw [AuxStored, hstored, haux, storedAuxAtBuild]
  split_ifs with hchange
  · rw [hwrite, saveAuxFlagsTo_of_valid (auxFlags_valid _),
      effectiveAuxFlags_some (auxFlags_valid _)]
  · rw [not_not.1 hchange]
    exact h

/-- **The AUX selections survive a reboot.** Whatever the storage held, as long as the writes
succeed the stored flags are the selected ones at the start and after every cycle: a start from the
storage restores the selections with a clear button history, and no save is refused for its value.
-/
theorem aux_selections_survive_reboot (c : Setup) (ins : ℕ → CycleInput)
    (hwrite : ∀ n, (ins n).auxWriteOk = true) (n : ℕ) :
    effectiveAuxFlags (loopState c ins n).storedAux =
        nfeSilverwareAuxFlags (loopState c ins n).auxState ∧
      (startState { c with storedAux := (loopState c ins n).storedAux }).auxState =
        (loopState c ins n).auxState.selections ∧
      (saveAuxFlagsTo (loopState c ins n).storedAux (ins n).auxWriteOk
        (nfeSilverwareAuxFlags (auxAtBuild (loopState c ins n) (ins n)))).1 = true := by
  have hstored : AuxStored (loopState c ins n) := by
    induction n with
    | zero => exact auxStored_startState c
    | succ n ih =>
      rw [loopState_succ]
      exact auxStored_controlCycle (hwrite n) ih
  refine ⟨hstored, ?_, ?_⟩
  · rw [auxState_startState, hstored, nfeSilverwareRestoreAux_auxFlags]
  · rw [hwrite n, saveAuxFlagsTo_of_valid (auxFlags_valid _)]

/-- The sample flight with A pressed in the armed cycle. -/
def levelFlight (n : ℕ) : CycleInput :=
  { sampleFlight n with controls := { (sampleFlight n).controls with btnA := n = 2 } }

/-- The byte found at the start is refused and the press is stored over it. -/
theorem aux_selections_survive_reboot_levelFlight :
    (startState { sampleSetup with
        storedAux := (loopState { sampleSetup with storedAux := some 0x82 } levelFlight 3).storedAux
      }).auxState = { levelMode := true } := by
  have hreboot := (aux_selections_survive_reboot { sampleSetup with storedAux := some 0x82 }
    levelFlight (fun _ => rfl) 3).2.1
  rw [hreboot]
  decide +kernel

end SilverwareTx
