import SilverwareTx.Word

/-!
# Stored settings (`storage/settings_core.cpp`)

The AUX byte of the settings storage is `none` while it was never written. A read yields the last
written byte; whether a write succeeds is up to the storage, and a failed write leaves the byte.
-/

namespace SilverwareTx

/-- `SETTINGS_AUX_MASK` -/
def settingsAuxMask : U8 := 0x1F

/-- `load_aux_flags_from`: the flags when it returns `true`. -/
def loadAuxFlagsFrom (stored : Option U8) : Option U8 :=
  match stored with
  | none => none
  | some auxFlags => if auxFlags &&& ~~~settingsAuxMask = 0 then some auxFlags else none

/-- `save_aux_flags_to`: its result and the stored byte after it. -/
def saveAuxFlagsTo (stored : Option U8) (writeOk : Bool) (auxFlags : U8) : Bool × Option U8 :=
  if auxFlags &&& ~~~settingsAuxMask = 0 ∧ writeOk then (true, some auxFlags) else (false, stored)

/-- The flags that a start takes from the storage. -/
def effectiveAuxFlags (stored : Option U8) : U8 := (loadAuxFlagsFrom stored).getD 0

/-- What a start takes from the storage passes the check of a save. -/
theorem effectiveAuxFlags_valid (stored : Option U8) :
    effectiveAuxFlags stored &&& ~~~settingsAuxMask = 0 := by
  unfold effectiveAuxFlags loadAuxFlagsFrom
  cases stored with
  | none => rfl
  | some auxFlags =>
    simp only
    split_ifs with h
    · exact h
    · rfl

/-- A save of valid flags that the storage takes is effective. -/
theorem saveAuxFlagsTo_of_valid {auxFlags : U8} (h : auxFlags &&& ~~~settingsAuxMask = 0)
    (stored : Option U8) : saveAuxFlagsTo stored true auxFlags = (true, some auxFlags) :=
  if_pos ⟨h, rfl⟩

theorem effectiveAuxFlags_some {auxFlags : U8} (h : auxFlags &&& ~~~settingsAuxMask = 0) :
    effectiveAuxFlags (some auxFlags) = auxFlags := by
  rw [effectiveAuxFlags, loadAuxFlagsFrom, if_pos h, Option.getD_some]

end SilverwareTx
