import SilverwareTx.GroundStation.TelemetryModel

/-!
# Restarts of the transmitter in the telemetry model

Two models that agree on what a restart clears and on the last timestamp go on alike
(`SameBoot.accept`). The record that shows a restart puts any model into such an agreement with a
fresh one (`sameBoot_of_restart`), also when its payload is rejected, so nothing from before a
restart is left in what the model shows afterwards (`reboot_isolation`).
-/

namespace SilverwareTx.GroundStation

namespace TelemetryModel

/-- The two models agree on what a restart clears and on the last timestamp. -/
structure SameBoot (m m' : TelemetryModel) : Prop where
  fc : m.fc = m'.fc
  localState : m.localState = m'.localState
  lastType1At : m.lastType1At = m'.lastType1At
  lastType2At : m.lastType2At = m'.lastType2At
  lastSequence : m.lastSequence = m'.lastSequence
  lastEspTimestamp : m.lastEspTimestamp = m'.lastEspTimestamp

/-- The gap that `accept` reports, if it returns. -/
def reportedGap (self : TelemetryModel) (record : BridgeRecord) (receivedAt : ℚ) :
    Except DecodeError ℕ :=
  (self.accept record receivedAt).1.map ModelUpdate.sequenceGap

/-- The gaps that the records of a sequence report. -/
def reportedGaps (self : TelemetryModel) : List (BridgeRecord × ℚ) → List (Except DecodeError ℕ)
  | [] => []
  | r :: records => self.reportedGap r.1 r.2 :: (self.accept r.1 r.2).2.reportedGaps records

/-- The bookkeeping of `accept` before the sequence: restart check and timestamp. -/
def noteTimestamp (self : TelemetryModel) (record : BridgeRecord) : TelemetryModel :=
  { (if self.espRestarted record then self.clearAfterRestart else self) with
    lastEspTimestamp := some record.timestampUs }

variable {m m' : TelemetryModel}

theorem SameBoot.trackSequence (h : SameBoot m m') (record : BridgeRecord) :
    SameBoot (m.trackSequence record) (m'.trackSequence record) where
  fc := h.fc
  localState := h.localState
  lastType1At := h.lastType1At
  lastType2At := h.lastType2At
  lastSequence := by
    change Function.update m.lastSequence _ _ = Function.update m'.lastSequence _ _
    rw [h.lastSequence]
  lastEspTimestamp := h.lastEspTimestamp

/-- A payload is taken alike, or rejected alike with the same object left behind. -/
theorem SameBoot.takePayload (h : SameBoot m m') (record : BridgeRecord) (receivedAt : ℚ) :
    (m.takePayload record receivedAt).1 = (m'.takePayload record receivedAt).1 ∧
      SameBoot (m.takePayload record receivedAt).2 (m'.takePayload record receivedAt).2 := by
  obtain ⟨hfc, hlocal, h1, h2, hseq, htime⟩ := h
  unfold TelemetryModel.takePayload
  by_cases htype : record.messageType = messageRawFc
  · rw [if_pos htype, if_pos htype, hfc]
    rcases m'.fc.update record.payload receivedAt with ⟨result, fc⟩
    cases result with
    | error e => exact ⟨rfl, rfl, hlocal, h1, h2, hseq, htime⟩
    | ok _ => exact ⟨rfl, rfl, hlocal, rfl, h2, hseq, htime⟩
  · rw [if_neg htype, if_neg htype]
    cases LocalState.decode record.payload with
    | error e => exact ⟨rfl, hfc, hlocal, h1, h2, hseq, htime⟩
    | ok decoded => exact ⟨rfl, hfc, rfl, h1, rfl, hseq, htime⟩

theorem accept_eq (m : TelemetryModel) (record : BridgeRecord) (receivedAt : ℚ) :
    m.accept record receivedAt =
      match ((m.noteTimestamp record).trackSequence record).takePayload record receivedAt with
      | (.error e, after) => (.error e, after)
      | (.ok (), after) =>
        (.ok
          { receivedAt := receivedAt
            messageType := record.messageType
            sequenceGap :=
              sequenceGap ((m.noteTimestamp record).lastSequence record.messageType) record.sequence
            espRestarted := m.espRestarted record
            fcPage :=
              if record.messageType = messageRawFc ∧ record.payload.getD 0 0 = 0x86 then
                some ((record.payload.getD 1 0).toNat >>> 6)
              else none },
          { after with
            lastAnyAt := some receivedAt
            stats := { after.stats with validFrames := after.stats.validFrames + 1 } }) := rfl

/-- Once the timestamp is noted, the rest of a call goes alike. -/
theorem SameBoot.accept_of_noteTimestamp {record : BridgeRecord}
    (h : SameBoot (m.noteTimestamp record) (m'.noteTimestamp record)) (receivedAt : ℚ) :
    m.reportedGap record receivedAt = m'.reportedGap record receivedAt ∧
      SameBoot (m.accept record receivedAt).2 (m'.accept record receivedAt).2 := by
  obtain ⟨hresult, hafter⟩ := (h.trackSequence record).takePayload record receivedAt
  rw [reportedGap, reportedGap, accept_eq, accept_eq, h.lastSequence]
  generalize ((m.noteTimestamp record).trackSequence record).takePayload record receivedAt = taken
    at hresult hafter
  generalize ((m'.noteTimestamp record).trackSequence record).takePayload record receivedAt = taken'
    at hresult hafter
  obtain ⟨result, after⟩ := taken
  obtain ⟨result', after'⟩ := taken'
  obtain rfl : result = result' := hresult
  cases result with
  | error e => exact ⟨rfl, hafter⟩
  | ok _ => exact ⟨rfl, hafter.fc, hafter.localState, hafter.lastType1At, hafter.lastType2At,
      hafter.lastSequence, hafter.lastEspTimestamp⟩

/-- Models that agree note a restart alike. -/
theorem SameBoot.noteTimestamp (h : SameBoot m m') (record : BridgeRecord) :
    SameBoot (m.noteTimestamp record) (m'.noteTimestamp record) := by
  have hrestarted : m.espRestarted record = m'.espRestarted record := by
    rw [espRestarted, espRestarted, h.lastEspTimestamp]
  rw [TelemetryModel.noteTimestamp, TelemetryModel.noteTimestamp, hrestarted]
  by_cases hr : m'.espRestarted record = true
  · rw [if_pos hr, if_pos hr]
    exact ⟨rfl, rfl, rfl, rfl, rfl, rfl⟩
  · rw [if_neg hr, if_neg hr]
    exact ⟨h.fc, h.localState, h.lastType1At, h.lastType2At, h.lastSequence, rfl⟩

/-- A record older than the last one clears a model as far as a fresh one. -/
theorem sameBoot_of_restart {record : BridgeRecord} (h : m.espRestarted record = true) :
    SameBoot (m.noteTimestamp record) (TelemetryModel.noteTimestamp {} record) := by
  have hfresh : ¬espRestarted {} record = true := Bool.false_ne_true
  rw [noteTimestamp, noteTimestamp, if_pos h, if_neg hfresh]
  exact ⟨rfl, rfl, rfl, rfl, rfl, rfl⟩

/-- Models that agree go on alike over any records. -/
theorem SameBoot.acceptAll (h : SameBoot m m') (records : List (BridgeRecord × ℚ)) :
    m.reportedGaps records = m'.reportedGaps records ∧
      SameBoot (m.acceptAll records) (m'.acceptAll records) := by
  induction records generalizing m m' with
  | nil => exact ⟨rfl, h⟩
  | cons r records ih =>
    obtain ⟨hgap, hafter⟩ := (h.noteTimestamp r.1).accept_of_noteTimestamp r.2
    obtain ⟨hgaps, hall⟩ := ih hafter
    refine ⟨?_, hall⟩
    rw [reportedGaps, reportedGaps, hgap, hgaps]

theorem lastEspTimestamp_accept (m : TelemetryModel) (record : BridgeRecord) (receivedAt : ℚ) :
    (m.accept record receivedAt).2.lastEspTimestamp = some record.timestampUs := by
  have htaken : ∀ tracked : TelemetryModel,
      (tracked.takePayload record receivedAt).2.lastEspTimestamp = tracked.lastEspTimestamp := by
    intro tracked
    unfold takePayload
    split_ifs
    · rcases tracked.fc.update record.payload receivedAt with ⟨result, fc⟩
      cases result <;> rfl
    · cases LocalState.decode record.payload <;> rfl
  have hnoted := htaken ((m.noteTimestamp record).trackSequence record)
  rw [accept_eq]
  generalize ((m.noteTimestamp record).trackSequence record).takePayload record receivedAt = taken
    at hnoted
  obtain ⟨result, after⟩ := taken
  cases result with
  | error e => exact hnoted
  | ok _ => exact hnoted

/-- **Nothing from before a restart is left.** After any history, records whose first timestamp is
below the last one of the history leave the model and report the gaps as they would with a fresh
model. -/
theorem reboot_isolation (history : List (BridgeRecord × ℚ)) (last first : BridgeRecord × ℚ)
    (records : List (BridgeRecord × ℚ)) (h : first.1.timestampUs < last.1.timestampUs) :
    let before : TelemetryModel := acceptAll {} (history ++ [last])
    before.reportedGaps (first :: records) = reportedGaps {} (first :: records) ∧
      SameBoot (acceptAll {} (history ++ [last] ++ first :: records))
        (acceptAll {} (first :: records)) := by
  intro before
  have hlast : before.lastEspTimestamp = some last.1.timestampUs := by
    rw [show before = ((acceptAll {} history).accept last.1 last.2).2 from List.foldl_append,
      lastEspTimestamp_accept]
  have hrestarted : before.espRestarted first.1 = true := by
    rw [espRestarted, hlast]
    exact decide_eq_true h
  obtain ⟨hgap, hafter⟩ :=
    (sameBoot_of_restart hrestarted).accept_of_noteTimestamp first.2
  obtain ⟨hgaps, hall⟩ := hafter.acceptAll records
  constructor
  · rw [reportedGaps, reportedGaps, hgap, hgaps]
  · rw [show acceptAll {} (history ++ [last] ++ first :: records) =
      before.acceptAll (first :: records) from List.foldl_append]
    exact hall

/-- A sequence number that would be a gap of 3 before the restart is none after it. -/
theorem reboot_isolation_two_records :
    let localRecord (sequence timestampUs : ℕ) : BridgeRecord × ℚ :=
      (⟨messageLocalState, sequence, timestampUs, List.replicate 44 0⟩, 0)
    (acceptAll {} [localRecord 5 100]).reportedGaps [localRecord 9 50, localRecord 11 60] =
      reportedGaps {} [localRecord 9 50, localRecord 11 60] :=
  (reboot_isolation [] _ _ _ (by decide)).1

end TelemetryModel

end SilverwareTx.GroundStation
