import SilverwareTx.GroundStation.FcTelemetry

/-!
# The telemetry model of the ground station (`TelemetryModel` in
`tools/ground_station/ground_station.py`)

`TelemetryModel.accept` takes one decoded record: it detects a restart of the transmitter by its
timestamp, adds up the sequence gaps of each message type and keeps the latest state.
-/

namespace SilverwareTx.GroundStation

/-- `DecoderStats` -/
structure DecoderStats where
  validFrames : ℕ := 0
  malformedFrames : ℕ := 0
  invalidBayangPackets : ℕ := 0
  type1SequenceGaps : ℕ := 0
  type2SequenceGaps : ℕ := 0

/-- `ModelUpdate`: what `accept` returns. -/
structure ModelUpdate where
  receivedAt : ℚ
  messageType : ℕ
  sequenceGap : ℕ
  espRestarted : Bool
  fcPage : Option ℕ

/-- `class TelemetryModel`; `localState` is its `local`. -/
structure TelemetryModel where
  fc : FcTelemetry := {}
  localState : Option LocalState := none
  stats : DecoderStats := {}
  lastType1At : Option ℚ := none
  lastType2At : Option ℚ := none
  lastAnyAt : Option ℚ := none
  lastSequence : ℕ → Option ℕ := fun _ => none
  lastEspTimestamp : Option ℕ := none

namespace TelemetryModel

/-- Whether a record is older than the last one. -/
def espRestarted (self : TelemetryModel) (record : BridgeRecord) : Bool :=
  match self.lastEspTimestamp with
  | none => false
  | some last => decide (record.timestampUs < last)

/-- A restart drops what the model knows of the transmitter. -/
def clearAfterRestart (self : TelemetryModel) : TelemetryModel :=
  { self with
    lastSequence := fun _ => none
    fc := {}
    localState := none
    lastType1At := none
    lastType2At := none }

/-- `(sequence - previous - 1) & 0xFFFF`, 0 without a previous sequence. -/
def sequenceGap (previous : Option ℕ) (sequence : ℕ) : ℕ :=
  match previous with
  | none => 0
  | some p => (((sequence : ℤ) - p - 1) % 0x10000).toNat

/-- The bookkeeping of the sequence of a record. -/
def trackSequence (self : TelemetryModel) (record : BridgeRecord) : TelemetryModel :=
  let gap := sequenceGap (self.lastSequence record.messageType) record.sequence
  { self with
    stats :=
      if record.messageType = messageRawFc then
        { self.stats with type1SequenceGaps := self.stats.type1SequenceGaps + gap }
      else { self.stats with type2SequenceGaps := self.stats.type2SequenceGaps + gap }
    lastSequence := Function.update self.lastSequence record.messageType (some record.sequence) }

/-- The payload of a record. -/
def takePayload (self : TelemetryModel) (record : BridgeRecord) (receivedAt : ℚ) :
    Except DecodeError Unit × TelemetryModel :=
  if record.messageType = messageRawFc then
    match self.fc.update record.payload receivedAt with
    | (.error e, fc) =>
      (.error e,
        { self with
          fc := fc
          stats :=
            { self.stats with invalidBayangPackets := self.stats.invalidBayangPackets + 1 } })
    | (.ok (), fc) => (.ok (), { self with fc := fc, lastType1At := some receivedAt })
  else
    match LocalState.decode record.payload with
    | .error e => (.error e, self)
    | .ok decoded => (.ok (), { self with localState := some decoded, lastType2At := some receivedAt })

/-- `accept`: how the call ends, and the object after it. -/
def accept (self : TelemetryModel) (record : BridgeRecord) (receivedAt : ℚ) :
    Except DecodeError ModelUpdate × TelemetryModel :=
  let restarted := self.espRestarted record
  let self := if restarted then self.clearAfterRestart else self
  let self := { self with lastEspTimestamp := some record.timestampUs }
  let gap := sequenceGap (self.lastSequence record.messageType) record.sequence
  match (self.trackSequence record).takePayload record receivedAt with
  | (.error e, self) => (.error e, self)
  | (.ok (), self) =>
    (.ok
      { receivedAt := receivedAt
        messageType := record.messageType
        sequenceGap := gap
        espRestarted := restarted
        fcPage :=
          if record.messageType = messageRawFc ∧ record.payload.getD 0 0 = 0x86 then
            some ((record.payload.getD 1 0).toNat >>> 6)
          else none },
      { self with
        lastAnyAt := some receivedAt
        stats := { self.stats with validFrames := self.stats.validFrames + 1 } })

/-- The model after a sequence of records with their receive times. -/
def acceptAll (self : TelemetryModel) (records : List (BridgeRecord × ℚ)) : TelemetryModel :=
  records.foldl (fun self r => (self.accept r.1 r.2).2) self

/-! ### What accepting does to the sequences -/

/-- A record whose payload decodes for its type. -/
def Decodable (record : BridgeRecord) : Prop :=
  (record.messageType = messageRawFc ∧
      ∃ packet : Packet, record.payload = packet.toList ∧ bayangCheckTelemetry packet = true) ∨
    (record.messageType = messageLocalState ∧
      ∃ decoded, LocalState.decode record.payload = .ok decoded)

theorem takePayload_of_decodable {record : BridgeRecord} (h : Decodable record)
    (self : TelemetryModel) (receivedAt : ℚ) :
    (self.takePayload record receivedAt).1 = .ok () ∧
      (self.takePayload record receivedAt).2.lastSequence = self.lastSequence ∧
      (self.takePayload record receivedAt).2.lastEspTimestamp = self.lastEspTimestamp ∧
      (self.takePayload record receivedAt).2.stats.type1SequenceGaps =
        self.stats.type1SequenceGaps ∧
      (self.takePayload record receivedAt).2.stats.type2SequenceGaps =
        self.stats.type2SequenceGaps := by
  unfold takePayload
  rcases h with ⟨htype, packet, hpayload, hvalid⟩ | ⟨htype, decoded, hdecoded⟩
  · have hok := (FcTelemetry.update_of_valid hvalid self.fc receivedAt).1
    rw [if_pos htype, hpayload]
    generalize self.fc.update packet.toList receivedAt = result at hok
    obtain ⟨result, fc⟩ := result
    subst hok
    exact ⟨rfl, rfl, rfl, rfl, rfl⟩
  · rw [if_neg (by rw [htype]; decide), hdecoded]
    exact ⟨rfl, rfl, rfl, rfl, rfl⟩

/-- Accepting a decodable record that is not older than the last one. -/
theorem accept_of_decodable {self : TelemetryModel} {record : BridgeRecord} (h : Decodable record)
    (hfresh : self.espRestarted record = false) (receivedAt : ℚ) :
    (∃ update, (self.accept record receivedAt).1 = .ok update ∧ update.espRestarted = false) ∧
      (self.accept record receivedAt).2.lastSequence =
        Function.update self.lastSequence record.messageType (some record.sequence) ∧
      (self.accept record receivedAt).2.lastEspTimestamp = some record.timestampUs ∧
      (self.accept record receivedAt).2.stats.type1SequenceGaps =
        self.stats.type1SequenceGaps + (if record.messageType = messageRawFc then
          sequenceGap (self.lastSequence record.messageType) record.sequence else 0) ∧
      (self.accept record receivedAt).2.stats.type2SequenceGaps =
        self.stats.type2SequenceGaps + (if record.messageType = messageRawFc then 0 else
          sequenceGap (self.lastSequence record.messageType) record.sequence) := by
  obtain ⟨hok, hsequence, htimestamp, hgaps1, hgaps2⟩ := takePayload_of_decodable h
    ({ self with lastEspTimestamp := some record.timestampUs }.trackSequence record) receivedAt
  unfold accept
  rw [hfresh]
  simp only [Bool.false_eq_true, if_false]
  generalize ({ self with lastEspTimestamp := some record.timestampUs }.trackSequence
    record).takePayload record receivedAt = result at hok hsequence htimestamp hgaps1 hgaps2
  obtain ⟨result, after⟩ := result
  subst hok
  refine ⟨⟨_, rfl, rfl⟩, hsequence, htimestamp, hgaps1.trans ?_, hgaps2.trans ?_⟩
  · unfold trackSequence
    split_ifs <;> rfl
  · unfold trackSequence
    split_ifs <;> rfl

end TelemetryModel

end SilverwareTx.GroundStation
