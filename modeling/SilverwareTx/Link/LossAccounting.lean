import SilverwareTx.GroundStation.TelemetryModel
import SilverwareTx.Link.RoundTrip
import SilverwareTx.Telemetry.PcTelemetryExport

/-!
# Losses between the exporter and the ground station

What the exporter discards, the ground station counts: the records of the items that `export_task`
takes let `TelemetryModel.accept` add up exactly the discarded ones, type by type.
-/

namespace SilverwareTx

open GroundStation LossyStream

/-! ### From an item to its record -/

/-- The packet that `export_task` puts in a sample. -/
def ExportItem.sentPacket (item : ExportItem) : Packet :=
  if item.overlaySavedFlightConfig then
    (pcTelemetryOverlaySavedFlightConfig item.packet item.savedAuxFlags).2
  else item.packet

/-- The message of an item of one of the two types. -/
def ExportItem.message (item : ExportItem) : LinkMessage :=
  if item.messageType = pcTelemetryMessageRawBayang then
    .sample (pcTelemetryMakeSample item.sentPacket item.timestampUs item.sequence)
  else .localState item.localState item.sequence item.timestampUs

/-- An item of one of the two types that are published. -/
def ExportItem.Known (item : ExportItem) : Prop :=
  item.messageType = pcTelemetryMessageRawBayang ∨ item.messageType = pcTelemetryMessageLocalState

theorem exportWrite_eq {item : ExportItem} (h : item.Known) (frame : FrameBuffer) :
    exportWrite frame item = item.message.segment ++ [0] := by
  have hframe : exportFrame frame item = item.message.encode frame := by
    rcases h with hraw | hlocal
    · rw [exportFrame, if_pos hraw, ExportItem.message, if_pos hraw]
      rfl
    · have hne : item.messageType ≠ pcTelemetryMessageRawBayang := by
        rw [hlocal]
        decide
      rw [exportFrame, if_neg hne, if_pos hlocal, ExportItem.message, if_neg hne]
      rfl
  have hlength : (item.message.encode frame).1 ≠ 0 := by
    rw [item.message.encode_eq frame, List.length_append, List.length_singleton]
    omega
  rw [exportWrite, hframe]
  exact (if_pos hlength).trans (item.message.frameBytes_eq frame)

/-- The overlay keeps a packet valid. -/
theorem bayangCheckTelemetry_overlay {packet : Packet} (h : bayangCheckTelemetry packet = true)
    (savedAuxFlags : U8) :
    bayangCheckTelemetry (pcTelemetryOverlaySavedFlightConfig packet savedAuxFlags).2 = true := by
  unfold pcTelemetryOverlaySavedFlightConfig
  split
  · exact h
  · refine bayangCheckTelemetry_setChecksum ?_
    rw [Packet.byte_setByte_of_ne (by omega)]
    exact bayangCheckTelemetry_header h

theorem bayangCheckTelemetry_sentPacket {item : ExportItem}
    (h : bayangCheckTelemetry item.packet = true) :
    bayangCheckTelemetry item.sentPacket = true := by
  unfold ExportItem.sentPacket
  split_ifs
  · exact bayangCheckTelemetry_overlay h _
  · exact h

/-- A record that the ground station decodes from what is written for an item, with its receive
time. -/
def ReceivedAs (item : ExportItem) (received : BridgeRecord × ℚ) : Prop :=
  ∃ buffer segment, exportWrite buffer item = segment ++ [0] ∧
    decodeBridgeFrame segment = .ok received.1

theorem ReceivedAs.decode_segment {item : ExportItem} {received : BridgeRecord × ℚ}
    (h : ReceivedAs item received) (hknown : item.Known) :
    decodeBridgeFrame item.message.segment = .ok received.1 := by
  obtain ⟨buffer, segment, hwrite, hdecode⟩ := h
  rw [exportWrite_eq hknown] at hwrite
  rw [List.append_cancel_right hwrite, hdecode]

/-- The record has the numbers of the item, and its payload decodes. -/
theorem ReceivedAs.spec {item : ExportItem} {received : BridgeRecord × ℚ}
    (h : ReceivedAs item received) (hknown : item.Known)
    (hvalid : item.messageType = pcTelemetryMessageRawBayang →
      bayangCheckTelemetry item.packet = true) :
    received.1.messageType = item.messageType.toNat ∧
      received.1.sequence = item.sequence.toNat ∧
      received.1.timestampUs = item.timestampUs.toNat ∧ TelemetryModel.Decodable received.1 := by
  have hok := h.decode_segment hknown
  have hdecoded := item.message.decodedFrom_segment
  rcases hknown with hraw | hlocal
  · rw [ExportItem.message, if_pos hraw] at hok hdecoded
    have heq := Except.ok.inj (hok.symm.trans hdecoded)
    rw [heq, hraw]
    exact ⟨rfl, rfl, rfl, .inl ⟨rfl, _, rfl, bayangCheckTelemetry_sentPacket (hvalid hraw)⟩⟩
  · have hne : item.messageType ≠ pcTelemetryMessageRawBayang := by
      rw [hlocal]
      decide
    rw [ExportItem.message, if_neg hne] at hok hdecoded
    obtain ⟨payload, hrecord, -, hpayload⟩ := hdecoded
    have heq := Except.ok.inj (hok.symm.trans hrecord)
    rw [heq, hlocal]
    exact ⟨rfl, rfl, rfl, .inr ⟨rfl, _, hpayload⟩⟩

theorem exists_receivedAs {item : ExportItem} (hknown : item.Known) (time : ℚ) :
    ∃ record, ReceivedAs item (record, time) := by
  have hdecoded := item.message.decodedFrom_segment
  obtain ⟨record, hok⟩ : ∃ record, decodeBridgeFrame item.message.segment = .ok record := by
    cases hm : item.message with
    | sample sample =>
      rw [hm] at hdecoded
      exact ⟨_, hdecoded⟩
    | localState state sequence timestampUs =>
      rw [hm] at hdecoded
      obtain ⟨payload, hok, -⟩ := hdecoded
      exact ⟨_, hok⟩
  exact ⟨record, Vector.replicate _ 0, _, exportWrite_eq hknown _, hok⟩

theorem exists_received {items : List ExportItem}
    (h : ∀ item ∈ items, ∀ time, ∃ record, ReceivedAs item (record, time)) :
    ∃ received, List.Forall₂ ReceivedAs items received := by
  induction items with
  | nil => exact ⟨[], .nil⟩
  | cons item items ih =>
    obtain ⟨record, hrecord⟩ := h item List.mem_cons_self 0
    obtain ⟨received, hreceived⟩ := ih fun x hx => h x (List.mem_cons_of_mem _ hx)
    exact ⟨(record, 0) :: received, .cons hrecord hreceived⟩

/-! ### What the ground station counts -/

/-- The receiver of the items, by type and sequence. -/
def receiveItem : Receiver U8 → ExportItem → Receiver U8 :=
  Receiver.receive ExportItem.messageType (fun item => item.sequence.toNat) 65536

theorem receiveItem_last (s : Receiver U8) (item : ExportItem) :
    (receiveItem s item).last =
      Function.update s.last item.messageType (some item.sequence.toNat) := rfl

theorem receiveItem_gaps (s : Receiver U8) (item : ExportItem) :
    (receiveItem s item).gaps = Function.update s.gaps item.messageType
      (s.gaps item.messageType + gap 65536 (s.last item.messageType) item.sequence.toNat) := rfl

/-- The sequences and gaps of the ground station are those of a receiver. -/
structure Follows (model : TelemetryModel) (s : Receiver U8) : Prop where
  last : ∀ k : U8, model.lastSequence k.toNat = s.last k
  type1 : model.stats.type1SequenceGaps = s.gaps pcTelemetryMessageRawBayang
  type2 : model.stats.type2SequenceGaps = s.gaps pcTelemetryMessageLocalState

theorem sequenceGap_eq_gap (previous : Option ℕ) (sequence : ℕ) :
    TelemetryModel.sequenceGap previous sequence = gap 65536 previous sequence := by
  cases previous <;> rfl

/-- An item that may come next: of a known type, with a valid packet, and not older than the
last. -/
structure Acceptable (model : TelemetryModel) (item : ExportItem) : Prop where
  known : item.Known
  valid : item.messageType = pcTelemetryMessageRawBayang → bayangCheckTelemetry item.packet = true
  notOlder : ∀ last, model.lastEspTimestamp = some last → last ≤ item.timestampUs.toNat

/-- Accepting the record of an item is receiving the item. -/
theorem Follows.accept {model : TelemetryModel} {s : Receiver U8} (h : Follows model s)
    {item : ExportItem} {received : BridgeRecord × ℚ} (hreceived : ReceivedAs item received)
    (hitem : Acceptable model item) :
    (∃ update, (model.accept received.1 received.2).1 = .ok update ∧ update.espRestarted = false) ∧
      Follows (model.accept received.1 received.2).2 (receiveItem s item) ∧
      (model.accept received.1 received.2).2.lastEspTimestamp = some item.timestampUs.toNat := by
  obtain ⟨htype, hsequence, htime, hdecodable⟩ := hreceived.spec hitem.known hitem.valid
  -- timestamps that do not go back are never taken for a restart
  have hfresh : model.espRestarted received.1 = false := by
    unfold TelemetryModel.espRestarted
    cases hlast : model.lastEspTimestamp with
    | none => rfl
    | some last =>
      rw [htime]
      exact decide_eq_false (not_lt.2 (hitem.notOlder last hlast))
  obtain ⟨hok, hlast, hstamp, hgaps1, hgaps2⟩ :=
    TelemetryModel.accept_of_decodable hdecodable hfresh received.2
  have hne : pcTelemetryMessageLocalState ≠ pcTelemetryMessageRawBayang := by decide
  have hgap : TelemetryModel.sequenceGap (model.lastSequence received.1.messageType)
      received.1.sequence = gap 65536 (s.last item.messageType) item.sequence.toNat := by
    rw [sequenceGap_eq_gap, htype, hsequence, h.last]
  refine ⟨hok, ⟨fun k => ?_, ?_, ?_⟩, by rw [hstamp, htime]⟩
  · rw [hlast, htype, hsequence, receiveItem_last]
    by_cases hk : k = item.messageType
    · rw [hk, Function.update_self, Function.update_self]
    · have hk' : k.toNat ≠ item.messageType.toNat := fun heq => hk (BitVec.eq_of_toNat_eq heq)
      rw [Function.update_of_ne hk, Function.update_of_ne hk', h.last]
  -- each type adds its gaps to a counter of its own
  · rw [hgaps1, hgap, h.type1, receiveItem_gaps]
    rcases hitem.known with hraw | hlocal
    · rw [htype, hraw, Function.update_self]
      rfl
    · rw [htype, hlocal, Function.update_of_ne hne.symm]
      rfl
  · rw [hgaps2, hgap, h.type2, receiveItem_gaps]
    rcases hitem.known with hraw | hlocal
    · rw [htype, hraw, Function.update_of_ne hne]
      rfl
    · rw [htype, hlocal, Function.update_self]
      rfl

/-- No record of items in the order of their timestamps looks like a restart, and the gaps are those
of the receiver. -/
theorem Follows.acceptAll {items : List ExportItem} {received : List (BridgeRecord × ℚ)}
    (hreceived : List.Forall₂ ReceivedAs items received)
    (htimes : items.Pairwise fun a b => a.timestampUs.toNat ≤ b.timestampUs.toNat)
    {model : TelemetryModel} {s : Receiver U8} (h : Follows model s)
    (hitems : ∀ item ∈ items, Acceptable model item) :
    (∀ front x back, received = front ++ x :: back →
      ∃ update, ((model.acceptAll front).accept x.1 x.2).1 = .ok update ∧
        update.espRestarted = false) ∧
      Follows (model.acceptAll received) (items.foldl receiveItem s) := by
  induction hreceived generalizing model s with
  | nil => exact ⟨fun front x back hsplit => absurd hsplit (by simp), h⟩
  | @cons item first items received hfirst _ ih =>
    obtain ⟨hle, htimes⟩ := List.pairwise_cons.1 htimes
    obtain ⟨hok, hnext, hstamp⟩ := h.accept hfirst (hitems item List.mem_cons_self)
    have hrest : ∀ x ∈ items, Acceptable (model.accept first.1 first.2).2 x := by
      intro x hx
      have hacceptable := hitems x (List.mem_cons_of_mem _ hx)
      refine ⟨hacceptable.known, hacceptable.valid, fun last hlast => ?_⟩
      rw [hstamp, Option.some.injEq] at hlast
      rw [← hlast]
      exact hle x hx
    obtain ⟨hall, hfollows⟩ := ih htimes hnext hrest
    refine ⟨fun front x back hsplit => ?_, hfollows⟩
    cases front with
    | nil =>
      obtain ⟨rfl, -⟩ := List.cons.inj hsplit
      exact hok
    | cons y front =>
      obtain ⟨rfl, htail⟩ := List.cons.inj hsplit
      exact hall front x back htail

/-! ### The whole way -/

/-- What an interleaving leaves behind, in terms of the calls. -/
theorem exportRun_history (actions : List ExportAction) :
    (exportRun actions).history.settled = departures exportCreated actions ∧
      (exportRun actions).begun = publications exportCreated actions := by
  obtain ⟨hsettled, hbegun⟩ := history_of_calls (exportRun_inv []).1 actions
  exact ⟨hsettled.trans (List.nil_append _), hbegun.trans (List.nil_append _)⟩

/-- **Losses are accounted for.** For every interleaving of the publishing functions' queue calls
with those of `export_task`: what was taken and what waits is a subsequence of what was published,
the drop counter is the difference, and a publication that has returned is the last of what was
taken or waits. If moreover the published timestamps do not decrease, the published Bayang packets
are valid and no 65536 items of a type are discarded in a row, the ground station accepts the
records of the taken items without seeing a restart, and the gaps it adds up for a type are the
items of that type discarded between the first and the last taken one. -/
theorem export_loss_accounting (actions : List ExportAction) :
    let m := (exportRun actions).module
    let published := publications exportCreated actions
    let left := departures exportCreated actions
    let taken := deliveries left
    (∃ queue returned, m.exportQueue = some queue ∧ published = returned ++ m.stage.item.toList ∧
      (taken ++ queue).Sublist returned ∧
      pcTelemetryExportDropCount m =
        BitVec.ofNat 32 (returned.length - taken.length - queue.length) ∧
      (m.stage = .done → (taken ++ queue).getLast? = published.getLast?)) ∧
    (∀ item ∈ taken, ∀ time, ∃ record, ReceivedAs item (record, time)) ∧
    (published.Pairwise (fun a b => a.timestampUs.toNat ≤ b.timestampUs.toNat) →
      (∀ item ∈ published, item.messageType = pcTelemetryMessageRawBayang →
        bayangCheckTelemetry item.packet = true) →
      (∀ messageType, ¬ List.replicate 65536 false <:+:
        fatesOf ExportItem.messageType messageType left) →
      ∀ received, List.Forall₂ ReceivedAs taken received →
        (∀ front x back, received = front ++ x :: back →
          ∃ update, ((TelemetryModel.acceptAll {} front).accept x.1 x.2).1 = .ok update ∧
            update.espRestarted = false) ∧
        (TelemetryModel.acceptAll {} received).stats.type1SequenceGaps =
          innerLosses (fatesOf ExportItem.messageType pcTelemetryMessageRawBayang left) ∧
        (TelemetryModel.acceptAll {} received).stats.type2SequenceGaps =
          innerLosses (fatesOf ExportItem.messageType pcTelemetryMessageLocalState left)) := by
  obtain ⟨hqueue, hsequence⟩ := exportRun_inv actions
  obtain ⟨hleft, hpublished⟩ := exportRun_history actions
  intro m published left taken
  have hreturned : published =
      (exportRun actions).history.published ++ m.stage.item.toList := hpublished.symm
  have htaken : (exportRun actions).history.delivered = taken := by
    rw [History.delivered, hleft]
  have hsublist := (exportRun actions).history.delivered_append_waiting_sublist
  rw [htaken] at hsublist
  have hmem : ∀ item ∈ taken, item ∈ published := by
    intro item hitem
    rw [hreturned]
    exact List.mem_append_left _ (hsublist.subset (List.mem_append_left _ hitem))
  have hknown : ∀ item ∈ published, item.Known := by
    have htypes := hsequence.types
    rwa [hpublished] at htypes
  refine ⟨⟨_, _, hqueue.queue, hreturned, hsublist, ?_, fun hdone => ?_⟩, fun item hitem time => ?_,
    fun htimes hvalid hfew received hreceived => ?_⟩
  -- the drop counter has 32 bits and wraps
  · have hlength := (exportRun actions).history.length_published
    rw [htaken] at hlength
    rw [pcTelemetryExportDropCount, hqueue.drops]
    congr 1
    omega
  · have hlast := hqueue.kept hdone
    rw [htaken] at hlast
    rw [hlast, hreturned, hdone]
    exact congrArg List.getLast? (List.append_nil _).symm
  · exact exists_receivedAs (hknown item (hmem item hitem)) time
  · have hnumbered : Numbered ExportItem.messageType (fun item => item.sequence.toNat) 65536
        (left.map Prod.fst) := by
      -- what has left the queue was published before all that is still in it
      have hall := hsequence.numbered
      rw [ExportRun.begun, History.published, hleft, List.append_assoc] at hall
      exact hall.of_append
    have htracks := gaps_eq_innerLosses hnumbered hfew
    have htakenTimes : taken.Pairwise fun a b => a.timestampUs.toNat ≤ b.timestampUs.toNat := by
      rw [hreturned] at htimes
      exact ((List.pairwise_append.1 htimes).1.sublist hsublist).sublist
        (List.sublist_append_left _ _)
    have hstart : Follows {} .start := ⟨fun _ => rfl, rfl, rfl⟩
    obtain ⟨hall, hfollows⟩ := Follows.acceptAll hreceived htakenTimes hstart fun item hitem =>
      ⟨hknown item (hmem item hitem), hvalid item (hmem item hitem), fun last hlast => by cases hlast⟩
    exact ⟨hall, hfollows.type1.trans (htracks _).1, hfollows.type2.trans (htracks _).1⟩

/-- A flight page with every other bit clear. -/
def samplePage : Packet := setChecksum #v[0x86, 0, 0, 0, 0, 0, 0, 0, 0, 0, 0, 0, 0, 0, 0]

/-- One page is taken, sixteen fill the queue, and one more discards the oldest of them. -/
def sampleOverflow : List ExportAction :=
  [.publishBayang samplePage 0 false 0, .take] ++
    List.replicate 17 (.publishBayang samplePage 1000 true 0) ++
    [.discard, .resend] ++ List.replicate 16 .take

/-- The discarded page is the gap that the ground station adds up. -/
theorem export_loss_accounting_sampleOverflow :
    ∃ received,
      List.Forall₂ ReceivedAs (deliveries (departures exportCreated sampleOverflow)) received ∧
        (TelemetryModel.acceptAll {} received).stats.type1SequenceGaps = 1 := by
  obtain ⟨-, hwritten, hgaps⟩ := export_loss_accounting sampleOverflow
  obtain ⟨received, hreceived⟩ := exists_received hwritten
  have hlength : (departures exportCreated sampleOverflow).length = 18 := by decide
  have hfew : ∀ messageType, ¬ List.replicate 65536 false <:+:
      fatesOf ExportItem.messageType messageType (departures exportCreated sampleOverflow) := by
    intro messageType hrun
    have hle := hrun.length_le.trans_eq (length_fatesOf messageType _)
    have hcount := List.countP_le_length
      (p := fun x : ExportItem => decide (x.messageType = messageType))
      (l := (departures exportCreated sampleOverflow).map Prod.fst)
    rw [List.length_replicate] at hle
    rw [List.length_map, hlength] at hcount
    omega
  refine ⟨received, hreceived, ?_⟩
  rw [(hgaps (by decide) (by decide) hfew received hreceived).2.1]
  decide

end SilverwareTx
