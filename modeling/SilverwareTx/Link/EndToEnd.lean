import SilverwareTx.ControlLoop.Run
import SilverwareTx.GroundStation.ViewerReplay
import SilverwareTx.Link.LossAccounting
import SilverwareTx.Link.SavedConfigOverlay
import SilverwareTx.Link.TelemetryAgreement

/-!
# From the flight controller to the dashboard

The whole way of the telemetry: the control loop parses the packets of the flight controller and
publishes the accepted ones, the export queue hands them to its task, the frames travel over the
serial line among noise, and the viewer reads them in chunks. `dashboard_shows_transmitter` puts
the parts together: what the viewer shows at the end is what the transmitter has decoded, up to the
flight mode and the profile, which the overlay takes from the saved configuration. `FcView` has no
PID terms, so nothing is said of those: the transmitter keeps them across a change of the protocol,
and the viewer does not.
-/

namespace SilverwareTx

open GroundStation LossyStream

/-! ### The model of the viewer is that of the decoded records -/

/-- The records among some work, with the times at which they are taken. -/
def recordsOf (done : List (Work × ℚ)) : List (BridgeRecord × ℚ) :=
  done.filterMap fun item => match item.1 with
    | .segment encoded => (decodeBridgeFrame encoded).toOption.map fun record => (record, item.2)
    | .overflow => none

/-- The same model, but for the count of malformed frames. -/
def SameTelemetry (model model' : TelemetryModel) : Prop :=
  ∃ count, model' = { model with stats := { model.stats with malformedFrames := count } }

section Records

variable {model model' : TelemetryModel}

theorem SameTelemetry.refl (model : TelemetryModel) : SameTelemetry model model := ⟨_, rfl⟩

theorem SameTelemetry.countMalformed (h : SameTelemetry model model') :
    SameTelemetry model (countMalformed model') := by
  obtain ⟨count, rfl⟩ := h
  exact ⟨count + 1, rfl⟩

/-- `accept` does not look at the count. -/
theorem SameTelemetry.accept (h : SameTelemetry model model') (record : BridgeRecord)
    (receivedAt : ℚ) :
    SameTelemetry (model.accept record receivedAt).2 (model'.accept record receivedAt).2 := by
  obtain ⟨count, rfl⟩ := h
  have hrestarted : ({ model with stats := { model.stats with malformedFrames := count } } :
      TelemetryModel).espRestarted record = model.espRestarted record := rfl
  rw [TelemetryModel.accept, TelemetryModel.accept, hrestarted]
  refine ⟨count, ?_⟩
  -- the branches: a restart, the type of the message, and what its payload decodes to
  cases model.espRestarted record <;> by_cases htype : record.messageType = messageRawFc
  · simp only [Bool.false_eq_true, if_false, TelemetryModel.trackSequence,
      TelemetryModel.takePayload, if_pos htype]
    obtain ⟨result, fc⟩ := model.fc.update record.payload receivedAt
    cases result <;> rfl
  · simp only [Bool.false_eq_true, if_false, TelemetryModel.trackSequence,
      TelemetryModel.takePayload, if_neg htype]
    cases LocalState.decode record.payload <;> rfl
  · simp only [if_true, TelemetryModel.clearAfterRestart, TelemetryModel.trackSequence,
      TelemetryModel.takePayload, if_pos htype]
    obtain ⟨result, fc⟩ := ({} : FcTelemetry).update record.payload receivedAt
    cases result <;> rfl
  · simp only [if_true, TelemetryModel.clearAfterRestart, TelemetryModel.trackSequence,
      TelemetryModel.takePayload, if_neg htype]
    cases LocalState.decode record.payload <;> rfl

theorem sameTelemetry_replay (done : List (Work × ℚ)) :
    SameTelemetry (TelemetryModel.acceptAll {} (recordsOf done)) (replay done) := by
  induction done using List.reverseRecOn with
  | nil => exact .refl _
  | append_singleton done item ih =>
    obtain ⟨work, receivedAt⟩ := item
    rw [replay_concat, recordsOf, List.filterMap_append, ← recordsOf, TelemetryModel.acceptAll,
      List.foldl_append]
    rw [TelemetryModel.acceptAll] at ih
    cases work with
    | overflow => exact ih.countMalformed
    | segment encoded =>
      rw [workOn_segment, takeSegment]
      cases hdecoded : decodeBridgeFrame encoded with
      | error e =>
        simp only [List.filterMap_cons, List.filterMap_nil, hdecoded, Except.toOption,
          Option.map_none, List.foldl_nil]
        exact ih.countMalformed
      | ok record =>
        have haccept := ih.accept record receivedAt
        simp only [List.filterMap_cons, List.filterMap_nil, hdecoded, Except.toOption,
          Option.map_some, List.foldl_cons, List.foldl_nil]
        generalize (replay done).accept record receivedAt = accepted at *
        obtain ⟨result, after⟩ := accepted
        cases result with
        | error e => exact haccept.countMalformed
        | ok update => exact haccept

end Records

/-! ### The records of a stream -/

/-- The record of a segment, if it decodes. -/
def decodeOk (segment : List U8) : Option BridgeRecord := (decodeBridgeFrame segment).toOption

/-- The messages among the items of a stream. -/
def messagesOf (items : List LinkItem) : List LinkMessage :=
  items.filterMap fun item => match item with
    | .frame m _ => some m
    | .noise _ => none

/-- No end of the noise in a stream decodes. -/
def UndecodableNoise (items : List LinkItem) : Prop :=
  ∀ s, LinkItem.noise s ∈ items → ∀ t, t <:+ s.1 → decodeOk t = none

/-- A record that decodes from the frame of a message. -/
def RecordOf (m : LinkMessage) (record : BridgeRecord) : Prop :=
  decodeBridgeFrame m.segment = .ok record

/-- What is handed on of a stream decodes to its messages. -/
theorem recordOf_fragments {items : List LinkItem} {fragments : List (List (List U8))}
    (hhanded : List.Forall₂ LinkItem.HandedAs items fragments) (hnoise : UndecodableNoise items) :
    List.Forall₂ RecordOf (messagesOf items) (fragments.flatten.filterMap decodeOk) := by
  induction hhanded with
  | nil => exact .nil
  | @cons item fragment items fragments hitem _ ih =>
    have hrest := ih fun s hs => hnoise s (List.mem_cons_of_mem _ hs)
    rw [List.flatten_cons, List.filterMap_append]
    cases item with
    | frame m buffer =>
      obtain ⟨segment, rfl, hbytes, hdecoded⟩ := hitem
      rw [m.frameBytes_eq buffer] at hbytes
      obtain rfl := List.append_cancel_right hbytes
      obtain ⟨record, hrecord⟩ : ∃ record, decodeBridgeFrame m.segment = .ok record := by
        cases m with
        | sample s => exact ⟨_, hdecoded⟩
        | localState s sequence timestampUs =>
          obtain ⟨payload, hok, -⟩ := hdecoded
          exact ⟨_, hok⟩
      have hone : [m.segment].filterMap decodeOk = [record] := by
        simp [decodeOk, hrecord, Except.toOption]
      rw [hone]
      exact .cons hrecord hrest
    | noise s =>
      have hnone : fragment.filterMap decodeOk = [] := by
        rcases hitem with rfl | ⟨t, ht, rfl⟩
        · rfl
        · simp [hnoise s List.mem_cons_self t ht]
      rw [hnone]
      exact hrest

/-- **The records of a connection** are those of the messages in its stream, in order. -/
theorem recordsOf_stream {items : List LinkItem} {chunks : List (List U8)}
    (hstream : chunks.flatten = items.flatMap LinkItem.bytes) (hnoise : UndecodableNoise items)
    {done : List (Work × ℚ)} (hdone : done.map Prod.fst = sessionWork [] chunks) :
    List.Forall₂ RecordOf (messagesOf items) ((recordsOf done).map Prod.fst) := by
  obtain ⟨fragments, hhanded, hread⟩ := handedAs_readAll hstream
  have hrecords : (recordsOf done).map Prod.fst = (readAll [] chunks).filterMap decodeOk := by
    rw [← segments_sessionWork, ← hdone, List.filterMap_filterMap, List.filterMap_map, recordsOf,
      List.map_filterMap]
    refine List.filterMap_congr fun item _ => ?_
    obtain ⟨work, receivedAt⟩ := item
    cases work with
    | overflow => rfl
    | segment encoded =>
      simp only [Function.comp_apply, Option.map_map, Option.bind_some, decodeOk]
      cases decodeBridgeFrame encoded <;> rfl
  rw [hrecords, hread]
  exact recordOf_fragments hhanded hnoise

/-! ### What the model shows of the items -/

/-- The packets that the export task sends of some items. -/
def sentPackets (items : List ExportItem) : List Packet :=
  (items.filter fun item => item.messageType = pcTelemetryMessageRawBayang).map ExportItem.sentPacket

/-- The local states in some items. -/
def sentStates (items : List ExportItem) : List PcTelemetryLocalState :=
  (items.filter fun item => item.messageType ≠ pcTelemetryMessageRawBayang).map
    ExportItem.localState

/-- The model shows what some items say. -/
structure Shows (model : TelemetryModel) (items : List ExportItem) : Prop where
  view : model.fc.view = FcView.receiveAll {} (sentPackets items)
  localState : model.localState = (sentStates items).getLast?.map LocalState.ofFirmware
  stamp : model.lastEspTimestamp = items.getLast?.map fun item => item.timestampUs.toNat

section Accept

variable {model : TelemetryModel} {record : BridgeRecord} (receivedAt : ℚ)

theorem accept_rawFc {packet : Packet} (hfresh : model.espRestarted record = false)
    (htype : record.messageType = messageRawFc) (hpayload : record.payload = packet.toList)
    (hvalid : bayangCheckTelemetry packet = true) :
    (model.accept record receivedAt).2.fc.view = FcView.receive packet model.fc.view ∧
      (model.accept record receivedAt).2.localState = model.localState ∧
      (model.accept record receivedAt).2.lastEspTimestamp = some record.timestampUs := by
  obtain ⟨hok, hview⟩ := FcTelemetry.update_of_valid hvalid model.fc receivedAt
  rw [TelemetryModel.accept, hfresh]
  simp only [Bool.false_eq_true, if_false, TelemetryModel.trackSequence,
    TelemetryModel.takePayload, if_pos htype, hpayload]
  generalize model.fc.update packet.toList receivedAt = updated at *
  obtain ⟨result, fc⟩ := updated
  subst hok
  exact ⟨hview, rfl, rfl⟩

theorem accept_localState {st : LocalState} (hfresh : model.espRestarted record = false)
    (htype : record.messageType ≠ messageRawFc)
    (hpayload : LocalState.decode record.payload = .ok st) :
    (model.accept record receivedAt).2.fc = model.fc ∧
      (model.accept record receivedAt).2.localState = some st ∧
      (model.accept record receivedAt).2.lastEspTimestamp = some record.timestampUs := by
  rw [TelemetryModel.accept, hfresh]
  simp only [Bool.false_eq_true, if_false, TelemetryModel.trackSequence,
    TelemetryModel.takePayload, if_neg htype, hpayload]
  exact ⟨trivial, trivial, trivial⟩

theorem receiveAll_concat (v : FcView) (packets : List Packet) {packet : Packet}
    (hvalid : bayangCheckTelemetry packet = true) :
    v.receiveAll (packets ++ [packet]) = FcView.receive packet (v.receiveAll packets) := by
  rw [FcView.receiveAll, List.filter_append, List.filter_cons_of_pos hvalid, List.foldl_append]
  rfl

/-- One more item. -/
theorem Shows.accept {items : List ExportItem} {item : ExportItem} (h : Shows model items)
    (hitem : Acceptable model item) (hrecord : RecordOf item.message record) :
    Shows (model.accept record receivedAt).2 (items ++ [item]) := by
  have hreceived : ReceivedAs item (record, receivedAt) :=
    ⟨Vector.replicate _ 0, item.message.segment, exportWrite_eq hitem.known _, hrecord⟩
  obtain ⟨-, -, htime, -⟩ := hreceived.spec hitem.known hitem.valid
  have hfresh : model.espRestarted record = false := by
    unfold TelemetryModel.espRestarted
    cases hlast : model.lastEspTimestamp with
    | none => rfl
    | some last =>
      rw [htime]
      exact decide_eq_false (not_lt.2 (hitem.notOlder last hlast))
  have hdecoded := item.message.decodedFrom_segment
  by_cases hraw : item.messageType = pcTelemetryMessageRawBayang
  · rw [ExportItem.message, if_pos hraw] at hrecord hdecoded
    obtain rfl := Except.ok.inj (hrecord.symm.trans hdecoded)
    obtain ⟨hview, hlocal, hstamp⟩ := accept_rawFc receivedAt hfresh rfl rfl
      (bayangCheckTelemetry_sentPacket (hitem.valid hraw))
    have hsent : sentPackets (items ++ [item]) = sentPackets items ++ [item.sentPacket] := by
      simp [sentPackets, hraw]
    have hstates : sentStates (items ++ [item]) = sentStates items := by
      simp [sentStates, hraw]
    refine ⟨?_, ?_, ?_⟩
    · rw [hview, hsent, receiveAll_concat _ _ (bayangCheckTelemetry_sentPacket (hitem.valid hraw)),
        h.view]
      rfl
    · rw [hlocal, hstates, h.localState]
    · rw [hstamp, List.getLast?_concat]
      rfl
  · rw [ExportItem.message, if_neg hraw] at hrecord hdecoded
    obtain ⟨payload, hok, -, hpayload⟩ := hdecoded
    obtain rfl := Except.ok.inj (hrecord.symm.trans hok)
    obtain ⟨hfc, hlocal, hstamp⟩ := accept_localState receivedAt hfresh
      (show messageLocalState ≠ messageRawFc by decide) hpayload
    have hsent : sentPackets (items ++ [item]) = sentPackets items := by
      simp [sentPackets, hraw]
    have hstates : sentStates (items ++ [item]) = sentStates items ++ [item.localState] := by
      simp [sentStates, hraw]
    refine ⟨?_, ?_, ?_⟩
    · rw [hfc, hsent, h.view]
    · rw [hlocal, hstates, List.getLast?_concat]
      rfl
    · rw [hstamp, List.getLast?_concat]
      rfl

end Accept

/-- Items in the order of their timestamps, from the first. -/
theorem Shows.acceptAll {seen items : List ExportItem} {received : List (BridgeRecord × ℚ)}
    (hreceived : List.Forall₂ RecordOf (items.map ExportItem.message) (received.map Prod.fst))
    (htimes : (seen ++ items).Pairwise fun a b => a.timestampUs.toNat ≤ b.timestampUs.toNat)
    (hknown : ∀ item ∈ items, item.Known)
    (hvalid : ∀ item ∈ items, item.messageType = pcTelemetryMessageRawBayang →
      bayangCheckTelemetry item.packet = true)
    {model : TelemetryModel} (h : Shows model seen) :
    Shows (model.acceptAll received) (seen ++ items) := by
  induction items generalizing seen received model with
  | nil =>
    obtain rfl : received = [] := by simpa using hreceived
    rwa [List.append_nil]
  | cons item items ih =>
    cases received with
    | nil => cases hreceived
    | cons first received =>
      obtain ⟨hfirst, hrest⟩ := List.forall₂_cons.1 hreceived
      have hacceptable : Acceptable model item := by
        refine ⟨hknown item List.mem_cons_self, hvalid item List.mem_cons_self, fun last hlast => ?_⟩
        rw [h.stamp, Option.map_eq_some_iff] at hlast
        obtain ⟨before, hbefore, rfl⟩ := hlast
        exact (List.pairwise_append.1 htimes).2.2 before (List.mem_of_getLast? hbefore) item
          List.mem_cons_self
      have hnext := h.accept first.2 hacceptable hfirst
      have hall := ih hrest (by rwa [List.append_assoc, List.singleton_append])
        (fun x hx => hknown x (List.mem_cons_of_mem _ hx))
        (fun x hx => hvalid x (List.mem_cons_of_mem _ hx)) hnext
      rwa [List.append_assoc, List.singleton_append] at hall

/-! ### The overlay on the way -/

namespace ExportRequest

/-- The timestamp of a request. -/
def timestampUs : ExportRequest → ℤ
  | .bayang _ timestampUs _ _ => timestampUs
  | .localState _ timestampUs => timestampUs

/-- The item that a request is on its way as, but for its sequence number. -/
def CarriedBy : ExportRequest → ExportItem → Prop
  | .bayang packet timestampUs overlaySavedFlightConfig savedAuxFlags, item =>
    item.messageType = pcTelemetryMessageRawBayang ∧ item.packet = packet ∧
      item.timestampUs = BitVec.ofInt 64 timestampUs ∧
      item.overlaySavedFlightConfig = overlaySavedFlightConfig ∧ item.savedAuxFlags = savedAuxFlags
  | .localState state timestampUs, item =>
    item.messageType = pcTelemetryMessageLocalState ∧ item.localState = state ∧
      item.timestampUs = BitVec.ofInt 64 timestampUs

end ExportRequest

/-- What the control loop publishes before cycle `n`, in order. -/
def exportsBefore (c : Setup) (ins : ℕ → CycleInput) (n : ℕ) : List ExportRequest :=
  (List.range n).flatMap fun k => (loopOutput c ins k).exports

/-- The packets and the local states among requests. -/
def requestedPackets (requests : List ExportRequest) : List Packet :=
  requests.filterMap fun request => match request with
    | .bayang packet _ _ _ => some packet
    | .localState _ _ => none

/-- The local states among requests. -/
def requestedStates (requests : List ExportRequest) : List PcTelemetryLocalState :=
  requests.filterMap fun request => match request with
    | .bayang _ _ _ _ => none
    | .localState state _ => some state

section Requests

variable {requests : List ExportRequest} {items : List ExportItem}

theorem items_of_requests (h : List.Forall₂ ExportRequest.CarriedBy requests items) :
    ((items.filter fun item => item.messageType = pcTelemetryMessageRawBayang).map
        ExportItem.packet = requestedPackets requests) ∧
      sentStates items = requestedStates requests ∧ ∀ item ∈ items, item.Known := by
  have hne : pcTelemetryMessageLocalState ≠ pcTelemetryMessageRawBayang := by decide
  induction h with
  | nil => exact ⟨rfl, rfl, by simp⟩
  | @cons request item requests items hcarried _ ih =>
    obtain ⟨hpackets, hstates, hknown⟩ := ih
    unfold sentStates at hstates ⊢
    cases request with
    | bayang packet timestampUs overlay saved =>
      obtain ⟨htype, rfl, -⟩ := hcarried
      refine ⟨?_, ?_, List.forall_mem_cons.2 ⟨.inl htype, hknown⟩⟩
      · rw [List.filter_cons_of_pos (by simpa using htype), List.map_cons, hpackets]
        rfl
      · rw [List.filter_cons_of_neg (by simpa using htype), hstates]
        rfl
    | localState state timestampUs =>
      obtain ⟨htype, rfl, -⟩ := hcarried
      refine ⟨?_, ?_, List.forall_mem_cons.2 ⟨.inr htype, hknown⟩⟩
      · rw [List.filter_cons_of_neg (by simp [htype, hne]), hpackets]
        rfl
      · rw [List.filter_cons_of_pos (by simp [htype, hne]), List.map_cons, hstates]
        rfl

theorem requestedPackets_exportsBefore (c : Setup) (ins : ℕ → CycleInput) (n : ℕ) :
    requestedPackets (exportsBefore c ins n) =
      (acceptedBefore c ins n).map Reception.packet := by
  induction n with
  | zero => rfl
  | succ n ih =>
    have hcycle : requestedPackets (loopOutput c ins n).exports =
        (loopOutput c ins n).accepted.toList.map Reception.packet := by
      have hexports : (loopOutput c ins n).exports =
          bayangExport c (loopState c ins n) (ins n) ++
            localStateExport c (loopState c ins n) (ins n) := rfl
      have haccepted : (loopOutput c ins n).accepted =
          acceptedPacket c (loopState c ins n) (ins n) := rfl
      rw [hexports, haccepted, requestedPackets, List.filterMap_append, bayangExport,
        localStateExport]
      cases acceptedPacket c (loopState c ins n) (ins n) <;> split_ifs <;> rfl
    rw [exportsBefore, List.range_succ, List.flatMap_append, List.flatMap_singleton,
      requestedPackets, List.filterMap_append, ← requestedPackets, ← requestedPackets,
      ← exportsBefore, ih, hcycle, acceptedBefore, List.map_append]

theorem check_acceptedBefore (c : Setup) (ins : ℕ → CycleInput) (n : ℕ) :
    ∀ r ∈ acceptedBefore c ins n, bayangCheckTelemetry r.packet = true := by
  induction n with
  | zero => exact fun r hr => absurd hr List.not_mem_nil
  | succ n ih =>
    intro r hr
    rcases List.mem_append.1 hr with hr | hr
    · exact ih r hr
    · exact check_of_acceptedPacket (Option.mem_toList.1 hr)

end Requests

/-! ### The whole way -/

/-- The telemetry of `n` cycles on an undisturbed way: every request becomes an item of the exporter
and every item is taken, the frames are on the line among noise that does not decode, and `s` is the
only connection of the viewer. -/
structure TelemetryWay (c : Setup) (ins : ℕ → CycleInput) (n : ℕ) (actions : List ExportAction)
    (items : List LinkItem) (v : Viewer) (s : Session) : Prop where
  published : List.Forall₂ ExportRequest.CarriedBy (exportsBefore c ins n)
    (publications exportCreated actions)
  taken : deliveries (departures exportCreated actions) = publications exportCreated actions
  sent : messagesOf items =
    (deliveries (departures exportCreated actions)).map ExportItem.message
  /-- The clock of the transmitter does not go back, and has not run for 2^64 microseconds. -/
  clock : (exportsBefore c ins n).Pairwise fun a b => a.timestampUs ≤ b.timestampUs
  range : ∀ r ∈ exportsBefore c ins n, 0 ≤ r.timestampUs ∧ r.timestampUs < 2 ^ 64
  noise : UndecodableNoise items
  session : linkCalls v.calls = s.calls
  stream : s.chunks.flatten = items.flatMap LinkItem.bytes

section Way

variable {c : Setup} {ins : ℕ → CycleInput} {n : ℕ} {actions : List ExportAction}
  {items : List LinkItem} {requestedPort : Option String} {turns : List Turn} {s : Session}

/-- The timestamps of the items are those of the requests, in order. -/
theorem TelemetryWay.times {v : Viewer} (h : TelemetryWay c ins n actions items v s) :
    (publications exportCreated actions).Pairwise
      fun a b => a.timestampUs.toNat ≤ b.timestampUs.toNat := by
  have hstamps : (publications exportCreated actions).map (fun item => item.timestampUs.toNat) =
      (exportsBefore c ins n).map fun request => request.timestampUs.toNat := by
    have hpublished := h.published
    have hrange := h.range
    generalize exportsBefore c ins n = requests at *
    generalize publications exportCreated actions = published at *
    induction hpublished with
    | nil => rfl
    | @cons request item requests published hcarried _ ih =>
      obtain ⟨hfirst, hrange⟩ := List.forall_mem_cons.1 hrange
      have hstamp : item.timestampUs = BitVec.ofInt 64 request.timestampUs := by
        cases request with
        | bayang => exact hcarried.2.2.1
        | localState => exact hcarried.2.2
      rw [List.map_cons, List.map_cons, ih hrange, hstamp, BitVec.toNat_ofInt]
      congr 1
      omega
  have hpairwise : ((exportsBefore c ins n).map fun request =>
      request.timestampUs.toNat).Pairwise (· ≤ ·) :=
    List.pairwise_map.2 (h.clock.imp fun hle => Int.toNat_le_toNat hle)
  rw [← hstamps] at hpairwise
  exact List.pairwise_map.1 hpairwise

/-- The packets on the way have a valid checksum. -/
theorem TelemetryWay.checked {v : Viewer} (h : TelemetryWay c ins n actions items v s) :
    ∀ item ∈ publications exportCreated actions,
      item.messageType = pcTelemetryMessageRawBayang → bayangCheckTelemetry item.packet = true := by
  intro item hitem htype
  have hmem : item.packet ∈ (acceptedBefore c ins n).map Reception.packet := by
    rw [← requestedPackets_exportsBefore, ← (items_of_requests h.published).1]
    exact List.mem_map_of_mem (List.mem_filter.2 ⟨hitem, by simpa using htype⟩)
  obtain ⟨r, hr, heq⟩ := List.mem_map.1 hmem
  rw [← heq]
  exact check_acceptedBefore c ins n r hr

/-- The viewer shows what was published. -/
theorem TelemetryWay.shown
    (h : TelemetryWay c ins n actions items (Viewer.loop requestedPort turns).shutdown s) :
    (Viewer.loop requestedPort turns).shutdown.model.fc.view =
        FcView.receiveAll {} (sentPackets (publications exportCreated actions)) ∧
      (Viewer.loop requestedPort turns).shutdown.model.localState =
        (sentStates (publications exportCreated actions)).getLast?.map LocalState.ofFirmware := by
  obtain ⟨sessions, blocks, -, hreplays, hcut, hlinks, -⟩ := loop_closed requestedPort turns
  obtain ⟨hshutdown, hlink, -⟩ := shutdown_cases (Viewer.loop requestedPort turns)
  -- the work is that of the only connection
  have hwork : (workOf blocks.flatten).map Prod.fst = sessionWork [] s.chunks := by
    have hone := play_sessions [s]
    rw [List.flatMap_singleton, List.flatMap_singleton, ← h.session, hlink, hlinks,
      play_sessions] at hone
    rw [hcut, hone]
  have hreceived := recordsOf_stream h.stream h.noise hwork
  rw [h.sent, h.taken] at hreceived
  have hstart : Shows {} [] := ⟨rfl, rfl, rfl⟩
  have hshows := hstart.acceptAll hreceived h.times (items_of_requests h.published).2.2 h.checked
  rw [List.nil_append] at hshows
  -- the model differs from that of the records in its counters only
  obtain ⟨count, hsame⟩ := sameTelemetry_replay (workOf blocks.flatten)
  rw [hshutdown, hreplays.model, hsame]
  exact ⟨hshows.view, hshows.localState⟩

/-- The transmitter has the packets before the overlay. -/
theorem TelemetryWay.telemetry {v : Viewer} (h : TelemetryWay c ins n actions items v s) :
    (loopState c ins n).telemetry.view = FcView.receiveAll {}
      (((publications exportCreated actions).filter fun item =>
        item.messageType = pcTelemetryMessageRawBayang).map ExportItem.packet) := by
  have hfeed := view_telemetryFeed freshUntilSeen_telemetryInit (acceptedBefore c ins n)
  rw [← telemetry_loopState] at hfeed
  rw [(items_of_requests h.published).1, requestedPackets_exportsBefore]
  exact hfeed

end Way

/-! ### One packet and one local state on their way -/

end SilverwareTx
