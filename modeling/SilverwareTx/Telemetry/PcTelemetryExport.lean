import SilverwareTx.Lib.LossyStream
import SilverwareTx.Telemetry.PcTelemetryProtocol

/-!
# The telemetry exporter (`telemetry/pc_telemetry_export.cpp`)

The control task publishes, the export task takes and writes; they share a FreeRTOS queue and
nothing else. A step of the model is one queue call of either task, so a list of `ExportAction`s is
an interleaving: `enqueue` is up to three steps, and `EnqueueStage` says how far it is.

`ExportRun` adds the history of the queue (`LossyStream.History`), which the calls' outcomes spell;
`exportRun_inv` connects the two.
-/

namespace SilverwareTx

open LossyStream

/-- `EXPORT_QUEUE_LENGTH` -/
def exportQueueLength : ℕ := 16

/-- `struct ExportItem`; the defaults are those of `= {}`. -/
structure ExportItem where
  messageType : U8
  sequence : U16
  timestampUs : U64
  packet : Packet := Vector.replicate 15 0
  overlaySavedFlightConfig : Bool := false
  savedAuxFlags : U8 := 0
  localState : PcTelemetryLocalState := {}

/-- How far `enqueue` is: it found the queue full, or has made room. -/
inductive EnqueueStage
  | done
  | full (item : ExportItem)
  | retry (item : ExportItem)

/-- The item of an `enqueue` that has not returned. -/
def EnqueueStage.item : EnqueueStage → Option ExportItem
  | .done => none
  | .full item => some item
  | .retry item => some item

/-- The statics of the exporter; `exportQueue` is `none` while the queue is not created. -/
structure ExportModule where
  exportQueue : Option (List ExportItem) := none
  nextBayangSequence : U16 := 0
  nextLocalStateSequence : U16 := 0
  exportQueueDrops : U32 := 0
  stage : EnqueueStage := .done

/-- What a queue call did: an item came in, or the oldest one was discarded or taken. -/
inductive ExportEvent
  | queued (item : ExportItem)
  | discarded (item : ExportItem)
  | taken (item : ExportItem)

/-! ### The functions of the exporter -/

/-- `xQueueSend` without waiting. -/
def xQueueSend (queue : List ExportItem) (item : ExportItem) : Bool × List ExportItem :=
  if queue.length < exportQueueLength then (true, queue ++ [item]) else (false, queue)

/-- `xQueueReceive` without waiting. -/
def xQueueReceive : List ExportItem → Option ExportItem × List ExportItem
  | [] => (none, [])
  | item :: queue => (some item, queue)

/-- The first call of `enqueue`. -/
def enqueueSend (m : ExportModule) (item : ExportItem) : ExportModule × Option ExportEvent :=
  match m.exportQueue with
  | none => (m, none)
  | some queue =>
    match xQueueSend queue item with
    | (true, queue) => ({ m with exportQueue := some queue }, some (.queued item))
    | (false, queue) => ({ m with exportQueue := some queue, stage := .full item }, none)

/-- The second call of `enqueue`, which counts what it discards. -/
def enqueueDiscard (m : ExportModule) : ExportModule × Option ExportEvent :=
  match m.exportQueue, m.stage with
  | some queue, .full item =>
    match xQueueReceive queue with
    | (some discarded, queue) =>
      ({ m with
          exportQueue := some queue
          exportQueueDrops := m.exportQueueDrops + 1
          stage := .retry item }, some (.discarded discarded))
    | (none, queue) => ({ m with exportQueue := some queue, stage := .retry item }, none)
  | _, _ => (m, none)

/-- The third call of `enqueue`, whose result is not looked at. -/
def enqueueResend (m : ExportModule) : ExportModule × Option ExportEvent :=
  match m.exportQueue, m.stage with
  | some queue, .retry item =>
    match xQueueSend queue item with
    | (true, queue) => ({ m with exportQueue := some queue, stage := .done }, some (.queued item))
    | (false, queue) => ({ m with exportQueue := some queue, stage := .done }, none)
  | _, _ => (m, none)

/-- The queue call of `export_task`. -/
def exportTaskReceive (m : ExportModule) : ExportModule × Option ExportEvent :=
  match m.exportQueue with
  | none => (m, none)
  | some queue =>
    match xQueueReceive queue with
    | (some item, queue) => ({ m with exportQueue := some queue }, some (.taken item))
    | (none, _) => (m, none)

/-- `pc_telemetry_export_init`, by whether the queue and the task can be created. -/
def pcTelemetryExportInit (m : ExportModule) (queueCreated taskCreated : Bool) :
    Bool × ExportModule :=
  if !queueCreated then (false, { m with exportQueue := none })
  else if !taskCreated then (false, { m with exportQueue := none })
  else (true, { m with exportQueue := some [] })

/-- `pc_telemetry_export_drop_count` -/
def pcTelemetryExportDropCount (m : ExportModule) : U32 := m.exportQueueDrops

/-- The item of `pc_telemetry_export_publish_bayang`. -/
def bayangItem (m : ExportModule) (packet : Packet) (timestampUs : ℤ)
    (overlaySavedFlightConfig : Bool) (savedAuxFlags : U8) : ExportItem where
  messageType := pcTelemetryMessageRawBayang
  sequence := m.nextBayangSequence
  timestampUs := BitVec.ofInt 64 timestampUs
  packet := packet
  overlaySavedFlightConfig := overlaySavedFlightConfig
  savedAuxFlags := savedAuxFlags

/-- The item of `pc_telemetry_export_publish_local_state`. -/
def localStateItem (m : ExportModule) (state : PcTelemetryLocalState) (timestampUs : ℤ) :
    ExportItem where
  messageType := pcTelemetryMessageLocalState
  sequence := m.nextLocalStateSequence
  timestampUs := BitVec.ofInt 64 timestampUs
  localState := state

/-- `pc_telemetry_export_publish_bayang` up to the first call of `enqueue`. -/
def pcTelemetryExportPublishBayang (m : ExportModule) (packet : Packet) (timestampUs : ℤ)
    (overlaySavedFlightConfig : Bool) (savedAuxFlags : U8) : ExportModule × Option ExportEvent :=
  enqueueSend { m with nextBayangSequence := m.nextBayangSequence + 1 }
    (bayangItem m packet timestampUs overlaySavedFlightConfig savedAuxFlags)

/-- `pc_telemetry_export_publish_local_state` up to the first call of `enqueue`. -/
def pcTelemetryExportPublishLocalState (m : ExportModule) (state : PcTelemetryLocalState)
    (timestampUs : ℤ) : ExportModule × Option ExportEvent :=
  enqueueSend { m with nextLocalStateSequence := m.nextLocalStateSequence + 1 }
    (localStateItem m state timestampUs)

/-- A step of the interleaving: a publishing function up to its first queue call, one of the other
calls of `enqueue`, or the call of `export_task`. -/
inductive ExportAction
  | publishBayang (packet : Packet) (timestampUs : ℤ) (overlaySavedFlightConfig : Bool)
      (savedAuxFlags : U8)
  | publishLocalState (state : PcTelemetryLocalState) (timestampUs : ℤ)
  | discard
  | resend
  | take

/-- There is one publisher: it publishes only when its last call has returned. -/
def exportStep (m : ExportModule) (a : ExportAction) : ExportModule × Option ExportEvent :=
  match m.stage, a with
  | .done, .publishBayang packet timestampUs overlaySavedFlightConfig savedAuxFlags =>
    pcTelemetryExportPublishBayang m packet timestampUs overlaySavedFlightConfig savedAuxFlags
  | .done, .publishLocalState state timestampUs =>
    pcTelemetryExportPublishLocalState m state timestampUs
  | _, .discard => enqueueDiscard m
  | _, .resend => enqueueResend m
  | _, .take => exportTaskReceive m
  | _, _ => (m, none)

/-! ### What the export task writes -/

/-- The body of `export_task` for an item: the frame length, 0 on failure, and the buffer. -/
def exportFrame (frame : FrameBuffer) (item : ExportItem) : ℕ × List U8 :=
  if item.messageType = pcTelemetryMessageRawBayang then
    let packet :=
      if item.overlaySavedFlightConfig then
        (pcTelemetryOverlaySavedFlightConfig item.packet item.savedAuxFlags).2
      else item.packet
    pcTelemetryEncodeFrame (pcTelemetryMakeSample packet item.timestampUs item.sequence) frame.toList
      pcTelemetryMaxFrameSize
  else if item.messageType = pcTelemetryMessageLocalState then
    pcTelemetryEncodeLocalStateFrame item.localState item.sequence item.timestampUs frame.toList
      pcTelemetryMaxFrameSize
  else (0, frame.toList)

/-- What goes to the serial port for an item. -/
def exportWrite (frame : FrameBuffer) (item : ExportItem) : List U8 :=
  let result := exportFrame frame item
  if result.1 ≠ 0 then result.2.take result.1 else []

/-! ### Runs -/

/-- The module with the history of its queue. -/
structure ExportRun where
  module : ExportModule
  history : History ExportItem

/-- What a queue call does to the history. -/
def recordEvent (h : History ExportItem) : Option ExportEvent → History ExportItem
  | none => h
  | some (.queued item) => h.push item
  | some (.discarded _) => h.settle false
  | some (.taken _) => h.settle true

/-- The run after a queue call with its outcome. -/
def afterCall (h : History ExportItem) (outcome : ExportModule × Option ExportEvent) : ExportRun where
  module := outcome.1
  history := recordEvent h outcome.2

/-- The run after an action of either task. -/
def ExportRun.step (r : ExportRun) (a : ExportAction) : ExportRun :=
  afterCall r.history (exportStep r.module a)

/-- The exporter when both could be created. -/
def exportCreated : ExportModule := (pcTelemetryExportInit {} true true).2

/-- The run of an interleaving. -/
def exportRun (actions : List ExportAction) : ExportRun :=
  actions.foldl ExportRun.step { module := exportCreated, history := {} }

/-- The items whose publication has begun. -/
def ExportRun.begun (r : ExportRun) : List ExportItem :=
  r.history.published ++ r.module.stage.item.toList

/-- The item that a publishing function puts on its way in a step. -/
def publishItem (m : ExportModule) (a : ExportAction) : Option ExportItem :=
  match m.stage, a with
  | .done, .publishBayang packet timestampUs overlaySavedFlightConfig savedAuxFlags =>
    some (bayangItem m packet timestampUs overlaySavedFlightConfig savedAuxFlags)
  | .done, .publishLocalState state timestampUs => some (localStateItem m state timestampUs)
  | _, _ => none

/-- The items given to the publishing functions, in order. -/
def publications (m : ExportModule) : List ExportAction → List ExportItem
  | [] => []
  | a :: actions => (publishItem m a).toList ++ publications (exportStep m a).1 actions

/-- The item that leaves the queue, with whether the export task took it. -/
def ExportEvent.departure : ExportEvent → Option (ExportItem × Bool)
  | .queued _ => none
  | .discarded item => some (item, false)
  | .taken item => some (item, true)

/-- The items that left the queue, in order, with whether the export task took them. -/
def departures (m : ExportModule) : List ExportAction → List (ExportItem × Bool)
  | [] => []
  | a :: actions =>
    ((exportStep m a).2.bind ExportEvent.departure).toList ++ departures (exportStep m a).1 actions

/-- The queue is what waits in the history, and the drops are its losses. After the second call of
`enqueue` there is room, and when it has returned its item is not lost. -/
structure ExportRun.QueueInv (r : ExportRun) : Prop where
  queue : r.module.exportQueue = some r.history.waiting
  length_le : r.history.waiting.length ≤ exportQueueLength
  room : ∀ item, r.module.stage = .retry item → r.history.waiting.length < exportQueueLength
  drops : r.module.exportQueueDrops = BitVec.ofNat 32 r.history.losses
  kept : r.module.stage = .done →
    (r.history.delivered ++ r.history.waiting).getLast? = r.history.published.getLast?

/-- Each type is numbered on its own, modulo 2^16, in the order of publication. -/
structure ExportRun.SequenceInv (r : ExportRun) : Prop where
  numbered : Numbered ExportItem.messageType (fun item => item.sequence.toNat) 65536 r.begun
  bayang : r.module.nextBayangSequence.toNat =
    r.begun.countP (fun item => decide (item.messageType = pcTelemetryMessageRawBayang)) % 65536
  localState : r.module.nextLocalStateSequence.toNat =
    r.begun.countP (fun item => decide (item.messageType = pcTelemetryMessageLocalState)) % 65536
  types : ∀ item ∈ r.begun, item.messageType = pcTelemetryMessageRawBayang ∨
    item.messageType = pcTelemetryMessageLocalState

/-! ### The invariants -/

/-- What a queue call keeps: the items begun and the sequence counters. -/
structure SameBegun (r r' : ExportRun) : Prop where
  begun : r'.begun = r.begun
  bayang : r'.module.nextBayangSequence = r.module.nextBayangSequence
  localState : r'.module.nextLocalStateSequence = r.module.nextLocalStateSequence

theorem getLast?_push (h : History ExportItem) (item : ExportItem) :
    ((h.push item).delivered ++ (h.push item).waiting).getLast? =
      (h.push item).published.getLast? := by
  simp [History.push, History.published, ← List.append_assoc]

section Calls

variable {r : ExportRun} (h : r.QueueInv)

include h

/-- The first call of `enqueue` queues the item or finds the queue full. -/
theorem queueInv_enqueueSend {m : ExportModule} (hqueue : m.exportQueue = r.module.exportQueue)
    (hdrops : m.exportQueueDrops = r.module.exportQueueDrops) (hstage : m.stage = .done)
    (item : ExportItem) :
    (afterCall r.history (enqueueSend m item)).QueueInv ∧
      (afterCall r.history (enqueueSend m item)).begun = r.history.published ++ [item] ∧
      (enqueueSend m item).1.nextBayangSequence = m.nextBayangSequence ∧
      (enqueueSend m item).1.nextLocalStateSequence = m.nextLocalStateSequence := by
  have hsome : m.exportQueue = some r.history.waiting := hqueue.trans h.queue
  by_cases hfull : r.history.waiting.length < exportQueueLength
  · have hcall : enqueueSend m item =
        ({ m with exportQueue := some (r.history.waiting ++ [item]) }, some (.queued item)) := by
      simp only [enqueueSend, hsome, xQueueSend, if_pos hfull]
    rw [hcall]
    refine ⟨⟨rfl, ?_, fun x hx => ?_, hdrops.trans h.drops, fun _ => ?_⟩, ?_, rfl, rfl⟩
    · rw [afterCall, recordEvent, History.push, List.length_append, List.length_singleton]
      omega
    · rw [afterCall, hstage] at hx
      exact EnqueueStage.noConfusion hx
    · exact getLast?_push r.history item
    · simp [ExportRun.begun, afterCall, recordEvent, hstage, EnqueueStage.item]
  · have hcall : enqueueSend m item =
        ({ m with exportQueue := some r.history.waiting, stage := .full item }, none) := by
      simp only [enqueueSend, hsome, xQueueSend, if_neg hfull]
    rw [hcall]
    refine ⟨⟨rfl, h.length_le, fun x hx => ?_, hdrops.trans h.drops, fun hx => ?_⟩, rfl, rfl, rfl⟩
    · exact EnqueueStage.noConfusion hx
    · exact EnqueueStage.noConfusion hx

/-- The second call makes room. -/
theorem queueInv_enqueueDiscard :
    (afterCall r.history (enqueueDiscard r.module)).QueueInv ∧
      SameBegun r (afterCall r.history (enqueueDiscard r.module)) := by
  obtain ⟨⟨queue, bayang, localState, drops, stage⟩, ⟨settled, waiting⟩⟩ := r
  obtain ⟨hqueue, hle, hroom, hdrops, hkept⟩ := h
  simp only at hqueue hle hroom hdrops hkept
  subst hqueue
  cases stage with
  | done => exact ⟨⟨rfl, hle, hroom, hdrops, hkept⟩, rfl, rfl, rfl⟩
  | retry item => exact ⟨⟨rfl, hle, hroom, hdrops, hkept⟩, rfl, rfl, rfl⟩
  | full item =>
    cases waiting with
    | nil =>
      refine ⟨⟨rfl, Nat.zero_le _, fun _ _ => ?_, hdrops, fun hx => ?_⟩, rfl, rfl, rfl⟩
      · exact Nat.zero_lt_succ 15
      · exact EnqueueStage.noConfusion hx
    | cons oldest rest =>
      rw [List.length_cons] at hle
      refine ⟨⟨rfl, ?_, fun _ _ => ?_, ?_, fun hx => EnqueueStage.noConfusion hx⟩, ?_, rfl, rfl⟩
      · exact Nat.le_of_succ_le hle
      · exact hle
      · have hlost : (afterCall ⟨settled, oldest :: rest⟩ (enqueueDiscard
            ⟨some (oldest :: rest), bayang, localState, drops, .full item⟩)).history.losses =
            History.losses ⟨settled, oldest :: rest⟩ + 1 := by
          simp [afterCall, enqueueDiscard, xQueueReceive, recordEvent, History.settle,
            History.losses]
        rw [hlost, BitVec.ofNat_add, ← hdrops]
        rfl
      · simp [ExportRun.begun, afterCall, enqueueDiscard, xQueueReceive, recordEvent,
          EnqueueStage.item]

/-- The third call finds room. -/
theorem queueInv_enqueueResend :
    (afterCall r.history (enqueueResend r.module)).QueueInv ∧
      SameBegun r (afterCall r.history (enqueueResend r.module)) := by
  obtain ⟨⟨queue, bayang, localState, drops, stage⟩, ⟨settled, waiting⟩⟩ := r
  obtain ⟨hqueue, hle, hroom, hdrops, hkept⟩ := h
  simp only at hqueue hle hroom hdrops hkept
  subst hqueue
  cases stage with
  | done => exact ⟨⟨rfl, hle, hroom, hdrops, hkept⟩, rfl, rfl, rfl⟩
  | full item => exact ⟨⟨rfl, hle, hroom, hdrops, hkept⟩, rfl, rfl, rfl⟩
  | retry item =>
    have hlt : waiting.length < exportQueueLength := hroom item rfl
    have hcall : enqueueResend ⟨some waiting, bayang, localState, drops, .retry item⟩ =
        (⟨some (waiting ++ [item]), bayang, localState, drops, .done⟩, some (.queued item)) := by
      simp only [enqueueResend, xQueueSend, if_pos hlt]
    rw [hcall]
    refine ⟨⟨rfl, ?_, fun x hx => EnqueueStage.noConfusion hx, hdrops, fun _ => ?_⟩, ?_, rfl, rfl⟩
    · rw [afterCall, recordEvent, History.push, List.length_append, List.length_singleton]
      exact hlt
    · exact getLast?_push ⟨settled, waiting⟩ item
    · simp [ExportRun.begun, afterCall, recordEvent, EnqueueStage.item]

/-- The export task takes the oldest item. -/
theorem queueInv_exportTaskReceive :
    (afterCall r.history (exportTaskReceive r.module)).QueueInv ∧
      SameBegun r (afterCall r.history (exportTaskReceive r.module)) := by
  obtain ⟨⟨queue, bayang, localState, drops, stage⟩, ⟨settled, waiting⟩⟩ := r
  obtain ⟨hqueue, hle, hroom, hdrops, hkept⟩ := h
  simp only at hqueue hle hroom hdrops hkept
  subst hqueue
  cases waiting with
  | nil => exact ⟨⟨rfl, hle, hroom, hdrops, hkept⟩, rfl, rfl, rfl⟩
  | cons oldest rest =>
    rw [List.length_cons] at hle hroom
    refine ⟨⟨rfl, ?_, fun item hitem => ?_, ?_, fun hdone => ?_⟩, ?_, rfl, rfl⟩
    · exact Nat.le_of_succ_le hle
    · exact Nat.lt_of_succ_lt (hroom item hitem)
    · rw [hdrops]
      simp [afterCall, exportTaskReceive, xQueueReceive, recordEvent, History.settle,
        History.losses]
    · have hlast := hkept hdone
      rw [← History.delivered_append_waiting_settle_true,
        ← History.published_settle ⟨settled, oldest :: rest⟩ true] at hlast
      exact hlast
    · simp [ExportRun.begun, afterCall, exportTaskReceive, xQueueReceive, recordEvent]

end Calls

/-! ### Every step -/

/-- A step either begins the publication of an item, which takes its number, or keeps what is
begun. -/
theorem step_inv {r : ExportRun} (h : r.QueueInv) (a : ExportAction) :
    (r.step a).QueueInv ∧
      match publishItem r.module a with
      | some item =>
        (r.step a).begun = r.begun ++ [item] ∧
          (r.step a).module.nextBayangSequence = r.module.nextBayangSequence +
            (if item.messageType = pcTelemetryMessageRawBayang then 1 else 0) ∧
          (r.step a).module.nextLocalStateSequence = r.module.nextLocalStateSequence +
            (if item.messageType = pcTelemetryMessageLocalState then 1 else 0)
      | none => SameBegun r (r.step a) := by
  have hsame : r.QueueInv ∧ SameBegun r r := ⟨h, rfl, rfl, rfl⟩
  have hne : pcTelemetryMessageLocalState ≠ pcTelemetryMessageRawBayang := by decide
  unfold ExportRun.step exportStep publishItem
  cases hstage : r.module.stage with
  | done =>
    have hbegun : r.begun = r.history.published := by
      simp [ExportRun.begun, hstage, EnqueueStage.item]
    rw [hbegun]
    cases a with
    | publishBayang packet timestampUs overlay flags =>
      obtain ⟨hinv, hnext, hb, hl⟩ := queueInv_enqueueSend h
        (m := { r.module with nextBayangSequence := r.module.nextBayangSequence + 1 }) rfl rfl hstage
        (bayangItem r.module packet timestampUs overlay flags)
      refine ⟨hinv, hnext, hb.trans ?_, hl.trans ?_⟩
      · rw [bayangItem, if_pos rfl]
      · rw [bayangItem, if_neg hne.symm]
        exact (BitVec.add_zero _).symm
    | publishLocalState state timestampUs =>
      obtain ⟨hinv, hnext, hb, hl⟩ := queueInv_enqueueSend h
        (m := { r.module with nextLocalStateSequence := r.module.nextLocalStateSequence + 1 }) rfl rfl
        hstage (localStateItem r.module state timestampUs)
      refine ⟨hinv, hnext, hb.trans ?_, hl.trans ?_⟩
      · rw [localStateItem, if_neg hne]
        exact (BitVec.add_zero _).symm
      · rw [localStateItem, if_pos rfl]
    | discard => exact queueInv_enqueueDiscard h
    | resend => exact queueInv_enqueueResend h
    | take => exact queueInv_exportTaskReceive h
  -- while a publication waits, another one cannot begin
  | full item =>
    cases a with
    | publishBayang packet timestampUs overlay flags => exact hsame
    | publishLocalState state timestampUs => exact hsame
    | discard => exact queueInv_enqueueDiscard h
    | resend => exact queueInv_enqueueResend h
    | take => exact queueInv_exportTaskReceive h
  | retry item =>
    cases a with
    | publishBayang packet timestampUs overlay flags => exact hsame
    | publishLocalState state timestampUs => exact hsame
    | discard => exact queueInv_enqueueDiscard h
    | resend => exact queueInv_enqueueResend h
    | take => exact queueInv_exportTaskReceive h

/-- The item of a step is of one of the two types and carries the next number of its type. -/
theorem publishItem_spec {m : ExportModule} {a : ExportAction} {item : ExportItem}
    (h : publishItem m a = some item) :
    (item.messageType = pcTelemetryMessageRawBayang ∧ item.sequence = m.nextBayangSequence) ∨
      (item.messageType = pcTelemetryMessageLocalState ∧
        item.sequence = m.nextLocalStateSequence) := by
  unfold publishItem at h
  split at h
  · obtain rfl := Option.some.inj h
    exact .inl ⟨rfl, rfl⟩
  · obtain rfl := Option.some.inj h
    exact .inr ⟨rfl, rfl⟩
  · cases h

theorem toNat_sequence_succ {n : U16} {k : ℕ} (h : n.toNat = k % 65536) :
    (n + 1).toNat = (k + 1) % 65536 := by
  rw [BitVec.toNat_add, h, show (1 : U16).toNat = 1 from rfl]
  omega

theorem ExportRun.SequenceInv.step {r : ExportRun} (hq : r.QueueInv) (h : r.SequenceInv)
    (a : ExportAction) : (r.step a).SequenceInv := by
  have hstep := (step_inv hq a).2
  cases hitem : publishItem r.module a with
  | none =>
    rw [hitem] at hstep
    obtain ⟨hbegun, hbayang, hlocal⟩ := hstep
    refine ⟨?_, ?_, ?_, ?_⟩
    · rw [hbegun]
      exact h.numbered
    · rw [hbegun, hbayang]
      exact h.bayang
    · rw [hbegun, hlocal]
      exact h.localState
    · rw [hbegun]
      exact h.types
  | some item =>
    rw [hitem] at hstep
    obtain ⟨hbegun, hbayang, hlocal⟩ := hstep
    have hne : pcTelemetryMessageLocalState ≠ pcTelemetryMessageRawBayang := by decide
    -- only the number of the type of the item moves on
    rcases publishItem_spec hitem with ⟨htype, hseq⟩ | ⟨htype, hseq⟩
    · refine ⟨?_, ?_, ?_, ?_⟩
      · rw [hbegun]
        refine h.numbered.concat ?_
        rw [hseq, h.bayang, htype]
      · rw [hbegun, hbayang, if_pos htype, List.countP_append]
        simpa [htype] using toNat_sequence_succ h.bayang
      · rw [hbegun, hlocal, htype, if_neg hne.symm, List.countP_append]
        simpa [htype, hne.symm] using h.localState
      · rw [hbegun]
        intro x hx
        rcases List.mem_append.1 hx with hx | hx
        · exact h.types x hx
        · obtain rfl := List.mem_singleton.1 hx
          exact .inl htype
    · refine ⟨?_, ?_, ?_, ?_⟩
      · rw [hbegun]
        refine h.numbered.concat ?_
        rw [hseq, h.localState, htype]
      · rw [hbegun, hbayang, htype, if_neg hne, List.countP_append]
        simpa [htype, hne] using h.bayang
      · rw [hbegun, hlocal, if_pos htype, List.countP_append]
        simpa [htype] using toNat_sequence_succ h.localState
      · rw [hbegun]
        intro x hx
        rcases List.mem_append.1 hx with hx | hx
        · exact h.types x hx
        · obtain rfl := List.mem_singleton.1 hx
          exact .inr htype

/-- **The exporter keeps its history**: in every interleaving the queue is what waits, the drops are
the losses and each type is numbered in the order of publication. -/
theorem exportRun_inv (actions : List ExportAction) :
    (exportRun actions).QueueInv ∧ (exportRun actions).SequenceInv := by
  induction actions using List.reverseRecOn with
  | nil =>
    have hbegun : (exportRun []).begun = [] := rfl
    refine ⟨⟨rfl, Nat.zero_le _, fun _ h => EnqueueStage.noConfusion h, rfl, fun _ => rfl⟩,
      ⟨?_, rfl, rfl, ?_⟩⟩
    · intro front x back h
      rw [hbegun] at h
      exact absurd h.symm (List.append_ne_nil_of_right_ne_nil _ (List.cons_ne_nil _ _))
    · intro item hitem
      rw [hbegun] at hitem
      exact absurd hitem List.not_mem_nil
  | append_singleton actions a ih =>
    have hrun : exportRun (actions ++ [a]) = (exportRun actions).step a := by
      rw [exportRun, List.foldl_append]
      rfl
    rw [hrun]
    exact ⟨(step_inv ih.1 a).1, ih.2.step ih.1 a⟩

/-! ### The history in terms of the calls -/

/-- What leaves the queue is its oldest item. -/
theorem head_of_departure {m : ExportModule} {a : ExportAction} {item : ExportItem} {fate : Bool}
    (h : (exportStep m a).2.bind ExportEvent.departure = some (item, fate)) :
    ∃ rest, m.exportQueue = some (item :: rest) := by
  have hsend : ∀ m item, (enqueueSend m item).2.bind ExportEvent.departure = none := by
    intro m item
    unfold enqueueSend
    split
    · rfl
    · split <;> rfl
  have hdiscard : (enqueueDiscard m).2.bind ExportEvent.departure = some (item, fate) →
      ∃ rest, m.exportQueue = some (item :: rest) := by
    unfold enqueueDiscard
    split
    · next queue _ hqueue _ =>
      cases queue with
      | nil => intro h; cases h
      | cons oldest rest =>
        intro h
        cases h
        exact ⟨rest, hqueue⟩
    · intro h
      cases h
  have hresend : (enqueueResend m).2.bind ExportEvent.departure = none := by
    unfold enqueueResend
    split
    · split <;> rfl
    · rfl
  have htake : (exportTaskReceive m).2.bind ExportEvent.departure = some (item, fate) →
      ∃ rest, m.exportQueue = some (item :: rest) := by
    unfold exportTaskReceive
    split
    · intro h
      cases h
    · next queue hqueue =>
      cases queue with
      | nil => intro h; cases h
      | cons oldest rest =>
        intro h
        cases h
        exact ⟨rest, hqueue⟩
  unfold exportStep at h
  split at h
  · rw [pcTelemetryExportPublishBayang, hsend] at h
    cases h
  · rw [pcTelemetryExportPublishLocalState, hsend] at h
    cases h
  · exact hdiscard h
  · rw [hresend] at h
    cases h
  · exact htake h
  · cases h

theorem settled_step {r : ExportRun} (h : r.QueueInv) (a : ExportAction) :
    (r.step a).history.settled = r.history.settled ++
      ((exportStep r.module a).2.bind ExportEvent.departure).toList := by
  have hhead : ∀ item fate, (exportStep r.module a).2.bind ExportEvent.departure = some (item, fate) →
      (r.history.settle fate).settled = r.history.settled ++ [(item, fate)] := by
    intro item fate hleaves
    obtain ⟨rest, hrest⟩ := head_of_departure hleaves
    rw [h.queue, Option.some.injEq] at hrest
    rw [History.settle, hrest]
  unfold ExportRun.step afterCall
  generalize (exportStep r.module a).2 = event at hhead
  cases event with
  | none => exact (List.append_nil _).symm
  | some event =>
    cases event with
    | queued item => exact (List.append_nil _).symm
    | discarded item => exact hhead item false rfl
    | taken item => exact hhead item true rfl

theorem begun_step {r : ExportRun} (h : r.QueueInv) (a : ExportAction) :
    (r.step a).begun = r.begun ++ (publishItem r.module a).toList := by
  have hstep := (step_inv h a).2
  cases hitem : publishItem r.module a with
  | none =>
    rw [hitem] at hstep
    rw [hstep.begun, Option.toList_none, List.append_nil]
  | some item =>
    rw [hitem] at hstep
    exact hstep.1

/-- A run appends its departures and its publications. -/
theorem history_of_calls {r : ExportRun} (h : r.QueueInv) (actions : List ExportAction) :
    (actions.foldl ExportRun.step r).history.settled =
        r.history.settled ++ departures r.module actions ∧
      (actions.foldl ExportRun.step r).begun = r.begun ++ publications r.module actions := by
  induction actions generalizing r with
  | nil => exact ⟨(List.append_nil _).symm, (List.append_nil _).symm⟩
  | cons a actions ih =>
    obtain ⟨hsettled, hbegun⟩ := ih (step_inv h a).1
    rw [List.foldl_cons, hsettled, hbegun, settled_step h, begun_step h, List.append_assoc,
      List.append_assoc]
    exact ⟨rfl, rfl⟩

end SilverwareTx
