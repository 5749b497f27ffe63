import SilverwareTx.GroundStation.ViewerLoop

/-!
# Replaying recorded chunks

The recorder gets every chunk that was read, between the calls that open and close its connection.
`play` cuts the recorded chunks again, as the viewer does, and `replay` gives the segments to a new
model. A run is the list of its moments, and `toldFrom` says what the tracker is told at each of
them, by the model that has been replayed up to it. `takeChunk_replays` says that a chunk keeps the
viewer in step with this replay (`Replays`, `InStep`), whatever is in it.
-/

namespace SilverwareTx.GroundStation

open DelimitedStream

/-- What is done with the model for a chunk. -/
inductive Work
  | segment (encoded : List U8)
  | overflow
  deriving DecidableEq

/-- The work of a chunk, and the buffer after it. -/
def chunkWork (buffer chunk : List U8) : List Work × List U8 :=
  let read := readStep buffer chunk
  (read.1.map Work.segment ++
    (if (openTail 0 (buffer ++ chunk)).length > serialBufferLimit then [.overflow] else []),
    read.2)

/-- A recorded call, with the work so far and the buffer. -/
def playCall (state : List Work × List U8) : RecorderCall → List Work × List U8
  | .connected _ _ => (state.1, [])
  | .disconnected _ _ => (state.1, [])
  | .raw chunk _ => (state.1 ++ (chunkWork state.2 chunk).1, (chunkWork state.2 chunk).2)
  | _ => state

/-- The work of the recorded chunks, and what is left in the buffer. -/
def play (calls : List RecorderCall) : List Work × List U8 := calls.foldl playCall ([], [])

/-- How a piece of work is taken at some time. -/
def workOn (model : TelemetryModel) : Work × ℚ → TelemetryModel
  | (.segment encoded, receivedAt) =>
    match takeSegment model encoded receivedAt with
    | (.ok _, model) => model
    | (.error _, model) => countMalformed model
  | (.overflow, _) => countMalformed model

/-- The model after some work. -/
def replay (work : List (Work × ℚ)) : TelemetryModel := work.foldl workOn {}

/-- The update of a piece of work, when its record is accepted. -/
def acceptedOf (model : TelemetryModel) : Work × ℚ → List ModelUpdate
  | (.segment encoded, receivedAt) =>
    match takeSegment model encoded receivedAt with
    | (.ok update, _) => [update]
    | (.error _, _) => []
  | (.overflow, _) => []

/-- What happens in a run, in order: a piece of work, at the time at which it is taken, and the
health events at the end of a turn. -/
inductive Moment
  | work (item : Work × ℚ)
  | health (now : ℚ)

/-- The work among some moments. -/
def workOf (moments : List Moment) : List (Work × ℚ) :=
  moments.filterMap fun moment => match moment with
    | .work item => some item
    | .health _ => none

/-- What the tracker is told at a moment, when the model is `model` before it: a record that is
accepted comes with the model after it, the health events with the model as it stands. -/
def tell (model : TelemetryModel) : Moment → List TrackerCall
  | .work item => (acceptedOf model item).map (TrackerCall.accept (workOn model item))
  | .health now => [.health model now]

/-- What the tracker is told at some moments, of a model that starts as `model`. -/
def toldFrom (model : TelemetryModel) : (moments : List Moment) → List TrackerCall
  | [] => []
  | moment :: moments =>
    tell model moment ++ toldFrom ((workOf [moment]).foldl workOn model) moments

/-- The tracker after a sequence of calls. -/
def EventTracker.after (self : EventTracker) (calls : List TrackerCall) : EventTracker :=
  calls.foldl (fun self call => (self.call call).2) self

/-- The flight events among the calls of the recorder. -/
def flightsOf (calls : List RecorderCall) : List FlightEvent :=
  calls.filterMap fun call => match call with
    | .flight event => some event
    | _ => none

/-- The counts of the warnings about malformed frames. -/
def malformedCounts (calls : List RecorderCall) : List ℕ :=
  calls.filterMap fun call => match call with
    | .malformedFrames _ count _ => some count
    | _ => none

/-- How often the buffer overflowed. -/
def overflowsOf (calls : List RecorderCall) : ℕ :=
  calls.countP fun call => match call with
    | .bufferOverflow => true
    | _ => false

/-- The calls about the serial link: connections and chunks. -/
def linkCalls (calls : List RecorderCall) : List RecorderCall :=
  calls.filter fun call => match call with
    | .connected _ _ | .disconnected _ _ | .raw _ _ => true
    | _ => false

section Lists

variable (calls calls' : List RecorderCall)

theorem play_append (calls calls' : List RecorderCall) :
    play (calls ++ calls') = calls'.foldl playCall (play calls) := List.foldl_append

theorem play_linkCalls (calls : List RecorderCall) : play (linkCalls calls) = play calls := by
  induction calls using List.reverseRecOn with
  | nil => rfl
  | append_singleton calls call ih =>
    rw [linkCalls, List.filter_append, play_append, ← linkCalls, ih, play_append]
    cases call <;> rfl

theorem linkCalls_append : linkCalls (calls ++ calls') = linkCalls calls ++ linkCalls calls' :=
  List.filter_append ..

theorem linkCalls_map_flight (events : List FlightEvent) :
    linkCalls (events.map RecorderCall.flight) = [] := by
  refine List.filter_eq_nil_iff.2 fun call h => ?_
  obtain ⟨event, -, rfl⟩ := List.mem_map.1 h
  exact Bool.false_ne_true

theorem flightsOf_append : flightsOf (calls ++ calls') = flightsOf calls ++ flightsOf calls' :=
  List.filterMap_append

theorem malformedCounts_append :
    malformedCounts (calls ++ calls') = malformedCounts calls ++ malformedCounts calls' :=
  List.filterMap_append

theorem overflowsOf_append :
    overflowsOf (calls ++ calls') = overflowsOf calls + overflowsOf calls' := List.countP_append

theorem flightsOf_map_flight (events : List FlightEvent) :
    flightsOf (events.map RecorderCall.flight) = events := by
  rw [flightsOf, List.filterMap_map]
  exact List.filterMap_some

theorem malformed_map_flight (events : List FlightEvent) :
    malformedCounts (events.map RecorderCall.flight) = [] ∧
      overflowsOf (events.map RecorderCall.flight) = 0 := by
  constructor
  · refine List.filterMap_eq_nil_iff.2 fun call h => ?_
    obtain ⟨event, -, rfl⟩ := List.mem_map.1 h
    rfl
  · refine List.countP_eq_zero.2 fun call h => ?_
    obtain ⟨event, -, rfl⟩ := List.mem_map.1 h
    exact Bool.false_ne_true

theorem run_append (self : EventTracker) (told told' : List TrackerCall) :
    self.run (told ++ told') = self.run told ++ (self.after told).run told' := by
  induction told generalizing self with
  | nil => rfl
  | cons first told ih =>
    rw [List.cons_append, EventTracker.run, ih, EventTracker.run, List.append_assoc]
    rfl

theorem after_append (self : EventTracker) (told told' : List TrackerCall) :
    self.after (told ++ told') = (self.after told).after told' := List.foldl_append

theorem replay_concat (work : List (Work × ℚ)) (item : Work × ℚ) :
    replay (work ++ [item]) = workOn (replay work) item := by
  rw [replay, List.foldl_append]
  rfl

theorem workOn_segment (model : TelemetryModel) (encoded : List U8) (receivedAt : ℚ) :
    workOn model (.segment encoded, receivedAt) = match takeSegment model encoded receivedAt with
      | (.ok _, model) => model
      | (.error _, model) => countMalformed model := rfl

theorem acceptedOf_segment (model : TelemetryModel) (encoded : List U8) (receivedAt : ℚ) :
    acceptedOf model (.segment encoded, receivedAt) =
      match takeSegment model encoded receivedAt with
      | (.ok update, _) => [update]
      | (.error _, _) => [] := rfl

theorem workOf_append (moments moments' : List Moment) :
    workOf (moments ++ moments') = workOf moments ++ workOf moments' := List.filterMap_append

theorem workOf_map_work (items : List (Work × ℚ)) : workOf (items.map Moment.work) = items := by
  rw [workOf, List.filterMap_map]
  exact List.filterMap_some

/-- At one more moment the model is the one replayed so far. -/
theorem toldFrom_concat (model : TelemetryModel) (moments : List Moment) (moment : Moment) :
    toldFrom model (moments ++ [moment]) =
      toldFrom model moments ++ tell ((workOf moments).foldl workOn model) moment := by
  induction moments generalizing model with
  | nil => exact List.append_nil _
  | cons first moments ih =>
    have hwork : workOf (first :: moments) = workOf [first] ++ workOf moments :=
      workOf_append [first] moments
    rw [List.cons_append, toldFrom, ih, toldFrom, List.append_assoc, hwork, List.foldl_append]

end Lists

theorem malformedFrames_accept (model : TelemetryModel) (record : BridgeRecord) (receivedAt : ℚ) :
    (model.accept record receivedAt).2.stats.malformedFrames = model.stats.malformedFrames := by
  have htrack : ∀ m : TelemetryModel,
      (m.trackSequence record).stats.malformedFrames = m.stats.malformedFrames := by
    intro m
    unfold TelemetryModel.trackSequence
    dsimp only
    split_ifs <;> rfl
  have htake : ∀ m : TelemetryModel,
      (m.takePayload record receivedAt).2.stats.malformedFrames = m.stats.malformedFrames := by
    intro m
    unfold TelemetryModel.takePayload
    split_ifs
    · split <;> rfl
    · split <;> rfl
  rw [TelemetryModel.accept]
  dsimp only
  generalize hself : (if model.espRestarted record = true then model.clearAfterRestart
    else model) = self
  have hclear : self.stats = model.stats := by
    rw [← hself]
    split_ifs <;> rfl
  have hafter := (htake _).trans (htrack { self with lastEspTimestamp := some record.timestampUs })
  split
  · next heq =>
    rw [heq] at hafter
    exact hafter.trans (congrArg DecoderStats.malformedFrames hclear)
  · next heq =>
    rw [heq] at hafter
    exact hafter.trans (congrArg DecoderStats.malformedFrames hclear)

theorem malformedFrames_takeSegment (model : TelemetryModel) (encoded : List U8) (receivedAt : ℚ) :
    (takeSegment model encoded receivedAt).2.stats.malformedFrames =
      model.stats.malformedFrames := by
  unfold takeSegment
  cases decodeBridgeFrame encoded with
  | error e => rfl
  | ok record => exact malformedFrames_accept model record receivedAt

/-! ### The invariant -/

/-- The state of the decoding is that of the moments passed. -/
structure Replays (v : Viewer) (moments : List Moment) : Prop where
  model : v.model = replay (workOf moments)
  tracker : v.tracker = ({} : EventTracker).after (toldFrom {} moments)
  flights : flightsOf v.calls = ({} : EventTracker).run (toldFrom {} moments)
  malformed : v.model.stats.malformedFrames =
    (malformedCounts v.calls).sum + v.malformedSinceEvent + overflowsOf v.calls

/-- The work done is that of the recording, and the buffer is what a replay has left. -/
structure InStep (v : Viewer) (moments : List Moment) : Prop where
  work : (workOf moments).map Prod.fst = (play v.calls).1
  buffer : v.buffer = (play v.calls).2
  noDelimiter : (0 : U8) ∉ v.buffer
  short : v.buffer.length ≤ serialBufferLimit

/-- Two states of the viewer with the same link, connected as before. -/
structure SameLink (v v' : Viewer) : Prop where
  serialPort : v'.serialPort = v.serialPort
  activePort : v'.activePort = v.activePort
  connectionId : v'.connectionId = v.connectionId
  buffer : v'.buffer = v.buffer
  calls : linkCalls v'.calls = linkCalls v.calls

theorem SameLink.refl (v : Viewer) : SameLink v v := ⟨rfl, rfl, rfl, rfl, rfl⟩

theorem SameLink.trans {v v' v'' : Viewer} (h : SameLink v v') (h' : SameLink v' v'') :
    SameLink v v'' :=
  ⟨h'.serialPort.trans h.serialPort, h'.activePort.trans h.activePort,
    h'.connectionId.trans h.connectionId, h'.buffer.trans h.buffer, h'.calls.trans h.calls⟩

theorem SameLink.inStep {v v' : Viewer} (h : SameLink v v') {moments : List Moment}
    (hstep : InStep v moments) : InStep v' moments := by
  have hplay : play v'.calls = play v.calls := by
    rw [← play_linkCalls v'.calls, h.calls, play_linkCalls]
  exact ⟨hplay ▸ hstep.work, by rw [h.buffer, hplay, hstep.buffer], h.buffer ▸ hstep.noDelimiter,
    h.buffer ▸ hstep.short⟩

/-! ### A segment -/

section Segments

variable {v : Viewer} {moments : List Moment} (input : Turn)

/-- A moment of the model and the tracker. -/
theorem Replays.tell (h : Replays v moments) (moment : Moment) {v' : Viewer}
    {told : List TrackerCall} (htold : tell v.model moment = told)
    (hmodel : v'.model = (workOf [moment]).foldl workOn v.model)
    (htracker : v'.tracker = v.tracker.after told)
    (hflights : flightsOf v'.calls = flightsOf v.calls ++ v.tracker.run told)
    (hmalformed : v'.model.stats.malformedFrames =
      (malformedCounts v'.calls).sum + v'.malformedSinceEvent + overflowsOf v'.calls) :
    Replays v' (moments ++ [moment]) := by
  have hafter : toldFrom {} (moments ++ [moment]) = toldFrom {} moments ++ told := by
    rw [toldFrom_concat, ← replay, ← h.model, htold]
  refine ⟨?_, ?_, ?_, hmalformed⟩
  · rw [hmodel, workOf_append, replay, List.foldl_append, ← replay, ← h.model]
  · rw [hafter, after_append, ← h.tracker, htracker]
  · rw [hafter, run_append, ← h.tracker, ← h.flights, hflights]


/-- What `discard` logs, and what it leaves alone. -/
theorem discard_cases (v : Viewer) (error : DecodeError) (eventNow : ℚ) :
    (v.discard error eventNow).model = countMalformed v.model ∧
      (v.discard error eventNow).tracker = v.tracker ∧
      SameLink v (v.discard error eventNow) ∧
      flightsOf (v.discard error eventNow).calls = flightsOf v.calls ∧
      overflowsOf (v.discard error eventNow).calls = overflowsOf v.calls ∧
      (malformedCounts (v.discard error eventNow).calls).sum +
          (v.discard error eventNow).malformedSinceEvent =
        (malformedCounts v.calls).sum + v.malformedSinceEvent + 1 := by
  unfold Viewer.discard
  dsimp only
  split_ifs
  · refine ⟨rfl, rfl, ⟨rfl, rfl, rfl, rfl, ?_⟩, ?_, ?_, ?_⟩
    · rw [linkCalls_append]
      exact List.append_nil _
    · rw [flightsOf_append]
      exact List.append_nil _
    · rw [overflowsOf_append]
      rfl
    · have hcount : (malformedCounts [.malformedFrames (some eventNow) (v.malformedSinceEvent + 1)
          error.message]).sum = v.malformedSinceEvent + 1 := Nat.add_zero _
      rw [malformedCounts_append, List.sum_append, hcount, Nat.add_zero, Nat.add_assoc]
  · exact ⟨rfl, rfl, ⟨rfl, rfl, rfl, rfl, rfl⟩, rfl, rfl, (Nat.add_assoc ..).symm⟩

theorem takeOne_replays (h : Replays v moments) (encoded : List U8) (i : ℕ) :
    Replays (v.takeOne input encoded i)
        (moments ++ [.work (.segment encoded, input.acceptedAt i)]) ∧
      SameLink v (v.takeOne input encoded i) := by
  have hmalformed := malformedFrames_takeSegment v.model encoded (input.acceptedAt i)
  have hafter := workOn_segment v.model encoded (input.acceptedAt i)
  have haccepted := acceptedOf_segment v.model encoded (input.acceptedAt i)
  unfold Viewer.takeOne
  generalize takeSegment v.model encoded (input.acceptedAt i) = taken at *
  obtain ⟨result, model⟩ := taken
  cases result with
  | error e =>
    obtain ⟨hmodel, htracker, hlink, hflights, hoverflows, hcounts⟩ :=
      discard_cases { v with model := model } e (input.discardedAt i)
    have htold : tell v.model (.work (.segment encoded, input.acceptedAt i)) = [] := by
      rw [tell, haccepted]
      rfl
    refine ⟨h.tell _ htold (hmodel.trans hafter.symm) htracker
      (hflights.trans (List.append_nil _).symm) ?_, ?_⟩
    · dsimp only
      rw [hmodel, hcounts, hoverflows, countMalformed]
      have hbefore := h.malformed
      simp only at hmalformed ⊢
      omega
    · exact ⟨hlink.serialPort, hlink.activePort, hlink.connectionId, hlink.buffer, hlink.calls⟩
  | ok update =>
    have htold : tell v.model (.work (.segment encoded, input.acceptedAt i)) =
        [.accept model update] := by
      rw [tell, haccepted, hafter]
      rfl
    refine ⟨h.tell _ htold hafter.symm rfl ?_ ?_, ?_⟩
    · dsimp only
      rw [flightsOf_append, flightsOf_map_flight, EventTracker.run, EventTracker.run,
        List.append_nil]
      rfl
    · dsimp only
      rw [malformedCounts_append, overflowsOf_append, (malformed_map_flight _).1,
        (malformed_map_flight _).2, List.append_nil, Nat.add_zero]
      exact hmalformed.trans h.malformed
    · refine ⟨rfl, rfl, rfl, rfl, ?_⟩
      dsimp only
      rw [linkCalls_append, linkCalls_map_flight, List.append_nil]

/-- The segments that are taken of some, each at its own time. -/
def taken (input : Turn) (segments : List (List U8 × ℕ)) : List (Work × ℚ) :=
  (segments.filter fun segment => segment.1 ≠ []).map fun segment =>
    (.segment segment.1, input.acceptedAt segment.2)

theorem map_fst_taken (segments : List (List U8)) :
    (taken input segments.zipIdx).map Prod.fst =
      (segments.filter (· ≠ [])).map Work.segment := by
  have hsegments : (segments.zipIdx.filter fun segment => segment.1 ≠ []).map Prod.fst =
      segments.filter (· ≠ []) := by
    conv_rhs => rw [← List.zipIdx_map_fst 0 segments, List.filter_map]
    rfl
  rw [← hsegments, taken, List.map_map, List.map_map]
  rfl

theorem takeSegments_replays (h : Replays v moments) (segments : List (List U8 × ℕ)) :
    Replays (v.takeSegments input segments)
        (moments ++ (taken input segments).map Moment.work) ∧
      SameLink v (v.takeSegments input segments) := by
  induction segments generalizing v moments with
  | nil =>
    have hnone : moments ++ (taken input []).map Moment.work = moments := List.append_nil moments
    exact ⟨hnone.symm ▸ h, SameLink.refl v⟩
  | cons first segments ih =>
    obtain ⟨encoded, i⟩ := first
    rw [Viewer.takeSegments, taken, List.filter_cons]
    by_cases hempty : encoded = []
    · rw [if_pos hempty, if_neg (by simpa using hempty), ← taken]
      exact ih h
    · rw [if_neg hempty, if_pos (by simpa using hempty), List.map_cons, List.map_cons, ← taken]
      obtain ⟨hone, hlink⟩ := takeOne_replays input h encoded i
      obtain ⟨hrest, hlink'⟩ := ih hone
      rw [List.append_assoc] at hrest
      exact ⟨hrest, hlink.trans hlink'⟩

/-! ### A chunk -/

/-- The viewer splits its buffer at the delimiters. -/
theorem splitBuffer_eq (buffer : List U8) :
    Viewer.splitBuffer buffer = (complete 0 buffer, openTail 0 buffer) := by
  unfold Viewer.splitBuffer
  by_cases h : (0 : U8) ∈ buffer
  · rw [if_pos (List.contains_iff_mem.2 h), openTail, List.getLastD_eq_getLast?,
      List.getLast?_eq_some_getLast (List.splitOn_ne_nil _ _)]
    rfl
  · rw [if_neg (mt List.contains_iff_mem.1 h), complete_of_notMem h, openTail_of_notMem h]

/-- Nothing happens to a buffer without a delimiter that is short enough. -/
theorem chunkWork_nil {buffer : List U8} (hnone : (0 : U8) ∉ buffer)
    (hshort : buffer.length ≤ serialBufferLimit) : chunkWork buffer [] = ([], buffer) := by
  rw [chunkWork, readStep_eq_feed, feed, List.append_nil, complete_of_notMem hnone,
    openTail_of_notMem hnone]
  simp only [if_neg (Nat.not_lt.2 hshort)]
  rfl

theorem hear_replays (h : Replays v moments) (chunk : List U8) :
    Replays (v.hear input chunk) moments ∧
      (v.hear input chunk).serialPort = v.serialPort ∧
      (v.hear input chunk).activePort = v.activePort ∧
      (v.hear input chunk).connectionId = v.connectionId ∧
      (v.hear input chunk).buffer = v.buffer ++ chunk ∧
      linkCalls (v.hear input chunk).calls = linkCalls v.calls ++
        (if chunk = [] then [] else [RecorderCall.raw chunk v.connectionId]) := by
  unfold Viewer.hear
  by_cases hchunk : chunk = []
  · rw [if_neg (not_not_intro hchunk), if_pos hchunk, hchunk, List.append_nil, List.append_nil]
    exact ⟨h, rfl, rfl, rfl, rfl, rfl⟩
  · rw [if_pos hchunk, if_neg hchunk]
    refine ⟨⟨h.model, h.tracker, ?_, ?_⟩, rfl, rfl, rfl, rfl, linkCalls_append ..⟩
    · rw [flightsOf_append]
      exact (List.append_nil _).trans h.flights
    · rw [malformedCounts_append, overflowsOf_append]
      simpa [malformedCounts, overflowsOf] using h.malformed

/-- The play of the calls after a chunk, read or not. -/
theorem play_hear (hstep : InStep v moments) (chunk : List U8) :
    play (v.hear input chunk).calls =
      ((play v.calls).1 ++ (chunkWork v.buffer chunk).1, (chunkWork v.buffer chunk).2) := by
  unfold Viewer.hear
  by_cases hchunk : chunk = []
  · rw [if_neg (not_not_intro hchunk), hchunk, chunkWork_nil hstep.noDelimiter hstep.short,
      List.append_nil, hstep.buffer]
  · rw [if_pos hchunk, play_append, hstep.buffer]
    rfl

/-- The clearing of a buffer that is too long; its time plays no part. -/
def cleared (buffer : List U8) : List (Work × ℚ) :=
  if buffer.length > serialBufferLimit then [(.overflow, 0)] else []

theorem checkOverflow_replays (h : Replays v moments) :
    Replays v.checkOverflow (moments ++ (cleared v.buffer).map Moment.work) ∧
      v.checkOverflow.serialPort = v.serialPort ∧ v.checkOverflow.activePort = v.activePort ∧
      v.checkOverflow.connectionId = v.connectionId ∧
      v.checkOverflow.buffer =
        (if v.buffer.length > serialBufferLimit then [] else v.buffer) ∧
      linkCalls v.checkOverflow.calls = linkCalls v.calls := by
  unfold Viewer.checkOverflow cleared
  split_ifs
  · refine ⟨h.tell (.work (.overflow, 0)) rfl rfl rfl ?_ ?_, rfl, rfl, rfl, rfl, ?_⟩
    · rw [flightsOf_append]
      rfl
    · have hone : malformedCounts [.bufferOverflow] = [] ∧ overflowsOf [.bufferOverflow] = 1 :=
        ⟨rfl, rfl⟩
      rw [malformedCounts_append, overflowsOf_append, hone.1, hone.2, List.append_nil,
        ← Nat.add_assoc, ← h.malformed]
      rfl
    · rw [linkCalls_append]
      exact List.append_nil _
  · exact ⟨by rwa [List.map_nil, List.append_nil], rfl, rfl, rfl, rfl, rfl⟩

/-- What a read of a turn does: the segments of its chunk, and a buffer that is cleared. -/
def readMoments (input : Turn) (buffer chunk : List U8) : List Moment :=
  (taken input (complete 0 (buffer ++ chunk)).zipIdx ++
    cleared (openTail 0 (buffer ++ chunk))).map Moment.work

theorem workOf_readMoments (buffer chunk : List U8) :
    (workOf (readMoments input buffer chunk)).map Prod.fst = (chunkWork buffer chunk).1 := by
  rw [readMoments, workOf_map_work, List.map_append, map_fst_taken, chunkWork, readStep_eq_feed,
    cleared]
  split_ifs <;> rfl

theorem takeChunk_replays (h : Replays v moments) (hstep : InStep v moments) (chunk : List U8) :
    Replays (v.takeChunk input chunk) (moments ++ readMoments input v.buffer chunk) ∧
      InStep (v.takeChunk input chunk) (moments ++ readMoments input v.buffer chunk) ∧
      (v.takeChunk input chunk).serialPort = v.serialPort ∧
      (v.takeChunk input chunk).activePort = v.activePort ∧
      (v.takeChunk input chunk).connectionId = v.connectionId ∧
      linkCalls (v.takeChunk input chunk).calls = linkCalls v.calls ++
        (if chunk = [] then [] else [RecorderCall.raw chunk v.connectionId]) := by
  obtain ⟨hheard, hport, hactive, hid, hbuffer, hcalls⟩ := hear_replays input h chunk
  have hplay := play_hear input hstep chunk
  rw [Viewer.takeChunk]
  rw [splitBuffer_eq, hbuffer]
  generalize v.hear input chunk = w at *
  have hopen : Replays { w with buffer := openTail 0 (v.buffer ++ chunk) } moments :=
    ⟨hheard.model, hheard.tracker, hheard.flights, hheard.malformed⟩
  obtain ⟨htakes, hlink⟩ := takeSegments_replays input hopen
    (complete 0 (v.buffer ++ chunk)).zipIdx
  generalize Viewer.takeSegments input _ (complete 0 (v.buffer ++ chunk)).zipIdx = u at *
  obtain ⟨hover, hport', hactive', hid', hbuffer', hcalls'⟩ := checkOverflow_replays htakes
  have hlinkCalls := hcalls'.trans hlink.calls
  rw [hlink.buffer] at hbuffer' hover
  dsimp only at hlinkCalls hbuffer' hover
  rw [List.append_assoc, ← List.map_append, ← readMoments] at hover
  have hplay' : play u.checkOverflow.calls = play w.calls := by
    rw [← play_linkCalls, hlinkCalls, play_linkCalls]
  refine ⟨hover, ⟨?_, ?_, ?_, ?_⟩,
    hport'.trans (hlink.serialPort.trans hport), hactive'.trans (hlink.activePort.trans hactive),
    hid'.trans (hlink.connectionId.trans hid), hlinkCalls.trans hcalls⟩
  · rw [hplay', hplay, workOf_append, List.map_append, workOf_readMoments, hstep.work]
  · rw [hplay', hplay, hbuffer', chunkWork, readStep_eq_feed]
    rfl
  · rw [hbuffer']
    split_ifs
    · exact List.not_mem_nil
    · exact notMem_openTail 0 _
  · rw [hbuffer']
    split_ifs with hlong
    · exact Nat.zero_le _
    · exact Nat.not_lt.1 hlong

end Segments

end SilverwareTx.GroundStation
