import SilverwareTx.GroundStation.ViewerDecoding

/-!
# A recording replays to what the viewer showed

`viewer_replay` is about any run of the loop: the recorded link calls are connections, each with its
chunks, the model of the viewer is that of the recorded chunks at the times of the turns, the flight
events are those of a tracker that is told of each accepted record with the model after it and of
the model at the end of each turn, and every malformed frame is in the count of one warning.
-/

namespace SilverwareTx.GroundStation

/-! ### The connections -/

/-- A connection in the recording. -/
structure Session where
  connectionId : ℕ
  port : String
  chunks : List (List U8)

namespace Session

/-- The calls of a connection that is open. -/
def opened (s : Session) : List RecorderCall :=
  .connected s.connectionId s.port :: s.chunks.map fun chunk => .raw chunk s.connectionId

/-- The calls of a connection from its beginning to its end. -/
def calls (s : Session) : List RecorderCall :=
  s.opened ++ [.disconnected s.connectionId s.port]

end Session

/-- The link calls are those of closed connections and of the one that is open, numbered from 1. -/
structure Connected (Allowed : String → Prop) (v : Viewer) (closed : List Session)
    (current : Option Session) : Prop where
  calls : linkCalls v.calls =
    closed.flatMap Session.calls ++ current.toList.flatMap Session.opened
  port : v.serialPort = current.map Session.port
  active : ∀ s ∈ current, v.activePort = s.port ∧ v.connectionId = s.connectionId
  ids : (closed ++ current.toList).map Session.connectionId = List.range' 1 v.connectionId
  sound : ∀ s ∈ closed ++ current.toList, [] ∉ s.chunks ∧ Allowed s.port

/-- The invariant of the loop. -/
def Good (Allowed : String → Prop) (v : Viewer) (moments : List Moment) : Prop :=
  Replays v moments ∧ InStep v moments ∧ ∃ closed current, Connected Allowed v closed current

/-- Calls about neither the flight nor a discarded frame. -/
structure Quiet (calls : List RecorderCall) : Prop where
  flights : flightsOf calls = []
  malformed : malformedCounts calls = []
  overflows : overflowsOf calls = 0

/-- Quiet calls leave the decoding alone. -/
theorem Replays.say {v v' : Viewer} {moments : List Moment}
    {more : List RecorderCall} (h : Replays v moments) (hmodel : v'.model = v.model)
    (htracker : v'.tracker = v.tracker) (hcount : v'.malformedSinceEvent = v.malformedSinceEvent)
    (hcalls : v'.calls = v.calls ++ more) (hmore : Quiet more) : Replays v' moments := by
  refine ⟨hmodel.trans h.model, htracker.trans h.tracker, ?_, ?_⟩
  · rw [hcalls, flightsOf_append, hmore.flights, List.append_nil, h.flights]
  · rw [hcalls, malformedCounts_append, overflowsOf_append, hmore.malformed, hmore.overflows,
      List.append_nil, hmodel, hcount]
    exact h.malformed

section Connections

variable {Allowed : String → Prop} {v : Viewer} {moments : List Moment} (input : Turn)

/-- What happens when the ports are tried. -/
theorem tryPorts_cases (hclosed : v.serialPort = none) (choices : List String) :
    ∃ failures, Quiet failures ∧ linkCalls failures = [] ∧
      (v.tryPorts input choices).model = v.model ∧
      (v.tryPorts input choices).tracker = v.tracker ∧
      (v.tryPorts input choices).malformedSinceEvent = v.malformedSinceEvent ∧
      ((v.tryPorts input choices).serialPort = none ∧
          (v.tryPorts input choices).connectionId = v.connectionId ∧
          (v.tryPorts input choices).buffer = v.buffer ∧
          (v.tryPorts input choices).calls = v.calls ++ failures ∨
        ∃ device ∈ choices, input.opens device = .ok () ∧
          (v.tryPorts input choices).serialPort = some device ∧
          (v.tryPorts input choices).activePort = device ∧
          (v.tryPorts input choices).connectionId = v.connectionId + 1 ∧
          (v.tryPorts input choices).buffer = [] ∧
          (v.tryPorts input choices).calls =
            v.calls ++ failures ++ [.connected (v.connectionId + 1) device]) := by
  induction choices generalizing v with
  | nil =>
    exact ⟨[], ⟨rfl, rfl, rfl⟩, rfl, rfl, rfl, rfl,
      .inl ⟨hclosed, rfl, rfl, (List.append_nil _).symm⟩⟩
  | cons candidate choices ih =>
    rw [Viewer.tryPorts]
    cases hopens : input.opens candidate with
    | ok value =>
      refine ⟨[], ⟨rfl, rfl, rfl⟩, rfl, rfl, rfl, rfl,
        .inr ⟨candidate, List.mem_cons_self, hopens, rfl, rfl, rfl, rfl, ?_⟩⟩
      rw [List.append_nil]
    | error e =>
      dsimp only
      split_ifs
      · obtain ⟨failures, hquiet, hlink, hmodel, htracker, hcount, hcases⟩ := ih
          (v := { v with
            activePort := candidate
            serialPort := none
            calls := v.calls ++ [.openFailed input.now candidate e]
            lastOpenFailureEventAt := input.now }) rfl
        refine ⟨.openFailed input.now candidate e :: failures,
          ⟨hquiet.flights, hquiet.malformed, hquiet.overflows⟩, hlink, hmodel, htracker, hcount, ?_⟩
        rcases hcases with ⟨hport, hid, hbuffer, hcalls⟩ |
          ⟨device, hmem, hok, hport, hactive, hid, hbuffer, hcalls⟩
        · left
          refine ⟨hport, hid, hbuffer, hcalls.trans ?_⟩
          rw [List.append_assoc, List.singleton_append]
        · right
          refine ⟨device, List.mem_cons_of_mem _ hmem, hok, hport, hactive, hid, hbuffer,
            hcalls.trans ?_⟩
          rw [List.append_assoc v.calls, List.singleton_append]
      · obtain ⟨failures, hquiet, hlink, hmodel, htracker, hcount, hcases⟩ := ih
          (v := { v with activePort := candidate, serialPort := none }) rfl
        refine ⟨failures, hquiet, hlink, hmodel, htracker, hcount, ?_⟩
        rcases hcases with hnone | ⟨device, hmem, hrest⟩
        · exact .inl hnone
        · exact .inr ⟨device, List.mem_cons_of_mem _ hmem, hrest⟩

theorem play_append_of_linkCalls (calls : List RecorderCall) {more : List RecorderCall}
    (h : linkCalls more = []) : play (calls ++ more) = play calls := by
  rw [← play_linkCalls, linkCalls_append, h, List.append_nil, play_linkCalls]

/-- The port stays closed, and the recorder is told nothing that matters. -/
theorem Good.stayClosed {v' : Viewer} {more : List RecorderCall} (h : Good Allowed v moments)
    (hmodel : v'.model = v.model) (htracker : v'.tracker = v.tracker)
    (hcount : v'.malformedSinceEvent = v.malformedSinceEvent)
    (hclosed : v.serialPort = none) (hclosed' : v'.serialPort = none)
    (hid : v'.connectionId = v.connectionId) (hbuffer : v'.buffer = v.buffer)
    (hcalls : v'.calls = v.calls ++ more) (hquiet : Quiet more) (hlink : linkCalls more = []) :
    Good Allowed v' moments := by
  obtain ⟨hreplays, hstep, closed, current, hconnected⟩ := h
  have hnone : current = none := Option.map_eq_none_iff.1 (hconnected.port.symm.trans hclosed)
  subst hnone
  have hplay : play v'.calls = play v.calls := by rw [hcalls, play_append_of_linkCalls _ hlink]
  refine ⟨hreplays.say hmodel htracker hcount hcalls hquiet,
    ⟨hplay ▸ hstep.work, by rw [hbuffer, hplay, hstep.buffer], hbuffer ▸ hstep.noDelimiter,
      hbuffer ▸ hstep.short⟩,
    closed, none, ⟨?_, hclosed', by simp, hid ▸ hconnected.ids, hconnected.sound⟩⟩
  rw [hcalls, linkCalls_append, hlink, List.append_nil]
  exact hconnected.calls

/-- A port has been opened. -/
theorem Good.open {v' : Viewer} {more : List RecorderCall} {device : String}
    (h : Good Allowed v moments)
    (hmodel : v'.model = v.model) (htracker : v'.tracker = v.tracker)
    (hcount : v'.malformedSinceEvent = v.malformedSinceEvent)
    (hclosed : v.serialPort = none) (hopen : v'.serialPort = some device)
    (hactive : v'.activePort = device) (hid : v'.connectionId = v.connectionId + 1)
    (hbuffer : v'.buffer = [])
    (hcalls : v'.calls = v.calls ++ more ++ [.connected (v.connectionId + 1) device])
    (hquiet : Quiet more) (hlink : linkCalls more = []) (hallowed : Allowed device) :
    Good Allowed v' moments := by
  obtain ⟨hreplays, hstep, closed, current, hconnected⟩ := h
  have hnone : current = none := Option.map_eq_none_iff.1 (hconnected.port.symm.trans hclosed)
  subst hnone
  have hplay : play v'.calls = ((play v.calls).1, []) := by
    rw [hcalls, play_append, play_append_of_linkCalls _ hlink]
    rfl
  have hquiet' : Quiet (more ++ [.connected (v.connectionId + 1) device]) := by
    refine ⟨?_, ?_, ?_⟩
    · rw [flightsOf_append, hquiet.flights]
      rfl
    · rw [malformedCounts_append, hquiet.malformed]
      rfl
    · rw [overflowsOf_append, hquiet.overflows]
      rfl
  refine ⟨hreplays.say hmodel htracker hcount (hcalls.trans (List.append_assoc ..)) hquiet',
    ⟨by rw [hplay, hstep.work], by rw [hplay, hbuffer], hbuffer ▸ List.not_mem_nil,
      hbuffer ▸ Nat.zero_le _⟩,
    closed, some ⟨v.connectionId + 1, device, []⟩, ⟨?_, hopen, ?_, ?_, ?_⟩⟩
  · rw [hcalls, linkCalls_append, linkCalls_append, hlink, List.append_nil, hconnected.calls]
    simp only [Option.toList_none, List.flatMap_nil, List.append_nil, Option.toList_some,
      List.flatMap_singleton]
    rfl
  · rintro s ⟨⟩
    exact ⟨hactive, hid⟩
  · have hids := hconnected.ids
    rw [Option.toList_none, List.append_nil] at hids
    rw [List.map_append, hids, hid, List.range'_concat, Nat.one_mul, Nat.add_comm 1]
    rfl
  · intro s hs
    rcases List.mem_append.1 hs with hs | hs
    · exact hconnected.sound s (List.mem_append_left _ hs)
    · obtain rfl := List.mem_singleton.1 hs
      exact ⟨List.not_mem_nil, hallowed⟩

/-- The port is given up. -/
theorem Good.drop {device : String} (h : Good Allowed v moments) (hopen : v.serialPort = some device)
    {more : List RecorderCall} (hquiet : Quiet more) (hlink : linkCalls more = []) (retryAt : ℚ) :
    Good Allowed (v.drop more retryAt) moments := by
  obtain ⟨hreplays, hstep, closed, current, hconnected⟩ := h
  obtain ⟨s, rfl, rfl⟩ := Option.map_eq_some_iff.1 (hconnected.port.symm.trans hopen)
  obtain ⟨hactive, hid⟩ := hconnected.active s rfl
  have hplay : play (v.drop more retryAt).calls = ((play v.calls).1, []) := by
    rw [Viewer.drop, play_append, play_append_of_linkCalls _ hlink]
    rfl
  have hquiet' : Quiet (more ++ [.disconnected v.connectionId v.activePort]) := by
    refine ⟨?_, ?_, ?_⟩
    · rw [flightsOf_append, hquiet.flights]
      rfl
    · rw [malformedCounts_append, hquiet.malformed]
      rfl
    · rw [overflowsOf_append, hquiet.overflows]
      rfl
  refine ⟨hreplays.say rfl rfl rfl (List.append_assoc ..) hquiet',
    ⟨by rw [hplay, hstep.work], by rw [hplay]; rfl, List.not_mem_nil, Nat.zero_le _⟩,
    closed ++ [s], none, ⟨?_, rfl, by simp, ?_, ?_⟩⟩
  · rw [Viewer.drop, linkCalls_append, linkCalls_append, hlink, List.append_nil, hconnected.calls,
      hactive, hid]
    simp only [Option.toList_some, Option.toList_none, List.flatMap_append, List.flatMap_singleton,
      List.flatMap_nil, List.append_nil, List.append_assoc, Session.calls]
    rfl
  · rw [Option.toList_none, List.append_nil]
    exact hconnected.ids
  · rw [Option.toList_none, List.append_nil]
    exact hconnected.sound

theorem connect_good {requestedPort : Option String}
    (hallowed : ∀ device ∈ serialCandidates requestedPort (likelyPorts input.comports),
      input.opens device = .ok () → Allowed device)
    (h : Good Allowed v moments) : Good Allowed (v.connect requestedPort input) moments := by
  unfold Viewer.connect
  by_cases hattempt : v.serialPort = none ∧ v.retryAt ≤ input.now
  · rw [if_pos hattempt]
    dsimp only
    by_cases hchoices : serialCandidates requestedPort (likelyPorts input.comports) = []
    · rw [if_pos hchoices]
      exact h.stayClosed rfl rfl rfl hattempt.1 hattempt.1 rfl rfl (List.append_nil _).symm
        ⟨rfl, rfl, rfl⟩ rfl
    · rw [if_neg hchoices]
      obtain ⟨failures, hquiet, hlink, hmodel, htracker, hcount, hcases⟩ :=
        tryPorts_cases input hattempt.1 (serialCandidates requestedPort (likelyPorts input.comports))
      generalize v.tryPorts input _ = tried at *
      rcases hcases with ⟨hport, hid, hbuffer, hcalls⟩ |
        ⟨device, hmem, hok, hport, hactive, hid, hbuffer, hcalls⟩
      · rw [if_pos hport]
        exact h.stayClosed hmodel htracker hcount hattempt.1 hport hid hbuffer hcalls hquiet hlink
      · rw [if_neg (by rw [hport]; exact Option.some_ne_none _)]
        exact h.open hmodel htracker hcount hattempt.1 hport hactive hid hbuffer hcalls hquiet hlink
          (hallowed device hmem hok)
  · rwa [if_neg hattempt]

/-- A chunk is one more of the open connection. -/
theorem takeChunk_good {device : String} (h : Good Allowed v moments)
    (hopen : v.serialPort = some device) (chunk : List U8) :
    Good Allowed (v.takeChunk input chunk) (moments ++ readMoments input v.buffer chunk) ∧
      (v.takeChunk input chunk).serialPort = some device := by
  obtain ⟨hreplays, hstep, closed, current, hconnected⟩ := h
  obtain ⟨s, rfl, rfl⟩ := Option.map_eq_some_iff.1 (hconnected.port.symm.trans hopen)
  obtain ⟨hactive, hid⟩ := hconnected.active s rfl
  obtain ⟨hreplays', hstep', hport, hactive', hid', hcalls⟩ :=
    takeChunk_replays input hreplays hstep chunk
  have hids := hconnected.ids
  refine ⟨⟨hreplays', hstep', closed,
    some { s with chunks := s.chunks ++ (if chunk = [] then [] else [chunk]) },
    ⟨?_, hport.trans hopen, ?_, ?_, ?_⟩⟩, hport.trans hopen⟩
  · rw [hcalls, hconnected.calls, List.append_assoc, hid]
    simp only [Option.toList_some, List.flatMap_singleton, Session.opened, List.map_append,
      List.cons_append]
    split_ifs <;> rfl
  · rintro t ⟨⟩
    exact ⟨hactive'.trans hactive, hid'.trans hid⟩
  · rw [hid', ← hids, List.map_append, List.map_append]
    rfl
  · intro t ht
    rcases List.mem_append.1 ht with ht | ht
    · exact hconnected.sound t (List.mem_append_left _ ht)
    · obtain rfl := List.mem_singleton.1 ht
      obtain ⟨hchunks, hallowed⟩ := hconnected.sound s (List.mem_append_right _ (by simp))
      refine ⟨fun hnil => ?_, hallowed⟩
      rcases List.mem_append.1 hnil with hnil | hnil
      · exact hchunks hnil
      · split_ifs at hnil with hempty
        · cases hnil
        · exact hempty (List.mem_singleton.1 hnil).symm

/-- The moments of the second part of a turn: those of its read, when a port is open and the read
succeeds. -/
def receiveMoments (input : Turn) (v : Viewer) : List Moment :=
  match v.serialPort, input.read with
  | some _, .ok chunk => readMoments input v.buffer chunk
  | _, _ => []

theorem receive_good (h : Good Allowed v moments) :
    Good Allowed (v.receive input) (moments ++ receiveMoments input v) := by
  unfold Viewer.receive receiveMoments
  cases hopen : v.serialPort with
  | none => rwa [List.append_nil]
  | some device =>
    cases input.read with
    | error e =>
      rw [List.append_nil]
      exact h.drop hopen ⟨rfl, rfl, rfl⟩ rfl _
    | ok chunk =>
      obtain ⟨hgood, hstill⟩ := takeChunk_good input h hopen chunk
      dsimp only
      split_ifs
      · exact hgood.drop hstill ⟨rfl, rfl, rfl⟩ rfl _
      · exact hgood

theorem SameLink.connected {v' : Viewer} (hlink : SameLink v v') {closed : List Session}
    {current : Option Session} (h : Connected Allowed v closed current) :
    Connected Allowed v' closed current :=
  ⟨hlink.calls.trans h.calls, hlink.serialPort.trans h.port,
    fun s hs => ⟨hlink.activePort.trans (h.active s hs).1,
      hlink.connectionId.trans (h.active s hs).2⟩,
    hlink.connectionId ▸ h.ids, h.sound⟩

theorem sameLink_checkHealth (v : Viewer) : SameLink v (v.checkHealth input) := by
  refine ⟨rfl, rfl, rfl, rfl, ?_⟩
  rw [Viewer.checkHealth, linkCalls_append, linkCalls_map_flight, List.append_nil]

theorem sameLink_takeSample (v : Viewer) : SameLink v (v.takeSample input) := by
  unfold Viewer.takeSample
  cases blackboxSamplePeriod v.model with
  | none => exact .refl v
  | some period =>
    dsimp only
    split_ifs
    · refine ⟨rfl, rfl, rfl, rfl, ?_⟩
      rw [linkCalls_append]
      exact List.append_nil _
    · exact .refl v

/-- The health events are one more moment. -/
theorem checkHealth_good (h : Good Allowed v moments) :
    Good Allowed (v.checkHealth input) (moments ++ [.health input.endedAt]) := by
  obtain ⟨hreplays, hstep, closed, current, hconnected⟩ := h
  have hlink := sameLink_checkHealth input v
  have hsame : workOf (moments ++ [.health input.endedAt]) = workOf moments :=
    (workOf_append ..).trans (List.append_nil _)
  have htold : tell v.model (.health input.endedAt) = [.health v.model input.endedAt] := rfl
  refine ⟨hreplays.tell _ htold rfl rfl ?_ ?_, ?_, closed, current, hlink.connected hconnected⟩
  · rw [Viewer.checkHealth, flightsOf_append, flightsOf_map_flight, EventTracker.run,
      EventTracker.run, List.append_nil]
    rfl
  · rw [Viewer.checkHealth, malformedCounts_append, overflowsOf_append,
      (malformed_map_flight _).1, (malformed_map_flight _).2, List.append_nil, Nat.add_zero]
    exact hreplays.malformed
  · obtain ⟨hwork, hbuffer, hnone, hshort⟩ := hlink.inStep hstep
    exact ⟨hsame ▸ hwork, hbuffer, hnone, hshort⟩

theorem takeSample_good (h : Good Allowed v moments) :
    Good Allowed (v.takeSample input) moments := by
  obtain ⟨hreplays, hstep, closed, current, hconnected⟩ := h
  have hlink := sameLink_takeSample input v
  refine ⟨?_, hlink.inStep hstep, closed, current, hlink.connected hconnected⟩
  unfold Viewer.takeSample
  cases blackboxSamplePeriod v.model with
  | none => exact hreplays
  | some period =>
    dsimp only
    split_ifs
    · exact hreplays.say rfl rfl rfl rfl ⟨rfl, rfl, rfl⟩
    · exact hreplays

end Connections

/-! ### Runs -/

/-- The work of the chunks of a connection. -/
def sessionWork (buffer : List U8) : (chunks : List (List U8)) → List Work
  | [] => []
  | chunk :: chunks => (chunkWork buffer chunk).1 ++ sessionWork (chunkWork buffer chunk).2 chunks

/-- The segments among the work are those that `readAll` hands on. -/
theorem segments_sessionWork (buffer : List U8) (chunks : List (List U8)) :
    (sessionWork buffer chunks).filterMap (fun work => match work with
      | .segment encoded => some encoded
      | .overflow => none) = readAll buffer chunks := by
  induction chunks generalizing buffer with
  | nil => rfl
  | cons chunk chunks ih =>
    rw [sessionWork, List.filterMap_append, ih, readAll, chunkWork, List.filterMap_append,
      List.filterMap_map]
    split_ifs <;> simp

theorem foldl_playCall_chunks (work : List Work) (buffer : List U8) (chunks : List (List U8))
    (connectionId : ℕ) :
    ((chunks.map fun chunk => RecorderCall.raw chunk connectionId).foldl playCall
      (work, buffer)).1 = work ++ sessionWork buffer chunks := by
  induction chunks generalizing work buffer with
  | nil => exact (List.append_nil _).symm
  | cons chunk chunks ih =>
    rw [List.map_cons, List.foldl_cons, playCall, ih, sessionWork, List.append_assoc]

/-- A device that some turn tried and opened. -/
def Opened (requestedPort : Option String) (turns : List Turn) (device : String) : Prop :=
  ∃ input ∈ turns, device ∈ serialCandidates requestedPort (likelyPorts input.comports) ∧
    input.opens device = .ok ()

theorem Good.mono {Allowed Allowed' : String → Prop} {v : Viewer} {moments : List Moment}
    (himp : ∀ device, Allowed device → Allowed' device) (h : Good Allowed v moments) :
    Good Allowed' v moments := by
  obtain ⟨hreplays, hstep, closed, current, hconnected⟩ := h
  exact ⟨hreplays, hstep, closed, current,
    ⟨hconnected.calls, hconnected.port, hconnected.active, hconnected.ids,
      fun s hs => ⟨(hconnected.sound s hs).1, himp _ (hconnected.sound s hs).2⟩⟩⟩

/-- The moments of a turn: what it does with a chunk, if it gets one, and the health events at its
end. -/
def TurnMoments (input : Turn) (moments : List Moment) : Prop :=
  ∃ read, moments = read ++ [.health input.endedAt] ∧
    (read = [] ∨ ∃ buffer chunk, input.read = .ok chunk ∧ read = readMoments input buffer chunk)

section Run

variable (requestedPort : Option String) (turns : List Turn)

theorem loop_concat (input : Turn) :
    Viewer.loop requestedPort (turns ++ [input]) =
      (Viewer.loop requestedPort turns).turn requestedPort input := List.foldl_append

theorem turnMoments_receive (v : Viewer) (input : Turn) :
    TurnMoments input (receiveMoments input v ++ [.health input.endedAt]) := by
  refine ⟨_, rfl, ?_⟩
  unfold receiveMoments
  cases v.serialPort with
  | none => exact .inl rfl
  | some device =>
    cases hread : input.read with
    | error e => exact .inl rfl
    | ok chunk => exact .inr ⟨v.buffer, chunk, rfl, rfl⟩

/-- A run is the moments of its turns, in order. -/
theorem loop_good : ∃ blocks, List.Forall₂ TurnMoments turns blocks ∧
    Good (Opened requestedPort turns) (Viewer.loop requestedPort turns) blocks.flatten := by
  induction turns using List.reverseRecOn with
  | nil =>
    exact ⟨[], .nil, ⟨rfl, rfl, rfl, rfl⟩,
      ⟨rfl, rfl, List.not_mem_nil, Nat.zero_le _⟩, [], none, ⟨rfl, rfl, by simp, rfl, by simp⟩⟩
  | append_singleton turns input ih =>
    obtain ⟨blocks, hblocks, hgood⟩ := ih
    have hbefore : Good (Opened requestedPort (turns ++ [input]))
        (Viewer.loop requestedPort turns) blocks.flatten := by
      refine hgood.mono ?_
      rintro device ⟨t, ht, hopened⟩
      exact ⟨t, List.mem_append_left _ ht, hopened⟩
    have hconnect : Good (Opened requestedPort (turns ++ [input]))
        ((Viewer.loop requestedPort turns).connect requestedPort input) blocks.flatten :=
      connect_good input (fun device hmem hok => ⟨input, by simp, hmem, hok⟩) hbefore
    have hturn := takeSample_good input (checkHealth_good input (receive_good input hconnect))
    have hmoments := turnMoments_receive
      ((Viewer.loop requestedPort turns).connect requestedPort input) input
    refine ⟨blocks ++ [_], List.rel_append hblocks (.cons hmoments .nil), ?_⟩
    rw [loop_concat, Viewer.turn, List.flatten_append, List.flatten_singleton,
      ← List.append_assoc]
    exact hturn

/-- What the recorder has of a run of the viewer, and what the viewer has shown. -/
structure Recorded (v : Viewer) (sessions : List Session) (blocks : List (List Moment)) : Prop where
  /-- The link calls are connections, each opened, filled and closed. -/
  links : linkCalls v.calls = sessions.flatMap Session.calls
  /-- They are numbered from 1. -/
  ids : sessions.map Session.connectionId = List.range' 1 sessions.length
  /-- Every connection is with a port that was tried and opened, and has no empty chunk. -/
  ports : ∀ s ∈ sessions, Opened requestedPort turns s.port ∧ [] ∉ s.chunks
  /-- The moments are those of the turns: the segments at the times at which the turn takes them,
  and the health events at its end. -/
  moments : List.Forall₂ TurnMoments turns blocks
  /-- The model is that of the work in the chunks, each connection read from an empty buffer. -/
  replayed : (workOf blocks.flatten).map Prod.fst =
      (sessions.flatMap fun s => sessionWork [] s.chunks) ∧
    v.model = replay (workOf blocks.flatten)
  /-- The flight events are those of a tracker that is told of each accepted record with the model
  replayed up to it, and at the end of each turn of the model replayed so far. -/
  flights : flightsOf v.calls = ({} : EventTracker).run (toldFrom {} blocks.flatten)
  /-- Every malformed frame is counted in one warning, or was an overflow of the buffer. -/
  malformed : v.model.stats.malformedFrames =
    (malformedCounts v.calls).sum + overflowsOf v.calls

theorem play_sessions (sessions : List Session) :
    (play (sessions.flatMap Session.calls)).1 =
      sessions.flatMap fun s => sessionWork [] s.chunks := by
  induction sessions using List.reverseRecOn with
  | nil => rfl
  | append_singleton sessions s ih =>
    have hopen : ∀ state : List Work × List U8,
        (s.calls.foldl playCall state).1 = state.1 ++ sessionWork [] s.chunks := by
      intro state
      rw [Session.calls, Session.opened, List.cons_append, List.foldl_cons, List.foldl_append]
      exact foldl_playCall_chunks ..
    rw [List.flatMap_append, List.flatMap_singleton, play_append, List.flatMap_append,
      List.flatMap_singleton, ← ih, hopen]

/-- After `closePort` every connection is closed. -/
theorem closePort_recorded {v : Viewer} {moments : List Moment}
    {closed : List Session} {current : Option Session}
    (hreplays : Replays v moments) (hstep : InStep v moments)
    (hconnected : Connected (Opened requestedPort turns) v closed current) :
    Replays v.closePort moments ∧ (workOf moments).map Prod.fst = (play v.closePort.calls).1 ∧
      linkCalls v.closePort.calls = (closed ++ current.toList).flatMap Session.calls := by
  cases current with
  | none =>
    have hport : v.serialPort = none := hconnected.port
    have hsame : v.closePort = v := by rw [Viewer.closePort, hport]
    rw [hsame]
    exact ⟨hreplays, hstep.work, hconnected.calls.trans (by simp)⟩
  | some s =>
    have hport : v.serialPort = some s.port := hconnected.port
    obtain ⟨hactive, hid⟩ := hconnected.active s rfl
    rw [Viewer.closePort, hport]
    refine ⟨hreplays.say rfl rfl rfl rfl ⟨rfl, rfl, rfl⟩, ?_, ?_⟩
    · rw [play_append, hstep.work]
      rfl
    · rw [linkCalls_append, hconnected.calls, hactive, hid]
      simp only [Option.toList_some, List.flatMap_append, List.flatMap_singleton,
        Session.calls, List.append_assoc]
      rfl

/-- A run whose port has been closed: its connections, and the moments of its turns. -/
theorem loop_closed : ∃ (sessions : List Session) (blocks : List (List Moment)),
    List.Forall₂ TurnMoments turns blocks ∧
    Replays (Viewer.loop requestedPort turns).closePort blocks.flatten ∧
    (workOf blocks.flatten).map Prod.fst = (sessions.flatMap fun s => sessionWork [] s.chunks) ∧
    linkCalls (Viewer.loop requestedPort turns).closePort.calls = sessions.flatMap Session.calls ∧
    sessions.map Session.connectionId = List.range' 1 sessions.length ∧
    ∀ s ∈ sessions, [] ∉ s.chunks ∧ Opened requestedPort turns s.port := by
  obtain ⟨blocks, hblocks, hreplays, hstep, closed, current, hconnected⟩ :=
    loop_good requestedPort turns
  obtain ⟨hclosed, hwork, hlinks⟩ := closePort_recorded requestedPort turns hreplays hstep hconnected
  have hids := hconnected.ids
  have hlength := congrArg List.length hids
  rw [List.length_map, List.length_range'] at hlength
  rw [← hlength] at hids
  rw [← play_linkCalls, hlinks, play_sessions] at hwork
  exact ⟨closed ++ current.toList, blocks, hblocks, hclosed, hwork, hlinks, hids, hconnected.sound⟩

/-- The last warning says nothing of the link and the flight, and has the count that is pending. -/
theorem shutdown_cases (v : Viewer) :
    v.shutdown.model = v.closePort.model ∧
      linkCalls v.shutdown.calls = linkCalls v.closePort.calls ∧
      flightsOf v.shutdown.calls = flightsOf v.closePort.calls ∧
      (malformedCounts v.shutdown.calls).sum =
        (malformedCounts v.closePort.calls).sum + v.closePort.malformedSinceEvent ∧
      overflowsOf v.shutdown.calls = overflowsOf v.closePort.calls := by
  rw [Viewer.shutdown]
  generalize v.closePort = w
  by_cases hpending : w.malformedSinceEvent ≠ 0
  · rw [if_pos hpending]
    refine ⟨rfl, ?_, ?_, ?_, ?_⟩
    · rw [linkCalls_append]
      exact List.append_nil _
    · rw [flightsOf_append]
      exact List.append_nil _
    · rw [malformedCounts_append, List.sum_append]
      rfl
    · rw [overflowsOf_append]
      rfl
  · rw [if_neg hpending, not_not.1 hpending]
    exact ⟨rfl, rfl, rfl, rfl, rfl⟩

/-- **What is recorded replays to what was shown**, for every run of the loop that is ended between
two turns. -/
theorem viewer_replay : ∃ sessions blocks, Recorded requestedPort turns
    (Viewer.loop requestedPort turns).shutdown sessions blocks := by
  obtain ⟨sessions, blocks, hblocks, hreplays, hwork, hlinks, hids, hsound⟩ :=
    loop_closed requestedPort turns
  obtain ⟨hmodel, hlink, hflights, hcounts, hoverflows⟩ :=
    shutdown_cases (Viewer.loop requestedPort turns)
  refine ⟨sessions, blocks, hlink.trans hlinks, hids, fun s hs => (hsound s hs).symm, hblocks,
    ⟨hwork, hmodel.trans hreplays.model⟩, hflights.trans hreplays.flights, ?_⟩
  rw [hmodel, hcounts, hoverflows]
  exact hreplays.malformed

end Run

end SilverwareTx.GroundStation
