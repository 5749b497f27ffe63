import SilverwareTx.GroundStation.ViewerReplay
import SilverwareTx.Lib.RateLimiter

/-!
# The pace of the viewer (`run_viewer` in `tools/ground_station/ground_station.py`)

The samples, the warnings about ports that do not open and those about malformed frames are three
rate limiters (`Pace`). `viewer_pace` says what that gives for every run and every clock: their
distances in the loop, what the end of the run adds, that no turn leaves out a sample that is due,
and that a port which is still open after a turn was not silent for the timeout.
-/

namespace SilverwareTx.GroundStation

open RateLimiter

/-- A sample as an action of its limiter. -/
def sampleStamp : RecorderCall → Option (Poll ℚ)
  | .sample model _ _ now => (blackboxSamplePeriod model).map fun period => ⟨now, period⟩
  | _ => none

/-- A warning that no port could be opened, as a poll of its limiter. -/
def failureStamp : RecorderCall → Option (Poll ℚ)
  | .openFailed now _ _ => some ⟨now, warningPeriod⟩
  | _ => none

/-- A warning about malformed frames in the loop; the last one of a run is not limited. -/
def discardStamp : RecorderCall → Option (Poll ℚ)
  | .malformedFrames eventNow _ _ => eventNow.map fun now => ⟨now, warningPeriod⟩
  | _ => none

/-- The calls with a stamp are the actions of a limiter, and the next one is due at `next`. -/
def Limited (stamp : RecorderCall → Option (Poll ℚ)) (start : ℚ) (calls : List RecorderCall)
    (next : ℚ) : Prop :=
  ∃ polls : List (Poll ℚ), (∀ p ∈ polls, 0 ≤ p.period) ∧
    (pollAll start polls).fired = calls.filterMap stamp ∧ (pollAll start polls).next = next

section Limited

variable {stamp : RecorderCall → Option (Poll ℚ)} {start next : ℚ}
  {calls more : List RecorderCall} {p : Poll ℚ}

theorem Limited.say (h : Limited stamp start calls next) (hmore : more.filterMap stamp = []) :
    Limited stamp start (calls ++ more) next := by
  obtain ⟨polls, hperiod, hfired, hnext⟩ := h
  exact ⟨polls, hperiod, by rw [List.filterMap_append, hmore, List.append_nil, hfired], hnext⟩

/-- An action at a time at which it is due. -/
theorem Limited.act (h : Limited stamp start calls next) (hdue : next ≤ p.now)
    (hpos : 0 ≤ p.period) (hmore : more.filterMap stamp = [p]) :
    Limited stamp start (calls ++ more) p.ends := by
  obtain ⟨polls, hperiod, hfired, hnext⟩ := h
  refine ⟨polls ++ [p], ?_, ?_, ?_⟩
  · intro q hq
    rcases List.mem_append.1 hq with hq | hq
    · exact hperiod q hq
    · rw [List.mem_singleton.1 hq]
      exact hpos
  · rw [pollAll_concat, hnext, if_neg (not_lt.2 hdue), List.filterMap_append, hmore, hfired]
  · rw [pollAll_concat, hnext, if_neg (not_lt.2 hdue)]

theorem Limited.spaced (h : Limited stamp start calls next) :
    (calls.filterMap stamp).Pairwise fun p q => p.ends ≤ q.now := by
  obtain ⟨polls, hperiod, hfired, -⟩ := h
  rw [← hfired]
  exact (pairwise_spaced hperiod).1

theorem Limited.next_eq (h : Limited stamp start calls next) :
    next = ((calls.filterMap stamp).getLast?.map Poll.ends).getD start := by
  obtain ⟨polls, -, hfired, hnext⟩ := h
  rw [← hnext, RateLimiter.next_eq, hfired]

end Limited

/-- The three limiters of the loop. -/
structure Pace (v : Viewer) : Prop where
  samples : Limited sampleStamp 0 v.calls v.nextSampleAt
  failures : Limited failureStamp (-10 + warningPeriod) v.calls
    (v.lastOpenFailureEventAt + warningPeriod)
  discards : Limited discardStamp (-10 + warningPeriod) v.calls
    (v.lastMalformedEventAt + warningPeriod)

/-- Calls that none of the limiters is about. -/
structure Unstamped (calls : List RecorderCall) : Prop where
  samples : calls.filterMap sampleStamp = []
  failures : calls.filterMap failureStamp = []
  discards : calls.filterMap discardStamp = []

theorem unstamped_flights (events : List FlightEvent) :
    Unstamped (events.map RecorderCall.flight) := by
  refine ⟨?_, ?_, ?_⟩
  all_goals
    refine List.filterMap_eq_nil_iff.2 fun call h => ?_
    obtain ⟨event, -, rfl⟩ := List.mem_map.1 h
    rfl

section Steps

variable {v v' : Viewer} (input : Turn)

theorem Pace.say {more : List RecorderCall} (h : Pace v) (hcalls : v'.calls = v.calls ++ more)
    (hmore : Unstamped more) (hsample : v'.nextSampleAt = v.nextSampleAt)
    (hfailure : v'.lastOpenFailureEventAt = v.lastOpenFailureEventAt)
    (hdiscard : v'.lastMalformedEventAt = v.lastMalformedEventAt) : Pace v' := by
  refine ⟨?_, ?_, ?_⟩
  · rw [hcalls, hsample]
    exact h.samples.say hmore.samples
  · rw [hcalls, hfailure]
    exact h.failures.say hmore.failures
  · rw [hcalls, hdiscard]
    exact h.discards.say hmore.discards

theorem tryPorts_pace (h : Pace v) (choices : List String) : Pace (v.tryPorts input choices) := by
  induction choices generalizing v with
  | nil => exact h
  | cons candidate choices ih =>
    rw [Viewer.tryPorts]
    cases input.opens candidate with
    | ok value => exact h.say rfl ⟨rfl, rfl, rfl⟩ rfl rfl rfl
    | error e =>
      dsimp only
      split_ifs with hdue
      · refine ih ⟨h.samples.say rfl, ?_, h.discards.say rfl⟩
        exact h.failures.act (p := ⟨input.now, warningPeriod⟩) (by linarith)
          (by norm_num [warningPeriod]) rfl
      · exact ih ⟨h.samples, h.failures, h.discards⟩

theorem connect_pace (requestedPort : Option String) (h : Pace v) :
    Pace (v.connect requestedPort input) := by
  unfold Viewer.connect
  have htried := tryPorts_pace input h (serialCandidates requestedPort (likelyPorts input.comports))
  split_ifs
  · dsimp only
    split_ifs
    · exact ⟨h.samples, h.failures, h.discards⟩
    · exact ⟨htried.samples, htried.failures, htried.discards⟩
    · exact ⟨htried.samples, htried.failures, htried.discards⟩
  · exact h

theorem discard_pace (h : Pace v) (error : DecodeError) (eventNow : ℚ) :
    Pace (v.discard error eventNow) := by
  unfold Viewer.discard
  dsimp only
  split_ifs with hdue
  · refine ⟨h.samples.say rfl, h.failures.say rfl, ?_⟩
    exact h.discards.act (p := ⟨eventNow, warningPeriod⟩) (by linarith)
      (by norm_num [warningPeriod]) rfl
  · exact ⟨h.samples, h.failures, h.discards⟩

theorem takeSegments_pace (h : Pace v) (segments : List (List U8 × ℕ)) :
    Pace (v.takeSegments input segments) := by
  induction segments generalizing v with
  | nil => exact h
  | cons first segments ih =>
    obtain ⟨encoded, i⟩ := first
    rw [Viewer.takeSegments]
    split_ifs
    · exact ih h
    · refine ih ?_
      unfold Viewer.takeOne
      obtain ⟨result, model⟩ := takeSegment v.model encoded (input.acceptedAt i)
      cases result with
      | error e =>
        exact discard_pace (v := { v with model := model })
          ⟨h.samples, h.failures, h.discards⟩ e _
      | ok update => exact h.say rfl (unstamped_flights _) rfl rfl rfl

theorem takeChunk_pace (h : Pace v) (chunk : List U8) : Pace (v.takeChunk input chunk) := by
  have hheard : Pace (v.hear input chunk) := by
    unfold Viewer.hear
    split_ifs
    · exact h.say rfl ⟨rfl, rfl, rfl⟩ rfl rfl rfl
    · exact h
  unfold Viewer.takeChunk Viewer.checkOverflow
  have htaken := takeSegments_pace input (v := { v.hear input chunk with
    buffer := (Viewer.splitBuffer (v.hear input chunk).buffer).2 })
    ⟨hheard.samples, hheard.failures, hheard.discards⟩
    (Viewer.splitBuffer (v.hear input chunk).buffer).1.zipIdx
  dsimp only
  split_ifs
  · exact htaken.say rfl ⟨rfl, rfl, rfl⟩ rfl rfl rfl
  · exact htaken

theorem drop_pace (h : Pace v) {more : List RecorderCall} (hmore : Unstamped more) (retryAt : ℚ) :
    Pace (v.drop more retryAt) := by
  refine h.say (List.append_assoc ..) ⟨?_, ?_, ?_⟩ rfl rfl rfl
  · rw [List.filterMap_append, hmore.samples]
    rfl
  · rw [List.filterMap_append, hmore.failures]
    rfl
  · rw [List.filterMap_append, hmore.discards]
    rfl

theorem receive_pace (h : Pace v) : Pace (v.receive input) := by
  unfold Viewer.receive
  cases v.serialPort with
  | none => exact h
  | some device =>
    cases input.read with
    | error e => exact drop_pace h ⟨rfl, rfl, rfl⟩ _
    | ok chunk =>
      dsimp only
      split_ifs
      · exact drop_pace (takeChunk_pace input h chunk) ⟨rfl, rfl, rfl⟩ _
      · exact takeChunk_pace input h chunk

theorem checkHealth_pace (h : Pace v) : Pace (v.checkHealth input) :=
  h.say rfl (unstamped_flights _) rfl rfl rfl

/-- A port that is still open after a read has not been silent for the timeout. -/
theorem receive_watchdog (hopen : (v.receive input).serialPort ≠ none) :
    input.isOpen = true ∧
      input.checkedAt - (v.receive input).lastSerialByteAt < serialSilenceTimeout := by
  unfold Viewer.receive at hopen ⊢
  cases hport : v.serialPort with
  | none =>
    rw [hport] at hopen
    exact absurd hport hopen
  | some device =>
    rw [hport] at hopen
    cases hread : input.read with
    | error e =>
      rw [hread] at hopen
      exact absurd rfl hopen
    | ok chunk =>
      rw [hread] at hopen
      dsimp only at hopen ⊢
      by_cases hstale : serialConnectionStale input.isOpen (v.takeChunk input chunk).lastSerialByteAt
          input.checkedAt = true
      · rw [if_pos hstale] at hopen
        exact absurd rfl hopen
      · rw [if_neg hstale]
        simpa [serialConnectionStale] using hstale

theorem blackboxSamplePeriod_pos {model : TelemetryModel} {period : ℚ}
    (h : blackboxSamplePeriod model = some period) : 0 < period := by
  unfold blackboxSamplePeriod at h
  cases hseen : model.lastAnyAt with
  | none =>
    rw [hseen] at h
    cases h
  | some t =>
    rw [hseen] at h
    rw [← Option.some.inj h]
    split_ifs <;> norm_num

/-- After a turn the next sample is not due. -/
theorem takeSample_pace (h : Pace v) :
    Pace (v.takeSample input) ∧ ∀ period, blackboxSamplePeriod v.model = some period →
      input.endedAt < (v.takeSample input).nextSampleAt := by
  unfold Viewer.takeSample
  cases hperiod : blackboxSamplePeriod v.model with
  | none => exact ⟨h, fun period hnone => nomatch hnone⟩
  | some period =>
    have hpos := blackboxSamplePeriod_pos hperiod
    dsimp only
    split_ifs with hdue
    · refine ⟨⟨?_, h.failures.say rfl, h.discards.say rfl⟩, fun _ _ => lt_add_of_pos_right _ hpos⟩
      refine h.samples.act (p := ⟨input.endedAt, period⟩) hdue hpos.le ?_
      simp [sampleStamp, hperiod]
    · exact ⟨h, fun _ _ => not_le.1 hdue⟩

end Steps

/-! ### Runs -/

/-- The samples of a run, with their periods. -/
def samplesOf (calls : List RecorderCall) : List (Poll ℚ) := calls.filterMap sampleStamp

/-- When the next sample is due: at 0, or when the period of the last one ends. -/
def sampleDue (calls : List RecorderCall) : ℚ :=
  ((samplesOf calls).getLast?.map Poll.ends).getD 0

/-- How a run keeps time. -/
structure Paced (requestedPort : Option String) (turns : List Turn) : Prop where
  /-- In the loop a sample comes no earlier than the period of any sample before it ends. -/
  samples : (samplesOf (Viewer.loop requestedPort turns).calls).Pairwise fun p q => p.ends ≤ q.now
  failures : ((Viewer.loop requestedPort turns).calls.filterMap failureStamp).Pairwise
    fun p q => p.now + warningPeriod ≤ q.now
  discards : ((Viewer.loop requestedPort turns).calls.filterMap discardStamp).Pairwise
    fun p q => p.now + warningPeriod ≤ q.now
  /-- The end of the run adds no sample and no failure; malformed frames that no warning has
  counted yet get one then, however soon after the last. -/
  ending : ∃ last, (Viewer.loop requestedPort turns).shutdown.calls =
      (Viewer.loop requestedPort turns).calls ++ last ∧
    samplesOf last = [] ∧ last.filterMap failureStamp = [] ∧
    malformedCounts last = if (Viewer.loop requestedPort turns).malformedSinceEvent = 0 then []
      else [(Viewer.loop requestedPort turns).malformedSinceEvent]
  /-- Once the model has a period, no turn ends with a sample due. -/
  noneLeftOut : ∀ before input, turns = before ++ [input] →
    blackboxSamplePeriod (Viewer.loop requestedPort turns).model ≠ none →
      input.endedAt < sampleDue (Viewer.loop requestedPort turns).calls
  /-- A port that is open after a turn was open and not silent when the turn checked it. -/
  watchdog : ∀ before input, turns = before ++ [input] →
    (Viewer.loop requestedPort turns).serialPort ≠ none →
      input.isOpen = true ∧ input.checkedAt -
        (Viewer.loop requestedPort turns).lastSerialByteAt < serialSilenceTimeout

section Run

variable (requestedPort : Option String)

theorem loop_pace (turns : List Turn) : Pace (Viewer.loop requestedPort turns) := by
  induction turns using List.reverseRecOn with
  | nil =>
    exact ⟨⟨[], by simp, rfl, rfl⟩, ⟨[], by simp, rfl, rfl⟩, ⟨[], by simp, rfl, rfl⟩⟩
  | append_singleton turns input ih =>
    rw [loop_concat, Viewer.turn]
    have hreceived := receive_pace input (connect_pace input requestedPort ih)
    exact (takeSample_pace input (checkHealth_pace input hreceived)).1

theorem takeSample_frame (v : Viewer) (input : Turn) :
    (v.takeSample input).model = v.model ∧ (v.takeSample input).serialPort = v.serialPort ∧
      (v.takeSample input).lastSerialByteAt = v.lastSerialByteAt := by
  unfold Viewer.takeSample
  cases blackboxSamplePeriod v.model with
  | none => exact ⟨rfl, rfl, rfl⟩
  | some period =>
    dsimp only
    split_ifs <;> exact ⟨rfl, rfl, rfl⟩

/-- What the end of a run adds to the calls. -/
theorem shutdown_calls (v : Viewer) : ∃ last, v.shutdown.calls = v.calls ++ last ∧
    samplesOf last = [] ∧ last.filterMap failureStamp = [] ∧
    malformedCounts last =
      if v.malformedSinceEvent = 0 then [] else [v.malformedSinceEvent] := by
  obtain ⟨closing, hcalls, hsamples, hfailures, hcounts, hpending⟩ : ∃ closing,
      v.closePort.calls = v.calls ++ closing ∧ samplesOf closing = [] ∧
      closing.filterMap failureStamp = [] ∧ malformedCounts closing = [] ∧
      v.closePort.malformedSinceEvent = v.malformedSinceEvent := by
    unfold Viewer.closePort
    cases v.serialPort with
    | none => exact ⟨[], (List.append_nil _).symm, rfl, rfl, rfl, rfl⟩
    | some device => exact ⟨_, rfl, rfl, rfl, rfl, rfl⟩
  rw [Viewer.shutdown, ← hpending]
  generalize v.closePort = w at *
  by_cases hzero : w.malformedSinceEvent = 0
  · rw [if_neg (not_not.2 hzero), if_pos hzero]
    exact ⟨closing, hcalls, hsamples, hfailures, hcounts⟩
  · rw [if_pos hzero, if_neg hzero]
    refine ⟨closing ++ _, by rw [← List.append_assoc, ← hcalls], ?_, ?_, ?_⟩
    · rw [samplesOf, List.filterMap_append, ← samplesOf, hsamples]
      rfl
    · rw [List.filterMap_append, hfailures]
      rfl
    · rw [malformedCounts_append, hcounts]
      rfl

/-- **The viewer keeps its pace**, in every run and for every clock. -/
theorem viewer_pace (turns : List Turn) : Paced requestedPort turns := by
  have hpace := loop_pace requestedPort turns
  refine ⟨hpace.samples.spaced, ?_, ?_, shutdown_calls _, ?_, ?_⟩
  · refine hpace.failures.spaced.imp_of_mem fun hp _ hends => ?_
    obtain ⟨call, -, hstamp⟩ := List.mem_filterMap.1 hp
    cases call <;> cases hstamp
    exact hends
  · refine hpace.discards.spaced.imp_of_mem fun hp _ hends => ?_
    obtain ⟨call, -, hstamp⟩ := List.mem_filterMap.1 hp
    cases call with
    | malformedFrames eventNow count lastError =>
      obtain ⟨now, -, rfl⟩ := Option.map_eq_some_iff.1 hstamp
      exact hends
    | _ => cases hstamp
  · rintro before input rfl hperiod
    have hafter := (loop_pace requestedPort (before ++ [input])).samples.next_eq
    rw [sampleDue, samplesOf, ← hafter, loop_concat, Viewer.turn]
    rw [loop_concat, Viewer.turn, (takeSample_frame _ input).1] at hperiod
    obtain ⟨period, hsome⟩ := Option.ne_none_iff_exists'.1 hperiod
    have hreceived := receive_pace input
      (connect_pace input requestedPort (loop_pace requestedPort before))
    exact (takeSample_pace input (checkHealth_pace input hreceived)).2 period hsome
  · rintro before input rfl hopen
    rw [loop_concat, Viewer.turn, (takeSample_frame _ input).2.1] at hopen
    rw [loop_concat, Viewer.turn, (takeSample_frame _ input).2.2]
    exact receive_watchdog input hopen

end Run

end SilverwareTx.GroundStation
