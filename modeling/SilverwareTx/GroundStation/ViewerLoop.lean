import SilverwareTx.GroundStation.FlightEvents
import SilverwareTx.GroundStation.SerialPorts
import SilverwareTx.GroundStation.Viewer

/-!
# The main loop of the viewer (`run_viewer` in `tools/ground_station/ground_station.py`)

`Viewer.turn` is one turn of `while True` and `Viewer.shutdown` the block `finally`, which a
`KeyboardInterrupt` reaches between two turns. `Turn` is what a turn gets from outside: the ports,
the outcomes of opening and reading them, and the clock. What the viewer tells the recorder is kept
in `calls`. The drawing of the dashboard reads this state and is left out, and the readings of the
clock are exact rationals where the code has doubles.
-/

namespace SilverwareTx.GroundStation

/-- A call of the recorder. -/
inductive RecorderCall
  | connected (connectionId : ℕ) (port : String)
  | disconnected (connectionId : ℕ) (port : String)
  | raw (chunk : List U8) (connectionId : ℕ)
  | openFailed (now : ℚ) (port error : String)
  | readFailed (port error : String)
  /-- `eventNow` is the clock that let the event through, if it took that. -/
  | malformedFrames (eventNow : Option ℚ) (count : ℕ) (lastError : String)
  | bufferOverflow
  | flight (event : FlightEvent)
  | sample (model : TelemetryModel) (port : String) (connectionId : ℕ) (now : ℚ)

/-- The type, the severity and the message of a call of `recorder.event` in the loop. -/
def RecorderCall.eventTexts : RecorderCall → Option (String × String × String)
  | .openFailed _ port _ => some ("serial_open_failed", "warning", s!"Could not open {port}")
  | .readFailed port _ => some ("serial_read_failed", "warning", s!"Serial read failed on {port}")
  | .malformedFrames _ count _ =>
    some ("malformed_frames", "warning", s!"Discarded {count} malformed telemetry frame(s)")
  | .bufferOverflow =>
    some ("serial_buffer_overflow", "warning", "Serial synchronization buffer was cleared")
  | .flight event => some (event.eventType, event.severity, event.message)
  | .connected _ _ | .disconnected _ _ | .raw _ _ | .sample _ _ _ _ => none

/-- What comes from outside in a turn. -/
structure Turn where
  now : ℚ
  comports : List PortInfo
  /-- `open_serial_port`, by the device: `OSError`, `ValueError` or `SerialException`, or a port. -/
  opens : String → Except String Unit
  openedAt : ℚ
  /-- `serial_port.read(512)` -/
  read : Except String (List U8)
  readAt : ℚ
  /-- The clock in `accept`, by the segment. -/
  acceptedAt : ℕ → ℚ
  /-- The clock after a segment that is discarded. -/
  discardedAt : ℕ → ℚ
  checkedAt : ℚ
  isOpen : Bool
  failedAt : ℚ
  endedAt : ℚ

/-- `SERIAL_RETRY_DELAY_S`: how long a turn without a port waits. -/
def serialRetryDelay : ℚ := 1 / 4

/-- `SERIAL_SILENCE_TIMEOUT_S`: how long a detected port may be silent. -/
def serialSilenceTimeout : ℚ := 3

/-- The distance of the warnings that the loop repeats. -/
def warningPeriod : ℚ := 5

/-- `blackbox_sample_period` -/
def blackboxSamplePeriod (model : TelemetryModel) : Option ℚ :=
  match model.lastAnyAt with
  | none => none
  | some _ =>
    let controlEnabled := match model.localState with
      | none => false
      | some st => st.statusFlags.testBit 3
    some (if model.fc.armed || controlEnabled then 1 / 10 else 1 / 2)

/-- The variables of `run_viewer`; `serialPort` is the device of the open port. -/
structure Viewer where
  model : TelemetryModel := {}
  tracker : EventTracker := {}
  buffer : List U8 := []
  serialPort : Option String := none
  activePort : String
  connectionId : ℕ := 0
  retryAt : ℚ := 0
  lastSerialByteAt : ℚ := 0
  lastOpenFailureEventAt : ℚ := -10
  nextSampleAt : ℚ := 0
  malformedSinceEvent : ℕ := 0
  lastMalformedEventAt : ℚ := -10
  lastMalformedError : String := ""
  calls : List RecorderCall := []

/-- `serial_connection_stale` -/
def serialConnectionStale (isOpen : Bool) (lastByteAt now : ℚ) : Bool :=
  !isOpen || decide (serialSilenceTimeout ≤ now - lastByteAt)

/-- What a segment does to the model, by `decode_bridge_frame` and `accept`. -/
def takeSegment (model : TelemetryModel) (encoded : List U8) (receivedAt : ℚ) :
    Except DecodeError ModelUpdate × TelemetryModel :=
  match decodeBridgeFrame encoded with
  | .error e => (.error e, model)
  | .ok record => model.accept record receivedAt

/-- `model.stats.malformed_frames += 1` -/
def countMalformed (model : TelemetryModel) : TelemetryModel :=
  { model with stats := { model.stats with malformedFrames := model.stats.malformedFrames + 1 } }

namespace Viewer

/-- The state before the loop. -/
def start (requestedPort : Option String) : Viewer where
  activePort := (given requestedPort).getD "auto-detecting"

/-- The loop over the candidates, until one opens. -/
def tryPorts (turn : Turn) (v : Viewer) : List String → Viewer
  | [] => v
  | candidate :: choices =>
    match turn.opens candidate with
    | .ok () =>
      { v with
        activePort := candidate
        serialPort := some candidate
        lastSerialByteAt := turn.openedAt
        connectionId := v.connectionId + 1
        buffer := []
        calls := v.calls ++ [.connected (v.connectionId + 1) candidate] }
    | .error e =>
      let v := { v with activePort := candidate, serialPort := none }
      let v :=
        if warningPeriod ≤ turn.now - v.lastOpenFailureEventAt then
          { v with
            calls := v.calls ++ [.openFailed turn.now candidate e]
            lastOpenFailureEventAt := turn.now }
        else v
      v.tryPorts turn choices

/-- The first part of a turn: a new attempt to connect. -/
def connect (requestedPort : Option String) (turn : Turn) (v : Viewer) : Viewer :=
  if v.serialPort = none ∧ v.retryAt ≤ turn.now then
    let choices := serialCandidates requestedPort (likelyPorts turn.comports)
    let v :=
      if choices = [] then { v with activePort := "auto-detecting" }
      else
        let v := v.tryPorts turn choices
        if v.serialPort = none then
          { v with
            activePort := match given requestedPort with
              | some port => port ++ " (reconnecting)"
              | none => "auto-detecting" }
        else v
    { v with retryAt := turn.now + serialRetryDelay }
  else v

/-- A segment that was discarded. -/
def discard (v : Viewer) (error : DecodeError) (eventNow : ℚ) : Viewer :=
  let v :=
    { v with
      model := countMalformed v.model
      malformedSinceEvent := v.malformedSinceEvent + 1
      lastMalformedError := error.message }
  if warningPeriod ≤ eventNow - v.lastMalformedEventAt then
    { v with
      calls :=
        v.calls ++ [.malformedFrames (some eventNow) v.malformedSinceEvent v.lastMalformedError]
      malformedSinceEvent := 0
      lastMalformedEventAt := eventNow }
  else v

/-- The body of the loop over the segments. -/
def takeOne (turn : Turn) (v : Viewer) (encoded : List U8) (i : ℕ) : Viewer :=
  match takeSegment v.model encoded (turn.acceptedAt i) with
  | (.error e, model) => { v with model := model }.discard e (turn.discardedAt i)
  | (.ok update, model) =>
    let accepted := v.tracker.accept model update
    { v with
      model := model
      tracker := accepted.2
      calls := v.calls ++ accepted.1.map RecorderCall.flight }

/-- The loop over the segments. -/
def takeSegments (turn : Turn) (v : Viewer) : List (List U8 × ℕ) → Viewer
  | [] => v
  | (encoded, i) :: segments =>
    if encoded = [] then v.takeSegments turn segments
    else (v.takeOne turn encoded i).takeSegments turn segments

/-- A chunk is recorded and buffered, unless the read has timed out. -/
def hear (turn : Turn) (v : Viewer) (chunk : List U8) : Viewer :=
  if chunk ≠ [] then
    { v with
      lastSerialByteAt := turn.readAt
      calls := v.calls ++ [.raw chunk v.connectionId]
      buffer := v.buffer ++ chunk }
  else v

/-- The segments of the buffer, and what stays in it. -/
def splitBuffer (buffer : List U8) : List (List U8) × List U8 :=
  if buffer.contains 0 then ((buffer.splitOn 0).dropLast, (buffer.splitOn 0).getLastD [])
  else ([], buffer)

/-- A buffer that is too long is cleared. -/
def checkOverflow (v : Viewer) : Viewer :=
  if v.buffer.length > serialBufferLimit then
    { v with
      buffer := []
      model := countMalformed v.model
      calls := v.calls ++ [.bufferOverflow] }
  else v

/-- What is done with a chunk, up to the check of the connection. -/
def takeChunk (turn : Turn) (v : Viewer) (chunk : List U8) : Viewer :=
  let v := v.hear turn chunk
  let split := splitBuffer v.buffer
  ({ v with buffer := split.2 }.takeSegments turn split.1.zipIdx).checkOverflow

/-- The port is given up. -/
def drop (v : Viewer) (calls : List RecorderCall) (retryAt : ℚ) : Viewer :=
  { v with
    calls := v.calls ++ calls ++ [.disconnected v.connectionId v.activePort]
    serialPort := none
    buffer := []
    activePort := v.activePort ++ " (reconnecting)"
    retryAt := retryAt }

/-- The second part of a turn: a read of the open port. -/
def receive (turn : Turn) (v : Viewer) : Viewer :=
  match v.serialPort with
  | none => v
  | some _ =>
    match turn.read with
    | .error e =>
      v.drop [.readFailed v.activePort e] (turn.failedAt + serialRetryDelay)
    | .ok chunk =>
      let v := v.takeChunk turn chunk
      if serialConnectionStale turn.isOpen v.lastSerialByteAt turn.checkedAt then
        v.drop [] (turn.checkedAt + serialRetryDelay)
      else v

/-- The health events. -/
def checkHealth (turn : Turn) (v : Viewer) : Viewer :=
  let health := v.tracker.health v.model turn.endedAt
  { v with
    tracker := health.2
    calls := v.calls ++ health.1.map RecorderCall.flight }

/-- The sample, when one is due. -/
def takeSample (turn : Turn) (v : Viewer) : Viewer :=
  match blackboxSamplePeriod v.model with
  | none => v
  | some period =>
    if v.nextSampleAt ≤ turn.endedAt then
      { v with
        calls := v.calls ++ [.sample v.model v.activePort v.connectionId turn.endedAt]
        nextSampleAt := turn.endedAt + period }
    else v

/-- A turn of the loop. -/
def turn (requestedPort : Option String) (v : Viewer) (input : Turn) : Viewer :=
  (((v.connect requestedPort input).receive input).checkHealth input).takeSample input

/-- The loop on a sequence of turns. -/
def loop (requestedPort : Option String) (turns : List Turn) : Viewer :=
  turns.foldl (turn requestedPort) (start requestedPort)

/-- The port is closed when it is open. -/
def closePort (v : Viewer) : Viewer :=
  match v.serialPort with
  | none => v
  | some _ =>
    { v with
      calls := v.calls ++ [.disconnected v.connectionId v.activePort]
      serialPort := none }

/-- The block `finally`, as far as the recorder. -/
def shutdown (v : Viewer) : Viewer :=
  let v := v.closePort
  if v.malformedSinceEvent ≠ 0 then
    { v with
      calls := v.calls ++ [.malformedFrames none v.malformedSinceEvent v.lastMalformedError] }
  else v

end Viewer

end SilverwareTx.GroundStation
