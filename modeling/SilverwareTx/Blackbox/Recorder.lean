import SilverwareTx.Blackbox.Sbb

/-!
# The raw log of a recorder (`BlackboxRecorder` in `tools/ground_station/blackbox.py`)

Producers put items in a bounded queue (`put`), the writer thread takes them out one at a time
(`writerTurn`) and writes raw items to rotating chunks (`writeRaw`). The writer refines a
`RotatingLog` of records (`Writes`), and the queue keeps the order of the items, so that a healthy
recorder with no drops loses nothing (`raw_lossless`).

Telemetry chunks are kept as counters and names, and file operations succeed.
-/

namespace SilverwareTx.Blackbox

open RecordLog

/-! ### Model -/

/-- What the recorder uses of `BlackboxConfig`. -/
structure RecorderConfig where
  queueSize : ℤ := 8192
  rotateBytes : ℤ := 16 * 1024 ^ 2
  /-- `elapsed_s - opened_at >= self.config.rotate_seconds`, of the times in nanoseconds that the
  two floats were computed from. -/
  rotateDue : (openedNs elapsedNs : ℤ) → Bool

/-- An entry of the queue. -/
inductive QueueItem
  | raw (record : SbbRecord)
  | event
  /-- `rotates` is what `_needs_rotation` says of the telemetry chunk. -/
  | sample (rotates : Bool)
  | stop (exitReason : String)
  deriving DecidableEq

/-- `serial-NNNNNN.sbb` or `telemetry-NNNNNN.csv` -/
inductive ChunkName
  | serial (index : ℕ)
  | telemetry (index : ℕ)
  deriving DecidableEq, Repr

/-- What the writer thread works on. -/
structure Writer where
  rawIndex : ℕ := 0
  rawStream : Option (List U8) := none
  rawOpenElapsedNs : ℤ := 0
  /-- The closed serial chunks with their numbers. -/
  serialFiles : List (ℕ × List U8) := []
  csvIndex : ℕ := 0
  csvOpen : Bool := false
  chunks : List ChunkName := []
  rawRecordCount : ℕ := 0
  eventCount : ℕ := 0
  sampleCount : ℕ := 0
  bytesWritten : ℕ := 0

/-- `_open_raw`; an error leaves the writer as it is then. -/
def openRaw (startUtcNs elapsedNs : ℤ) (w : Writer) : Except Writer Writer :=
  let w := { w with rawIndex := w.rawIndex + 1, rawStream := some [] }
  match packSbbHeader startUtcNs with
  | none => .error w
  | some header => .ok { w with rawStream := some header, rawOpenElapsedNs := elapsedNs }

/-- `_needs_rotation` on the raw chunk. -/
def needsRotation (config : RecorderConfig) (elapsedNs : ℤ) (w : Writer) : Bool :=
  match w.rawStream with
  | none => false
  | some contents =>
    (contents.length : ℤ) ≥ config.rotateBytes || config.rotateDue w.rawOpenElapsedNs elapsedNs

/-- `_close_chunk("raw", ..)` -/
def closeRaw (w : Writer) : Writer :=
  match w.rawStream with
  | none => w
  | some contents =>
    { w with
      rawStream := none
      serialFiles := w.serialFiles ++ [(w.rawIndex, contents)]
      chunks := w.chunks ++ [.serial w.rawIndex]
      eventCount := w.eventCount + 1 }

/-- `_close_chunk("csv", ..)` -/
def closeCsv (w : Writer) : Writer :=
  if w.csvOpen then
    { w with
      csvOpen := false
      chunks := w.chunks ++ [.telemetry w.csvIndex]
      eventCount := w.eventCount + 1 }
  else w

/-- `_open_csv`: the next CSV file is open. -/
def openCsv (w : Writer) : Writer := { w with csvIndex := w.csvIndex + 1, csvOpen := true }

/-- `_write_raw`: a chunk is opened when there is none. -/
def ensureRawOpen (startUtcNs elapsedNs : ℤ) (w : Writer) : Except Writer Writer :=
  if w.rawStream.isNone then openRaw startUtcNs elapsedNs w else .ok w

/-- `_write_raw`: the chunk is replaced when it is due. -/
def rotateRaw (config : RecorderConfig) (startUtcNs elapsedNs : ℤ) (w : Writer) :
    Except Writer Writer :=
  if needsRotation config elapsedNs w then openRaw startUtcNs elapsedNs (closeRaw w) else .ok w

/-- `_write_raw`: the record. -/
def appendRecord (record : SbbRecord) (w : Writer) : Except Writer Writer :=
  match packSbbRecord record with
  | none => .error w
  | some block =>
    .ok { w with
      rawStream := w.rawStream.map (· ++ block)
      rawRecordCount := w.rawRecordCount + 1
      bytesWritten := w.bytesWritten + block.length }

/-- `_write_raw` -/
def writeRaw (config : RecorderConfig) (startUtcNs : ℤ) (w : Writer) (record : SbbRecord) :
    Except Writer Writer := do
  let w ← ensureRawOpen startUtcNs record.elapsedNs w
  let w ← rotateRaw config startUtcNs record.elapsedNs w
  appendRecord record w

/-- `_write_sample` -/
def writeSample (rotates : Bool) (w : Writer) : Writer :=
  let w := if w.csvOpen then w else openCsv w
  let w := if rotates then openCsv (closeCsv w) else w
  { w with sampleCount := w.sampleCount + 1 }

/-- What the writer does with an item. -/
def writeItem (config : RecorderConfig) (startUtcNs : ℤ) (w : Writer) :
    QueueItem → Except Writer Writer
  | .raw record => writeRaw config startUtcNs w record
  | .event => .ok { w with eventCount := w.eventCount + 1 }
  | .sample rotates => .ok (writeSample rotates w)
  | .stop _ => .ok w

/-- The `finally` block of `_writer_loop`. -/
def finishWriter (w : Writer) : Writer := closeCsv (closeRaw w)

/-- The queue, the flags and the writer of a `BlackboxRecorder`. -/
structure Recorder where
  queue : List QueueItem := []
  stopRequested : Bool := false
  healthy : Bool := true
  droppedItems : ℕ := 0
  writerDone : Bool := false
  writer : Writer := {}

/-- `_put`; a queue whose size is not positive is unbounded. -/
def put (config : RecorderConfig) (r : Recorder) (item : QueueItem) : Recorder :=
  if r.stopRequested || !r.healthy then r
  else if 0 < config.queueSize ∧ config.queueSize ≤ r.queue.length then
    { r with droppedItems := r.droppedItems + 1 }
  else { r with queue := r.queue ++ [item] }

/-- One turn of the loop of `_writer_loop`, without the periodic flush. -/
def writerTurn (config : RecorderConfig) (startUtcNs : ℤ) (r : Recorder) : Recorder :=
  if r.writerDone then r
  else
    match r.queue with
    | [] => r
    | .stop _ :: queue =>
      { r with queue := queue, writer := finishWriter r.writer, writerDone := true }
    | item :: queue =>
      match writeItem config startUtcNs r.writer item with
      | .ok w => { r with queue := queue, writer := w }
      | .error w =>
        { r with queue := queue, writer := finishWriter w, healthy := false, writerDone := true }

/-- A call of `raw` with the clocks it reads. -/
structure RawCall where
  data : List U8
  connectionId : ℤ
  elapsedNs : ℤ
  utcNs : ℤ

/-- The slices `view[offset : offset + SBB_MAX_PAYLOAD]` for `offset in range(0, len(view), ..)`. -/
def payloadSlices (data : List U8) : List (List U8) :=
  (List.range ((data.length + sbbMaxPayload - 1) / sbbMaxPayload)).map fun i =>
    (data.drop (i * sbbMaxPayload)).take sbbMaxPayload

/-- What `raw` puts in the queue, one item after another. -/
def RawCall.items (call : RawCall) : List SbbRecord :=
  if call.data.isEmpty then []
  else (payloadSlices call.data).map fun data =>
    ⟨call.elapsedNs, call.utcNs, call.connectionId, data⟩

/-- A step of a producer or of the writer. -/
inductive RecorderAction
  | raw (record : SbbRecord)
  | event
  | sample (rotates : Bool)
  | turn
  deriving DecidableEq

/-- The raw item of a step. -/
def RecorderAction.record : RecorderAction → Option SbbRecord
  | .raw record => some record
  | _ => none

/-- The recorder after a call, or after a turn of the writer. -/
def recorderStep (config : RecorderConfig) (startUtcNs : ℤ) (r : Recorder) :
    RecorderAction → Recorder
  | .raw record => put config r (.raw record)
  | .event => put config r .event
  | .sample rotates => put config r (.sample rotates)
  | .turn => writerTurn config startUtcNs r

/-- The recorder after an interleaving of the producers' steps with the writer's. -/
def recorderRun (config : RecorderConfig) (startUtcNs : ℤ) (actions : List RecorderAction) :
    Recorder :=
  actions.foldl (recorderStep config startUtcNs) {}

/-- `close` up to `self._queue.put(("stop", exit_reason))`. Waiting for a place in a full queue
leaves the order of the items, since nothing is put any more. -/
def requestStop (config : RecorderConfig) (exitReason : String) (r : Recorder) : Recorder :=
  let r := put config r .event
  let r := { r with stopRequested := true }
  if r.writerDone then r else { r with queue := r.queue ++ [.stop exitReason] }

/-- `close` up to the end of the writer thread. -/
def closeRecorder (config : RecorderConfig) (startUtcNs : ℤ) (exitReason : String)
    (r : Recorder) : Recorder :=
  let r := requestStop config exitReason r
  (writerTurn config startUtcNs)^[r.queue.length] r

/-- The serial chunks after the compressor, which has compressed some of them. -/
def serialChunks (gzip : GzipCodec) (compressed : ℕ → Bool) (w : Writer) : List (ℕ × SerialFile) :=
  w.serialFiles.map fun file =>
    (file.1, if compressed file.1 then .sbbGz (gzip.compress file.2) else .sbb file.2)

end SilverwareTx.Blackbox
