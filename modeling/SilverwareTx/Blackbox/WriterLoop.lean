import SilverwareTx.Lib.CsvWriter
import SilverwareTx.Lib.Raising
import SilverwareTx.Blackbox.Compression
import SilverwareTx.Blackbox.Quota

/-!
# The writer thread of a recorder (`_writer_loop` in `tools/ground_station/blackbox.py`)

`LogWriter` is what the writer works on, with the bytes it has put in the files of the session.
Its functions run in `Io`: every call of the operating system takes its answer from the turn, and
an exception leaves the writer as it is then. A write that raises has written nothing.

The quota may delete closed chunks at any of its turns (`runUpkeep`); which ones is up to
`enforceQuotaLocked`, and to what other threads and processes have done. Compression takes the closed
chunks from the queue (`compressChunk`).
-/

namespace SilverwareTx.Blackbox

open CsvText

/-! ### Data -/

/-- A value in the `data` of an event. -/
inductive Datum
  | null
  | flag (value : Bool)
  | number (value : ℤ)
  | text (value : String)
  | texts (values : List String)
  /-- A time in seconds, computed from nanoseconds. -/
  | seconds (ns : ℤ)
  deriving DecidableEq, Repr

/-- A line of `events.jsonl`. -/
structure LogEvent where
  severity : String
  type : String
  message : String
  utcNs : ℤ
  elapsedNs : ℤ
  data : List (String × Datum) := []
  deriving DecidableEq, Repr

/-- A call of `sample`: the row, with the texts that `csv` makes of its values. -/
structure Sample where
  row : List (String × String)
  elapsedNs : ℤ
  deriving DecidableEq, Repr

/-- An entry of the queue, with its value. -/
inductive LogItem
  | raw (record : SbbRecord)
  | event (event : LogEvent)
  | sample (sample : Sample)
  | stop (exitReason : String)
  deriving DecidableEq

/-- An entry of `_chunks`. -/
structure ClosedChunk extends StoredChunk where
  uncompressedBytes : ℕ
  deriving DecidableEq, Repr

/-- `chunk["pruned"] = True` and `chunk["state"] = "pruned"` -/
def ClosedChunk.markPruned (chunk : ClosedChunk) : ClosedChunk :=
  { chunk with pruned := true, state := .pruned }

/-! ### Names -/

/-- `kind` as text. -/
def ChunkKind.text : ChunkKind → String
  | .raw => "raw"
  | .csv => "csv"

/-- `f"{index:06d}"` -/
def sixDigits (index : ℕ) : String :=
  String.ofList (List.replicate (6 - (toString index).length) '0') ++ toString index

/-- The name of an uncompressed chunk. -/
def ChunkName.text : ChunkName → String
  | .serial index => s!"serial-{sixDigits index}.sbb"
  | .telemetry index => s!"telemetry-{sixDigits index}.csv"

/-- `path.name` -/
def StoredName.text : StoredName → String
  | .chunk name gz => name.text ++ if gz then ".gz" else ""
  | .other name => name

/-! ### State -/

/-- What the writer thread works on. -/
structure LogWriter where
  healthy : Bool := true
  error : String := ""
  errors : List String := []
  bytesWritten : ℕ := 0
  chunks : List ClosedChunk := []
  eventCount : ℕ := 0
  sampleCount : ℕ := 0
  rawRecordCount : ℕ := 0
  csvFields : Option (List String) := none
  /-- `_raw_index` and `_csv_index` -/
  index : ChunkKind → ℕ := fun _ => 0
  /-- What `_raw_stream` and `_csv_stream` have been given. -/
  stream : ChunkKind → Option (List U8) := fun _ => none
  openElapsedNs : ChunkKind → ℤ := fun _ => 0
  /-- What each chunk held when it was closed. -/
  closedFiles : StoredName → Option (List U8) := fun _ => none
  /-- `events.jsonl` -/
  events : List LogEvent := []
  compressQueue : List (StoredName × ℕ) := []
  /-- `exit_reason` of the metadata, which the end of the loop sets. -/
  exitReason : Option String := none
  /-- What the calls of the operating system answer in this turn, `some` for an exception. The
  calls after these succeed. -/
  answers : List (Option String) := []

/-- `_set_error` -/
def LogWriter.setError (message : String) (w : LogWriter) : LogWriter :=
  { w with healthy := false, error := message, errors := w.errors ++ [message] }

/-- A function of the writer that may raise, with the text of the exception. -/
abbrev Io := Raising String LogWriter

/-! ### Files -/

/-- A call of the operating system. -/
def osCall : Io Unit := do
  match (← get).answers with
  | [] => pure ()
  | answer :: answers =>
    modify fun w => { w with answers := answers }
    match answer with
    | none => pure ()
    | some text => throw text

/-- `stream.write(data)` -/
def writeStream (kind : ChunkKind) (data : List U8) : Io Unit := do
  osCall
  modify fun w => { w with
    stream := Function.update w.stream kind ((w.stream kind).map (· ++ data)) }

/-- `_open_raw` and `_open_csv`; `header` is what they write first, `none` where packing it
raises. -/
def openChunk (kind : ChunkKind) (header : Option (List U8)) (elapsedNs : ℤ) : Io Unit := do
  modify fun w => { w with index := Function.update w.index kind (w.index kind + 1) }
  osCall
  modify fun w => { w with stream := Function.update w.stream kind (some []) }
  match header with
  | none => throw "int too large to convert"
  | some header => writeStream kind header
  modify fun w => { w with openElapsedNs := Function.update w.openElapsedNs kind elapsedNs }

/-- `_open_raw` -/
def openRawChunk (startUtcNs elapsedNs : ℤ) : Io Unit :=
  openChunk .raw (packSbbHeader startUtcNs) elapsedNs

/-- `_open_csv` -/
def openCsvChunk (fields : List String) (elapsedNs : ℤ) : Io Unit :=
  openChunk .csv (some (utf8Encode (csvRecord fields))) elapsedNs

/-- `_needs_rotation`; `tell` does not raise on an open file. -/
def LogWriter.needsRotation (config : RecorderConfig) (kind : ChunkKind) (elapsedNs : ℤ)
    (w : LogWriter) : Bool :=
  match w.stream kind with
  | none => false
  | some contents =>
    (contents.length : ℤ) ≥ config.rotateBytes || config.rotateDue (w.openElapsedNs kind) elapsedNs

/-- `_write_event` -/
def writeLogEvent (event : LogEvent) : Io Unit := do
  osCall
  modify fun w => { w with events := w.events ++ [event], eventCount := w.eventCount + 1 }

/-- The event of a closed chunk. -/
def logRotation (chunk : ClosedChunk) (utcNs : ℤ) : LogEvent where
  severity := "info"
  type := "log_rotation"
  message := s!"Closed {chunk.kind.text} chunk {chunk.name.text}"
  utcNs := utcNs
  elapsedNs := chunk.endElapsedNs
  data := [("kind", .text chunk.kind.text), ("name", .text chunk.name.text),
    ("bytes", .number chunk.uncompressedBytes)]

/-- `_close_chunk` -/
def closeChunk (kind : ChunkKind) (endElapsedNs utcNs : ℤ) : Io Unit := do
  let w ← get
  match w.stream kind with
  | none => pure ()
  | some contents =>
    let chunk : ClosedChunk := {
      kind := kind
      name := chunkFile kind (w.index kind) false
      startElapsedNs := w.openElapsedNs kind
      endElapsedNs := endElapsedNs
      uncompressedBytes := contents.length }
    modify fun w => { w with stream := Function.update w.stream kind none }
    osCall  -- flush
    osCall  -- fsync
    osCall  -- close
    modify fun w => { w with closedFiles := Function.update w.closedFiles chunk.name contents }
    osCall  -- stat
    let chunkIndex := w.chunks.length
    modify fun w => { w with chunks := w.chunks ++ [chunk] }
    writeLogEvent (logRotation chunk utcNs)
    modify fun w => { w with compressQueue := w.compressQueue ++ [(chunk.name, chunkIndex)] }

/-- A chunk is opened where there is none. -/
def ensureStream (kind : ChunkKind) (openNext : Io Unit) : Io Unit := do
  if ((← get).stream kind).isNone then openNext else pure ()

/-- The chunk is replaced where it is due. -/
def rotateChunk (config : RecorderConfig) (kind : ChunkKind) (openNext : Io Unit)
    (elapsedNs utcNs : ℤ) : Io Unit := do
  if (← get).needsRotation config kind elapsedNs then
    closeChunk kind elapsedNs utcNs
    openNext
  else pure ()

/-- The chunk to write to. -/
def ensureChunk (config : RecorderConfig) (kind : ChunkKind) (openNext : Io Unit)
    (elapsedNs utcNs : ℤ) : Io Unit := do
  ensureStream kind openNext
  rotateChunk config kind openNext elapsedNs utcNs

/-- `_write_raw` -/
def writeRawRecord (config : RecorderConfig) (startUtcNs utcNs : ℤ) (record : SbbRecord) :
    Io Unit := do
  ensureChunk config .raw (openRawChunk startUtcNs record.elapsedNs) record.elapsedNs utcNs
  match packSbbRecord record with
  | none => throw "argument out of range"
  | some block =>
    writeStream .raw block
    modify fun w => { w with
      rawRecordCount := w.rawRecordCount + 1
      bytesWritten := w.bytesWritten + block.length }

/-- `list(row.keys())` -/
def Sample.keys (sample : Sample) : List String := sample.row.map Prod.fst

/-- The row under the header, with `restval` for what is missing. -/
def Sample.record (fields : List String) (sample : Sample) : List String :=
  fields.map fun field => (sample.row.lookup field).getD ""

/-- `_write_sample` -/
def writeSampleRow (config : RecorderConfig) (utcNs : ℤ) (sample : Sample) : Io Unit := do
  let fields := (← get).csvFields.getD sample.keys
  modify fun w => { w with csvFields := some fields }
  ensureChunk config .csv (openCsvChunk fields sample.elapsedNs) sample.elapsedNs utcNs
  writeStream .csv (utf8Encode (csvRecord (sample.record fields)))
  modify fun w => { w with sampleCount := w.sampleCount + 1 }

/-- Calls of the operating system that change nothing here. -/
def osCalls : (count : ℕ) → Io Unit
  | 0 => pure ()
  | count + 1 => do
    osCall
    osCalls count

/-- `_flush`; `sync` calls `os.fsync` as well. The last call is `_flat_directory_size`. -/
def flush (sync : Bool) : Io Unit := do
  let w ← get
  let streams := (w.stream .raw).toList.length + (w.stream .csv).toList.length + 1
  osCalls (streams * (if sync then 2 else 1) + 1)

/-! ### The loop -/

/-- What is due at the end of a turn of the writer. -/
inductive Upkeep
  | none
  | flush (sync : Bool)
  /-- Ten seconds after the last time: `_enforce_quota`, which deletes the chunks at the places
  `pruned` of `_chunks`, and `_atomic_json`, each with its calls. -/
  | flushAndSave (sync : Bool) (quotaCalls : ℕ) (pruned : List ℕ) (saveCalls : ℕ)

/-- What a turn of the writer takes from the queue, the clocks and the operating system. -/
structure WriterInput where
  /-- `none` for `queue.Empty`. -/
  item : Option LogItem := none
  answers : List (Option String) := []
  utcNs : ℤ := 0
  elapsedNs : ℤ := 0
  upkeep : Upkeep := .none

/-- The `if` over the kind of an item. -/
def writeLogItem (config : RecorderConfig) (startUtcNs utcNs : ℤ) : LogItem → Io Unit
  | .raw record => writeRawRecord config startUtcNs utcNs record
  | .event event => writeLogEvent event
  | .sample sample => writeSampleRow config utcNs sample
  | .stop _ => pure ()

/-- What `_enforce_quota_locked` does to the session's own chunks; their events go to the queue. -/
def LogWriter.prune (pruned : List ℕ) (w : LogWriter) : LogWriter :=
  { w with
    chunks := pruned.foldl (fun chunks i => chunks.modify i ClosedChunk.markPruned) w.chunks }

/-- The end of a turn. -/
def runUpkeep : Upkeep → Io Unit
  | .none => pure ()
  | .flush sync => flush sync
  | .flushAndSave sync quotaCalls pruned saveCalls => do
    flush sync
    osCalls quotaCalls
    modify (LogWriter.prune pruned)
    osCalls saveCalls

/-- One turn of the loop; `some` is its `break`, with the exit reason. -/
def writerLoopTurn (config : RecorderConfig) (startUtcNs : ℤ) (input : WriterInput) :
    Io (Option String) := do
  match input.item with
  | some (.stop exitReason) => return some exitReason
  | item =>
    item.forM (writeLogItem config startUtcNs input.utcNs)
    runUpkeep input.upkeep
    return none

/-- The loop on these inputs; `none` while it waits for the next. -/
def writerTurns (config : RecorderConfig) (startUtcNs : ℤ) : List WriterInput → Io (Option String)
  | [] => pure none
  | input :: inputs => do
    modify fun w => { w with answers := input.answers }
    match ← writerLoopTurn config startUtcNs input with
    | some exitReason => return some exitReason
    | none => writerTurns config startUtcNs inputs

/-- The `try` of the `finally` block. -/
def closeAll (input : WriterInput) : Io Unit := do
  modify fun w => { w with answers := input.answers }
  closeChunk .raw input.elapsedNs input.utcNs
  closeChunk .csv input.elapsedNs input.utcNs
  flush true

/-- The `finally` block. -/
def LogWriter.finishLoop (input : WriterInput) (exitReason : String) (w : LogWriter) : LogWriter :=
  let w :=
    match (closeAll input).run w with
    | (.ok _, w) => w
    | (.error text, w) => w.setError s!"blackbox final flush failed: {text}"
  { w with exitReason := some exitReason }

/-- `_writer_loop`; `last` is for the `finally` block. -/
def writerLoop (config : RecorderConfig) (startUtcNs : ℤ) (inputs : List WriterInput)
    (last : WriterInput) (w : LogWriter) : LogWriter :=
  match (writerTurns config startUtcNs inputs).run w with
  | (.ok none, w) => w
  | (.ok (some exitReason), w) => w.finishLoop last exitReason
  | (.error text, w) =>
    (w.setError s!"blackbox writer failed: {text}").finishLoop last "normal shutdown"

end SilverwareTx.Blackbox
