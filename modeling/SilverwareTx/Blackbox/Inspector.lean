import SilverwareTx.Lib.CsvText
import SilverwareTx.Blackbox.Sbb
import SilverwareTx.Blackbox.Sessions

/-!
# The post-flight inspector (`inspect_session` in `tools/ground_station/blackbox.py`)

`gzip` and `float` are parameters (`Stdlib`): a gzip stream gives some bytes and may end with one of
the exceptions of `GzipFault`. `iterSbbStream` is `iter_sbb_records` on a stream that may raise,
`CsvText.csvReading` the reader of the telemetry files, and `inspectSession` the function itself,
with its three loops and their `except` clauses.
-/

namespace SilverwareTx.Blackbox

open GuardedReading CsvText BigEndian
open GroundStation (structUnpack)

/-! ### Exceptions -/

/-- The exceptions that the inspection may meet, by their classes. -/
inductive PyException
  | osError
  | eofError
  /-- `zlib.error` -/
  | zlibError
  | blackboxFormatError (error : BlackboxFormatError)
  /-- `csv.Error` -/
  | csvError (text : String)
  | unicodeError
  | valueError
  | attributeError
  deriving DecidableEq, Repr

/-- `except (OSError, BlackboxFormatError)` -/
def rawHandled : PyException → Bool
  | .osError | .blackboxFormatError _ => true
  | _ => false

/-- `except (OSError, csv.Error, UnicodeError)` -/
def csvHandled : PyException → Bool
  | .osError | .csvError _ | .unicodeError => true
  | _ => false

/-- What is wrong with a gzip file. -/
inductive GzipFault
  | badHeader
  | badCrc
  | cutOff
  | corrupt
  deriving DecidableEq, Repr

/-- The exception that a fault of the gzip reader raises. -/
def GzipFault.exception : GzipFault → PyException
  | .badHeader | .badCrc => .osError
  | .cutOff => .eofError
  | .corrupt => .zlibError

/-- What reading a gzip file gives, chunk by chunk, before it ends. -/
structure GzipStream where
  chunks : List (List U8)
  fault : Option GzipFault := none

/-- The parts of the standard library that are left open. -/
structure Stdlib (F : Type) where
  gzipOpen : List U8 → GzipStream
  /-- `none` is the `ValueError`. -/
  float : String → Option F
  /-- `str(exc)` -/
  str : PyException → String

/-! ### A session directory -/

/-- A raw or telemetry file. -/
structure LogFile where
  name : String
  /-- `path.suffix == ".gz"` -/
  gz : Bool
  contents : List U8
  deriving DecidableEq

/-- An event, by what is read of it; `J` are the JSON values. -/
structure Event (J : Type) where
  /-- `str(event.get("type", "unknown"))` -/
  type : String
  /-- `str(event.get("severity", "unknown"))` -/
  severity : String
  utc : J
  message : J

/-- A line of `events.jsonl`. -/
inductive EventLine (J : Type)
  | blank
  /-- A `JSONDecodeError` with its message. -/
  | malformed (msg : String)
  | object (event : Event J)
  /-- A JSON value that has no `get`. -/
  | notObject

/-- What is read of `session.json`. -/
structure SessionJson (J : Type) where
  state : J
  startUtc : J
  endUtc : J
  durationS : J
  exitReason : J
  requestedPort : J
  errors : J
  prunedRanges : J

/-- What `inspect_session` finds in a session's directory. -/
structure InspectedSession (J : Type) where
  /-- `none` where it cannot be read. -/
  sessionJson : Option (SessionJson J)
  activeLock : LockProbe
  /-- `serial-*.sbb` in order, then `serial-*.sbb.gz` in order. -/
  rawFiles : List LogFile
  /-- The lines of `events.jsonl`, and the exception that ends them, if any. -/
  events : Reading (EventLine J) PyException
  /-- `telemetry-*.csv` in order, then `telemetry-*.csv.gz` in order. -/
  csvFiles : List LogFile
  diskBytes : ℕ

/-! ### Reading the files -/

/-- A binary stream: the bytes to come, and the exception that ends them, if any. -/
structure ByteStream where
  bytes : List U8
  failure : Option PyException := none

/-- `stream.read(size)`; an exception takes the bytes in front of it along. -/
def ByteStream.read (stream : ByteStream) (size : ℕ) : Except PyException (List U8 × ByteStream) :=
  match stream.failure with
  | none => .ok (stream.bytes.take size, ⟨stream.bytes.drop size, none⟩)
  | some e =>
    if stream.bytes.length < size then .error e
    else .ok (stream.bytes.take size, ⟨stream.bytes.drop size, some e⟩)

/-- One turn of the loop of `iter_sbb_records`; `none` is its `return`. -/
def readStreamRecord (stream : ByteStream) :
    Except PyException (Option (SbbRecord × ByteStream)) := do
  let (recordHeader, stream) ← stream.read sbbRecordHeaderSize
  if recordHeader.isEmpty then .ok none
  else if recordHeader.length ≠ sbbRecordHeaderSize then
    .error (.blackboxFormatError ⟨"truncated SBB record header"⟩)
  else
    let fields := structUnpack sbbRecordFormat recordHeader
    let kind := fields.getD 0 0
    let length := (fields.getD 4 0).toNat
    if kind ≠ sbbRecordSerial then
      .error (.blackboxFormatError ⟨s!"unknown SBB record kind {kind}"⟩)
    else do
      let (data, stream) ← stream.read length
      let (crcBytes, stream) ← stream.read sbbRecordCrcSize
      if data.length ≠ length ∨ crcBytes.length ≠ sbbRecordCrcSize then
        .error (.blackboxFormatError ⟨"truncated SBB record"⟩)
      else if (zlibCrc32 (recordHeader ++ data)).toNat ≠ ofBE crcBytes then
        .error (.blackboxFormatError ⟨"SBB record CRC mismatch"⟩)
      else .ok (some (⟨fields.getD 1 0, fields.getD 2 0, fields.getD 3 0, data⟩, stream))

/-- The loop; every record takes at least a byte of the stream. -/
def readStreamRecords : (turns : ℕ) → ByteStream → Reading SbbRecord PyException
  | 0, _ => ⟨[], none⟩
  | turns + 1, stream =>
    match readStreamRecord stream with
    | .error e => ⟨[], some e⟩
    | .ok none => ⟨[], none⟩
    | .ok (some (record, stream)) =>
      let read := readStreamRecords turns stream
      ⟨record :: read.items, read.failure⟩

/-- `iter_sbb_records` -/
def iterSbbStream (stream : ByteStream) : Reading SbbRecord PyException :=
  match stream.read sbbHeaderSize with
  | .error e => ⟨[], some e⟩
  | .ok (header, rest) =>
    if header.length ≠ sbbHeaderSize then
      ⟨[], some (.blackboxFormatError ⟨"truncated SBB header"⟩)⟩
    else if header.take 8 ≠ sbbMagic then
      ⟨[], some (.blackboxFormatError ⟨"unknown SBB format"⟩)⟩
    else readStreamRecords (stream.bytes.length + 1) rest

section Readers

variable {F : Type} (lib : Stdlib F)

/-- `opener(path, "rb")` -/
def openBinary (file : LogFile) : ByteStream :=
  if file.gz then
    let stream := lib.gzipOpen file.contents
    ⟨stream.chunks.flatten, stream.fault.map GzipFault.exception⟩
  else ⟨file.contents, none⟩

/-- `iter_sbb_records(raw_path)` -/
def rawReading (file : LogFile) : Reading SbbRecord PyException :=
  iterSbbStream (openBinary lib file)

/-- `csv.DictReader` on `opener(csv_path, "rt", encoding="utf-8", newline="")`; a text stream reads
a plain file 8192 bytes at a time. -/
def csvFileReading (file : LogFile) : Reading Row PyException :=
  if file.gz then
    let stream := lib.gzipOpen file.contents
    csvReading .unicodeError .csvError stream.chunks (stream.fault.map GzipFault.exception)
  else csvReading .unicodeError .csvError (file.contents.toChunks 8192) none

end Readers

/-! ### Tallies -/

/-- The local variables of `inspect_session`. -/
structure Tally (F J : Type) where
  integrityErrors : List String := []
  rawRecords : ℕ := 0
  rawBytes : ℕ := 0
  connectionIds : List ℤ := []
  firstRawUtcNs : Option ℤ := none
  lastRawUtcNs : Option ℤ := none
  /-- The elements of the counters, one after another. -/
  eventTypes : List String := []
  severities : List String := []
  noteworthy : List (Event J) := []
  csvRows : ℕ := 0
  minimumBatteryV : Option F := none
  maximumRxGapMs : Option F := none
  armedSamples : ℕ := 0
  modes : List String := []

section Tally

variable {F J : Type}

/-- `f"{path.name}: {exc}"` -/
def errorText (lib : Stdlib F) (file : LogFile) (e : PyException) : String :=
  s!"{file.name}: {lib.str e}"

/-- `integrity_errors.append(...)` -/
def noteError (lib : Stdlib F) (file : LogFile) (tally : Tally F J) (e : PyException) : Tally F J :=
  { tally with integrityErrors := tally.integrityErrors ++ [errorText lib file e] }

/-- The body of the loop over the records of a file. -/
def countRawRecord (tally : Tally F J) (record : SbbRecord) : Tally F J :=
  { tally with
    rawRecords := tally.rawRecords + 1
    rawBytes := tally.rawBytes + record.data.length
    connectionIds := tally.connectionIds.insert record.connectionId
    firstRawUtcNs := some (tally.firstRawUtcNs.elim record.utcNs (min · record.utcNs))
    lastRawUtcNs := some (tally.lastRawUtcNs.elim record.utcNs (max · record.utcNs)) }

/-- `noteworthy.append(...)`, with `maxlen=20`. -/
def appendNoteworthy (noteworthy : List (Event J)) (event : Event J) : List (Event J) :=
  let noteworthy := noteworthy ++ [event]
  noteworthy.drop (noteworthy.length - 20)

/-- The body of the loop over the lines of `events.jsonl`. -/
def countEvent (tally : Tally F J) (line : EventLine J × ℕ) : Except PyException (Tally F J) :=
  match line with
  | (.blank, _) => .ok tally
  | (.malformed msg, lineNumber) =>
    .ok { tally with
      integrityErrors := tally.integrityErrors ++ [s!"events.jsonl:{lineNumber}: {msg}"] }
  | (.object event, _) =>
    .ok { tally with
      eventTypes := tally.eventTypes ++ [event.type]
      severities := tally.severities ++ [event.severity]
      noteworthy :=
        if event.severity ∈ ["warning", "error", "critical"] then
          appendNoteworthy tally.noteworthy event
        else tally.noteworthy }
  | (.notObject, _) => .error .attributeError

/-- The loop over `events.jsonl`, with `except OSError`. -/
def scanEvents (lib : Stdlib F) (events : Reading (EventLine J) PyException) (tally : Tally F J) :
    Except PyException (Tally F J) := do
  let tally ← (events.items.zipIdx 1).foldlM countEvent tally
  match events.failure with
  | none => return tally
  | some .osError =>
    return { tally with
      integrityErrors := tally.integrityErrors ++ [s!"events.jsonl: {lib.str .osError}"] }
  | some e => throw e

/-- `_float_or_none(row.get(key))` -/
def floatOrNone (lib : Stdlib F) (row : Row) (key : String) : Option F :=
  (row.get key).join.bind lib.float

/-- `str(row.get(key, ""))` -/
def rowText (row : Row) (key : String) : String :=
  match row.get key with
  | none => ""
  | some none => "None"
  | some (some text) => text

/-- `str.isspace` of a character. -/
def isSpace (char : Char) : Bool :=
  let code := char.toNat
  (9 ≤ code && code ≤ 13) || (0x1C ≤ code && code ≤ 0x20) || code = 0x85 || code = 0xA0 ||
    code = 0x1680 || (0x2000 ≤ code && code ≤ 0x200A) || code = 0x2028 || code = 0x2029 ||
    code = 0x202F || code = 0x205F || code = 0x3000

/-- `text.strip()` -/
def strip (text : String) : String :=
  String.ofList ((text.toList.dropWhile isSpace).reverse.dropWhile isSpace).reverse

variable [Zero F] [LT F] [DecidableLT F]

/-- The body of the loop over the rows of a file. -/
def countRow (lib : Stdlib F) (tally : Tally F J) (row : Row) : Tally F J :=
  let battery := floatOrNone lib row "fc_battery_compensated_v"
  let gap := (floatOrNone lib row "fc_maximum_rx_gap_ms").or
    (floatOrNone lib row "fc_current_rx_gap_ms")
  let mode := strip (rowText row "fc_flight_mode")
  { tally with
    csvRows := tally.csvRows + 1
    minimumBatteryV :=
      match battery, tally.minimumBatteryV with
      | none, minimum => minimum
      | some battery, none => if 0 < battery then some battery else none
      | some battery, some minimum => if 0 < battery ∧ battery < minimum then battery else minimum
    maximumRxGapMs :=
      match gap, tally.maximumRxGapMs with
      | none, maximum => maximum
      | some gap, none => some gap
      | some gap, some maximum => if maximum < gap then gap else maximum
    armedSamples :=
      if (rowText row "fc_armed").toLower ∈ ["true", "1"] then tally.armedSamples + 1
      else tally.armedSamples
    modes := if mode ∉ ["", "--", "Unknown"] then tally.modes.insert mode else tally.modes }

end Tally

/-! ### The report -/

/-- What `inspect_session` returns. -/
structure Report (F J : Type) where
  state : J
  live : Bool
  startUtc : J
  endUtc : J
  durationS : J
  exitReason : J
  requestedPort : J
  diskBytes : ℕ
  rawFiles : ℕ
  rawRecords : ℕ
  rawBytes : ℕ
  firstRawUtc : Option ℤ
  lastRawUtc : Option ℤ
  connectionIds : List ℤ
  csvFiles : ℕ
  csvRows : ℕ
  armedSamples : ℕ
  minimumBatteryV : Option F
  maximumRxGapMs : Option F
  modes : List String
  eventCounts : List (String × ℕ)
  severityCounts : List (String × ℕ)
  recentWarnings : List (Event J)
  integrityErrors : List String
  metadataErrors : J
  prunedRanges : J

/-- `dict(sorted(Counter(names).items()))` -/
def sortedCounts (names : List String) : List (String × ℕ) :=
  (names.dedup.insertionSort (· ≤ ·)).map fun name => (name, names.count name)

section Inspect

variable {F J : Type} [Zero F] [LT F] [DecidableLT F] (lib : Stdlib F)
  (session : InspectedSession J)

/-- `is_live` -/
def LockProbe.isLive : LockProbe → Except PyException Bool
  | .free => .ok false
  | .held => .ok true
  | .unopenable => .error .osError

/-- The three loops over the session's files. -/
def scanSession : Except PyException (Tally F J) := do
  let tally ← scan rawHandled countRawRecord (noteError lib) (rawReading lib) {} session.rawFiles
  let tally ← scanEvents lib session.events tally
  scan csvHandled (countRow lib) (noteError lib) (csvFileReading lib) tally session.csvFiles

/-- `inspect_session` on a session directory; the UTC times of the report are still in
nanoseconds. -/
def inspectSession : Except PyException (Report F J) :=
  match session.sessionJson with
  | none => .error .valueError
  | some metadata => do
    let live ← session.activeLock.isLive
    let tally ← scanSession lib session
    return {
      state := metadata.state
      live := live
      startUtc := metadata.startUtc
      endUtc := metadata.endUtc
      durationS := metadata.durationS
      exitReason := metadata.exitReason
      requestedPort := metadata.requestedPort
      diskBytes := session.diskBytes
      rawFiles := session.rawFiles.length
      rawRecords := tally.rawRecords
      rawBytes := tally.rawBytes
      firstRawUtc := tally.firstRawUtcNs
      lastRawUtc := tally.lastRawUtcNs
      connectionIds := tally.connectionIds.insertionSort (· ≤ ·)
      csvFiles := session.csvFiles.length
      csvRows := tally.csvRows
      armedSamples := tally.armedSamples
      minimumBatteryV := tally.minimumBatteryV
      maximumRxGapMs := tally.maximumRxGapMs
      modes := tally.modes.insertionSort (· ≤ ·)
      eventCounts := sortedCounts tally.eventTypes
      severityCounts := sortedCounts tally.severities
      recentWarnings := tally.noteworthy
      integrityErrors := tally.integrityErrors
      metadataErrors := metadata.errors
      prunedRanges := metadata.prunedRanges }

/-- The exit status that `print_session_inspection` returns. -/
def printSessionInspection (report : Report F J) : ℕ :=
  if report.integrityErrors.isEmpty then 0 else 1

end Inspect

end SilverwareTx.Blackbox
