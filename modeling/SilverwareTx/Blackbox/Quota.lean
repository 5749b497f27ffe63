import SilverwareTx.Lib.Double
import SilverwareTx.Lib.PruneUntil
import SilverwareTx.Lib.Transitions
import SilverwareTx.Blackbox.Recorder
import SilverwareTx.Blackbox.Sessions

/-!
# The storage quota (`_enforce_quota_locked` in `tools/ground_station/blackbox.py`)

`Storage` is what a recorder knows of its chunks, with its session directory and the other entries
of the logs directory on disk. `enforceQuotaLocked` is the function under `.quota.lock`, with both
of its loops; `storageStep` adds what else happens to a recorder during its life: chunks are opened,
closed and compressed, files grow, and other processes change the logs directory between the calls.

`int(quota * ratio)` is a product of doubles (`targetBytes`), and raises where no double holds the
quota. A file that is not there raises in `stat`, and the loop over the chunks passes over it. The
lock file of a session is opened outside of any `try`, so the loop over the sessions may raise behind
deletions.
-/

namespace SilverwareTx.Blackbox

open Double PruneUntil Transitions

/-! ### Chunks -/

/-- `"kind"` of a chunk. -/
inductive ChunkKind
  | raw
  | csv
  deriving DecidableEq, Repr

/-- `"state"` of a chunk of a running recorder. -/
inductive StoredState
  | compressing
  | compressed
  | compressionFailed
  | pruned
  deriving DecidableEq, Repr

/-- A file of the session directory. -/
inductive StoredName
  | chunk (name : ChunkName) (gz : Bool)
  | other (name : String)
  deriving DecidableEq, Repr

/-- `serial-NNNNNN.sbb` or `telemetry-NNNNNN.csv`, with `.gz` behind it or not. -/
def chunkFile (kind : ChunkKind) (index : ℕ) (gz : Bool) : StoredName :=
  match kind with
  | .raw => .chunk (.serial index) gz
  | .csv => .chunk (.telemetry index) gz

/-- `source.with_suffix(source.suffix + ".gz")` -/
def StoredName.withGz : StoredName → StoredName
  | .chunk name _ => .chunk name true
  | .other name => .other (name ++ ".gz")

/-- An entry of `_chunks`. -/
structure StoredChunk where
  kind : ChunkKind
  name : StoredName
  /-- `chunk.get("compressed_name")` -/
  compressedName : Option StoredName := none
  startElapsedNs : ℤ
  endElapsedNs : ℤ
  state : StoredState := .compressing
  /-- `chunk.get("pruned")` -/
  pruned : Bool := false
  deriving DecidableEq, Repr

/-- `str(chunk.get("compressed_name") or chunk.get("name"))` -/
def StoredChunk.filename (chunk : StoredChunk) : StoredName := chunk.compressedName.getD chunk.name

/-- An entry of `_pruned_ranges`. -/
structure PrunedRange where
  kind : ChunkKind
  name : StoredName
  startElapsedNs : ℤ
  endElapsedNs : ℤ
  bytes : ℕ
  deriving DecidableEq, Repr

/-- The events of a quota call. -/
inductive StorageEvent
  | storagePruned (sessions : List String)
  | storageChunkPruned (pruned : PrunedRange)
  deriving DecidableEq, Repr

/-! ### The logs directory -/

/-- The exceptions that a quota call lets through. -/
inductive QuotaError
  | attributeError
  | overflowError
  | recursionError
  | osError
  deriving DecidableEq, Repr

/-- What `_session_directories` finds in an entry: `state` is `metadata.get("state")`, and `startNs`
what `int` makes of `"start_utc_ns"`. -/
inductive SessionJsonRead
  /-- No directory, or no `session.json` in it. -/
  | missing
  /-- An `OSError`, `ValueError` or `TypeError` of the `try`. -/
  | unreadable
  | session (startNs : ℤ) (state : SessionState)
  /-- `is_file` itself raises, as it does in a directory that may not be searched. -/
  | unreachable
  /-- A JSON text that is nested too deeply: a `RecursionError`. -/
  | tooDeep
  /-- A JSON value that has no `get`: an `AttributeError`. -/
  | notObject
  /-- `int` of an infinite number: an `OverflowError`. -/
  | infiniteStart
  deriving DecidableEq, Repr

/-- What the `except` clause of `_session_directories` does not name, or stands outside of it. -/
def SessionJsonRead.raised : SessionJsonRead → Option QuotaError
  | .missing | .unreadable | .session .. => none
  | .unreachable => some .osError
  | .tooDeep => some .recursionError
  | .notObject => some .attributeError
  | .infiniteStart => some .overflowError

/-- An entry of the logs directory besides the recorder's own session. -/
structure LogsEntry where
  name : String
  sessionJson : SessionJsonRead
  /-- What a probe of its `.active.lock` meets. -/
  lock : LockProbe := .free
  /-- The sizes of all files in it. -/
  bytes : ℕ
  deriving DecidableEq, Repr

/-- An item of `_session_directories`, with the lock that the loop is to probe. -/
structure StoredSession where
  startNs : ℤ
  name : String
  state : SessionState
  lock : LockProbe
  deriving DecidableEq, Repr

/-- The session of an entry, if it is one. -/
def LogsEntry.session (entry : LogsEntry) : Option StoredSession :=
  match entry.sessionJson with
  | .session startNs state => some ⟨startNs, entry.name, state, entry.lock⟩
  | _ => none

/-- The loop of `_session_directories`. -/
def scanEntries : List LogsEntry → Except QuotaError (List StoredSession)
  | [] => .ok []
  | entry :: entries =>
    match entry.sessionJson.raised with
    | some e => .error e
    | none => (scanEntries entries).map (entry.session.toList ++ ·)

/-- `_session_directories`, without the recorder's own session, which `exclude` leaves out of the
loop. -/
def sessionDirectories (entries : List LogsEntry) : Except QuotaError (List StoredSession) :=
  (scanEntries entries).map (·.insertionSort fun a b => a.startNs ≤ b.startNs)

/-! ### Storage -/

/-- A recorder's storage. -/
structure Storage where
  /-- The other entries of the logs directory. -/
  entries : List LogsEntry
  /-- The files of the session directory with their sizes. -/
  files : List (StoredName × ℕ) := []
  /-- `_raw_index` and `_csv_index` -/
  index : ChunkKind → ℕ := fun _ => 0
  /-- `_raw_path` and `_csv_path` -/
  path : ChunkKind → Option StoredName := fun _ => none
  chunks : List StoredChunk := []
  prunedRanges : List PrunedRange := []
  events : List StorageEvent := []
  stopRequested : Bool := false
  sessionUsage : ℕ := 0
  totalUsage : ℕ := 0

/-- `_flat_directory_size(session_dir)` -/
def Storage.sessionSize (st : Storage) : ℕ := (st.files.map Prod.snd).sum

/-- `directory_size(logs_dir)` -/
def Storage.directorySize (st : Storage) : ℕ :=
  (st.entries.map LogsEntry.bytes).sum + st.sessionSize

/-- `path.stat().st_size`; `none` is its `OSError`. -/
def Storage.stat (st : Storage) (name : StoredName) : Option ℕ :=
  (st.files.find? fun file => file.1 = name).map Prod.snd

/-- The two settings that the quota depends on. -/
structure StorageConfig where
  maxStorageBytes : ℤ
  targetStorageRatio : ℚ
  deriving DecidableEq

/-- `int(quota * target_storage_ratio)` -/
def StorageConfig.targetBytes (config : StorageConfig) : ℕ :=
  ⌊roundDouble (roundDouble config.maxStorageBytes * config.targetStorageRatio)⌋.toNat

/-- No double holds a quota of this size, so `quota * target_storage_ratio` raises. -/
def StorageConfig.overflows (config : StorageConfig) : Bool :=
  2 ^ 1024 ≤ roundDouble config.maxStorageBytes

/-- The states of a session that may be pruned. -/
def StoredSession.finished (session : StoredSession) : Bool :=
  session.state = .completed || session.state = .completedWithErrors ||
    session.state = .interrupted

/-- The session may be pruned and its lock is free. -/
def StoredSession.prunable (session : StoredSession) : Bool :=
  session.finished && session.lock = .free

/-- The loop gets as far as the lock, and cannot open it. -/
def StoredSession.unopenable (session : StoredSession) : Bool :=
  session.finished && session.lock = .unopenable

/-- The loop body of `_prune_old_sessions_locked`; `none` is its `continue`. -/
def removeSession (st : Storage) (session : StoredSession) : Except QuotaError (Option Storage) :=
  if session.finished then
    match session.lock with
    | .unopenable => .error .osError
    | .held => .ok none
    | .free =>
      .ok (some { st with entries := st.entries.filter fun entry => entry.name ≠ session.name })
  else .ok none

/-- `_prune_old_sessions_locked(exclude=self.session_dir)`: the names removed, the storage behind
it, and what it raises. -/
def pruneOldSessions (config : StorageConfig) (st : Storage) : Pruned QuotaError Storage String :=
  if config.maxStorageBytes ≤ 0 then ⟨[], st, none⟩
  else if config.overflows then ⟨[], st, some .overflowError⟩
  else if st.directorySize ≤ config.maxStorageBytes then ⟨[], st, none⟩
  else
    match sessionDirectories st.entries with
    | .error e => ⟨[], st, some e⟩
    | .ok sessions =>
      let pruned := pruneUntil removeSession (fun st => st.directorySize ≤ config.targetBytes) st
        sessions
      ⟨pruned.gone.map StoredSession.name, pruned.state, pruned.raised⟩

/-- Compressed, or given up on, and still there. -/
def StoredChunk.available (chunk : StoredChunk) : Bool :=
  (chunk.state = .compressed || chunk.state = .compressionFailed) && !chunk.pruned

/-- `available`, with the chunks' indices. -/
def availableChunks (chunks : List StoredChunk) : List (StoredChunk × ℕ) :=
  chunks.zipIdx.filter fun item => item.1.available

/-- `kind_items[-2:]` -/
def newestTwo (kind : ChunkKind) (available : List (StoredChunk × ℕ)) : List (StoredChunk × ℕ) :=
  let kindItems := available.filter fun item => item.1.kind = kind
  kindItems.drop (kindItems.length - 2)

/-- `protected` -/
def protectedIndices (available : List (StoredChunk × ℕ)) : List ℕ :=
  [ChunkKind.raw, ChunkKind.csv].flatMap fun kind => (newestTwo kind available).map Prod.snd

/-- `candidates` -/
def candidates (chunks : List StoredChunk) : List (StoredChunk × ℕ) :=
  let available := availableChunks chunks
  available.filter fun item => item.2 ∉ protectedIndices available

/-- `chunk["pruned"] = True` and `chunk["state"] = "pruned"` -/
def StoredChunk.markPruned (chunk : StoredChunk) : StoredChunk :=
  { chunk with pruned := true, state := .pruned }

/-- The dictionary `pruned`. -/
def StoredChunk.prunedRange (chunk : StoredChunk) (bytes : ℕ) : PrunedRange where
  kind := chunk.kind
  name := chunk.filename
  startElapsedNs := chunk.startElapsedNs
  endElapsedNs := chunk.endElapsedNs
  bytes := bytes

/-- The loop body over the candidates; `none` is its `continue`. -/
def pruneChunk (st : Storage) (item : StoredChunk × ℕ) : Except QuotaError (Option Storage) :=
  .ok <| (st.stat item.1.filename).map fun size =>
    { st with
      files := st.files.filter fun file => file.1 ≠ item.1.filename
      chunks := st.chunks.modify item.2 StoredChunk.markPruned
      prunedRanges := st.prunedRanges ++ [item.1.prunedRange size]
      events :=
        if st.stopRequested then st.events
        else st.events ++ [.storageChunkPruned (item.1.prunedRange size)] }

/-- The event after `_prune_old_sessions_locked`. -/
def Storage.reportSessions (st : Storage) (removed : List String) : Storage :=
  if removed ≠ [] ∧ st.stopRequested = false then
    { st with events := st.events ++ [.storagePruned removed] }
  else st

/-- The loop over this session's chunks. -/
def pruneChunks (config : StorageConfig) (st : Storage) : Storage :=
  if st.directorySize > config.maxStorageBytes then
    (pruneUntil pruneChunk (fun st => st.directorySize ≤ config.targetBytes) st
      (candidates st.chunks)).state
  else st

/-- The assignments at the end. -/
def Storage.updateUsage (st : Storage) : Storage :=
  { st with sessionUsage := st.sessionSize, totalUsage := st.directorySize }

/-- `_enforce_quota_locked`; an exception leaves the storage as it is then. -/
def enforceQuotaLocked (config : StorageConfig) (st : Storage) :
    Except (QuotaError × Storage) Storage :=
  if config.maxStorageBytes ≤ 0 then .ok st.updateUsage
  else
    let pruned := pruneOldSessions config st
    match pruned.raised with
    | some e => .error (e, pruned.state)
    | none => .ok (pruneChunks config (pruned.state.reportSessions pruned.gone)).updateUsage

/-! ### A recorder's life -/

/-- What happens to a recorder's storage. -/
inductive StorageAction
  /-- `_open_raw` or `_open_csv`, with the size of what is written first. -/
  | openChunk (kind : ChunkKind) (bytes : ℕ)
  | closeChunk (kind : ChunkKind) (startElapsedNs endElapsedNs : ℤ)
  /-- `_compress_chunk` succeeds. -/
  | compress (index bytes : ℕ)
  /-- It fails, and may leave the compressed file beside the source. -/
  | failCompression (index : ℕ) (leftover : Option ℕ)
  /-- A write to the current chunk of a kind. -/
  | grow (kind : ChunkKind) (bytes : ℕ)
  /-- A write to `session.json`, `events.jsonl` or another file that is no chunk. -/
  | writeOther (name : String) (bytes : ℕ)
  /-- What other processes make of the other entries. -/
  | others (entries : List LogsEntry)
  | requestStop
  | enforceQuota (config : StorageConfig)

/-- Writes the whole of a file. -/
def writeFile (files : List (StoredName × ℕ)) (name : StoredName) (bytes : ℕ) :
    List (StoredName × ℕ) :=
  (files.filter fun file => file.1 ≠ name) ++ [(name, bytes)]

/-- A listing of a directory has no name twice. -/
def DistinctNames (entries : List LogsEntry) : Prop := (entries.map LogsEntry.name).Nodup

instance : DecidablePred DistinctNames := fun entries =>
  inferInstanceAs (Decidable (entries.map LogsEntry.name).Nodup)

/-- A step of a recorder; `none` where it cannot be made. -/
def storageStep (st : Storage) : StorageAction → Option Storage
  | .openChunk kind bytes =>
    if st.path kind = none then
      let name := chunkFile kind (st.index kind + 1) false
      some { st with
        index := Function.update st.index kind (st.index kind + 1)
        path := Function.update st.path kind (some name)
        files := writeFile st.files name bytes }
    else none
  | .closeChunk kind startElapsedNs endElapsedNs =>
    (st.path kind).map fun name =>
      { st with
        path := Function.update st.path kind none
        chunks := st.chunks ++ [{ kind, name, startElapsedNs, endElapsedNs }] }
  | .compress index bytes =>
    st.chunks[index]?.bind fun chunk =>
      if chunk.state = .compressing then
        let destination := chunk.name.withGz
        some { st with
          files := (writeFile st.files destination bytes).filter fun file => file.1 ≠ chunk.name
          chunks := st.chunks.modify index fun chunk =>
            { chunk with state := .compressed, compressedName := some destination } }
      else none
  | .failCompression index leftover =>
    st.chunks[index]?.bind fun chunk =>
      if chunk.state = .compressing then
        some { st with
          files := leftover.elim st.files (writeFile st.files chunk.name.withGz)
          chunks := st.chunks.modify index fun chunk => { chunk with state := .compressionFailed } }
      else none
  | .grow kind bytes =>
    (st.path kind).map fun name => { st with files := writeFile st.files name bytes }
  | .writeOther name bytes => some { st with files := writeFile st.files (.other name) bytes }
  | .others entries => if DistinctNames entries then some { st with entries := entries } else none
  | .requestStop => some { st with stopRequested := true }
  | .enforceQuota config =>
    match enforceQuotaLocked config st with
    | .ok st => some st
    | .error (_, st) => some st

/-- The storage of a new recorder. -/
def newStorage (entries : List LogsEntry) : Storage where
  entries := entries

/-- What some life of a recorder leads to. -/
def Storage.Reachable (st : Storage) : Prop :=
  ∃ entries actions, DistinctNames entries ∧
    exec storageStep (newStorage entries) actions = some st

end SilverwareTx.Blackbox
