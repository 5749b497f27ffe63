import SilverwareTx.Blackbox.WriterLoop
import SilverwareTx.Blackbox.QuotaInvariant
import SilverwareTx.Blackbox.TornTail

/-!
# What the writer's functions leave when they return

The chunks of either kind are the files of a `RotatingLog` (`KindLog`), and every closed chunk has
its entry, its file and its place in the queue of the compressor (`FilesInv`). `LogsInv` is both,
with the counters; each function of the writer that returns keeps it, and moves one item into its
log (`LogsInv.writeLogItem`).
-/

namespace SilverwareTx.Blackbox

open CsvText Raising

/-! ### Invariants -/

/-- A telemetry chunk with these rows. -/
def EncodesRows (fields : List String) (samples : List Sample) (contents : List U8) : Prop :=
  contents = utf8Encode (csvText (fields :: samples.map (Sample.record fields)))

namespace LogWriter

/-- The chunks of a kind that have been closed. -/
def closedCount (w : LogWriter) (kind : ChunkKind) : ℕ :=
  w.index kind - (w.stream kind).toList.length

end LogWriter

/-- `contents` is what each closed chunk was given. -/
structure FilesInv (contents : StoredName → List U8) (w : LogWriter) : Prop where
  stored : ∀ chunk ∈ w.chunks,
    w.closedFiles chunk.name = some (contents chunk.name) ∧
      chunk.uncompressedBytes = (contents chunk.name).length
  /-- The chunks of a kind are numbered from 1. -/
  names : ∀ kind, (w.chunks.filter fun chunk => chunk.kind = kind).map (fun chunk => chunk.name) =
    (List.range' 1 (w.closedCount kind)).map (chunkFile kind · false)
  /-- The compressor is told of every chunk, with its place in `_chunks`. -/
  tasks : w.compressQueue = w.chunks.zipIdx.map fun item => (item.1.name, item.2)

/-- The chunks of a kind hold the records of `log`. -/
structure KindLog {ρ : Type} (encodes : List ρ → List U8 → Prop) (contents : StoredName → List U8)
    (log : RotatingLog ρ) (w : LogWriter) (kind : ChunkKind) : Prop where
  index : w.index kind = log.closed.length + (w.stream kind).toList.length
  closed : List.Forall₂ encodes log.closed
    ((List.range' 1 log.closed.length).map fun i => contents (chunkFile kind i false))
  current : Option.Rel encodes log.current (w.stream kind)

/-- The bytes of a record in a chunk. -/
def recordBytes (record : SbbRecord) : ℕ :=
  sbbRecordHeaderSize + record.data.length + sbbRecordCrcSize

/-- Both logs of the writer, with its files and counters. -/
structure LogsInv (startUtcNs : ℤ) (contents : StoredName → List U8)
    (rawLog : RotatingLog SbbRecord) (csvLog : RotatingLog Sample) (w : LogWriter) : Prop where
  files : FilesInv contents w
  raw : KindLog (Encodes startUtcNs) contents rawLog w .raw
  csv : KindLog (EncodesRows (w.csvFields.getD [])) contents csvLog w .csv
  /-- There is no telemetry chunk before the first row. -/
  unset : w.csvFields = none → csvLog = {}
  /-- The columns are those of the first row. -/
  fields : w.csvFields = csvLog.contents.head?.map Sample.keys
  rawCount : w.rawRecordCount = rawLog.contents.length
  rawBytes : w.bytesWritten = (rawLog.contents.map recordBytes).sum
  sampleCount : w.sampleCount = csvLog.contents.length
  eventCount : w.eventCount = w.events.length

/-- The raw record of an item. -/
def LogItem.record : LogItem → Option SbbRecord
  | .raw record => some record
  | _ => none

/-- The telemetry row of an item. -/
def LogItem.sampled : LogItem → Option Sample
  | .sample row => some row
  | _ => none

/-- The event of an item. -/
def LogItem.logged : LogItem → Option LogEvent
  | .event line => some line
  | _ => none

/-- What the writer's functions leave alone. -/
structure SameControl (w w' : LogWriter) : Prop where
  healthy : w'.healthy = w.healthy
  errors : w'.errors = w.errors
  exitReason : w'.exitReason = w.exitReason

theorem SameControl.refl (w : LogWriter) : SameControl w w := ⟨rfl, rfl, rfl⟩

theorem SameControl.trans {w w' w'' : LogWriter} (h : SameControl w w') (h' : SameControl w' w'') :
    SameControl w w'' where
  healthy := h'.healthy.trans h.healthy
  errors := h'.errors.trans h.errors
  exitReason := h'.exitReason.trans h.exitReason

/-! ### Opening, writing and closing -/

section Effects

variable {w w' : LogWriter} {kind : ChunkKind}

theorem returns_osCall (h : Returns osCall w () w') :
    ∃ answers, w' = { w with answers := answers } := by
  unfold osCall at h
  replace h := returns_get_bind.1 h
  split at h
  · obtain ⟨-, rfl⟩ := returns_pure.1 h
    exact ⟨_, rfl⟩
  · replace h := returns_modify_bind.1 h
    split at h
    · obtain ⟨-, rfl⟩ := returns_pure.1 h
      exact ⟨_, rfl⟩
    · exact absurd h not_returns_throw

namespace LogWriter

variable (w)

/-- A new chunk that has been given `bytes`. -/
def opened (kind : ChunkKind) (bytes : List U8) (elapsedNs : ℤ) : LogWriter :=
  { w with
    index := Function.update w.index kind (w.index kind + 1)
    stream := Function.update w.stream kind (some bytes)
    openElapsedNs := Function.update w.openElapsedNs kind elapsedNs }

/-- The current chunk with more bytes. -/
def grown (kind : ChunkKind) (data : List U8) : LogWriter :=
  { w with stream := Function.update w.stream kind ((w.stream kind).map (· ++ data)) }

/-- The current chunk closed, with its entry and its event. -/
def chunkClosed (kind : ChunkKind) (bytes : List U8) (chunk : ClosedChunk) (event : LogEvent) :
    LogWriter :=
  { w with
    stream := Function.update w.stream kind none
    closedFiles := Function.update w.closedFiles chunk.name bytes
    chunks := w.chunks ++ [chunk]
    events := w.events ++ [event]
    eventCount := w.eventCount + 1
    compressQueue := w.compressQueue ++ [(chunk.name, w.chunks.length)] }

end LogWriter

theorem returns_writeStream {data : List U8} (h : Returns (writeStream kind data) w () w') :
    ∃ answers, w' = { w.grown kind data with answers := answers } := by
  unfold writeStream at h
  obtain ⟨_, _, hcall, h⟩ := returns_bind.1 h
  obtain ⟨answers, rfl⟩ := returns_osCall hcall
  obtain rfl := returns_modify.1 h
  exact ⟨answers, rfl⟩

theorem returns_openChunk {header : Option (List U8)} {elapsedNs : ℤ}
    (h : Returns (openChunk kind header elapsedNs) w () w') :
    ∃ bytes answers, header = some bytes ∧
      w' = { w.opened kind bytes elapsedNs with answers := answers } := by
  unfold openChunk at h
  replace h := returns_modify_bind.1 h
  obtain ⟨_, _, hcall, h⟩ := returns_bind.1 h
  obtain ⟨_, rfl⟩ := returns_osCall hcall
  replace h := returns_modify_bind.1 h
  cases header with
  | none =>
    obtain ⟨_, _, hthrow, -⟩ := returns_bind.1 h
    exact absurd hthrow not_returns_throw
  | some bytes =>
    obtain ⟨_, _, hwrite, h⟩ := returns_bind.1 h
    obtain ⟨answers, rfl⟩ := returns_writeStream hwrite
    obtain rfl := returns_modify.1 h
    refine ⟨bytes, answers, rfl, ?_⟩
    simp [LogWriter.opened, LogWriter.grown]

theorem returns_writeLogEvent {event : LogEvent} (h : Returns (writeLogEvent event) w () w') :
    ∃ answers, w' =
      { w with
        events := w.events ++ [event], eventCount := w.eventCount + 1, answers := answers } := by
  unfold writeLogEvent at h
  obtain ⟨_, _, hcall, h⟩ := returns_bind.1 h
  obtain ⟨answers, rfl⟩ := returns_osCall hcall
  obtain rfl := returns_modify.1 h
  exact ⟨answers, rfl⟩

theorem returns_closeChunk {endElapsedNs utcNs : ℤ}
    (h : Returns (closeChunk kind endElapsedNs utcNs) w () w') :
    (w.stream kind = none ∧ w' = w) ∨
      ∃ bytes chunk event answers, w.stream kind = some bytes ∧
        chunk.kind = kind ∧ chunk.name = chunkFile kind (w.index kind) false ∧
        chunk.uncompressedBytes = bytes.length ∧
        w' = { w.chunkClosed kind bytes chunk event with answers := answers } := by
  unfold closeChunk at h
  replace h := returns_get_bind.1 h
  cases hstream : w.stream kind with
  | none =>
    simp only [hstream] at h
    obtain ⟨-, rfl⟩ := returns_pure.1 h
    exact .inl ⟨rfl, rfl⟩
  | some bytes =>
    simp only [hstream] at h
    replace h := returns_modify_bind.1 h
    obtain ⟨_, _, hflush, h⟩ := returns_bind.1 h
    obtain ⟨_, rfl⟩ := returns_osCall hflush
    obtain ⟨_, _, hsync, h⟩ := returns_bind.1 h
    obtain ⟨_, rfl⟩ := returns_osCall hsync
    obtain ⟨_, _, hclose, h⟩ := returns_bind.1 h
    obtain ⟨_, rfl⟩ := returns_osCall hclose
    replace h := returns_modify_bind.1 h
    obtain ⟨_, _, hstat, h⟩ := returns_bind.1 h
    obtain ⟨_, rfl⟩ := returns_osCall hstat
    replace h := returns_modify_bind.1 h
    obtain ⟨_, _, hevent, h⟩ := returns_bind.1 h
    obtain ⟨answers, rfl⟩ := returns_writeLogEvent hevent
    obtain rfl := returns_modify.1 h
    exact .inr ⟨bytes, _, _, answers, rfl, rfl, rfl, rfl, rfl⟩

end Effects

/-! ### The chunks of a kind -/

section Kind

variable {ρ : Type} {encodes : List ρ → List U8 → Prop} {contents contents' : StoredName → List U8}
  {log : RotatingLog ρ} {w w' : LogWriter} {kind : ChunkKind} {bytes : List U8}

theorem KindLog.congr (h : KindLog encodes contents log w kind) (hindex : w'.index kind = w.index kind)
    (hstream : w'.stream kind = w.stream kind)
    (hcontents : ∀ i ≤ log.closed.length,
      contents' (chunkFile kind i false) = contents (chunkFile kind i false)) :
    KindLog encodes contents' log w' kind := by
  refine ⟨by rw [hindex, hstream]; exact h.index, ?_, by rw [hstream]; exact h.current⟩
  have hsame : ((List.range' 1 log.closed.length).map fun i => contents' (chunkFile kind i false)) =
      (List.range' 1 log.closed.length).map fun i => contents (chunkFile kind i false) := by
    apply List.map_congr_left
    intro i hi
    apply hcontents
    rw [List.mem_range'_1] at hi
    omega
  rw [hsame]
  exact h.closed

theorem KindLog.current_eq_none (h : KindLog encodes contents log w kind)
    (hstream : w.stream kind = none) : log.current = none := by
  have hcurrent := h.current
  rw [hstream] at hcurrent
  cases hlog : log.current with
  | none => rfl
  | some records =>
    rw [hlog] at hcurrent
    cases hcurrent

theorem KindLog.exists_current (h : KindLog encodes contents log w kind)
    (hbytes : w.stream kind = some bytes) :
    ∃ records, log.current = some records ∧ encodes records bytes := by
  have hcurrent := h.current
  rw [hbytes] at hcurrent
  cases hlog : log.current with
  | none =>
    rw [hlog] at hcurrent
    cases hcurrent
  | some records =>
    rw [hlog] at hcurrent
    cases hcurrent with
    | some hrel => exact ⟨records, rfl, hrel⟩

theorem KindLog.opened (h : KindLog encodes contents log w kind) (hstream : w.stream kind = none)
    (hbytes : encodes [] bytes) (elapsedNs : ℤ) :
    KindLog encodes contents log.ensureOpen (w.opened kind bytes elapsedNs) kind := by
  have hnone := h.current_eq_none hstream
  refine ⟨?_, h.closed, ?_⟩
  · have hindex := h.index
    rw [hstream] at hindex
    simp [LogWriter.opened, RotatingLog.ensureOpen, hindex]
  · simpa [LogWriter.opened, RotatingLog.ensureOpen, hnone] using Option.Rel.some hbytes

theorem KindLog.grown (h : KindLog encodes contents log w kind) {data : List U8} {record : ρ}
    (hsome : (w.stream kind).isSome = true)
    (hencodes : ∀ records bytes, encodes records bytes →
      encodes (records ++ [record]) (bytes ++ data)) :
    KindLog encodes contents (log.push record) (w.grown kind data) kind := by
  obtain ⟨bytes, hbytes⟩ := Option.isSome_iff_exists.1 hsome
  obtain ⟨records, hrecords, hrel⟩ := h.exists_current hbytes
  refine ⟨?_, h.closed, ?_⟩
  · have hindex := h.index
    simp only [LogWriter.grown, hbytes, Function.update_self, RotatingLog.push] at hindex ⊢
    exact hindex
  · simpa [LogWriter.grown, RotatingLog.push, hbytes, hrecords] using
      Option.Rel.some (hencodes _ _ hrel)

theorem KindLog.chunkClosed (h : KindLog encodes contents log w kind)
    (hbytes : w.stream kind = some bytes) {chunk : ClosedChunk}
    (hname : chunk.name = chunkFile kind (w.index kind) false) (event : LogEvent) :
    KindLog encodes (Function.update contents chunk.name bytes) log.close
      (w.chunkClosed kind bytes chunk event) kind := by
  obtain ⟨records, hrecords, hrel⟩ := h.exists_current hbytes
  have hindex := h.index
  rw [hbytes, Option.toList_some, List.length_singleton] at hindex
  have hclosed : log.close.closed = log.closed ++ [records] := by
    rw [RotatingLog.close, hrecords]
    rfl
  refine ⟨?_, ?_, ?_⟩
  · rw [hclosed, List.length_append, List.length_singleton]
    simp [LogWriter.chunkClosed, hindex]
  · rw [hclosed, List.length_append, List.length_singleton, List.range'_1_concat, List.map_append]
    apply List.rel_append
    · have hold : ((List.range' 1 log.closed.length).map fun i =>
          Function.update contents chunk.name bytes (chunkFile kind i false)) =
          (List.range' 1 log.closed.length).map fun i => contents (chunkFile kind i false) := by
        apply List.map_congr_left
        intro i hi
        apply Function.update_of_ne
        rw [List.mem_range'_1] at hi
        rw [hname, Ne, chunkFile_inj]
        rintro ⟨-, rfl, -⟩
        omega
      rw [hold]
      exact h.closed
    · have hlast : chunkFile kind (1 + log.closed.length) false = chunk.name := by
        rw [hname, hindex, Nat.add_comm]
      refine .cons ?_ .nil
      dsimp only
      rw [hlast, Function.update_self]
      exact hrel
  · simp [LogWriter.chunkClosed, RotatingLog.close]

end Kind

/-! ### The files -/

section Files

variable {contents : StoredName → List U8} {w w' : LogWriter}
  {kind : ChunkKind} {bytes : List U8}

theorem FilesInv.congr (h : FilesInv contents w) (hchunks : w'.chunks = w.chunks)
    (hfiles : w'.closedFiles = w.closedFiles) (hqueue : w'.compressQueue = w.compressQueue)
    (hcount : ∀ kind, w'.closedCount kind = w.closedCount kind) : FilesInv contents w' := by
  refine ⟨?_, fun kind => ?_, ?_⟩
  · rw [hchunks, hfiles]
    exact h.stored
  · rw [hchunks, hcount]
    exact h.names kind
  · rw [hchunks, hqueue]
    exact h.tasks

/-- A chunk has one of the numbers of its kind. -/
theorem FilesInv.exists_name (h : FilesInv contents w) {chunk : ClosedChunk}
    (hchunk : chunk ∈ w.chunks) :
    ∃ i ≤ w.closedCount chunk.kind, chunk.name = chunkFile chunk.kind i false := by
  have hmem : chunk.name ∈ (w.chunks.filter fun other => other.kind = chunk.kind).map
      fun other => other.name :=
    List.mem_map_of_mem (List.mem_filter.2 ⟨hchunk, by simp⟩)
  rw [h.names] at hmem
  obtain ⟨i, hi, hname⟩ := List.mem_map.1 hmem
  rw [List.mem_range'_1] at hi
  exact ⟨i, by omega, hname.symm⟩

theorem closedCount_opened (hstream : w.stream kind = none) (bytes : List U8) (elapsedNs : ℤ)
    (kind' : ChunkKind) : (w.opened kind bytes elapsedNs).closedCount kind' = w.closedCount kind' := by
  by_cases hkind : kind' = kind
  · subst hkind
    simp [LogWriter.closedCount, LogWriter.opened, hstream]
  · simp [LogWriter.closedCount, LogWriter.opened, Function.update_of_ne hkind]

theorem closedCount_grown (w : LogWriter) (kind : ChunkKind) (data : List U8)
    (kind' : ChunkKind) :
    (w.grown kind data).closedCount kind' = w.closedCount kind' := by
  by_cases hkind : kind' = kind
  · subst hkind
    cases hstream : w.stream kind' <;>
      simp [LogWriter.closedCount, LogWriter.grown, hstream]
  · simp [LogWriter.closedCount, LogWriter.grown, Function.update_of_ne hkind]

theorem FilesInv.chunkClosed (h : FilesInv contents w) (hbytes : w.stream kind = some bytes)
    (hindex : 0 < w.index kind) {chunk : ClosedChunk} (hkind : chunk.kind = kind)
    (hname : chunk.name = chunkFile kind (w.index kind) false)
    (hsize : chunk.uncompressedBytes = bytes.length) (event : LogEvent) :
    FilesInv (Function.update contents chunk.name bytes)
      (w.chunkClosed kind bytes chunk event) := by
  have hcount : w.closedCount kind = w.index kind - 1 := by
    rw [LogWriter.closedCount, hbytes]
    rfl
  have hfresh : ∀ other ∈ w.chunks, other.name ≠ chunk.name := by
    intro other hother hsame
    obtain ⟨i, hi, hi'⟩ := h.exists_name hother
    rw [hi', hname, chunkFile_inj] at hsame
    obtain ⟨hkind', rfl, -⟩ := hsame
    rw [hkind', hcount] at hi
    omega
  refine ⟨fun other hother => ?_, fun kind' => ?_, ?_⟩
  · rcases List.mem_append.1 hother with hother | hother
    · simp only [LogWriter.chunkClosed, Function.update_of_ne (hfresh other hother)]
      exact h.stored other hother
    · obtain rfl := List.mem_singleton.1 hother
      simpa [LogWriter.chunkClosed] using hsize
  · simp only [LogWriter.chunkClosed, List.filter_append, List.map_append, h.names]
    by_cases hkind' : kind' = kind
    · subst hkind'
      have hnew : (w.chunkClosed kind' bytes chunk event).closedCount kind' = w.index kind' := by
        simp [LogWriter.closedCount, LogWriter.chunkClosed]
      have hlast : w.index kind' = w.index kind' - 1 + 1 := by omega
      simp only [LogWriter.chunkClosed] at hnew
      rw [hnew, hcount, hlast, List.range'_1_concat, List.map_append, Nat.add_sub_cancel]
      congr 1
      rw [List.filter_cons_of_pos (by simpa using hkind)]
      simp only [List.filter_nil, List.map_cons, List.map_nil, hname]
      rw [Nat.add_comm 1, ← hlast]
    · have hsame : (w.chunkClosed kind bytes chunk event).closedCount kind' = w.closedCount kind' := by
        simp [LogWriter.closedCount, LogWriter.chunkClosed, Function.update_of_ne hkind']
      simp only [LogWriter.chunkClosed] at hsame
      rw [hsame, List.filter_cons_of_neg (by simpa [hkind] using Ne.symm hkind')]
      simp
  · simp [LogWriter.chunkClosed, h.tasks, List.zipIdx_append]

/-- A chunk keeps its kind, its name and its size when it is marked. -/
theorem FilesInv.markPruned (h : FilesInv contents w) (i : ℕ) :
    FilesInv contents { w with chunks := w.chunks.modify i ClosedChunk.markPruned } := by
  rcases hi : w.chunks[i]? with _ | chunk
  · rw [List.modify_eq_self (List.getElem?_eq_none_iff.1 hi)]
    exact h
  · obtain ⟨before, after, hsplit, hmodify⟩ := exists_split_modify hi
    have hnames := h.names
    have htasks := h.tasks
    rw [hsplit] at hnames htasks
    refine ⟨fun other hother => ?_, fun kind => ?_, ?_⟩
    · rw [hmodify, List.mem_append, List.mem_cons] at hother
      rcases hother with hother | rfl | hother
      · exact h.stored other (by simp [hsplit, hother])
      · exact h.stored chunk (by simp [hsplit])
      · exact h.stored other (by simp [hsplit, hother])
    · have hkept := hnames kind
      rw [List.filter_append, List.map_append, List.filter_cons] at hkept
      rw [hmodify, List.filter_append, List.map_append, List.filter_cons]
      refine Eq.trans ?_ hkept
      by_cases hkind : chunk.kind = kind
      · simp [ClosedChunk.markPruned, hkind]
      · simp [ClosedChunk.markPruned, hkind]
    · rw [hmodify]
      refine Eq.trans htasks ?_
      simp [List.zipIdx_append, List.zipIdx_cons, ClosedChunk.markPruned]

theorem FilesInv.prune (h : FilesInv contents w) (pruned : List ℕ) :
    FilesInv contents (w.prune pruned) := by
  induction pruned generalizing w with
  | nil => exact h
  | cons i pruned ih => exact ih (h.markPruned i)

@[simp] theorem length_chunks_prune (w : LogWriter) (pruned : List ℕ) :
    (w.prune pruned).chunks.length = w.chunks.length := by
  induction pruned generalizing w with
  | nil => rfl
  | cons i pruned ih =>
    exact (ih { w with chunks := w.chunks.modify i ClosedChunk.markPruned }).trans
      (List.length_modify _ _ _)

end Files

/-! ### The functions of the writer -/

/-- What work on the chunks of one kind does to the rest. -/
structure Advance (kind : ChunkKind) (contents : StoredName → List U8) (w : LogWriter)
    (contents' : StoredName → List U8) (w' : LogWriter) : Prop where
  control : SameControl w w'
  other : ∀ kind' ≠ kind, w'.index kind' = w.index kind' ∧ w'.stream kind' = w.stream kind' ∧
    ∀ i, contents' (chunkFile kind' i false) = contents (chunkFile kind' i false)
  counts : w'.rawRecordCount = w.rawRecordCount ∧ w'.bytesWritten = w.bytesWritten ∧
    w'.sampleCount = w.sampleCount ∧ w'.csvFields = w.csvFields
  /-- Every chunk that is closed is an event. -/
  events : ∃ more, w'.events = w.events ++ more ∧ w'.eventCount = w.eventCount + more.length ∧
    w'.chunks.length = w.chunks.length + more.length

section Writer

variable {contents contents' contents'' : StoredName → List U8}
  {w w' w'' : LogWriter} {kind : ChunkKind} {ρ : Type} {encodes : List ρ → List U8 → Prop}
  {log : RotatingLog ρ}

theorem Advance.refl (kind : ChunkKind) (contents : StoredName → List U8) (w : LogWriter) :
    Advance kind contents w contents w :=
  ⟨.refl w, fun _ _ => ⟨rfl, rfl, fun _ => rfl⟩, ⟨rfl, rfl, rfl, rfl⟩, [], by simp, rfl, rfl⟩

theorem Advance.trans (h : Advance kind contents w contents' w')
    (h' : Advance kind contents' w' contents'' w'') : Advance kind contents w contents'' w'' := by
  obtain ⟨more, hmore, hcount, hclosed⟩ := h.events
  obtain ⟨more', hmore', hcount', hclosed'⟩ := h'.events
  obtain ⟨hraw, hbytes, hsamples, hfields⟩ := h.counts
  obtain ⟨hraw', hbytes', hsamples', hfields'⟩ := h'.counts
  refine ⟨h.control.trans h'.control, fun kind' hkind => ?_, ⟨hraw'.trans hraw, hbytes'.trans hbytes,
    hsamples'.trans hsamples, hfields'.trans hfields⟩, more ++ more', ?_, ?_, ?_⟩
  · obtain ⟨hindex, hstream, hsame⟩ := h.other kind' hkind
    obtain ⟨hindex', hstream', hsame'⟩ := h'.other kind' hkind
    exact ⟨hindex'.trans hindex, hstream'.trans hstream, fun i => (hsame' i).trans (hsame i)⟩
  · rw [hmore', hmore, List.append_assoc]
  · rw [hcount', hcount, List.length_append, Nat.add_assoc]
  · rw [hclosed', hclosed, List.length_append, Nat.add_assoc]

/-- Events are counted. -/
theorem Advance.eventCount_eq (h : Advance kind contents w contents' w')
    (hcount : w.eventCount = w.events.length) : w'.eventCount = w'.events.length := by
  obtain ⟨more, hmore, hmoreCount, -⟩ := h.events
  rw [hmoreCount, hmore, List.length_append, hcount]

/-- The chunks of the other kind. -/
theorem Advance.kindLog_ne (h : Advance kind contents w contents' w') {kind' : ChunkKind}
    (hkind : kind' ≠ kind) (hlog : KindLog encodes contents log w kind') :
    KindLog encodes contents' log w' kind' := by
  obtain ⟨hindex, hstream, hsame⟩ := h.other kind' hkind
  exact hlog.congr hindex hstream fun i _ => hsame i

theorem advance_opened (bytes : List U8) (elapsedNs : ℤ) (answers : List (Option String)) :
    Advance kind contents w contents { w.opened kind bytes elapsedNs with answers := answers } := by
  refine ⟨⟨rfl, rfl, rfl⟩, fun kind' hkind => ?_, ⟨rfl, rfl, rfl, rfl⟩, [], ?_, rfl, rfl⟩
  · exact ⟨Function.update_of_ne hkind _ _, Function.update_of_ne hkind _ _, fun _ => rfl⟩
  · exact (List.append_nil _).symm

theorem advance_grown (data : List U8) (answers : List (Option String)) :
    Advance kind contents w contents { w.grown kind data with answers := answers } := by
  refine ⟨⟨rfl, rfl, rfl⟩, fun kind' hkind => ?_, ⟨rfl, rfl, rfl, rfl⟩, [], ?_, rfl, rfl⟩
  · exact ⟨rfl, Function.update_of_ne hkind _ _, fun _ => rfl⟩
  · exact (List.append_nil _).symm

theorem advance_chunkClosed {bytes : List U8} {chunk : ClosedChunk} {i : ℕ}
    (hname : chunk.name = chunkFile kind i false) (event : LogEvent)
    (answers : List (Option String)) :
    Advance kind contents w (Function.update contents chunk.name bytes)
      { w.chunkClosed kind bytes chunk event with answers := answers } := by
  refine ⟨⟨rfl, rfl, rfl⟩, fun kind' hkind => ⟨rfl, Function.update_of_ne hkind _ _,
    fun j => Function.update_of_ne ?_ _ _⟩, ⟨rfl, rfl, rfl, rfl⟩, [event], rfl, rfl, ?_⟩
  · rw [hname, Ne, chunkFile_inj]
    rintro ⟨rfl, -, -⟩
    exact hkind rfl
  · simp [LogWriter.chunkClosed]

/-- **Closing** a chunk, if there is one. -/
theorem closeChunk_advance (hfiles : FilesInv contents w)
    (hlog : KindLog encodes contents log w kind) {endElapsedNs utcNs : ℤ}
    (h : Returns (closeChunk kind endElapsedNs utcNs) w () w') :
    ∃ contents', Advance kind contents w contents' w' ∧ FilesInv contents' w' ∧
      KindLog encodes contents' log.close w' kind ∧ w'.stream kind = none := by
  rcases returns_closeChunk h with ⟨hstream, rfl⟩ | ⟨bytes, chunk, event, answers, hbytes, hkind,
    hname, hsize, rfl⟩
  · have hclose : log.close = log := by
      have hnone := hlog.current_eq_none hstream
      obtain ⟨closed, current⟩ := log
      obtain rfl : current = none := hnone
      simp [RotatingLog.close]
    exact ⟨contents, .refl kind contents w', hfiles, by rwa [hclose], hstream⟩
  · have hindex : 0 < w.index kind := by
      have := hlog.index
      rw [hbytes] at this
      simp only [Option.toList_some, List.length_singleton] at this
      omega
    refine ⟨Function.update contents chunk.name bytes, advance_chunkClosed hname event answers, ?_, ?_,
      ?_⟩
    · exact (hfiles.chunkClosed hbytes hindex hkind hname hsize event).congr
        rfl rfl rfl fun _ => rfl
    · exact (hlog.chunkClosed hbytes hname event).congr rfl rfl fun _ _ => rfl
    · simp [LogWriter.chunkClosed]

/-- **Opening** a chunk where there is none. -/
theorem openChunk_advance (hfiles : FilesInv contents w)
    (hlog : KindLog encodes contents log w kind) (hstream : w.stream kind = none)
    {header : Option (List U8)} (hheader : ∀ bytes, header = some bytes → encodes [] bytes)
    {elapsedNs : ℤ} (h : Returns (openChunk kind header elapsedNs) w () w') :
    Advance kind contents w contents w' ∧ FilesInv contents w' ∧
      KindLog encodes contents log.ensureOpen w' kind ∧ (w'.stream kind).isSome = true := by
  obtain ⟨bytes, answers, hbytes, rfl⟩ := returns_openChunk h
  refine ⟨advance_opened bytes elapsedNs answers, ?_, ?_, ?_⟩
  · exact hfiles.congr rfl rfl rfl (closedCount_opened hstream bytes elapsedNs)
  · exact (hlog.opened hstream (hheader bytes hbytes) elapsedNs).congr rfl rfl fun _ _ => rfl
  · simp [LogWriter.opened]

theorem ensureStream_advance (hfiles : FilesInv contents w)
    (hlog : KindLog encodes contents log w kind) {header : Option (List U8)}
    (hheader : ∀ bytes, header = some bytes → encodes [] bytes) {elapsedNs : ℤ}
    (h : Returns (ensureStream kind (openChunk kind header elapsedNs)) w () w') :
    ∃ log', Advance kind contents w contents w' ∧ FilesInv contents w' ∧
      KindLog encodes contents log' w' kind ∧ log'.contents = log.contents ∧
      (w'.stream kind).isSome = true := by
  unfold ensureStream at h
  replace h := returns_get_bind.1 h
  by_cases hnone : (w.stream kind).isNone = true
  · rw [if_pos hnone] at h
    obtain ⟨hadvance, hfiles', hlog', hsome⟩ :=
      openChunk_advance hfiles hlog (by simpa using hnone) hheader h
    exact ⟨log.ensureOpen, hadvance, hfiles', hlog', rfl, hsome⟩
  · rw [if_neg hnone] at h
    obtain ⟨-, rfl⟩ := returns_pure.1 h
    exact ⟨log, .refl kind contents w', hfiles, hlog, rfl,
      Option.isSome_iff_ne_none.2 (by simpa using hnone)⟩

theorem rotateChunk_advance (hfiles : FilesInv contents w)
    (hlog : KindLog encodes contents log w kind) (hsome : (w.stream kind).isSome = true)
    {header : Option (List U8)} (hheader : ∀ bytes, header = some bytes → encodes [] bytes)
    {config : RecorderConfig} {elapsedNs utcNs : ℤ}
    (h : Returns (rotateChunk config kind (openChunk kind header elapsedNs) elapsedNs utcNs)
      w () w') :
    ∃ contents' log', Advance kind contents w contents' w' ∧ FilesInv contents' w' ∧
      KindLog encodes contents' log' w' kind ∧ log'.contents = log.contents ∧
      (w'.stream kind).isSome = true := by
  unfold rotateChunk at h
  replace h := returns_get_bind.1 h
  by_cases hdue : w.needsRotation config kind elapsedNs = true
  · rw [if_pos hdue] at h
    obtain ⟨_, between, hclose, h⟩ := returns_bind.1 h
    obtain ⟨contents', hadvance, hfiles', hlog', hnone⟩ := closeChunk_advance hfiles hlog hclose
    obtain ⟨hadvance', hfiles'', hlog'', hsome'⟩ := openChunk_advance hfiles' hlog' hnone hheader h
    refine ⟨contents', _, hadvance.trans hadvance', hfiles'', hlog'', ?_, hsome'⟩
    rw [RotatingLog.contents_ensureOpen, RotatingLog.contents_close]
  · rw [if_neg hdue] at h
    obtain ⟨-, rfl⟩ := returns_pure.1 h
    exact ⟨contents, log, .refl kind contents w', hfiles, hlog, rfl, hsome⟩

/-- **A chunk to write to**, with the records as they were. -/
theorem ensureChunk_advance (hfiles : FilesInv contents w)
    (hlog : KindLog encodes contents log w kind) {header : Option (List U8)}
    (hheader : ∀ bytes, header = some bytes → encodes [] bytes) {config : RecorderConfig}
    {elapsedNs utcNs : ℤ}
    (h : Returns (ensureChunk config kind (openChunk kind header elapsedNs) elapsedNs utcNs)
      w () w') :
    ∃ contents' log', Advance kind contents w contents' w' ∧ FilesInv contents' w' ∧
      KindLog encodes contents' log' w' kind ∧ log'.contents = log.contents ∧
      (w'.stream kind).isSome = true := by
  obtain ⟨_, between, hopen, hrotate⟩ := returns_bind.1 h
  obtain ⟨log₁, hadvance₁, hfiles₁, hlog₁, hsame₁, hsome₁⟩ :=
    ensureStream_advance hfiles hlog hheader hopen
  obtain ⟨contents₂, log₂, hadvance₂, hfiles₂, hlog₂, hsame₂, hsome₂⟩ :=
    rotateChunk_advance hfiles₁ hlog₁ hsome₁ hheader hrotate
  exact ⟨contents₂, log₂, hadvance₁.trans hadvance₂, hfiles₂, hlog₂, hsame₂.trans hsame₁, hsome₂⟩

/-- **A record** written to the chunk. -/
theorem writeStream_advance (hfiles : FilesInv contents w)
    (hlog : KindLog encodes contents log w kind) (hsome : (w.stream kind).isSome = true)
    {data : List U8} {record : ρ} (hencodes : ∀ records bytes, encodes records bytes →
      encodes (records ++ [record]) (bytes ++ data))
    (h : Returns (writeStream kind data) w () w') :
    Advance kind contents w contents w' ∧ FilesInv contents w' ∧
      KindLog encodes contents (log.push record) w' kind := by
  obtain ⟨answers, rfl⟩ := returns_writeStream h
  refine ⟨advance_grown data answers, ?_, ?_⟩
  · exact hfiles.congr rfl rfl rfl (closedCount_grown w kind data)
  · exact (hlog.grown hsome hencodes).congr rfl rfl fun _ _ => rfl

end Writer

/-! ### Items -/

theorem encodesRows_nil (fields : List String) :
    EncodesRows fields [] (utf8Encode (csvRecord fields)) := by
  simp [EncodesRows, csvText]

theorem EncodesRows.push {fields : List String} {samples : List Sample} {contents : List U8}
    (h : EncodesRows fields samples contents) (sample : Sample) :
    EncodesRows fields (samples ++ [sample])
      (contents ++ utf8Encode (csvRecord (sample.record fields))) := by
  rw [EncodesRows] at h ⊢
  simp [h, csvText]

/-- The logs of the writer before and after it has written `items`. -/
structure LogsStep (items : List LogItem) (rawLog : RotatingLog SbbRecord)
    (csvLog : RotatingLog Sample) (w : LogWriter) (rawLog' : RotatingLog SbbRecord)
    (csvLog' : RotatingLog Sample) (w' : LogWriter) : Prop where
  control : SameControl w w'
  raw : rawLog'.contents = rawLog.contents ++ items.filterMap LogItem.record
  csv : csvLog'.contents = csvLog.contents ++ items.filterMap LogItem.sampled
  /-- The other events are those of the chunks that were closed. -/
  events : ∃ more, w'.events = w.events ++ more ∧
    (items.filterMap LogItem.logged).Sublist more ∧
    w'.chunks.length + (items.filterMap LogItem.logged).length = w.chunks.length + more.length

section Items

variable {startUtcNs : ℤ} {contents : StoredName → List U8}
  {rawLog : RotatingLog SbbRecord} {csvLog : RotatingLog Sample} {w w' : LogWriter}
  {config : RecorderConfig} {utcNs : ℤ}

theorem LogsInv.writeRawRecord (h : LogsInv startUtcNs contents rawLog csvLog w)
    {record : SbbRecord} (hret : Returns (writeRawRecord config startUtcNs utcNs record) w () w') :
    ∃ contents' rawLog', LogsInv startUtcNs contents' rawLog' csvLog w' ∧
      LogsStep [.raw record] rawLog csvLog w rawLog' csvLog w' := by
  obtain ⟨_, between, hensure, hret⟩ := returns_bind.1 hret
  obtain ⟨contents', log', hadvance, hfiles, hlog, hsame, hsome⟩ :=
    ensureChunk_advance h.files h.raw (fun _ => encodes_nil) hensure
  cases hblock : packSbbRecord record with
  | none =>
    simp only [hblock] at hret
    exact absurd hret not_returns_throw
  | some block =>
    simp only [hblock] at hret
    obtain ⟨_, written, hwrite, hret⟩ := returns_bind.1 hret
    obtain rfl := returns_modify.1 hret
    obtain ⟨hadvance', hfiles', hlog'⟩ := writeStream_advance hfiles hlog hsome
      (fun _ _ hencodes => hencodes.push hblock) hwrite
    have hall := hadvance.trans hadvance'
    obtain ⟨hraw, hbytes, hsamples, hfields⟩ := hall.counts
    obtain ⟨more, hmore, -, hclosed⟩ := hall.events
    have hpushed : (log'.push record).contents = rawLog.contents ++ [record] := by
      rw [RotatingLog.contents_push, hsame]
    refine ⟨contents', log'.push record, ⟨?_, ?_, ?_, ?_, ?_, ?_, ?_, ?_, ?_⟩, ?_⟩
    · exact hfiles'.congr rfl rfl rfl fun _ => rfl
    · exact hlog'.congr rfl rfl fun _ _ => rfl
    · have hcsv := hall.kindLog_ne (show ChunkKind.csv ≠ .raw by decide) h.csv
      rw [← hfields] at hcsv
      exact hcsv.congr rfl rfl fun _ _ => rfl
    · exact fun hnone => h.unset (hfields.symm.trans hnone)
    · exact hfields.trans h.fields
    · rw [hpushed, List.length_append, ← h.rawCount, ← hraw]
      rfl
    · rw [hpushed, List.map_append, List.sum_append, ← h.rawBytes, ← hbytes,
        length_packSbbRecord hblock]
      rfl
    · exact hsamples.trans h.sampleCount
    · exact hall.eventCount_eq h.eventCount
    · exact ⟨hall.control.trans (⟨rfl, rfl, rfl⟩), hpushed, by simp [LogItem.sampled], more,
        hmore, List.nil_sublist more, hclosed⟩

/-- Before the first row any columns will do. -/
theorem LogsInv.csv_of_fields (h : LogsInv startUtcNs contents rawLog csvLog w)
    {fields : List String} (hfields : w.csvFields.getD fields = fields) :
    KindLog (EncodesRows fields) contents csvLog { w with csvFields := some fields } .csv := by
  have hlog := h.csv
  cases hset : w.csvFields with
  | none =>
    have hstream : w.stream .csv = none := by
      have hcurrent := hlog.current
      rw [h.unset hset] at hcurrent
      cases hstream : w.stream .csv with
      | none => rfl
      | some bytes =>
        rw [hstream] at hcurrent
        cases hcurrent
    rw [h.unset hset] at hlog ⊢
    refine ⟨hlog.index, .nil, ?_⟩
    simp only [hstream]
    exact .none
  | some set =>
    rw [hset, Option.getD_some] at hlog hfields
    subst hfields
    exact hlog.congr rfl rfl fun _ _ => rfl

theorem LogsInv.writeSampleRow (h : LogsInv startUtcNs contents rawLog csvLog w)
    {sample : Sample} (hret : Returns (writeSampleRow config utcNs sample) w () w') :
    ∃ contents' csvLog', LogsInv startUtcNs contents' rawLog csvLog' w' ∧
      LogsStep [.sample sample] rawLog csvLog w rawLog csvLog' w' := by
  unfold Blackbox.writeSampleRow at hret
  replace hret := returns_modify_bind.1 (returns_get_bind.1 hret)
  -- the columns are set before there is a chunk
  have hcolumns : w.csvFields.getD (w.csvFields.getD sample.keys) = w.csvFields.getD sample.keys := by
    cases w.csvFields <;> rfl
  have hfirst : (csvLog.contents ++ [sample]).head?.map Sample.keys =
      some (w.csvFields.getD sample.keys) := by
    rw [h.fields]
    cases csvLog.contents <;> rfl
  generalize w.csvFields.getD sample.keys = fields at hcolumns hfirst hret
  have hfiles₀ : FilesInv contents { w with csvFields := some fields } :=
    h.files.congr rfl rfl rfl fun _ => rfl
  have hcsv := h.csv_of_fields hcolumns
  have hheader : ∀ bytes, some (utf8Encode (csvRecord fields)) = some bytes →
      EncodesRows fields [] bytes := by
    rintro _ ⟨⟩
    exact encodesRows_nil fields
  obtain ⟨_, between, hensure, hret⟩ := returns_bind.1 hret
  obtain ⟨contents', log', hadvance, hfiles, hlog, hsame, hsome⟩ :=
    ensureChunk_advance hfiles₀ hcsv hheader hensure
  obtain ⟨_, written, hwrite, hret⟩ := returns_bind.1 hret
  obtain rfl := returns_modify.1 hret
  obtain ⟨hadvance', hfiles', hlog'⟩ := writeStream_advance hfiles hlog hsome
    (fun _ _ hencodes => EncodesRows.push hencodes sample) hwrite
  have hall := hadvance.trans hadvance'
  obtain ⟨hraw, hbytes, hsamples, hfields⟩ := hall.counts
  obtain ⟨more, hmore, -, hclosed⟩ := hall.events
  have hpushed : (log'.push sample).contents = csvLog.contents ++ [sample] := by
    rw [RotatingLog.contents_push, hsame]
  have hset : written.csvFields = some fields := hfields
  refine ⟨contents', log'.push sample, ⟨?_, ?_, ?_, ?_, ?_, ?_, ?_, ?_, ?_⟩, ?_⟩
  · exact hfiles'.congr rfl rfl rfl fun _ => rfl
  · have hraw₀ : KindLog (Encodes startUtcNs) contents rawLog { w with csvFields := some fields }
        .raw := h.raw.congr rfl rfl fun _ _ => rfl
    have hraw' := hall.kindLog_ne (show ChunkKind.raw ≠ .csv by decide) hraw₀
    exact hraw'.congr rfl rfl fun _ _ => rfl
  · change KindLog (EncodesRows (written.csvFields.getD [])) _ _ _ _
    rw [hset]
    exact hlog'.congr rfl rfl fun _ _ => rfl
  · intro hnone
    rw [show written.csvFields = none from hnone] at hset
    cases hset
  · rw [hpushed, hfirst]
    exact hset
  · exact hraw.trans h.rawCount
  · exact hbytes.trans h.rawBytes
  · rw [hpushed, List.length_append, ← h.sampleCount]
    exact congrArg (· + 1) hsamples
  · exact hall.eventCount_eq h.eventCount
  · have hcontrol : SameControl w { w with csvFields := some fields } := ⟨rfl, rfl, rfl⟩
    refine ⟨(hcontrol.trans hall.control).trans (⟨rfl, rfl, rfl⟩), by simp [LogItem.record],
      hpushed, more, hmore, List.nil_sublist more, hclosed⟩

theorem LogsInv.writeLogEvent (h : LogsInv startUtcNs contents rawLog csvLog w)
    {event : LogEvent} (hret : Returns (writeLogEvent event) w () w') :
    LogsInv startUtcNs contents rawLog csvLog w' ∧
      LogsStep [.event event] rawLog csvLog w rawLog csvLog w' := by
  obtain ⟨answers, rfl⟩ := returns_writeLogEvent hret
  refine ⟨⟨h.files.congr rfl rfl rfl fun _ => rfl, h.raw.congr rfl rfl fun _ _ => rfl,
    h.csv.congr rfl rfl fun _ _ => rfl, h.unset, h.fields, h.rawCount, h.rawBytes, h.sampleCount, ?_⟩,
    ⟨⟨rfl, rfl, rfl⟩, by simp [LogItem.record], by simp [LogItem.sampled], [event], rfl,
      .refl _, rfl⟩⟩
  simp [h.eventCount]

/-- **An item** is written to its log. -/
theorem LogsInv.writeLogItem (h : LogsInv startUtcNs contents rawLog csvLog w)
    {item : LogItem} (hret : Returns (writeLogItem config startUtcNs utcNs item) w () w') :
    ∃ contents' rawLog' csvLog', LogsInv startUtcNs contents' rawLog' csvLog' w' ∧
      LogsStep [item] rawLog csvLog w rawLog' csvLog' w' := by
  cases item with
  | raw record =>
    obtain ⟨contents', rawLog', hinv, hstep⟩ := h.writeRawRecord hret
    exact ⟨contents', rawLog', csvLog, hinv, hstep⟩
  | event event =>
    obtain ⟨hinv, hstep⟩ := h.writeLogEvent hret
    exact ⟨contents, rawLog, csvLog, hinv, hstep⟩
  | sample sample =>
    obtain ⟨contents', csvLog', hinv, hstep⟩ := h.writeSampleRow hret
    exact ⟨contents', rawLog, csvLog', hinv, hstep⟩
  | stop exitReason =>
    obtain ⟨-, rfl⟩ := returns_pure.1 hret
    exact ⟨contents, rawLog, csvLog, h, .refl w', by simp [LogItem.record],
      by simp [LogItem.sampled], [], by simp, by simp [LogItem.logged], rfl⟩

end Items

end SilverwareTx.Blackbox
