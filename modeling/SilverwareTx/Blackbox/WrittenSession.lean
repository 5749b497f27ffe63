import SilverwareTx.Blackbox.WriterFiles
import SilverwareTx.Blackbox.DamagedFiles

/-!
# What the writer has written reads back

`written_session_reads_back`: when the writer thread has ended without an error, its chunks hold what
was taken from the queue, each log in its order, and what the quota has left of them, compressed or
not, reads back; without faults there is no error. `inspection_of_written_session`: where the quota
has left all of them, the report on such a session agrees with the counters of the writer.
-/

namespace SilverwareTx.Blackbox

open CsvText Raising GuardedReading

/-! ### The loop -/

section Loop

variable {config : RecorderConfig} {startUtcNs : ℤ} {contents : StoredName → List U8}
  {rawLog rawLog' rawLog'' : RotatingLog SbbRecord} {csvLog csvLog' csvLog'' : RotatingLog Sample}
  {items items' : List LogItem} {w w' w'' : LogWriter} {input last : WriterInput}
  {inputs : List WriterInput}

theorem returns_osCalls {count : ℕ} (h : Returns (osCalls count) w () w') :
    ∃ answers, w' = { w with answers := answers } := by
  induction count generalizing w with
  | zero =>
    obtain ⟨-, rfl⟩ := returns_pure.1 h
    exact ⟨_, rfl⟩
  | succ count ih =>
    obtain ⟨_, _, hcall, h⟩ := returns_bind.1 h
    obtain ⟨_, rfl⟩ := returns_osCall hcall
    obtain ⟨answers, rfl⟩ := ih h
    exact ⟨answers, rfl⟩

theorem returns_runUpkeep {upkeep : Upkeep} (h : Returns (runUpkeep upkeep) w () w') :
    ∃ pruned answers, w' = { w.prune pruned with answers := answers } := by
  cases upkeep with
  | none =>
    obtain ⟨-, rfl⟩ := returns_pure.1 h
    exact ⟨[], _, rfl⟩
  | flush sync =>
    obtain ⟨answers, rfl⟩ := returns_osCalls (returns_get_bind.1 h)
    exact ⟨[], answers, rfl⟩
  | flushAndSave sync quotaCalls pruned saveCalls =>
    obtain ⟨_, _, hflush, h⟩ := returns_bind.1 h
    obtain ⟨_, rfl⟩ := returns_osCalls (returns_get_bind.1 hflush)
    obtain ⟨_, _, hquota, h⟩ := returns_bind.1 h
    obtain ⟨_, rfl⟩ := returns_osCalls hquota
    replace h := returns_modify_bind.1 h
    obtain ⟨answers, rfl⟩ := returns_osCalls h
    exact ⟨pruned, answers, rfl⟩

theorem LogsInv.withControl (h : LogsInv startUtcNs contents rawLog csvLog w)
    (answers : List (Option String)) (exitReason : Option String) :
    LogsInv startUtcNs contents rawLog csvLog
      { w with answers := answers, exitReason := exitReason } where
  files := h.files.congr rfl rfl rfl fun _ => rfl
  raw := h.raw.congr rfl rfl fun _ _ => rfl
  csv := h.csv.congr rfl rfl fun _ _ => rfl
  unset := h.unset
  fields := h.fields
  rawCount := h.rawCount
  rawBytes := h.rawBytes
  sampleCount := h.sampleCount
  eventCount := h.eventCount

theorem LogsInv.withAnswers (h : LogsInv startUtcNs contents rawLog csvLog w)
    (answers : List (Option String)) :
    LogsInv startUtcNs contents rawLog csvLog { w with answers := answers } :=
  h.withControl answers w.exitReason

/-- The quota changes no log. -/
theorem LogsInv.prune (h : LogsInv startUtcNs contents rawLog csvLog w) (pruned : List ℕ) :
    LogsInv startUtcNs contents rawLog csvLog (w.prune pruned) where
  files := h.files.prune pruned
  raw := h.raw.congr rfl rfl fun _ _ => rfl
  csv := h.csv.congr rfl rfl fun _ _ => rfl
  unset := h.unset
  fields := h.fields
  rawCount := h.rawCount
  rawBytes := h.rawBytes
  sampleCount := h.sampleCount
  eventCount := h.eventCount

theorem LogsStep.prune (rawLog : RotatingLog SbbRecord) (csvLog : RotatingLog Sample)
    (w : LogWriter) (pruned : List ℕ) (answers : List (Option String)) :
    LogsStep [] rawLog csvLog w rawLog csvLog { w.prune pruned with answers := answers } where
  control := ⟨rfl, rfl, rfl⟩
  raw := (List.append_nil _).symm
  csv := (List.append_nil _).symm
  events := ⟨[], (List.append_nil _).symm, .refl _, length_chunks_prune w pruned⟩

theorem LogsStep.withAnswers (rawLog : RotatingLog SbbRecord) (csvLog : RotatingLog Sample)
    (w : LogWriter) (answers : List (Option String)) :
    LogsStep [] rawLog csvLog w rawLog csvLog { w with answers := answers } where
  control := ⟨rfl, rfl, rfl⟩
  raw := (List.append_nil _).symm
  csv := (List.append_nil _).symm
  events := ⟨[], (List.append_nil _).symm, .refl _, rfl⟩

theorem LogsStep.trans (h : LogsStep items rawLog csvLog w rawLog' csvLog' w')
    (h' : LogsStep items' rawLog' csvLog' w' rawLog'' csvLog'' w'') :
    LogsStep (items ++ items') rawLog csvLog w rawLog'' csvLog'' w'' := by
  obtain ⟨more, hmore, hitems, hclosed⟩ := h.events
  obtain ⟨more', hmore', hitems', hclosed'⟩ := h'.events
  refine ⟨h.control.trans h'.control, ?_, ?_, more ++ more', ?_, ?_, ?_⟩
  · rw [h'.raw, h.raw, List.filterMap_append, List.append_assoc]
  · rw [h'.csv, h.csv, List.filterMap_append, List.append_assoc]
  · rw [hmore', hmore, List.append_assoc]
  · rw [List.filterMap_append]
    exact hitems.append hitems'
  · simp only [List.filterMap_append, List.length_append]
    omega

/-- **A turn** writes its item, or leaves the loop. -/
theorem LogsInv.writerLoopTurn (h : LogsInv startUtcNs contents rawLog csvLog w)
    {result : Option String}
    (hret : Returns (writerLoopTurn config startUtcNs input) w result w') :
    (∃ exitReason, result = some exitReason ∧ input.item = some (.stop exitReason) ∧ w' = w) ∨
      (result = none ∧ (∀ exitReason, input.item ≠ some (.stop exitReason)) ∧
        ∃ contents' rawLog' csvLog', LogsInv startUtcNs contents' rawLog' csvLog' w' ∧
          LogsStep input.item.toList rawLog csvLog w rawLog' csvLog' w') := by
  unfold Blackbox.writerLoopTurn at hret
  split at hret
  next exitReason hitem =>
    obtain ⟨rfl, rfl⟩ := returns_pure.1 hret
    exact .inl ⟨exitReason, rfl, hitem, rfl⟩
  next hstop =>
    obtain ⟨_, between, hwrite, hret⟩ := returns_bind.1 hret
    obtain ⟨_, _, hupkeep, hret⟩ := returns_bind.1 hret
    obtain ⟨rfl, rfl⟩ := returns_pure.1 hret
    obtain ⟨pruned, answers, rfl⟩ := returns_runUpkeep hupkeep
    refine .inr ⟨rfl, fun exitReason hitem => hstop exitReason hitem, ?_⟩
    cases hitem : input.item with
    | none =>
      rw [hitem] at hwrite
      obtain ⟨-, rfl⟩ := returns_pure.1 hwrite
      exact ⟨contents, rawLog, csvLog, (h.prune pruned).withAnswers answers,
        .prune rawLog csvLog _ pruned answers⟩
    | some item =>
      rw [hitem] at hwrite
      obtain ⟨contents', rawLog', csvLog', hinv, hstep⟩ := h.writeLogItem hwrite
      have hall := hstep.trans (.prune rawLog' csvLog' between pruned answers)
      exact ⟨contents', rawLog', csvLog', (hinv.prune pruned).withAnswers answers,
        by simpa using hall⟩

/-- What the loop writes: all that is taken from the queue, up to the first `stop`. -/
def writtenItems : List WriterInput → List LogItem
  | [] => []
  | input :: inputs =>
    match input.item with
    | some (.stop _) => []
    | item => item.toList ++ writtenItems inputs

/-- **The loop**, turn by turn. -/
theorem LogsInv.writerTurns (h : LogsInv startUtcNs contents rawLog csvLog w)
    {result : Option String} (hret : Returns (writerTurns config startUtcNs inputs) w result w') :
    ∃ contents' rawLog' csvLog', LogsInv startUtcNs contents' rawLog' csvLog' w' ∧
      LogsStep (writtenItems inputs) rawLog csvLog w rawLog' csvLog' w' := by
  induction inputs generalizing w contents rawLog csvLog with
  | nil =>
    obtain ⟨-, rfl⟩ := returns_pure.1 hret
    exact ⟨contents, rawLog, csvLog, h, .withAnswers rawLog csvLog w' w'.answers⟩
  | cons input inputs ih =>
    replace hret := returns_modify_bind.1 hret
    obtain ⟨turn, between, hturn, hret⟩ := returns_bind.1 hret
    have hstart := LogsStep.withAnswers rawLog csvLog w input.answers
    rcases (h.withAnswers input.answers).writerLoopTurn hturn with
      ⟨exitReason, rfl, hitem, rfl⟩ | ⟨rfl, hstop, contents₁, rawLog₁, csvLog₁, hinv₁, hstep₁⟩
    · obtain ⟨-, rfl⟩ := returns_pure.1 hret
      refine ⟨contents, rawLog, csvLog, h.withAnswers input.answers, ?_⟩
      rw [writtenItems, hitem]
      exact hstart
    · obtain ⟨contents₂, rawLog₂, csvLog₂, hinv₂, hstep₂⟩ := ih hinv₁ hret
      have hitems : writtenItems (input :: inputs) = input.item.toList ++ writtenItems inputs := by
        rw [writtenItems]
        split
        next exitReason hitem => exact absurd hitem (hstop exitReason)
        next => rfl
      refine ⟨contents₂, rawLog₂, csvLog₂, hinv₂, ?_⟩
      rw [hitems]
      exact hstart.trans (hstep₁.trans hstep₂)

/-- **The end of the loop** closes both chunks. -/
theorem LogsInv.closeAll (h : LogsInv startUtcNs contents rawLog csvLog w)
    (hret : Returns (closeAll last) w () w') :
    ∃ contents' rawLog' csvLog', LogsInv startUtcNs contents' rawLog' csvLog' w' ∧
      LogsStep [] rawLog csvLog w rawLog' csvLog' w' ∧ ∀ kind, w'.stream kind = none := by
  replace hret := returns_modify_bind.1 hret
  obtain ⟨_, w₁, hraw, hret⟩ := returns_bind.1 hret
  obtain ⟨_, w₂, hcsv, hret⟩ := returns_bind.1 hret
  obtain ⟨answers, rfl⟩ := returns_osCalls (returns_get_bind.1 hret)
  have h₀ := h.withAnswers last.answers
  obtain ⟨contents₁, hadvance₁, hfiles₁, hlog₁, hnone₁⟩ := closeChunk_advance h₀.files h₀.raw hraw
  have hcsv₁ := hadvance₁.kindLog_ne (show ChunkKind.csv ≠ .raw by decide) h₀.csv
  obtain ⟨contents₂, hadvance₂, hfiles₂, hlog₂, hnone₂⟩ := closeChunk_advance hfiles₁ hcsv₁ hcsv
  have hraw₂ := hadvance₂.kindLog_ne (show ChunkKind.raw ≠ .csv by decide) hlog₁
  obtain ⟨hrawCount₁, hbytes₁, hsamples₁, hfields₁⟩ := hadvance₁.counts
  obtain ⟨hrawCount₂, hbytes₂, hsamples₂, hfields₂⟩ := hadvance₂.counts
  obtain ⟨more₁, hmore₁, -, hclosed₁⟩ := hadvance₁.events
  obtain ⟨more₂, hmore₂, -, hclosed₂⟩ := hadvance₂.events
  have hcontrol := hadvance₁.control.trans hadvance₂.control
  have hfields : w₂.csvFields = w.csvFields := hfields₂.trans hfields₁
  refine ⟨contents₂, rawLog.close, csvLog.close,
    LogsInv.withAnswers ⟨hfiles₂, hraw₂, ?_, ?_, ?_, ?_, ?_, ?_, ?_⟩ answers, ?_, ?_⟩
  · rw [hfields]
    exact hlog₂
  · intro hnone
    rw [h.unset (hfields.symm.trans hnone)]
    rfl
  · rw [RotatingLog.contents_close, hfields, h.fields]
  · rw [RotatingLog.contents_close, hrawCount₂, hrawCount₁, ← h.rawCount]
  · rw [RotatingLog.contents_close, hbytes₂, hbytes₁, ← h.rawBytes]
  · rw [RotatingLog.contents_close, hsamples₂, hsamples₁, ← h.sampleCount]
  · exact hadvance₂.eventCount_eq (hadvance₁.eventCount_eq h.eventCount)
  · refine ⟨⟨hcontrol.healthy, hcontrol.errors, hcontrol.exitReason⟩, ?_, ?_, more₁ ++ more₂, ?_,
      List.nil_sublist _, ?_⟩
    · simp
    · simp
    · change w₂.events = _
      rw [hmore₂, hmore₁, List.append_assoc]
    · change w₂.chunks.length = w.chunks.length + (more₁ ++ more₂).length
      rw [hclosed₂, hclosed₁, List.length_append, Nat.add_assoc]
  · intro kind
    cases kind with
    | raw =>
      have hsame := (hadvance₂.other .raw (by decide)).2.1
      exact hsame.trans hnone₁
    | csv => exact hnone₂

theorem errors_of_closeChunk {kind : ChunkKind} {endElapsedNs utcNs : ℤ}
    (h : Returns (closeChunk kind endElapsedNs utcNs) w () w') : w'.errors = w.errors := by
  rcases returns_closeChunk h with ⟨-, rfl⟩ | ⟨_, _, _, _, -, -, -, -, rfl⟩ <;> rfl

theorem errors_of_closeAll (h : Returns (closeAll last) w () w') : w'.errors = w.errors := by
  replace h := returns_modify_bind.1 h
  obtain ⟨_, w₁, hraw, h⟩ := returns_bind.1 h
  obtain ⟨_, w₂, hcsv, h⟩ := returns_bind.1 h
  obtain ⟨answers, rfl⟩ := returns_osCalls (returns_get_bind.1 h)
  have hsame := errors_of_closeChunk hraw
  exact (errors_of_closeChunk hcsv).trans hsame

/-- Without an error at its end the chunks have been closed. -/
theorem finishLoop_of_errors {exitReason : String}
    (h : (w.finishLoop last exitReason).errors = []) :
    w.errors = [] ∧ ∃ w', Returns (closeAll last) w () w' ∧
      w.finishLoop last exitReason = { w' with exitReason := some exitReason } := by
  unfold LogWriter.finishLoop at h ⊢
  cases hrun : (closeAll last).run w with
  | mk result w' =>
    rw [hrun] at h
    cases result with
    | error text => simp [LogWriter.setError] at h
    | ok value => exact ⟨(errors_of_closeAll hrun).symm.trans h, w', hrun, rfl⟩

theorem logsInv_start : LogsInv startUtcNs (fun _ => []) {} {} {} where
  files := ⟨by simp, fun kind => rfl, rfl⟩
  raw := ⟨rfl, .nil, .none⟩
  csv := ⟨rfl, .nil, .none⟩
  unset := fun _ => rfl
  fields := rfl
  rawCount := rfl
  rawBytes := rfl
  sampleCount := rfl
  eventCount := rfl

/-- **A writer that has ended without an error** has written every item, and closed its chunks. -/
theorem logsInv_writerLoop
    (hended : (writerLoop config startUtcNs inputs last {}).exitReason ≠ none)
    (herrors : (writerLoop config startUtcNs inputs last {}).errors = []) :
    ∃ contents rawLog csvLog exitReason,
      LogsInv startUtcNs contents rawLog csvLog (writerLoop config startUtcNs inputs last {}) ∧
      LogsStep (writtenItems inputs) {} {} { exitReason := exitReason } rawLog csvLog
        (writerLoop config startUtcNs inputs last {}) ∧
      ∀ kind, (writerLoop config startUtcNs inputs last {}).stream kind = none := by
  unfold writerLoop at hended herrors ⊢
  cases hrun : (writerTurns config startUtcNs inputs).run {} with
  | mk result w =>
    rw [hrun] at hended herrors
    rcases result with text | _ | exitReason
    · -- the error stays to the end
      have hset := (finishLoop_of_errors herrors).1
      simp [LogWriter.setError] at hset
    · obtain ⟨_, _, _, -, hstep⟩ := LogsInv.writerTurns logsInv_start hrun
      exact absurd hstep.control.exitReason hended
    · obtain ⟨contents₁, rawLog₁, csvLog₁, hinv₁, hstep₁⟩ := LogsInv.writerTurns logsInv_start hrun
      obtain ⟨-, w', hclose, hfinish⟩ := finishLoop_of_errors herrors
      obtain ⟨contents₂, rawLog₂, csvLog₂, hinv₂, hstep₂, hnone⟩ := hinv₁.closeAll hclose
      have hall := hstep₁.trans hstep₂
      rw [List.append_nil] at hall
      simp only [hfinish]
      refine ⟨contents₂, rawLog₂, csvLog₂, some exitReason, hinv₂.withControl _ _, ?_, hnone⟩
      exact ⟨⟨hall.control.healthy, hall.control.errors, rfl⟩, hall.raw, hall.csv, hall.events⟩

end Loop

/-! ### The files -/

/-- The closed chunks of a kind. -/
def LogWriter.chunksOf (w : LogWriter) (kind : ChunkKind) : List ClosedChunk :=
  w.chunks.filter fun chunk => chunk.kind = kind

/-- What is left of a chunk that the quota has not deleted: its file, or that file compressed. -/
structure LogWriter.Holds {F : Type} (lib : Stdlib F) (w : LogWriter) (chunk : ClosedChunk)
    (file : LogFile) : Prop where
  unpruned : chunk.pruned = false
  name : file.name = (if file.gz then chunk.name.withGz else chunk.name).text
  data : ∃ bytes, w.closedFiles chunk.name = some bytes ∧ openBinary lib file = ⟨bytes, none⟩

/-- What a reader makes of a row under the header. -/
def Sample.rowUnder (fields : List String) (sample : Sample) : Row :=
  fields.zip ((sample.record fields).map some)

/-- A row that `csv` reads: it has a column, and no text is over the limit. -/
def Sample.Readable (sample : Sample) : Prop :=
  sample.row ≠ [] ∧
    ∀ entry ∈ sample.row, entry.1.length ≤ fieldLimit ∧ entry.2.length ≤ fieldLimit

section Reading

variable {ρ ι ε φ : Type} {encodes : List ρ → List U8 → Prop} {contents : StoredName → List U8}
  {log : RotatingLog ρ} {w : LogWriter} {kind : ChunkKind}

/-- The closed chunks of a kind hold the records of its log. -/
theorem encodes_chunksOf (hfiles : FilesInv contents w) (hlog : KindLog encodes contents log w kind)
    (hnone : w.stream kind = none) :
    List.Forall₂ (fun records chunk =>
        ∃ bytes, w.closedFiles chunk.name = some bytes ∧ encodes records bytes)
      log.closed (w.chunksOf kind) := by
  have hindex := hlog.index
  rw [hnone, Option.toList_none, List.length_nil, Nat.add_zero] at hindex
  have hnames := hfiles.names kind
  rw [LogWriter.closedCount, hnone, Option.toList_none, List.length_nil, Nat.sub_zero,
    hindex] at hnames
  have hclosed := hlog.closed
  have hcontents :
      ((List.range' 1 log.closed.length).map fun i => contents (chunkFile kind i false)) =
        (w.chunksOf kind).map fun chunk => contents chunk.name := by
    calc ((List.range' 1 log.closed.length).map fun i => contents (chunkFile kind i false))
        = ((List.range' 1 log.closed.length).map (chunkFile kind · false)).map contents := by
          rw [List.map_map]
          rfl
      _ = (w.chunksOf kind).map fun chunk => contents chunk.name := by
          rw [← hnames, List.map_map]
          rfl
  rw [hcontents, List.forall₂_map_right_iff] at hclosed
  have hstored : ∀ chunk ∈ w.chunksOf kind,
      w.closedFiles chunk.name = some (contents chunk.name) := fun chunk hchunk =>
    (hfiles.stored chunk (List.mem_of_mem_filter hchunk)).1
  generalize w.chunksOf kind = chunks at hclosed hstored
  generalize log.closed = parts at hclosed
  induction hclosed with
  | nil => exact .nil
  | cons hencodes _ ih =>
    rw [List.forall_mem_cons] at hstored
    exact .cons ⟨_, hstored.1, hencodes⟩ (ih hstored.2)

/-- Readings that give back their chunks. -/
theorem readings_of_forall₂ {read : φ → Reading ι ε} {chunks : List (List ι)} {files : List φ}
    (h : List.Forall₂ (fun chunk file => read file = ⟨chunk, none⟩) chunks files) :
    files.flatMap (fun file => (read file).items) = chunks.flatten ∧
      ∀ file ∈ files, (read file).failure = none := by
  induction h with
  | nil => simp
  | cons hread _ ih => simpa [hread] using ih

theorem flatten_toChunks_go (n : ℕ) (xs : List ρ) (chunk : Array ρ) (chunks : Array (List ρ)) :
    (List.toChunks.go n xs chunk chunks).flatten = chunks.toList.flatten ++ chunk.toList ++ xs := by
  induction xs generalizing chunk chunks with
  | nil => simp [List.toChunks.go]
  | cons x xs ih =>
    rw [List.toChunks.go]
    split_ifs <;> simp [ih]

theorem flatten_toChunks (n : ℕ) (xs : List ρ) : (xs.toChunks n).flatten = xs := by
  cases xs with
  | nil => cases n <;> rfl
  | cons x xs =>
    cases n with
    | zero => simp [List.toChunks]
    | succ n => simp [List.toChunks, flatten_toChunks_go]

theorem length_lookup_le {sample : Sample} (h : sample.Readable) (field : String) :
    ((sample.row.lookup field).getD "").length ≤ fieldLimit := by
  cases hfound : sample.row.lookup field with
  | none => exact Nat.zero_le _
  | some value =>
    obtain ⟨before, after, hrow, -⟩ := List.lookup_eq_some_iff.1 hfound
    exact (h.2 (field, value) (by simp [hrow])).2

/-- **A telemetry chunk** is read to its end. -/
theorem csvFileReading_of_encodes {F : Type} {lib : Stdlib F} {file : LogFile} {first : Sample}
    {samples : List Sample} {bytes : List U8} (hopen : openBinary lib file = ⟨bytes, none⟩)
    (hfirst : first.Readable) (hsamples : ∀ sample ∈ samples, sample.Readable)
    (h : EncodesRows first.keys samples bytes) :
    csvFileReading lib file = ⟨samples.map (Sample.rowUnder first.keys), none⟩ := by
  have hlimit : ∀ record ∈ first.keys :: samples.map (Sample.record first.keys), ∀ field ∈ record,
      field.length ≤ fieldLimit := by
    intro record hrecord field hfield
    rcases List.mem_cons.1 hrecord with rfl | hrecord
    · obtain ⟨entry, hentry, rfl⟩ := List.mem_map.1 hfield
      exact (hfirst.2 entry hentry).1
    · obtain ⟨sample, hsample, rfl⟩ := List.mem_map.1 hrecord
      obtain ⟨key, -, rfl⟩ := List.mem_map.1 hfield
      exact length_lookup_le (hsamples sample hsample) key
  have hne : first.keys ≠ [] := by simpa [Sample.keys] using hfirst.1
  have hlength : ∀ record ∈ samples.map (Sample.record first.keys),
      record.length = first.keys.length := by
    intro record hrecord
    obtain ⟨sample, -, rfl⟩ := List.mem_map.1 hrecord
    simp [Sample.record]
  have hread : ∀ chunks : List (List U8), chunks.flatten = bytes →
      csvReading PyException.unicodeError PyException.csvError chunks none =
        ⟨samples.map (Sample.rowUnder first.keys), none⟩ := by
    intro chunks hchunks
    rw [csvReading_written hlimit hne hlength (hchunks.trans h), List.map_map]
    rfl
  unfold openBinary at hopen
  unfold csvFileReading
  by_cases hgz : file.gz = true
  · rw [if_pos hgz] at hopen ⊢
    obtain ⟨hchunks, hfault⟩ := ByteStream.mk.inj hopen
    dsimp only
    rw [hfault]
    exact hread _ hchunks
  · rw [if_neg hgz] at hopen ⊢
    exact hread _ ((flatten_toChunks 8192 file.contents).trans (ByteStream.mk.inj hopen).1)

/-- Under its own columns a row is read as it is. -/
theorem rowUnder_keys {sample : Sample} (h : sample.keys.Nodup) :
    sample.rowUnder sample.keys = sample.row.map fun entry => (entry.1, some entry.2) := by
  have hrecord : sample.record sample.keys = sample.row.map Prod.snd := by
    rw [Sample.record, Sample.keys, List.map_map]
    apply List.map_congr_left
    intro entry hentry
    have hlookup : sample.row.lookup entry.1 = some entry.2 := by
      obtain ⟨before, after, hrow⟩ := List.append_of_mem hentry
      refine List.lookup_eq_some_iff.2 ⟨before, after, hrow, fun other hother => ?_⟩
      rw [Sample.keys, hrow, List.map_append, List.map_cons] at h
      have hdisjoint := List.disjoint_of_nodup_append h
      simp only [bne_iff_ne]
      rintro hsame
      exact hdisjoint (List.mem_map_of_mem hother) (by simp [hsame])
    simp [hlookup]
  rw [Sample.rowUnder, hrecord, Sample.keys, List.map_map, List.zip_map']
  rfl

end Reading

/-! ### Without faults -/

section Quiet

variable {config : RecorderConfig} {startUtcNs : ℤ} {kind : ChunkKind} {elapsedNs utcNs : ℤ}
  {input last : WriterInput} {inputs : List WriterInput} {w : LogWriter}

/-- No call of the operating system raises. -/
def QuietAnswers (answers : List (Option String)) : Prop := ∀ answer ∈ answers, answer = none

/-- No call of the writer was answered with an error. -/
def LogWriter.Quiet (w : LogWriter) : Prop := QuietAnswers w.answers

theorem osCall_succeeds : Succeeds LogWriter.Quiet osCall := by
  intro w hw
  cases hanswers : w.answers with
  | nil =>
    refine ⟨(), w, returns_get_bind.2 ?_, hw⟩
    simp only [hanswers]
    exact returns_pure.2 ⟨rfl, rfl⟩
  | cons answer answers =>
    have hquiet : QuietAnswers (answer :: answers) := hanswers ▸ hw
    obtain rfl := hquiet answer List.mem_cons_self
    refine ⟨(), { w with answers := answers }, returns_get_bind.2 ?_, fun other hother =>
      hquiet other (List.mem_cons_of_mem _ hother)⟩
    simp only [hanswers]
    exact returns_modify_bind.2 (returns_pure.2 ⟨rfl, rfl⟩)

theorem osCalls_succeeds (count : ℕ) : Succeeds LogWriter.Quiet (osCalls count) := by
  induction count with
  | zero => exact succeeds_pure ()
  | succ count ih => exact succeeds_bind osCall_succeeds fun _ => ih

theorem writeStream_succeeds (data : List U8) :
    Succeeds LogWriter.Quiet (writeStream kind data) :=
  succeeds_bind osCall_succeeds fun _ => succeeds_modify fun _ hw => hw

theorem openChunk_succeeds (header : List U8) :
    Succeeds LogWriter.Quiet (openChunk kind (some header) elapsedNs) := by
  refine succeeds_bind (succeeds_modify fun _ hw => hw) fun _ => ?_
  refine succeeds_bind osCall_succeeds fun _ => ?_
  refine succeeds_bind (succeeds_modify fun _ hw => hw) fun _ => ?_
  exact succeeds_bind (writeStream_succeeds header) fun _ => succeeds_modify fun _ hw => hw

theorem writeLogEvent_succeeds (event : LogEvent) :
    Succeeds LogWriter.Quiet (writeLogEvent event) :=
  succeeds_bind osCall_succeeds fun _ => succeeds_modify fun _ hw => hw

theorem closeChunk_succeeds : Succeeds LogWriter.Quiet (closeChunk kind elapsedNs utcNs) := by
  refine succeeds_get_bind fun w => ?_
  cases w.stream kind with
  | none => exact succeeds_pure ()
  | some contents =>
    refine succeeds_bind (succeeds_modify fun _ hw => hw) fun _ => ?_
    refine succeeds_bind osCall_succeeds fun _ => ?_
    refine succeeds_bind osCall_succeeds fun _ => ?_
    refine succeeds_bind osCall_succeeds fun _ => ?_
    refine succeeds_bind (succeeds_modify fun _ hw => hw) fun _ => ?_
    refine succeeds_bind osCall_succeeds fun _ => ?_
    refine succeeds_bind (succeeds_modify fun _ hw => hw) fun _ => ?_
    exact succeeds_bind (writeLogEvent_succeeds _) fun _ => succeeds_modify fun _ hw => hw

theorem ensureChunk_succeeds (header : List U8) :
    Succeeds LogWriter.Quiet
      (ensureChunk config kind (openChunk kind (some header) elapsedNs) elapsedNs utcNs) := by
  refine succeeds_bind (succeeds_get_bind fun w => ?_) fun _ => succeeds_get_bind fun w => ?_
  · split_ifs
    · exact openChunk_succeeds header
    · exact succeeds_pure ()
  · split_ifs
    · exact succeeds_bind closeChunk_succeeds fun _ => openChunk_succeeds header
    · exact succeeds_pure ()

/-- Whether a record fits into its header. -/
def LogItem.packs : LogItem → Bool
  | .raw record => (packSbbRecord record).isSome
  | _ => true

theorem writeLogItem_succeeds (hstart : (packSbbHeader startUtcNs).isSome = true) {item : LogItem}
    (h : item.packs = true) :
    Succeeds LogWriter.Quiet (writeLogItem config startUtcNs utcNs item) := by
  cases item with
  | raw record =>
    obtain ⟨header, hheader⟩ := Option.isSome_iff_exists.1 hstart
    obtain ⟨block, hblock⟩ := Option.isSome_iff_exists.1 h
    rw [writeLogItem, writeRawRecord, openRawChunk, hheader, hblock]
    refine succeeds_bind (ensureChunk_succeeds header) fun _ => ?_
    exact succeeds_bind (writeStream_succeeds block) fun _ => succeeds_modify fun _ hw => hw
  | event event => exact writeLogEvent_succeeds event
  | sample sample =>
    refine succeeds_get_bind fun w => succeeds_bind (succeeds_modify fun _ hw => hw) fun _ => ?_
    refine succeeds_bind (ensureChunk_succeeds _) fun _ => ?_
    exact succeeds_bind (writeStream_succeeds _) fun _ => succeeds_modify fun _ hw => hw
  | stop exitReason => exact succeeds_pure ()

theorem runUpkeep_succeeds (upkeep : Upkeep) : Succeeds LogWriter.Quiet (runUpkeep upkeep) := by
  have hflush : ∀ sync, Succeeds LogWriter.Quiet (flush sync) := fun sync =>
    succeeds_get_bind fun _ => osCalls_succeeds _
  cases upkeep with
  | none => exact succeeds_pure ()
  | flush sync => exact hflush sync
  | flushAndSave sync quotaCalls pruned saveCalls =>
    refine succeeds_bind (hflush sync) fun _ => succeeds_bind (osCalls_succeeds quotaCalls) fun _ => ?_
    exact succeeds_bind (succeeds_modify fun _ hw => hw) fun _ => osCalls_succeeds saveCalls

theorem writerLoopTurn_succeeds (hstart : (packSbbHeader startUtcNs).isSome = true)
    (h : input.item.all LogItem.packs = true) :
    Succeeds LogWriter.Quiet (writerLoopTurn config startUtcNs input) := by
  unfold writerLoopTurn
  split
  next => exact succeeds_pure _
  next =>
    refine succeeds_bind ?_ fun _ =>
      succeeds_bind (runUpkeep_succeeds input.upkeep) fun _ => succeeds_pure none
    cases hitem : input.item with
    | none => exact succeeds_pure ()
    | some item =>
      rw [hitem, Option.all_some] at h
      exact writeLogItem_succeeds hstart h

/-- A turn without faults. -/
structure WriterInput.Quiet (input : WriterInput) : Prop where
  answers : QuietAnswers input.answers
  packs : input.item.all LogItem.packs = true

theorem writerTurns_succeeds (hstart : (packSbbHeader startUtcNs).isSome = true)
    (hinputs : ∀ input ∈ inputs, input.Quiet) :
    Succeeds LogWriter.Quiet (writerTurns config startUtcNs inputs) := by
  induction inputs with
  | nil => exact succeeds_pure none
  | cons input inputs ih =>
    obtain ⟨hinput, hrest⟩ := List.forall_mem_cons.1 hinputs
    refine succeeds_bind (succeeds_modify fun _ _ => hinput.answers) fun _ => ?_
    refine succeeds_bind (writerLoopTurn_succeeds hstart hinput.packs) fun result => ?_
    cases result with
    | none => exact ih hrest
    | some exitReason => exact succeeds_pure _

/-- The loop waits on only where nothing has told it to stop. -/
theorem not_stop_of_writerTurns {w' : LogWriter}
    (h : Returns (writerTurns config startUtcNs inputs) w none w') :
    ∀ input ∈ inputs, ∀ exitReason, input.item ≠ some (.stop exitReason) := by
  induction inputs generalizing w with
  | nil => simp
  | cons input inputs ih =>
    replace h := returns_modify_bind.1 h
    obtain ⟨turn, between, hturn, h⟩ := returns_bind.1 h
    cases turn with
    | some exitReason =>
      have hresult := (returns_pure.1 h).1
      cases hresult
    | none =>
      refine List.forall_mem_cons.2 ⟨fun exitReason hitem => ?_, ih h⟩
      unfold writerLoopTurn at hturn
      simp only [hitem] at hturn
      have hresult := (returns_pure.1 hturn).1
      cases hresult

theorem closeAll_succeeds (hlast : QuietAnswers last.answers) (w : LogWriter) :
    ∃ w', Returns (closeAll last) w () w' := by
  have hflush : Succeeds LogWriter.Quiet (flush true) :=
    succeeds_get_bind fun _ => osCalls_succeeds _
  obtain ⟨_, w', hret, -⟩ := succeeds_bind closeChunk_succeeds
    (fun _ => succeeds_bind closeChunk_succeeds fun _ => hflush) { w with answers := last.answers }
    hlast
  exact ⟨w', returns_modify_bind.2 hret⟩

/-- **A session without faults** ends without an error. -/
theorem writerLoop_of_quiet (hstart : (packSbbHeader startUtcNs).isSome = true)
    (hinputs : ∀ input ∈ inputs, input.Quiet) (hlast : QuietAnswers last.answers)
    (hstop : ∃ input ∈ inputs, ∃ exitReason, input.item = some (.stop exitReason)) :
    (writerLoop config startUtcNs inputs last {}).errors = [] ∧
      (writerLoop config startUtcNs inputs last {}).exitReason ≠ none := by
  have hturns : Succeeds LogWriter.Quiet (writerTurns config startUtcNs inputs) :=
    writerTurns_succeeds hstart hinputs
  obtain ⟨result, w, hret, -⟩ := hturns {} nofun
  obtain ⟨_, _, _, -, hstep⟩ := LogsInv.writerTurns logsInv_start hret
  cases result with
  | none =>
    obtain ⟨input, hinput, exitReason, hitem⟩ := hstop
    exact absurd hitem (not_stop_of_writerTurns hret input hinput exitReason)
  | some exitReason =>
    obtain ⟨w', hclose⟩ := closeAll_succeeds hlast w
    have hloop : writerLoop config startUtcNs inputs last {} =
        { w' with exitReason := some exitReason } := by
      have hrun : (writerTurns config startUtcNs inputs).run {} = (.ok (some exitReason), w) := hret
      have hend : (closeAll last).run w = (.ok (), w') := hclose
      simp only [writerLoop, hrun, LogWriter.finishLoop, hend]
    rw [hloop]
    exact ⟨(errors_of_closeAll hclose).trans hstep.control.errors, nofun⟩

end Quiet

/-! ### The session -/

/-- A session that no call of the operating system and no value disturbs, up to its `stop`. -/
structure QuietSession (startUtcNs : ℤ) (inputs : List WriterInput) (last : WriterInput) :
    Prop where
  start : (packSbbHeader startUtcNs).isSome = true
  turns : ∀ input ∈ inputs, input.Quiet
  last : QuietAnswers last.answers
  stop : ∃ input ∈ inputs, ∃ exitReason, input.item = some (.stop exitReason)

/-- The columns are those of the first row. -/
def columns (items : List LogItem) : List String :=
  ((items.filterMap LogItem.sampled).head?.map Sample.keys).getD []

/-- The readers of the session's files give back the items. -/
structure ReadsBack {F : Type} (lib : Stdlib F) (items : List LogItem) (w : LogWriter) : Prop where
  /-- The chunks hold the records in their order, and what is left of each reads back. -/
  raw : ∃ parts : List (List SbbRecord), parts.flatten = items.filterMap LogItem.record ∧
    List.Forall₂ (fun records chunk =>
        ∀ file, w.Holds lib chunk file → rawReading lib file = ⟨records, none⟩)
      parts (w.chunksOf .raw)
  rows : ∃ parts : List (List Sample), parts.flatten = items.filterMap LogItem.sampled ∧
    List.Forall₂ (fun samples chunk => ∀ file, w.Holds lib chunk file →
        csvFileReading lib file = ⟨samples.map (Sample.rowUnder (columns items)), none⟩)
      parts (w.chunksOf .csv)
  /-- Rows with the same columns are read as they were given. -/
  given : ∀ keys, keys.Nodup →
    (∀ sample ∈ items.filterMap LogItem.sampled, sample.keys = keys) →
      ∀ sample ∈ items.filterMap LogItem.sampled,
        sample.rowUnder (columns items) = sample.row.map fun entry => (entry.1, some entry.2)
  events : (items.filterMap LogItem.logged).Sublist w.events
  /-- The other events are one for each chunk. -/
  rotations : w.events.length = (items.filterMap LogItem.logged).length + w.chunks.length
  counts : w.rawRecordCount = (items.filterMap LogItem.record).length ∧
    w.sampleCount = (items.filterMap LogItem.sampled).length ∧ w.eventCount = w.events.length ∧
    w.bytesWritten = ((items.filterMap LogItem.record).map recordBytes).sum

/-- Rows with the same columns are read as they were given. -/
theorem rowUnder_columns {items : List LogItem} {keys : List String} (hnodup : keys.Nodup)
    (hkeys : ∀ sample ∈ items.filterMap LogItem.sampled, sample.keys = keys) {sample : Sample}
    (hsample : sample ∈ items.filterMap LogItem.sampled) :
    sample.rowUnder (columns items) = sample.row.map fun entry => (entry.1, some entry.2) := by
  have hcolumns : columns items = sample.keys := by
    rw [columns, hkeys sample hsample]
    generalize items.filterMap LogItem.sampled = samples at hkeys hsample
    cases samples with
    | nil => cases hsample
    | cons first rest => exact hkeys first List.mem_cons_self
  rw [hcolumns]
  exact rowUnder_keys (hkeys sample hsample ▸ hnodup)

section Closed

variable {F : Type} {lib : Stdlib F} {startUtcNs : ℤ} {contents : StoredName → List U8}
  {rawLog : RotatingLog SbbRecord} {csvLog : RotatingLog Sample} {w : LogWriter}

/-- What the quota has left of the closed chunks of raw records reads back. -/
theorem LogsInv.raw_reads (hinv : LogsInv startUtcNs contents rawLog csvLog w)
    (hnone : w.stream .raw = none) :
    List.Forall₂ (fun records chunk =>
        ∀ file, w.Holds lib chunk file → rawReading lib file = ⟨records, none⟩)
      rawLog.closed (w.chunksOf .raw) := by
  refine (encodes_chunksOf hinv.files hinv.raw hnone).imp ?_
  rintro records chunk ⟨bytes, hbytes, hencodes⟩ file hfile
  obtain ⟨bytes', hbytes', hopen⟩ := hfile.data
  obtain rfl := Option.some.inj (hbytes.symm.trans hbytes')
  exact rawReading_of_encodes hopen hencodes

/-- What the quota has left of the closed chunks of rows reads back, under the columns of the first
row. -/
theorem LogsInv.rows_read (hinv : LogsInv startUtcNs contents rawLog csvLog w)
    (hnone : w.stream .csv = none) (hclosed : csvLog.closed.flatten = csvLog.contents)
    (hreadable : ∀ sample ∈ csvLog.contents, sample.Readable) :
    List.Forall₂ (fun samples chunk => ∀ file, w.Holds lib chunk file → csvFileReading lib file =
        ⟨samples.map (Sample.rowUnder ((csvLog.contents.head?.map Sample.keys).getD [])), none⟩)
      csvLog.closed (w.chunksOf .csv) := by
  have hchunks := encodes_chunksOf hinv.files hinv.csv hnone
  have hfields := hinv.fields
  rw [← hfields]
  cases hfirst : csvLog.contents.head? with
  | none =>
    rw [hfirst] at hfields
    rw [hinv.unset hfields] at hchunks ⊢
    rw [List.forall₂_nil_left_iff.1 hchunks]
    exact .nil
  | some first =>
    rw [hfirst, Option.map_some] at hfields
    rw [hfields, Option.getD_some] at hchunks ⊢
    have hreads : ∀ samples ∈ csvLog.closed, ∀ sample ∈ samples, sample.Readable := by
      intro samples hsamples sample hsample
      refine hreadable sample ?_
      rw [← hclosed]
      exact List.mem_flatten.2 ⟨samples, hsamples, hsample⟩
    refine ((List.forall₂_and_left _ _).2 ⟨hreads, hchunks⟩).imp ?_
    rintro samples chunk ⟨hsamples, bytes, hbytes, hencodes⟩ file hfile
    obtain ⟨bytes', hbytes', hopen⟩ := hfile.data
    obtain rfl := Option.some.inj (hbytes.symm.trans hbytes')
    exact csvFileReading_of_encodes hopen (hreadable first (List.mem_of_mem_head? hfirst))
      hsamples hencodes

end Closed

theorem readsBack_of_errors {F : Type} (lib : Stdlib F) {config : RecorderConfig} {startUtcNs : ℤ}
    {inputs : List WriterInput} {last : WriterInput}
    (hended : (writerLoop config startUtcNs inputs last {}).exitReason ≠ none)
    (herrors : (writerLoop config startUtcNs inputs last {}).errors = [])
    (hreadable : ∀ sample ∈ (writtenItems inputs).filterMap LogItem.sampled, sample.Readable) :
    ReadsBack lib (writtenItems inputs) (writerLoop config startUtcNs inputs last {}) := by
  obtain ⟨contents, rawLog, csvLog, exitReason, hinv, hstep, hnone⟩ :=
    logsInv_writerLoop hended herrors
  generalize writerLoop config startUtcNs inputs last {} = w at hinv hstep hnone
  generalize writtenItems inputs = items at hstep hreadable
  have hrawContents : rawLog.contents = items.filterMap LogItem.record := hstep.raw
  have hcsvContents : csvLog.contents = items.filterMap LogItem.sampled := hstep.csv
  have hrawClosed : rawLog.closed.flatten = rawLog.contents := by
    simp [RotatingLog.contents, hinv.raw.current_eq_none (hnone .raw)]
  have hcsvClosed : csvLog.closed.flatten = csvLog.contents := by
    simp [RotatingLog.contents, hinv.csv.current_eq_none (hnone .csv)]
  rw [← hcsvContents] at hreadable
  have hcsv : List.Forall₂ (fun samples chunk => ∀ file, w.Holds lib chunk file →
      csvFileReading lib file = ⟨samples.map (Sample.rowUnder (columns items)), none⟩)
      csvLog.closed (w.chunksOf .csv) := by
    rw [columns, ← hcsvContents]
    exact hinv.rows_read (hnone .csv) hcsvClosed hreadable
  obtain ⟨more, hmore, hsublist, hclosed⟩ := hstep.events
  rw [List.nil_append] at hmore
  subst hmore
  refine ⟨⟨rawLog.closed, hrawClosed.trans hrawContents, hinv.raw_reads (hnone .raw)⟩,
    ⟨csvLog.closed, hcsvClosed.trans hcsvContents, hcsv⟩,
    fun keys hnodup hkeys sample hsample => rowUnder_columns hnodup hkeys hsample,
    hsublist, ?_, ?_, ?_, hinv.eventCount, ?_⟩
  · simpa [Nat.add_comm] using hclosed.symm
  · rw [hinv.rawCount, hrawContents]
  · rw [hinv.sampleCount, hcsvContents]
  · rw [hinv.rawBytes, hrawContents]

/-- Chunks of at most a few records. -/
def loggedConfig : RecorderConfig where
  rotateBytes := 60
  rotateDue openedNs elapsedNs := 1000 ≤ elapsedNs - openedNs

/-- A sample with a time and a battery voltage. -/
def loggedSample (battery : String) (elapsedNs : ℤ) : Sample :=
  ⟨[("elapsed_s", toString elapsedNs), ("fc_battery_compensated_v", battery)], elapsedNs⟩

/-- Records and rows over two chunks of either kind, with a pause and an event; the quota deletes the
chunks at the places `pruned`. -/
def loggedInputs (pruned : List ℕ) : List WriterInput :=
  [{ item := some (.raw ⟨1000, 5, 7, [1, 2, 3]⟩) },
    { item := some (.sample (loggedSample "3.9" 1000)) },
    { upkeep := .flush true },
    { item := some (.raw ⟨2000, 6, 7, [4]⟩), answers := [none] },
    { item := some (.event ⟨"info", "flight_mode", "Horizon, \"race\"", 7, 2100, []⟩) },
    { item := some (.sample (loggedSample "3.8, low" 2500)) },
    { item := some (.raw ⟨2600, 8, 7, [5, 6]⟩), upkeep := .flushAndSave false 4 pruned 3 },
    { item := some (.stop "window closed") }]

theorem quietSession_loggedInputs (pruned : List ℕ) :
    QuietSession 100 (loggedInputs pruned) {} where
  start := by decide +kernel
  turns := by
    have hpacks : ∀ input ∈ loggedInputs pruned, input.item.all LogItem.packs = true := by
      simp only [loggedInputs, List.forall_mem_cons]
      decide +kernel
    have hanswers : ∀ input ∈ loggedInputs pruned, QuietAnswers input.answers := by
      simp [loggedInputs, QuietAnswers]
    exact fun input hinput => ⟨hanswers input hinput, hpacks input hinput⟩
  last := nofun
  stop := ⟨_, List.mem_of_getLast? rfl, "window closed", rfl⟩

theorem readable_loggedInputs (pruned : List ℕ) :
    ∀ sample ∈ (writtenItems (loggedInputs pruned)).filterMap LogItem.sampled,
      sample.Readable := by
  have hitems : (writtenItems (loggedInputs pruned)).filterMap LogItem.sampled =
      [loggedSample "3.9" 1000, loggedSample "3.8, low" 2500] := rfl
  rw [hitems]
  simp only [List.forall_mem_cons, Sample.Readable, loggedSample]
  decide +kernel

/-- `gzip` on members with one stored block. -/
def storedGzipLib : Stdlib ℤ where
  gzipOpen contents :=
    if contents.take 2 ≠ [0x1F, 0x8B] then ⟨[], some .badHeader⟩
    else ⟨[storedGzip.decompress contents], none⟩
  float _ := none
  str _ := "Not a gzipped file"

section Inspection

variable {F J : Type} {lib : Stdlib F}

theorem foldl_countRawRecord (records : List SbbRecord) (tally : Tally F J) :
    let final := records.foldl countRawRecord tally
    final.rawRecords = tally.rawRecords + records.length ∧
      final.rawBytes = tally.rawBytes + (records.map fun record => record.data.length).sum ∧
      final.csvRows = tally.csvRows ∧ final.eventTypes = tally.eventTypes ∧
      final.severities = tally.severities ∧ final.integrityErrors = tally.integrityErrors := by
  induction records generalizing tally with
  | nil => simp
  | cons record records ih =>
    obtain ⟨hrecords, hbytes, hframe⟩ := ih (countRawRecord tally record)
    refine ⟨?_, ?_, hframe⟩
    · rw [List.foldl_cons, hrecords, List.length_cons]
      change tally.rawRecords + 1 + records.length = _
      omega
    · rw [List.foldl_cons, hbytes, List.map_cons, List.sum_cons]
      change tally.rawBytes + record.data.length + _ = _
      omega

theorem scanEvents_objects (lines : List (Event J)) (tally : Tally F J) :
    ∃ after, scanEvents lib ⟨lines.map .object, none⟩ tally = .ok after ∧
      after.eventTypes = tally.eventTypes ++ lines.map Event.type ∧
      after.severities = tally.severities ++ lines.map Event.severity ∧
      after.rawRecords = tally.rawRecords ∧ after.rawBytes = tally.rawBytes ∧
      after.csvRows = tally.csvRows ∧ after.integrityErrors = tally.integrityErrors := by
  have hloop : ∀ (number : ℕ) (tally : Tally F J),
      ∃ noteworthy, ((lines.map EventLine.object).zipIdx number).foldlM countEvent tally =
        .ok { tally with
          eventTypes := tally.eventTypes ++ lines.map Event.type
          severities := tally.severities ++ lines.map Event.severity
          noteworthy := noteworthy } := by
    induction lines with
    | nil => exact fun number tally => ⟨tally.noteworthy, by simp [pure, Except.pure]⟩
    | cons line lines ih =>
      intro number tally
      rw [List.map_cons, List.zipIdx_cons, List.foldlM_cons]
      obtain ⟨noteworthy, hrest⟩ := ih (number + 1) { tally with
        eventTypes := tally.eventTypes ++ [line.type]
        severities := tally.severities ++ [line.severity]
        noteworthy :=
          if line.severity ∈ ["warning", "error", "critical"] then
            appendNoteworthy tally.noteworthy line
          else tally.noteworthy }
      refine ⟨noteworthy, ?_⟩
      refine hrest.trans ?_
      simp
  obtain ⟨noteworthy, hnoteworthy⟩ := hloop 1 tally
  refine ⟨{ tally with
    eventTypes := tally.eventTypes ++ lines.map Event.type
    severities := tally.severities ++ lines.map Event.severity
    noteworthy := noteworthy }, ?_, rfl, rfl, rfl, rfl, rfl, rfl⟩
  rw [scanEvents, hnoteworthy]
  rfl

theorem length_chunksOf (w : LogWriter) :
    (w.chunksOf .raw).length + (w.chunksOf .csv).length = w.chunks.length := by
  rw [LogWriter.chunksOf, LogWriter.chunksOf]
  induction w.chunks with
  | nil => rfl
  | cons chunk chunks ih =>
    cases hkind : chunk.kind <;> simp [hkind] <;> omega

/-- There is one file of each closed chunk of a kind, none of which the quota has deleted. The files
may stand in any order: the inspector takes the compressed ones behind the others. -/
def LogWriter.KeptIn (lib : Stdlib F) (w : LogWriter) (kind : ChunkKind) (files : List LogFile) :
    Prop :=
  ∃ inOrder, inOrder.Perm files ∧ List.Forall₂ (w.Holds lib) (w.chunksOf kind) inOrder

/-- A session directory with the files of the writer. -/
structure Finds (lib : Stdlib F) (w : LogWriter) (session : InspectedSession J) : Prop where
  rawFiles : w.KeptIn lib .raw session.rawFiles
  csvFiles : w.KeptIn lib .csv session.csvFiles
  events : ∃ lines : List (Event J), session.events = ⟨lines.map .object, none⟩ ∧
    lines.map Event.type = w.events.map LogEvent.type ∧
    lines.map Event.severity = w.events.map LogEvent.severity

theorem LogWriter.KeptIn.length {w : LogWriter} {kind : ChunkKind} {files : List LogFile}
    (h : w.KeptIn lib kind files) : files.length = (w.chunksOf kind).length := by
  obtain ⟨inOrder, hperm, hholds⟩ := h
  rw [← hperm.length_eq, hholds.length_eq]

/-- What is read of the files of a log whose chunks read back. -/
theorem LogWriter.KeptIn.readings {ι ε : Type} {w : LogWriter} {kind : ChunkKind}
    {files : List LogFile} {read : LogFile → Reading ι ε} {parts : List (List ι)}
    (h : w.KeptIn lib kind files)
    (hparts : List.Forall₂ (fun part chunk => ∀ file, w.Holds lib chunk file →
      read file = ⟨part, none⟩) parts (w.chunksOf kind)) :
    (files.flatMap fun file => (read file).items).Perm parts.flatten ∧
      ∀ file ∈ files, (read file).failure = none := by
  obtain ⟨inOrder, hperm, hholds⟩ := h
  have hreads : List.Forall₂ (fun part file => read file = ⟨part, none⟩) parts inOrder := by
    clear hperm
    generalize w.chunksOf kind = chunks at hholds hparts
    induction hparts generalizing inOrder with
    | nil =>
      cases hholds
      exact .nil
    | cons hpart _ ih =>
      cases hholds with
      | cons hfile hrest => exact .cons (hpart _ hfile) (ih _ hrest)
  obtain ⟨hitems, hgood⟩ := readings_of_forall₂ hreads
  refine ⟨?_, fun file hfile => hgood file (hperm.mem_iff.2 hfile)⟩
  rw [← hitems]
  exact (hperm.flatMap_right _).symm

variable [Zero F] [LT F] [DecidableLT F]

theorem foldl_countRow (rows : List Row) (tally : Tally F J) :
    let final := rows.foldl (countRow lib) tally
    final.csvRows = tally.csvRows + rows.length ∧ final.rawRecords = tally.rawRecords ∧
      final.rawBytes = tally.rawBytes ∧ final.eventTypes = tally.eventTypes ∧
      final.severities = tally.severities ∧ final.integrityErrors = tally.integrityErrors := by
  induction rows generalizing tally with
  | nil => simp
  | cons row rows ih =>
    obtain ⟨hrows, hframe⟩ := ih (countRow lib tally row)
    refine ⟨?_, hframe⟩
    rw [List.foldl_cons, hrows, List.length_cons]
    change tally.csvRows + 1 + rows.length = _
    omega

/-- The report agrees with the counters of the writer. -/
structure AgreesWith (items : List LogItem) (w : LogWriter) (report : Report F J) : Prop where
  undamaged : report.integrityErrors = []
  files : report.rawFiles + report.csvFiles = w.chunks.length
  rawRecords : report.rawRecords = w.rawRecordCount
  rawBytes : report.rawBytes =
    ((items.filterMap LogItem.record).map fun record => record.data.length).sum
  csvRows : report.csvRows = w.sampleCount
  eventCounts : report.eventCounts = sortedCounts (w.events.map LogEvent.type)
  severityCounts : report.severityCounts = sortedCounts (w.events.map LogEvent.severity)

/-- The loops of the inspector over the session's files. -/
theorem scanSession_of_readsBack {items : List LogItem} {w : LogWriter}
    {session : InspectedSession J} (hback : ReadsBack lib items w) (hfinds : Finds lib w session) :
    ∃ tally : Tally F J, scanSession lib session = .ok tally ∧ tally.integrityErrors = [] ∧
      tally.rawRecords = w.rawRecordCount ∧
      tally.rawBytes =
        ((items.filterMap LogItem.record).map fun record => record.data.length).sum ∧
      tally.csvRows = w.sampleCount ∧ tally.eventTypes = w.events.map LogEvent.type ∧
      tally.severities = w.events.map LogEvent.severity := by
  obtain ⟨lines, hlines, htypes, hseverities⟩ := hfinds.events
  obtain ⟨rawParts, hrawParts, hrawReads⟩ := hback.raw
  obtain ⟨csvParts, hcsvParts, hcsvReads⟩ := hback.rows
  obtain ⟨hrawPerm, hrawGood⟩ := hfinds.rawFiles.readings hrawReads
  obtain ⟨hcsvPerm, hcsvGood⟩ := hfinds.csvFiles.readings (List.forall₂_map_left_iff.2 hcsvReads)
  rw [hrawParts] at hrawPerm
  rw [← List.map_flatten, hcsvParts] at hcsvPerm
  have hraw := @scan_of_undamaged _ _ _ _ rawHandled countRawRecord (noteError lib) (rawReading lib)
    session.rawFiles hrawGood ({} : Tally F J)
  generalize (session.rawFiles.flatMap fun file => (rawReading lib file).items) = records at *
  obtain ⟨hrecords, hbytes, hnorows, hnotypes, hnoseverities, hnoerrors⟩ :=
    foldl_countRawRecord records ({} : Tally F J)
  generalize records.foldl countRawRecord ({} : Tally F J) = afterRaw at *
  obtain ⟨afterEvents, hevents, htypes', hseverities', hrecords', hbytes', hnorows', hnoerrors'⟩ :=
    @scanEvents_objects F J lib lines afterRaw
  rw [← hlines] at hevents
  have hcsv := @scan_of_undamaged _ _ _ _ csvHandled (countRow lib) (noteError lib)
    (csvFileReading lib) session.csvFiles hcsvGood afterEvents
  generalize (session.csvFiles.flatMap fun file => (csvFileReading lib file).items) = rows at *
  obtain ⟨hrows, hrecords'', hbytes'', htypes'', hseverities'', hnoerrors''⟩ :=
    @foldl_countRow F J lib _ _ _ rows afterEvents
  -- each loop adds its own tallies and leaves those of the others
  refine ⟨_, scanSession_eq_ok_iff.2 ⟨afterRaw, afterEvents, hraw, hevents, hcsv⟩,
    (hnoerrors''.trans hnoerrors').trans hnoerrors, ?_, ?_, ?_, ?_, ?_⟩
  · rw [hrecords'', hrecords', hrecords, hback.counts.1, hrawPerm.length_eq]
    exact Nat.zero_add _
  · rw [hbytes'', hbytes', hbytes, (hrawPerm.map _).sum_eq]
    exact Nat.zero_add _
  · rw [hrows, hnorows', hnorows, hback.counts.2.1, hcsvPerm.length_eq, List.length_map]
    exact Nat.zero_add _
  · rw [htypes'', htypes', hnotypes, ← htypes]
    rfl
  · rw [hseverities'', hseverities', hnoseverities, ← hseverities]
    rfl

/-- **The inspector and the writer agree** on a session written without an error, none of whose
chunks the quota has deleted. -/
theorem inspection_of_written_session (lib : Stdlib F) (config : RecorderConfig) (startUtcNs : ℤ)
    (inputs : List WriterInput) (last : WriterInput) (session : InspectedSession J)
    (hreadable : ∀ sample ∈ (writtenItems inputs).filterMap LogItem.sampled, sample.Readable)
    (hended : (writerLoop config startUtcNs inputs last {}).exitReason ≠ none)
    (herrors : (writerLoop config startUtcNs inputs last {}).errors = [])
    (hfinds : Finds lib (writerLoop config startUtcNs inputs last {}) session)
    (hjson : session.sessionJson.isSome = true) (hlock : session.activeLock ≠ .unopenable) :
    ∃ report, inspectSession lib session = .ok report ∧ printSessionInspection report = 0 ∧
      AgreesWith (writtenItems inputs) (writerLoop config startUtcNs inputs last {}) report := by
  have hback := readsBack_of_errors lib hended herrors hreadable
  generalize writerLoop config startUtcNs inputs last {} = w at hfinds hback ⊢
  obtain ⟨metadata, hmetadata⟩ := Option.isSome_iff_exists.1 hjson
  obtain ⟨live, hlive⟩ : ∃ live, session.activeLock.isLive = .ok live := by
    rcases hprobe : session.activeLock with _ | _ | _
    · exact ⟨_, rfl⟩
    · exact ⟨_, rfl⟩
    · exact absurd hprobe hlock
  obtain ⟨tally, hscan, hclean, hrecords, hbytes, hrows, htypes, hseverities⟩ :=
    @scanSession_of_readsBack F J lib _ _ _ _ w session hback hfinds
  refine ⟨_, by rw [inspectSession, hmetadata, hlive, hscan]; rfl, ?_, hclean, ?_, hrecords, hbytes,
    hrows, congrArg sortedCounts htypes, congrArg sortedCounts hseverities⟩
  · exact if_pos (List.isEmpty_iff.2 hclean)
  · change session.rawFiles.length + session.csvFiles.length = _
    rw [hfinds.rawFiles.length, hfinds.csvFiles.length, length_chunksOf]

end Inspection

theorem openBinary_storedGzip (name : String) (bytes : List U8) :
    openBinary storedGzipLib ⟨name, true, storedGzip.compress bytes⟩ = ⟨bytes, none⟩ := by
  have hmagic : (storedGzip.compress bytes).take 2 = [0x1F, 0x8B] := rfl
  simp only [openBinary, storedGzipLib, if_true, hmagic, ne_eq, not_true, if_false,
    storedGzip.decompress_compress]
  simp

/-- A chunk's file. -/
def LogWriter.logFile (compressed : ClosedChunk → Bool) (w : LogWriter) (chunk : ClosedChunk) :
    LogFile :=
  let bytes := (w.closedFiles chunk.name).getD []
  if compressed chunk then ⟨chunk.name.withGz.text, true, storedGzip.compress bytes⟩
  else ⟨chunk.name.text, false, bytes⟩

/-- The files of a kind, the compressed ones last. -/
def LogWriter.logFiles (compressed : ClosedChunk → Bool) (w : LogWriter) (kind : ChunkKind) :
    List LogFile :=
  (((w.chunksOf kind).filter fun chunk => !compressed chunk) ++
    (w.chunksOf kind).filter compressed).map (w.logFile compressed)

/-- The directory that a writer leaves, and the compressor has got as far as `compressed`. -/
def LogWriter.directory (compressed : ClosedChunk → Bool) (w : LogWriter) :
    InspectedSession Unit where
  sessionJson := some emptySessionJson
  activeLock := .free
  rawFiles := w.logFiles compressed .raw
  events := ⟨w.events.map fun event => .object ⟨event.type, event.severity, (), ()⟩, none⟩
  csvFiles := w.logFiles compressed .csv
  diskBytes := 0

theorem finds_directory {w : LogWriter} (compressed : ClosedChunk → Bool)
    (h : ∀ chunk ∈ w.chunks, chunk.pruned = false ∧ (w.closedFiles chunk.name).isSome = true) :
    Finds storedGzipLib w (w.directory compressed) := by
  have hholds : ∀ chunk ∈ w.chunks, w.Holds storedGzipLib chunk (w.logFile compressed chunk) := by
    intro chunk hchunk
    obtain ⟨hunpruned, hstored⟩ := h chunk hchunk
    obtain ⟨bytes, hbytes⟩ := Option.isSome_iff_exists.1 hstored
    rw [LogWriter.logFile, hbytes, Option.getD_some]
    by_cases hgz : compressed chunk = true
    · rw [if_pos hgz]
      exact ⟨hunpruned, rfl, bytes, hbytes, openBinary_storedGzip _ bytes⟩
    · rw [if_neg hgz]
      exact ⟨hunpruned, rfl, bytes, hbytes, rfl⟩
  have hkept : ∀ kind, w.KeptIn storedGzipLib kind (w.logFiles compressed kind) := by
    intro kind
    refine ⟨(w.chunksOf kind).map (w.logFile compressed), ?_, ?_⟩
    · have hperm := List.filter_append_perm compressed (w.chunksOf kind)
      exact ((List.perm_append_comm.trans hperm).symm).map _
    · rw [List.forall₂_map_right_iff, List.forall₂_same]
      exact fun chunk hchunk => hholds chunk (List.mem_of_mem_filter hchunk)
  refine ⟨hkept .raw, hkept .csv, w.events.map fun event => ⟨event.type, event.severity, (), ()⟩,
    ?_, ?_, ?_⟩
  · rw [List.map_map]
    rfl
  · rw [List.map_map]
    rfl
  · rw [List.map_map]
    rfl

theorem inspection_of_written_session_logged :
    ∃ report, inspectSession storedGzipLib ((writerLoop loggedConfig 100 (loggedInputs []) {}
        {}).directory fun chunk => chunk.name = chunkFile .raw 1 false) = .ok report ∧
      printSessionInspection report = 0 ∧
      AgreesWith (writtenItems (loggedInputs []))
        (writerLoop loggedConfig 100 (loggedInputs []) {} {}) report := by
  have hquiet := quietSession_loggedInputs []
  obtain ⟨herrors, hended⟩ : (writerLoop loggedConfig 100 (loggedInputs []) {} {}).errors = [] ∧
      (writerLoop loggedConfig 100 (loggedInputs []) {} {}).exitReason ≠ none :=
    writerLoop_of_quiet hquiet.start hquiet.turns hquiet.last hquiet.stop
  have hkept : ∀ chunk ∈ (writerLoop loggedConfig 100 (loggedInputs []) {} {}).chunks,
      chunk.pruned = false ∧ ((writerLoop loggedConfig 100 (loggedInputs []) {}
        {}).closedFiles chunk.name).isSome = true := by decide +kernel
  exact inspection_of_written_session storedGzipLib loggedConfig 100 (loggedInputs []) {} _
    (readable_loggedInputs []) hended herrors (finds_directory _ hkept) rfl nofun

end SilverwareTx.Blackbox
