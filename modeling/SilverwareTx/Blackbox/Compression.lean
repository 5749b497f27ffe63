import SilverwareTx.Blackbox.RawLog
import SilverwareTx.Blackbox.Sessions

/-!
# Compressing a chunk (`_compress_chunk` in `tools/ground_station/blackbox.py`)

Every operating-system call may succeed, raise, or not be reached because the process dies first
(`CompressFaults`). `compressChunk` leaves the chunk's files as they are then, `recoverFiles` is
what recovery does to them, and `inspectRaw` what `inspect_session` counts in its list of
`serial-*.sbb` and `serial-*.sbb.gz`.

Between `os.replace` and `source.unlink` both files hold the chunk. `compression_counts_once_iff`: a
fault there, on a chunk with records, is the only one that shows in the counts.
-/

namespace SilverwareTx.Blackbox

/-! ### Model -/

/-- The files of one serial chunk. -/
structure ChunkFiles where
  /-- `serial-NNNNNN.sbb` -/
  sbb : Option (List U8) := none
  /-- `serial-NNNNNN.sbb.gz` -/
  gz : Option (List U8) := none
  /-- `serial-NNNNNN.sbb.gz.tmp` -/
  gzTmp : Option (List U8) := none
  deriving DecidableEq

/-- What an exception is, as far as the handler looks. -/
inductive Failure
  | enospc
  | eacces
  | erofs
  | other
  deriving DecidableEq, Repr

/-- `die`: the process ends before the call. -/
inductive Outcome
  | ok
  | error (failure : Failure)
  | die
  deriving DecidableEq, Repr

/-- The copy into the temporary file, which a fault may leave in any state, or not made. -/
inductive CopyOutcome
  | ok
  | error (torn : Option (List U8)) (failure : Failure)
  | die (torn : Option (List U8))
  deriving DecidableEq

/-- The outcome of every call of `_compress_chunk`. -/
structure CompressFaults where
  statSource : Outcome := .ok
  copy : CopyOutcome := .ok
  verify : Outcome := .ok
  replace : Outcome := .ok
  unlinkSource : Outcome := .ok
  statDestination : Outcome := .ok
  /-- In the exception handler. -/
  unlinkTemporary : Outcome := .ok

/-- How the `try` block ends. -/
inductive CompressExit
  | done
  | raised (failure : Failure)
  | died
  deriving DecidableEq

/-- A call on `files`, and what follows when it succeeds. -/
def Outcome.call (outcome : Outcome) (files : ChunkFiles) (next : ChunkFiles × CompressExit) :
    ChunkFiles × CompressExit :=
  match outcome with
  | .ok => next
  | .error failure => (files, .raised failure)
  | .die => (files, .died)

/-- A step of `_compress_chunk` that may raise, or be cut off with the process. -/
def CopyOutcome.call (outcome : CopyOutcome) (files : ChunkFiles)
    (next : ChunkFiles × CompressExit) : ChunkFiles × CompressExit :=
  match outcome with
  | .ok => next
  | .error torn failure => ({ files with gzTmp := torn }, .raised failure)
  | .die torn => ({ files with gzTmp := torn }, .died)

/-- The `try` block on a chunk with the given contents. -/
def compressTry (gzip : GzipCodec) (contents : List U8) (faults : CompressFaults) :
    ChunkFiles × CompressExit :=
  let closed : ChunkFiles := { sbb := some contents }
  let copied : ChunkFiles := { closed with gzTmp := some (gzip.compress contents) }
  let replaced : ChunkFiles := { closed with gz := some (gzip.compress contents) }
  let unlinked : ChunkFiles := { replaced with sbb := none }
  let decompressedSize := (gzip.decompress (gzip.compress contents)).length
  faults.statSource.call closed <|
    faults.copy.call closed <|
      faults.verify.call copied <|
        if decompressedSize ≠ contents.length then (copied, .raised .other)
        else
          faults.replace.call copied <|
            faults.unlinkSource.call replaced <|
              faults.statDestination.call unlinked (unlinked, .done)

/-- What `_compress_chunk` leaves: the files, the chunk's state in memory and whether the recorder
is still healthy; `none` for the memory of a process that died. -/
structure CompressResult where
  files : ChunkFiles
  memory : Option (ChunkState × Bool)

/-- `_compress_chunk`: the files after it, with the chunk's state and the recorder's health. -/
def compressChunk (gzip : GzipCodec) (contents : List U8) (faults : CompressFaults) :
    CompressResult :=
  match compressTry gzip contents faults with
  | (files, .done) => ⟨files, some (.compressed, true)⟩
  | (files, .died) => ⟨files, none⟩
  | (files, .raised failure) =>
    let healthy := !(failure = .enospc || failure = .eacces || failure = .erofs)
    match faults.unlinkTemporary with
    | .ok => ⟨{ files with gzTmp := none }, some (.compressionFailed, healthy)⟩
    | .error _ => ⟨files, some (.compressionFailed, healthy)⟩
    | .die => ⟨files, none⟩

/-- Recovery removes the temporary file, if the operating system lets it. -/
def recoverFiles (unlinked : Bool) (files : ChunkFiles) : ChunkFiles :=
  if unlinked then { files with gzTmp := none } else files

/-- The files of a chunk as `inspect_session` finds them, after a recovery if the process died. -/
def filesAfter (unlinked : Bool) (result : CompressResult) : ChunkFiles :=
  if result.memory.isNone then recoverFiles unlinked result.files else result.files

/-- `sorted(glob("serial-*.sbb")) + sorted(glob("serial-*.sbb.gz"))` of one chunk. -/
def rawFiles (files : ChunkFiles) : List SerialFile :=
  files.sbb.toList.map .sbb ++ files.gz.toList.map .sbbGz

/-- What `inspect_session` learns from the raw files. -/
structure RawSummary where
  rawRecords : ℕ := 0
  rawBytes : ℕ := 0
  /-- The records in the order they are counted. -/
  records : List SbbRecord := []
  deriving DecidableEq

/-- The counts with one more record of `iter_sbb_records`. -/
def countRecord (summary : RawSummary) (record : SbbRecord) : RawSummary where
  rawRecords := summary.rawRecords + 1
  rawBytes := summary.rawBytes + record.data.length
  records := summary.records ++ [record]

/-- The loop of `inspect_session` over the raw files; an exception only ends a file. -/
def inspectRaw (gzip : GzipCodec) (rawFiles : List SerialFile) : RawSummary :=
  rawFiles.foldl (fun summary file =>
    (iterSbbRecords (gzip.openSerial file)).1.foldl countRecord summary) {}

/-! ### Counting -/

/-- The summary of a list of records. -/
def RawSummary.of (records : List SbbRecord) : RawSummary where
  rawRecords := records.length
  rawBytes := (records.map fun record => record.data.length).sum
  records := records

theorem foldl_countRecord (records more : List SbbRecord) :
    more.foldl countRecord (RawSummary.of records) = RawSummary.of (records ++ more) := by
  induction more generalizing records with
  | nil => rw [List.foldl_nil, List.append_nil]
  | cons record more ih =>
    have hone : countRecord (RawSummary.of records) record =
        RawSummary.of (records ++ [record]) := by
      simp [countRecord, RawSummary.of]
    rw [List.foldl_cons, hone, ih, List.append_assoc, List.singleton_append]

theorem inspectRaw_eq (gzip : GzipCodec) (rawFiles : List SerialFile) :
    inspectRaw gzip rawFiles =
      RawSummary.of (rawFiles.flatMap fun file => (iterSbbRecords (gzip.openSerial file)).1) := by
  have hfold : ∀ records, rawFiles.foldl (fun summary file =>
      (iterSbbRecords (gzip.openSerial file)).1.foldl countRecord summary) (RawSummary.of records) =
      RawSummary.of (records ++
        rawFiles.flatMap fun file => (iterSbbRecords (gzip.openSerial file)).1) := by
    intro records
    induction rawFiles generalizing records with
    | nil => rw [List.foldl_nil, List.flatMap_nil, List.append_nil]
    | cons file rawFiles ih =>
      rw [List.foldl_cons, foldl_countRecord, ih, List.flatMap_cons, List.append_assoc]
  exact hfold []

/-! ### Faults -/

/-- Every call up to `os.replace` succeeds. -/
def Replaced (faults : CompressFaults) : Prop :=
  faults.statSource = .ok ∧ faults.copy = .ok ∧ faults.verify = .ok ∧ faults.replace = .ok

/-- The fault lies between `os.replace` and the end of `source.unlink`. -/
def UnlinkFault (faults : CompressFaults) : Prop :=
  Replaced faults ∧ faults.unlinkSource ≠ .ok

variable {gzip : GzipCodec} {contents : List U8} {faults : CompressFaults}

/-- What the inspector sees does not depend on the temporary file. -/
theorem rawFiles_gzTmp (files : ChunkFiles) (gzTmp : Option (List U8)) :
    rawFiles { files with gzTmp := gzTmp } = rawFiles files :=
  rfl

/-- The exception handler and recovery touch nothing but the temporary file. -/
theorem rawFiles_filesAfter (unlinked : Bool) :
    rawFiles (filesAfter unlinked (compressChunk gzip contents faults)) =
      rawFiles (compressTry gzip contents faults).1 := by
  have hrecover : ∀ files, rawFiles (recoverFiles unlinked files) = rawFiles files := by
    intro files
    unfold recoverFiles
    split_ifs <;> rfl
  unfold compressChunk
  rcases compressTry gzip contents faults with ⟨files, exit⟩
  cases exit with
  | done => rfl
  | died => exact hrecover files
  | raised failure => cases faults.unlinkTemporary with
    | ok => exact rawFiles_gzTmp files none
    | error _ => rfl
    | die => exact hrecover files

theorem rawFiles_call (outcome : Outcome) (files : ChunkFiles) (next : ChunkFiles × CompressExit) :
    rawFiles (outcome.call files next).1 =
      if outcome = .ok then rawFiles next.1 else rawFiles files := by
  cases outcome <;> rfl

theorem rawFiles_copy (outcome : CopyOutcome) (files : ChunkFiles)
    (next : ChunkFiles × CompressExit) :
    rawFiles (outcome.call files next).1 =
      if outcome = .ok then rawFiles next.1 else rawFiles files := by
  cases outcome <;> rfl

variable (gzip contents faults) in
/-- What the `try` block leaves to the inspector: one file, but for a fault at `source.unlink`. -/
theorem rawFiles_compressTry :
    (¬Replaced faults ∧ rawFiles (compressTry gzip contents faults).1 = [.sbb contents]) ∨
    (Replaced faults ∧ faults.unlinkSource = .ok ∧
      rawFiles (compressTry gzip contents faults).1 = [.sbbGz (gzip.compress contents)]) ∨
    (Replaced faults ∧ faults.unlinkSource ≠ .ok ∧
      rawFiles (compressTry gzip contents faults).1 =
        [.sbb contents, .sbbGz (gzip.compress contents)]) := by
  have hverified : ¬(gzip.decompress (gzip.compress contents)).length ≠ contents.length := by
    rw [gzip.decompress_compress]
    exact not_not_intro rfl
  have hsbb : ∀ gzTmp, rawFiles { sbb := some contents, gzTmp := gzTmp } = [.sbb contents] :=
    fun _ => rfl
  have hcompressed : rawFiles { gz := some (gzip.compress contents) } =
      [.sbbGz (gzip.compress contents)] := rfl
  have hboth : rawFiles { sbb := some contents, gz := some (gzip.compress contents) } =
      [.sbb contents, .sbbGz (gzip.compress contents)] := rfl
  simp only [compressTry, if_neg hverified, rawFiles_call, rawFiles_copy, hsbb, hcompressed, hboth,
    ite_self, Replaced]
  split_ifs <;> simp_all

variable (gzip faults) in
/-- Only a fault at `source.unlink` makes the inspector read the chunk twice. -/
theorem inspectRaw_compressChunk (unlinked : Bool) {records : List SbbRecord}
    (hrecords : (iterSbbRecords contents).1 = records) :
    (¬UnlinkFault faults ∧
      inspectRaw gzip (rawFiles (filesAfter unlinked (compressChunk gzip contents faults))) =
        RawSummary.of records) ∨
    (UnlinkFault faults ∧
      inspectRaw gzip (rawFiles (filesAfter unlinked (compressChunk gzip contents faults))) =
        RawSummary.of (records ++ records)) := by
  have hgz : (iterSbbRecords (gzip.openSerial (.sbbGz (gzip.compress contents)))).1 = records := by
    rw [GzipCodec.openSerial, gzip.decompress_compress, hrecords]
  have hsbb : (iterSbbRecords (gzip.openSerial (.sbb contents))).1 = records := hrecords
  rw [inspectRaw_eq, rawFiles_filesAfter]
  rcases rawFiles_compressTry gzip contents faults with
    ⟨hnot, hraw⟩ | ⟨hreplaced, hunlink, hraw⟩ | ⟨hreplaced, hunlink, hraw⟩
  · left
    refine ⟨fun hfault => hnot hfault.1, ?_⟩
    rw [hraw, List.flatMap_singleton, hsbb]
  · left
    refine ⟨fun hfault => hfault.2 hunlink, ?_⟩
    rw [hraw, List.flatMap_singleton, hgz]
  · right
    refine ⟨⟨hreplaced, hunlink⟩, ?_⟩
    rw [hraw, List.flatMap_cons, List.flatMap_singleton, hsbb, hgz]

/-- The inspector counts a chunk's records once, whatever fails and wherever the process dies,
exactly when the fault is not the one at `source.unlink` or the chunk has no record. -/
theorem compression_counts_once_iff {startUtcNs : ℤ} {records : List SbbRecord}
    (hchunk : Encodes startUtcNs records contents) (unlinked : Bool) :
    inspectRaw gzip (rawFiles (filesAfter unlinked (compressChunk gzip contents faults))) =
        RawSummary.of records ↔
      ¬UnlinkFault faults ∨ records = [] := by
  have hrecords : (iterSbbRecords contents).1 = records := by rw [iterSbbRecords_of_encodes hchunk]
  rcases inspectRaw_compressChunk gzip faults unlinked hrecords with
    ⟨hfault, hcounts⟩ | ⟨hfault, hcounts⟩
  · rw [hcounts]
    exact iff_of_true rfl (Or.inl hfault)
  · rw [hcounts]
    constructor
    · intro hsame
      right
      have : records ++ records = records := congrArg RawSummary.records hsame
      exact List.append_right_eq_self.1 this
    · rintro (hnot | rfl)
      · exact absurd hfault hnot
      · rfl

/-! ### A chunk with one record -/

/-- A record of three bytes. -/
def sampleRecord : SbbRecord := ⟨1000, 5, 7, [1, 2, 3]⟩

/-- A chunk with this record. -/
def sampleChunk : List U8 :=
  (packSbbHeader 100).getD [] ++ (packSbbRecord sampleRecord).getD []

theorem encodes_sampleChunk : Encodes 100 [sampleRecord] sampleChunk := by
  have hheader : (packSbbHeader 100).isSome = true := by decide +kernel
  have hrecord : (packSbbRecord sampleRecord).isSome = true := by decide +kernel
  obtain ⟨header, hheader⟩ := Option.isSome_iff_exists.1 hheader
  obtain ⟨block, hblock⟩ := Option.isSome_iff_exists.1 hrecord
  refine ⟨header, [block], hheader, List.Forall₂.cons hblock List.Forall₂.nil, ?_⟩
  simp [sampleChunk, hheader, hblock]

/-- A process that dies after `os.replace` leaves a chunk that the inspector counts twice. -/
theorem compression_counts_twice :
    Encodes 100 [sampleRecord] sampleChunk ∧
      inspectRaw storedGzip (rawFiles (filesAfter true
        (compressChunk storedGzip sampleChunk { unlinkSource := .die }))) =
          RawSummary.of [sampleRecord, sampleRecord] ∧
      RawSummary.of [sampleRecord, sampleRecord] ≠ RawSummary.of [sampleRecord] :=
  ⟨encodes_sampleChunk, by decide +kernel, by decide⟩

theorem compression_counts_once_iff_verifying :
    inspectRaw storedGzip (rawFiles (filesAfter true
      (compressChunk storedGzip sampleChunk { verify := .die }))) = RawSummary.of [sampleRecord] :=
  (compression_counts_once_iff encodes_sampleChunk true).2
    (Or.inl fun hfault => nomatch hfault.1.2.2.1)

end SilverwareTx.Blackbox
