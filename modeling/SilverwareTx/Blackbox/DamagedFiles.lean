import SilverwareTx.Blackbox.Inspector

/-!
# Damaged files are reported

The `except` clauses of `inspect_session` name `OSError`, which `EOFError` and `zlib.error` are not.
`inspect_session_reports_damage_iff`: a session is reported on, with every damaged file named and
all others counted, exactly when its lock can be opened and no gzip file breaks off, cut or corrupt,
behind sound data.
-/

namespace SilverwareTx.Blackbox

open GuardedReading CsvText RecordLog
open GroundStation (structUnpack)

/-! ### Streams that break off -/

/-- An error about data that is not there. -/
def BlackboxFormatError.truncated (error : BlackboxFormatError) : Bool :=
  error.message = "truncated SBB header" || error.message = "truncated SBB record header" ||
    error.message = "truncated SBB record"

/-- Where a stream breaks off, the exception of the stream takes the place of such an error. -/
def breakError (failure : Option PyException) (error : BlackboxFormatError) : PyException :=
  match failure with
  | none => .blackboxFormatError error
  | some e => if error.truncated then e else .blackboxFormatError error

section Break

variable {bytes : List U8} {failure : Option PyException}

theorem read_of_le {size : ℕ} (h : size ≤ bytes.length) :
    (⟨bytes, failure⟩ : ByteStream).read size =
      .ok (bytes.take size, ⟨bytes.drop size, failure⟩) := by
  rcases failure with _ | e
  · rfl
  · exact if_neg (by simpa using h)

theorem read_of_break {e : PyException} {size : ℕ} (h : bytes.length < size) :
    (⟨bytes, some e⟩ : ByteStream).read size = .error e := if_pos h

theorem read_of_end (size : ℕ) :
    (⟨bytes, none⟩ : ByteStream).read size = .ok (bytes.take size, ⟨bytes.drop size, none⟩) := rfl

theorem truncated_unknownKind (kind : ℤ) :
    BlackboxFormatError.truncated ⟨s!"unknown SBB record kind {kind}"⟩ = false := by
  have hne : ∀ text : String, text.toList.head? = some 't' →
      s!"unknown SBB record kind {kind}" ≠ text := by
    rintro text htext rfl
    obtain ⟨rest, hrest⟩ : ∃ rest, (toString "unknown SBB record kind ").toList = 'u' :: rest :=
      ⟨_, rfl⟩
    rw [String.toList_append, hrest, List.cons_append, List.head?_cons] at htext
    exact absurd htext (by decide)
  simp only [BlackboxFormatError.truncated, Bool.or_eq_false_iff, decide_eq_false_iff_not]
  exact ⟨⟨hne _ rfl, hne _ rfl⟩, hne _ rfl⟩

theorem breakError_of_not_truncated {error : BlackboxFormatError} (h : error.truncated = false) :
    breakError failure error = .blackboxFormatError error := by
  rcases failure with _ | e
  · rfl
  · simp [breakError, h]

/-- On a stream that has bytes left, a turn of the loop is `readSbbRecord`. -/
theorem readStreamRecord_eq (hne : bytes ≠ []) :
    readStreamRecord ⟨bytes, failure⟩ =
      match readSbbRecord bytes with
      | .ok (record, rest) => .ok (some (record, ⟨rest, failure⟩))
      | .error error => .error (breakError failure error) := by
  have hempty : (bytes.take sbbRecordHeaderSize).isEmpty = false := by
    rw [List.isEmpty_eq_false_iff, ← List.length_pos_iff, List.length_take, sbbRecordHeaderSize]
    have := List.length_pos_of_ne_nil hne
    omega
  -- the three reads of a turn in order: the header, the data, the checksum
  by_cases hheader : sbbRecordHeaderSize ≤ bytes.length
  · have hlen : (bytes.take sbbRecordHeaderSize).length = sbbRecordHeaderSize :=
      List.length_take_of_le hheader
    rw [readStreamRecord, read_of_le hheader, readSbbRecord]
    simp only [hlen, hempty, ne_eq, not_true_eq_false, if_false, bind, Except.bind,
      Bool.false_eq_true]
    generalize structUnpack sbbRecordFormat (bytes.take sbbRecordHeaderSize) = fields
    generalize bytes.take sbbRecordHeaderSize = header
    generalize bytes.drop sbbRecordHeaderSize = rest
    by_cases hkind : fields.getD 0 0 = sbbRecordSerial
    · simp only [hkind, not_true_eq_false, if_false]
      generalize (fields.getD 4 0).toNat = length
      by_cases hdata : length ≤ rest.length
      · have hdatalen : (rest.take length).length = length := List.length_take_of_le hdata
        rw [read_of_le hdata]
        by_cases hcrc : sbbRecordCrcSize ≤ (rest.drop length).length
        · have hcrclen : ((rest.drop length).take sbbRecordCrcSize).length = sbbRecordCrcSize :=
            List.length_take_of_le hcrc
          simp only [read_of_le hcrc, hdatalen, hcrclen, not_true_eq_false, or_self, if_false]
          split_ifs
          · rfl
          · exact congrArg Except.error (breakError_of_not_truncated (by decide)).symm
        · have hcrclen : ((rest.drop length).take sbbRecordCrcSize).length ≠ sbbRecordCrcSize := by
            rw [List.length_take]
            omega
          rw [if_pos (.inr hcrclen)]
          -- here `read` gives what is left, or gzip raises; either way the record is torn
          rcases failure with _ | e
          · simp only [read_of_end, hcrclen, not_false_eq_true, or_true, if_true]
            rfl
          · simp only [read_of_break (not_le.1 hcrc)]
            rfl
      · have hdatalen : (rest.take length).length ≠ length := by
          rw [List.length_take]
          omega
        rw [if_pos (.inl hdatalen)]
        rcases failure with _ | e
        · simp only [read_of_end, hdatalen, not_false_eq_true, true_or, if_true]
          rfl
        · simp only [read_of_break (not_le.1 hdata)]
          rfl
    · rw [if_pos hkind, if_pos hkind]
      exact congrArg Except.error (breakError_of_not_truncated (truncated_unknownKind _)).symm
  · have hshort : (bytes.take sbbRecordHeaderSize).length ≠ sbbRecordHeaderSize := by
      rw [List.length_take]
      omega
    rw [readSbbRecord, if_pos hshort]
    rcases failure with _ | e
    · rw [readStreamRecord, read_of_end]
      simp only [bind, Except.bind, hempty, Bool.false_eq_true, if_false, if_pos hshort]
      rfl
    · have hbreak : (⟨bytes, some e⟩ : ByteStream).read sbbRecordHeaderSize = .error e :=
        read_of_break (not_le.1 hheader)
      rw [readStreamRecord, hbreak]
      rfl

/-- A record takes at least its header. -/
theorem length_lt_of_readSbbRecord {record : SbbRecord} {rest : List U8}
    (h : readSbbRecord bytes = .ok (record, rest)) : rest.length < bytes.length := by
  simp only [readSbbRecord] at h
  split_ifs at h with hheader hkind htorn hcrc
  simp only [Except.ok.injEq, Prod.mk.injEq] at h
  obtain ⟨-, rfl⟩ := h
  simp only [List.length_take, List.length_drop, sbbRecordHeaderSize] at hheader ⊢
  omega

/-- The exception that ends the reading of a stream, by the error in its bytes, if any. -/
def streamFailure (failure : Option PyException) : Option BlackboxFormatError → Option PyException
  | none => failure
  | some error => some (breakError failure error)

theorem readStreamRecords_eq {turns : ℕ} (h : bytes.length ≤ turns) :
    readStreamRecords (turns + 1) ⟨bytes, failure⟩ =
      ⟨(readAll readSbbRecord turns bytes).1,
        streamFailure failure (readAll readSbbRecord turns bytes).2⟩ := by
  induction turns generalizing bytes with
  | zero =>
    obtain rfl := List.eq_nil_of_length_eq_zero (Nat.le_zero.1 h)
    rcases failure with _ | e <;> rfl
  | succ turns ih =>
    by_cases hne : bytes = []
    · subst hne
      rcases failure with _ | e <;> rfl
    · have hempty : bytes.isEmpty = false := by simpa using hne
      rw [readStreamRecords, readStreamRecord_eq hne, readAll, hempty, if_neg Bool.false_ne_true]
      rcases hread : readSbbRecord bytes with error | ⟨record, rest⟩
      · rfl
      · have hshorter := length_lt_of_readSbbRecord hread
        simp only [ih (show rest.length ≤ turns by omega)]

/-- **Reading a stream that may break off**: the records are those of its bytes, and where these end
without an error, or in a truncated record, its exception comes through. -/
theorem iterSbbStream_eq (stream : ByteStream) :
    iterSbbStream stream = ⟨(iterSbbRecords stream.bytes).1,
      streamFailure stream.failure (iterSbbRecords stream.bytes).2⟩ := by
  obtain ⟨bytes, failure⟩ := stream
  by_cases hheader : sbbHeaderSize ≤ bytes.length
  · have hlen : (bytes.take sbbHeaderSize).length = sbbHeaderSize := List.length_take_of_le hheader
    rw [iterSbbStream, read_of_le hheader, iterSbbRecords]
    simp only [hlen, ne_eq, not_true_eq_false, if_false]
    split_ifs
    · exact readStreamRecords_eq (by simp)
    · exact congrArg (fun e => (⟨[], some e⟩ : Reading SbbRecord PyException))
        (breakError_of_not_truncated (by decide)).symm
  · have hshort : (bytes.take sbbHeaderSize).length ≠ sbbHeaderSize := by
      rw [List.length_take]
      omega
    rw [iterSbbRecords, if_pos hshort, iterSbbStream]
    rcases failure with _ | e
    · rw [read_of_end]
      exact if_pos hshort
    · rw [read_of_break (not_le.1 hheader)]
      rfl

end Break

/-- An undamaged file is read to its end, compressed or not. -/
theorem rawReading_of_encodes {F : Type} {lib : Stdlib F} {file : LogFile} {startUtcNs : ℤ}
    {records : List SbbRecord} {bytes : List U8} (hopen : openBinary lib file = ⟨bytes, none⟩)
    (h : Encodes startUtcNs records bytes) :
    rawReading lib file = ⟨records, none⟩ := by
  rw [rawReading, iterSbbStream_eq, hopen, iterSbbRecords_of_encodes h]
  rfl

/-! ### What escapes -/

/-- The faults whose exceptions no clause names. -/
def BreaksOff (fault : Option GzipFault) : Prop := fault = some .cutOff ∨ fault = some .corrupt

/-- What there is of a chunk shows no damage. -/
def SbbSound (bytes : List U8) : Prop :=
  ∀ error, (iterSbbRecords bytes).2 = some error → error.truncated = true

section Escape

variable {F : Type} (lib : Stdlib F) (file : LogFile)

/-- A compressed raw file that breaks off, cut or corrupt, behind sound data. -/
def SbbBreaksOff : Prop :=
  file.gz = true ∧ BreaksOff (lib.gzipOpen file.contents).fault ∧
    SbbSound (lib.gzipOpen file.contents).chunks.flatten

/-- A compressed telemetry file that breaks off, cut or corrupt, behind sound text. -/
def CsvBreaksOff : Prop :=
  file.gz = true ∧ BreaksOff (lib.gzipOpen file.contents).fault ∧
    TextSound (lib.gzipOpen file.contents).chunks

variable {lib file}

theorem streamFailure_of_sound {bytes : List U8} (h : SbbSound bytes) (e : PyException) :
    streamFailure (some e) (iterSbbRecords bytes).2 = some e := by
  rcases herror : (iterSbbRecords bytes).2 with _ | error
  · rfl
  · rw [streamFailure, breakError]
    exact congrArg some (if_pos (h error herror))

theorem streamFailure_of_not_sound {bytes : List U8} (h : ¬SbbSound bytes)
    (failure : Option PyException) :
    ∃ error, streamFailure failure (iterSbbRecords bytes).2 =
      some (.blackboxFormatError error) := by
  obtain ⟨error, herror, htorn⟩ : ∃ error, (iterSbbRecords bytes).2 = some error ∧
      error.truncated = false := by simpa [SbbSound] using h
  rw [herror]
  exact ⟨error, congrArg some (breakError_of_not_truncated htorn)⟩

/-- The clause for the raw files takes what ends a stream, or something that comes before its
end. -/
theorem iterSbbStream_handled_iff (stream : ByteStream) :
    (∀ e, (iterSbbStream stream).failure = some e → rawHandled e = true) ↔
      (∀ e, stream.failure = some e → rawHandled e = true) ∨ ¬SbbSound stream.bytes := by
  obtain ⟨bytes, failure⟩ := stream
  rw [iterSbbStream_eq]
  by_cases hsound : SbbSound bytes
  · rcases failure with _ | e
    · rcases (iterSbbRecords bytes).2 with _ | error <;>
        simp [streamFailure, breakError, rawHandled]
    · simp [streamFailure_of_sound hsound, hsound]
  · obtain ⟨error, herror⟩ := streamFailure_of_not_sound hsound failure
    simp [herror, hsound, rawHandled]

/-- The clause for the telemetry files takes what ends a stream, or something that comes before its
end. -/
theorem csvReading_handled_iff (chunks : List (List U8)) (failure : Option PyException) :
    (∀ e, (csvReading .unicodeError .csvError chunks failure).failure = some e →
        csvHandled e = true) ↔
      (∀ e, failure = some e → csvHandled e = true) ∨ ¬TextSound chunks := by
  have hown : ∀ e, e = .unicodeError ∨ (∃ text, e = .csvError text) → csvHandled e = true := by
    rintro e (rfl | ⟨text, rfl⟩) <;> rfl
  by_cases hsound : TextSound chunks
  · rcases failure with _ | e
    · refine iff_of_true (fun e he => hown e ?_) (.inl (by simp))
      rcases @csvReading_failure PyException .unicodeError .csvError chunks none with
        h | h | ⟨text, h⟩
      · rw [he] at h
        cases h
      · exact .inl (Option.some.inj (he.symm.trans h))
      · exact .inr ⟨text, Option.some.inj (he.symm.trans h)⟩
    · simp [csvReading_of_sound hsound, hsound]
  · refine iff_of_true (fun e he => hown e ?_) (.inr hsound)
    rcases csvReading_of_not_sound hsound with h | ⟨text, h⟩
    · exact .inl (Option.some.inj (he.symm.trans h))
    · exact .inr ⟨text, Option.some.inj (he.symm.trans h)⟩

/-- A clause with `OSError`, but neither `EOFError` nor `zlib.error`. -/
theorem exception_handled_iff (fault : Option GzipFault) {handled : PyException → Bool}
    (hos : handled .osError = true) (heof : handled .eofError = false)
    (hzlib : handled .zlibError = false) :
    (∀ e, fault.map GzipFault.exception = some e → handled e = true) ↔ ¬BreaksOff fault := by
  rcases fault with _ | fault
  · simp [BreaksOff]
  · cases fault <;> simp [GzipFault.exception, BreaksOff, hos, heof, hzlib]

theorem rawReading_handled_iff :
    (∀ e, (rawReading lib file).failure = some e → rawHandled e = true) ↔
      ¬SbbBreaksOff lib file := by
  rw [rawReading, iterSbbStream_handled_iff]
  by_cases hgz : file.gz = true
  · simp only [openBinary, hgz, if_true, SbbBreaksOff, true_and, not_and_or]
    exact or_congr (exception_handled_iff _ rfl rfl rfl) Iff.rfl
  · simp [openBinary, hgz, SbbBreaksOff]

theorem csvFileReading_handled_iff :
    (∀ e, (csvFileReading lib file).failure = some e → csvHandled e = true) ↔
      ¬CsvBreaksOff lib file := by
  by_cases hgz : file.gz = true
  · simp only [csvFileReading, hgz, if_true, CsvBreaksOff, true_and, not_and_or,
      csvReading_handled_iff]
    exact or_congr (exception_handled_iff _ rfl rfl rfl) Iff.rfl
  · have hplain : csvFileReading lib file =
        csvReading .unicodeError .csvError (file.contents.toChunks 8192) none := if_neg hgz
    rw [hplain, csvReading_handled_iff]
    simp [CsvBreaksOff, hgz]

end Escape

/-! ### What the report holds -/

section Report

variable {F J : Type} {lib : Stdlib F} {session : InspectedSession J}

/-- `events.jsonl` can be read to its end, and its lines are malformed or objects. -/
def ReadableEvents (events : Reading (EventLine J) PyException) : Prop :=
  events.failure = none ∧ ∀ line ∈ events.items, line ≠ .notObject

theorem countEvent_frame {tally : Tally F J} {line : EventLine J} {number : ℕ}
    (h : line ≠ .notObject) :
    ∃ after, countEvent tally (line, number) = .ok after ∧ after.rawRecords = tally.rawRecords ∧
      after.csvRows = tally.csvRows ∧ tally.integrityErrors <+: after.integrityErrors := by
  cases line with
  | blank => exact ⟨tally, rfl, rfl, rfl, List.prefix_refl _⟩
  | malformed msg => exact ⟨_, rfl, rfl, rfl, List.prefix_append _ _⟩
  | object event => exact ⟨_, rfl, rfl, rfl, List.prefix_refl _⟩
  | notObject => exact absurd rfl h

/-- The events change nothing that is said about the files. -/
theorem scanEvents_frame (lib : Stdlib F) {events : Reading (EventLine J) PyException}
    (h : ReadableEvents events)
    (tally : Tally F J) :
    ∃ after, scanEvents lib events tally = .ok after ∧ after.rawRecords = tally.rawRecords ∧
      after.csvRows = tally.csvRows ∧ tally.integrityErrors <+: after.integrityErrors := by
  obtain ⟨hend, hlines⟩ := h
  have hloop : ∀ (lines : List (EventLine J)) (number : ℕ) (tally : Tally F J),
      (∀ line ∈ lines, line ≠ .notObject) →
      ∃ after, (lines.zipIdx number).foldlM countEvent tally = .ok after ∧
        after.rawRecords = tally.rawRecords ∧ after.csvRows = tally.csvRows ∧
        tally.integrityErrors <+: after.integrityErrors := by
    intro lines
    induction lines with
    | nil => exact fun _ tally _ => ⟨tally, rfl, rfl, rfl, List.prefix_refl _⟩
    | cons line lines ih =>
      intro number tally hlines
      rw [List.forall_mem_cons] at hlines
      obtain ⟨next, hnext, hraw, hrows, herrors⟩ :=
        @countEvent_frame F J tally line number hlines.1
      obtain ⟨after, hafter, hraw', hrows', herrors'⟩ := ih (number + 1) next hlines.2
      refine ⟨after, ?_, hraw'.trans hraw, hrows'.trans hrows, herrors.trans herrors'⟩
      rw [List.zipIdx_cons, List.foldlM_cons, hnext]
      exact hafter
  obtain ⟨after, hafter, hframe⟩ := hloop events.items 1 tally hlines
  refine ⟨after, ?_, hframe⟩
  rw [scanEvents, hafter, hend]
  rfl

theorem absorb_raw (lib : Stdlib F) (state : Tally F J) (files : List LogFile) :
    let final := files.foldl (absorb countRawRecord (noteError lib) (rawReading lib)) state
    final.rawRecords = state.rawRecords +
        (files.map fun file => (rawReading lib file).items.length).sum ∧
      final.csvRows = state.csvRows ∧
      final.integrityErrors = state.integrityErrors ++ files.filterMap fun file =>
        (rawReading lib file).failure.map (errorText lib file) := by
  refine ⟨?_, ?_, ?_⟩
  · simpa using foldl_absorb_weight countRawRecord (noteError lib) (rawReading lib)
      Tally.rawRecords (fun _ => 1) (fun _ _ => rfl) (fun _ _ _ => rfl) state files
  · simpa using foldl_absorb_weight countRawRecord (noteError lib) (rawReading lib)
      Tally.csvRows (fun _ => 0) (fun _ _ => rfl) (fun _ _ _ => rfl) state files
  · exact foldl_absorb_notes countRawRecord (noteError lib) (rawReading lib)
      Tally.integrityErrors (errorText lib) (fun _ _ => rfl) (fun _ _ _ => rfl) state files

/-- The errors that name the files whose reading stops early. -/
def Named {ι : Type} (lib : Stdlib F) (reading : LogFile → Reading ι PyException)
    (files : List LogFile) (errors : List String) : Prop :=
  ∀ file ∈ files, ∀ e, (reading file).failure = some e → errorText lib file e ∈ errors

theorem named_filterMap {ι : Type} (reading : LogFile → Reading ι PyException)
    (files : List LogFile) :
    Named lib reading files (files.filterMap fun file =>
      (reading file).failure.map (errorText lib file)) := by
  intro file hfile e he
  refine List.mem_filterMap.2 ⟨file, hfile, ?_⟩
  rw [he]
  rfl

theorem printSessionInspection_of_mem {report : Report F J} {error : String}
    (h : error ∈ report.integrityErrors) : printSessionInspection report = 1 := by
  have hne : report.integrityErrors.isEmpty = false :=
    List.isEmpty_eq_false_iff.2 (List.ne_nil_of_mem h)
  rw [printSessionInspection, hne]
  rfl

variable [Zero F] [LT F] [DecidableLT F]

theorem absorb_csv (lib : Stdlib F) (state : Tally F J) (files : List LogFile) :
    let final := files.foldl (absorb (countRow lib) (noteError lib) (csvFileReading lib)) state
    final.rawRecords = state.rawRecords ∧
      final.csvRows = state.csvRows +
        (files.map fun file => (csvFileReading lib file).items.length).sum ∧
      final.integrityErrors = state.integrityErrors ++ files.filterMap fun file =>
        (csvFileReading lib file).failure.map (errorText lib file) := by
  refine ⟨?_, ?_, ?_⟩
  · simpa using foldl_absorb_weight (countRow lib) (noteError lib) (csvFileReading lib)
      Tally.rawRecords (fun _ => 0) (fun _ _ => rfl) (fun _ _ _ => rfl) state files
  · simpa using foldl_absorb_weight (countRow lib) (noteError lib) (csvFileReading lib)
      Tally.csvRows (fun _ => 1) (fun _ _ => rfl) (fun _ _ _ => rfl) state files
  · exact foldl_absorb_notes (countRow lib) (noteError lib) (csvFileReading lib)
      Tally.integrityErrors (errorText lib) (fun _ _ => rfl) (fun _ _ _ => rfl) state files

theorem scanSession_eq_ok_iff {tally : Tally F J} :
    scanSession lib session = .ok tally ↔
      ∃ afterRaw afterEvents : Tally F J,
        scan rawHandled countRawRecord (noteError lib) (rawReading lib) {} session.rawFiles =
            .ok afterRaw ∧
          scanEvents lib session.events afterRaw = .ok afterEvents ∧
          scan csvHandled (countRow lib) (noteError lib) (csvFileReading lib) afterEvents
            session.csvFiles = .ok tally := by
  rw [scanSession]
  rcases scan rawHandled countRawRecord (noteError lib) (rawReading lib) ({} : Tally F J)
    session.rawFiles with e | afterRaw
  · simp [bind, Except.bind]
  · rcases hevents : scanEvents lib session.events afterRaw with e | afterEvents
    · simp [bind, Except.bind, hevents]
    · simp [bind, Except.bind, hevents]

/-- The loops get through only where every exception has its clause. -/
theorem not_breaksOff_of_scanSession {tally : Tally F J} (h : scanSession lib session = .ok tally) :
    (∀ file ∈ session.rawFiles, ¬SbbBreaksOff lib file) ∧
      ∀ file ∈ session.csvFiles, ¬CsvBreaksOff lib file := by
  obtain ⟨afterRaw, afterEvents, hraw, -, hcsv⟩ := scanSession_eq_ok_iff.1 h
  constructor
  · intro file hfile
    exact rawReading_handled_iff.1 ((scan_eq_ok_iff.1 hraw).1 file hfile)
  · intro file hfile
    exact csvFileReading_handled_iff.1 ((scan_eq_ok_iff.1 hcsv).1 file hfile)

/-- Where they do, every damaged file is named, and every record and row counted. -/
theorem exists_scanSession (hevents : ReadableEvents session.events)
    (hraw : ∀ file ∈ session.rawFiles, ¬SbbBreaksOff lib file)
    (hcsv : ∀ file ∈ session.csvFiles, ¬CsvBreaksOff lib file) :
    ∃ tally : Tally F J, scanSession lib session = .ok tally ∧
      Named lib (rawReading lib) session.rawFiles tally.integrityErrors ∧
      Named lib (csvFileReading lib) session.csvFiles tally.integrityErrors ∧
      tally.rawRecords =
        (session.rawFiles.map fun file => (rawReading lib file).items.length).sum ∧
      tally.csvRows =
        (session.csvFiles.map fun file => (csvFileReading lib file).items.length).sum := by
  -- raw files, events and CSV files in turn; each scan keeps the tallies of those before it
  obtain ⟨hrecords, hnorows, hrawerrors⟩ := absorb_raw lib ({} : Tally F J) session.rawFiles
  obtain ⟨afterEvents, hscan, hrecords', hnorows', hprefixes⟩ := scanEvents_frame lib
    hevents (session.rawFiles.foldl (absorb countRawRecord (noteError lib) (rawReading lib)) {})
  obtain ⟨hrecords'', hrows, hcsverrors⟩ := absorb_csv lib afterEvents session.csvFiles
  refine ⟨_, scanSession_eq_ok_iff.2 ⟨_, afterEvents, scan_eq_ok_iff.2 ⟨?_, rfl⟩, hscan,
    scan_eq_ok_iff.2 ⟨?_, rfl⟩⟩, ?_, ?_, ?_, ?_⟩
  · intro file hfile
    exact rawReading_handled_iff.2 (hraw file hfile)
  · intro file hfile
    exact csvFileReading_handled_iff.2 (hcsv file hfile)
  · intro file hfile e he
    rw [hcsverrors]
    refine List.mem_append_left _ (hprefixes.subset ?_)
    rw [hrawerrors]
    exact List.mem_append_right _ (named_filterMap _ _ file hfile e he)
  · intro file hfile e he
    rw [hcsverrors]
    exact List.mem_append_right _ (named_filterMap _ _ file hfile e he)
  · rw [hrecords'', hrecords', hrecords]
    exact Nat.zero_add _
  · rw [hrows, hnorows', hnorows]
    exact Nat.zero_add _

/-- What an inspection is for: a report that names every file whose reading stopped early, and
counts what all files gave. -/
def ReportsDamage (lib : Stdlib F) (session : InspectedSession J) : Prop :=
  ∃ report, inspectSession lib session = .ok report ∧
    Named lib (rawReading lib) session.rawFiles report.integrityErrors ∧
    Named lib (csvFileReading lib) session.csvFiles report.integrityErrors ∧
    ((∃ file ∈ session.rawFiles, (rawReading lib file).failure.isSome = true) ∨
        (∃ file ∈ session.csvFiles, (csvFileReading lib file).failure.isSome = true) →
      printSessionInspection report = 1) ∧
    report.rawRecords =
      (session.rawFiles.map fun file => (rawReading lib file).items.length).sum ∧
    report.csvRows =
      (session.csvFiles.map fun file => (csvFileReading lib file).items.length).sum

/-- **An inspection reports damage instead of failing** exactly when the session's lock can be
opened and no gzip file breaks off, cut or corrupt, behind sound data. -/
theorem inspect_session_reports_damage_iff {metadata : SessionJson J}
    (hmetadata : session.sessionJson = some metadata) (hevents : ReadableEvents session.events) :
    ReportsDamage lib session ↔
      session.activeLock ≠ .unopenable ∧
        (∀ file ∈ session.rawFiles, ¬SbbBreaksOff lib file) ∧
        ∀ file ∈ session.csvFiles, ¬CsvBreaksOff lib file := by
  constructor
  · rintro ⟨report, hreport, -⟩
    rw [inspectSession, hmetadata] at hreport
    have hlock : session.activeLock ≠ .unopenable := by
      intro hlock
      rw [hlock] at hreport
      cases hreport
    refine ⟨hlock, ?_⟩
    rcases hscan : (scanSession lib session : Except PyException (Tally F J)) with e | tally
    · rw [hscan] at hreport
      rcases hprobe : session.activeLock with _ | _ | _ <;> rw [hprobe] at hreport <;> cases hreport
    · exact not_breaksOff_of_scanSession hscan
  · rintro ⟨hlock, hraw, hcsv⟩
    obtain ⟨live, hlive⟩ : ∃ live, session.activeLock.isLive = .ok live := by
      rcases hprobe : session.activeLock with _ | _ | _
      · exact ⟨_, rfl⟩
      · exact ⟨_, rfl⟩
      · exact absurd hprobe hlock
    obtain ⟨tally, hscan, hnamed, hnamed', hrecords, hrows⟩ :=
      exists_scanSession (F := F) hevents hraw hcsv
    refine ⟨_, by rw [inspectSession, hmetadata, hlive, hscan]; rfl, hnamed, hnamed', ?_, hrecords,
      hrows⟩
    rintro (⟨file, hfile, hfailure⟩ | ⟨file, hfile, hfailure⟩)
    · obtain ⟨e, he⟩ := Option.isSome_iff_exists.1 hfailure
      exact printSessionInspection_of_mem (hnamed file hfile e he)
    · obtain ⟨e, he⟩ := Option.isSome_iff_exists.1 hfailure
      exact printSessionInspection_of_mem (hnamed' file hfile e he)

end Report

/-- What `gzip` makes of fewer bytes than its header has. -/
def shortGzip (contents : List U8) : GzipStream where
  chunks := []
  fault :=
    if contents.isEmpty then none
    else if contents.take 2 ≠ [0x1F, 0x8B] then some .badHeader
    else some .cutOff

/-- A standard library with the gzip reader `shortGzip`. -/
def shortGzipLib : Stdlib ℤ where
  gzipOpen := shortGzip
  float _ := none
  str _ := "Not a gzipped file"

/-- A `session.json` whose values do not matter. -/
def emptySessionJson : SessionJson Unit := ⟨(), (), (), (), (), (), (), ()⟩

/-- A session with these files, and no events. -/
def closedSession (rawFiles csvFiles : List LogFile) : InspectedSession Unit where
  sessionJson := some emptySessionJson
  activeLock := .free
  rawFiles := rawFiles
  events := ⟨[], none⟩
  csvFiles := csvFiles
  diskBytes := 0

/-- A torn chunk, a compressed one with a bad header, and a telemetry file that is not text. -/
def damagedSession : InspectedSession Unit :=
  closedSession
    [⟨"serial-000001.sbb", false, [0x53, 0x57, 0x54]⟩,
      ⟨"serial-000002.sbb.gz", true, [0x00, 0x8B]⟩]
    [⟨"telemetry-000001.csv", false, [0x61, 0x0A, 0xFF]⟩]

theorem inspect_session_reports_damage_damaged : ReportsDamage shortGzipLib damagedSession := by
  have hraw : ∀ file ∈ damagedSession.rawFiles, ¬SbbBreaksOff shortGzipLib file := by
    simp [damagedSession, closedSession, SbbBreaksOff, BreaksOff, shortGzipLib, shortGzip]
  have hcsv : ∀ file ∈ damagedSession.csvFiles, ¬CsvBreaksOff shortGzipLib file := by
    simp [damagedSession, closedSession, CsvBreaksOff]
  exact (inspect_session_reports_damage_iff rfl ⟨rfl, by simp [damagedSession, closedSession]⟩).2
    ⟨by decide, hraw, hcsv⟩

/-- A gzip file of which only the first three bytes are there. -/
def cutOffSession : InspectedSession Unit :=
  closedSession [⟨"serial-000001.sbb.gz", true, [0x1F, 0x8B, 0x08]⟩] []

theorem cutOff_gzip_not_reported :
    cutOffSession.sessionJson = some emptySessionJson ∧ ReadableEvents cutOffSession.events ∧
      ¬ReportsDamage shortGzipLib cutOffSession := by
  refine ⟨rfl, ⟨rfl, by simp [cutOffSession, closedSession]⟩, ?_⟩
  rintro ⟨report, hreport, -⟩
  have hraised : inspectSession shortGzipLib cutOffSession = .error .eofError := rfl
  rw [hraised] at hreport
  cases hreport

end SilverwareTx.Blackbox
