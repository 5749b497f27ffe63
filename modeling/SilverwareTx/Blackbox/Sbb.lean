import SilverwareTx.Lib.RecordLog
import SilverwareTx.GroundStation.BridgeFrame

/-!
# The SBB raw format (`tools/ground_station/blackbox.py`)

`packSbbHeader` and `packSbbRecord` are what the writer puts in a chunk, `iterSbbRecords` what
`iter_sbb_records` reads from one. `iterSbbRecords_of_encodes`: a chunk reads back as its records.
-/

namespace SilverwareTx.Blackbox

open BigEndian GroundStation RecordLog

/-! ### `struct.pack` -/

/-- The values of a format character. -/
def fieldFits (field : StructField) (value : ℤ) : Prop :=
  match field with
  | .h => -2 ^ 15 ≤ value ∧ value < 2 ^ 15
  | field => 0 ≤ value ∧ value < 256 ^ field.width

instance (field : StructField) (value : ℤ) : Decidable (fieldFits field value) := by
  unfold fieldFits
  split <;> infer_instance

/-- `struct.pack(">" + format, *values)`; `none` is its `struct.error`. -/
def structPack : (format : List StructField) → (values : List ℤ) → Option (List U8)
  | [], _ => some []
  | _ :: _, [] => none
  | field :: format, value :: values =>
    if fieldFits field value then
      (structPack format values).map fun bytes =>
        toBE field.width (value % 256 ^ field.width).toNat ++ bytes
    else none

theorem value_toBE {field : StructField} {value : ℤ} (h : fieldFits field value) :
    field.value (toBE field.width (value % 256 ^ field.width).toNat) = value := by
  have hcode : ofBE (toBE field.width (value % 256 ^ field.width).toNat) =
      (value % 256 ^ field.width).toNat := by
    apply ofBE_toBE_of_lt
    have hpos : (0 : ℤ) < 256 ^ field.width := by positivity
    have hlt := Int.emod_lt_of_pos value hpos
    rw [Int.toNat_lt (Int.emod_nonneg _ hpos.ne')]
    push_cast
    exact hlt
  cases field with
  | h =>
    simp only [fieldFits] at h
    simp only [StructField.width] at hcode ⊢
    simp only [StructField.value, hcode]
    split_ifs <;> omega
  | B | H | I | Q =>
    simp only [fieldFits, StructField.width] at h
    simp only [StructField.width] at hcode ⊢
    simp only [StructField.value, hcode]
    omega

theorem length_structPack {format : List StructField} {values : List ℤ} {bytes : List U8}
    (h : structPack format values = some bytes) :
    bytes.length = (format.map StructField.width).sum := by
  induction format generalizing values bytes with
  | nil =>
    obtain rfl := Option.some.inj h
    rfl
  | cons field format ih =>
    cases values with
    | nil => cases h
    | cons value values =>
      rw [structPack] at h
      split_ifs at h
      obtain ⟨rest, hrest, rfl⟩ := Option.map_eq_some_iff.1 h
      rw [List.length_append, length_toBE, ih hrest, List.map_cons, List.sum_cons]

/-- Unpacking gives the packed values back. -/
theorem structUnpack_structPack {format : List StructField} {values : List ℤ} {bytes : List U8}
    (hlen : values.length = format.length) (h : structPack format values = some bytes) :
    structUnpack format bytes = values := by
  induction format generalizing values bytes with
  | nil =>
    obtain rfl := List.eq_nil_of_length_eq_zero hlen
    rfl
  | cons field format ih =>
    cases values with
    | nil => cases h
    | cons value values =>
      rw [structPack] at h
      split_ifs at h with hfits
      obtain ⟨rest, hrest, rfl⟩ := Option.map_eq_some_iff.1 h
      rw [structUnpack, List.take_left' (length_toBE _ _), List.drop_left' (length_toBE _ _),
        value_toBE hfits, ih (by simpa using hlen) hrest]

/-! ### Chunks -/

/-- `SBB_MAGIC`: the text `SWTXSBB1`. -/
def sbbMagic : List U8 := [0x53, 0x57, 0x54, 0x58, 0x53, 0x42, 0x42, 0x31]

/-- The format of a record header after the byte order. -/
def sbbRecordFormat : List StructField := [.B, .Q, .Q, .I, .H]

/-- `SBB_HEADER.size` -/
def sbbHeaderSize : ℕ := 16

/-- `SBB_RECORD_HEADER.size` -/
def sbbRecordHeaderSize : ℕ := 23

/-- `SBB_RECORD_CRC.size` -/
def sbbRecordCrcSize : ℕ := 4

/-- `SBB_RECORD_SERIAL` -/
def sbbRecordSerial : ℤ := 1

/-- `SBB_MAX_PAYLOAD` -/
def sbbMaxPayload : ℕ := (1 <<< 16) - 1

/-- `class BlackboxFormatError(ValueError)` -/
structure BlackboxFormatError where
  message : String
  deriving DecidableEq, Repr

/-- `SbbRecord`, with its times in nanoseconds. -/
structure SbbRecord where
  elapsedNs : ℤ
  utcNs : ℤ
  connectionId : ℤ
  data : List U8
  deriving DecidableEq, Repr

/-- One bit of `zlib.crc32`. -/
def crc32Shift (crc : U32) : U32 :=
  if crc &&& 1 ≠ 0 then (crc >>> 1) ^^^ 0xEDB88320 else crc >>> 1

/-- `zlib.crc32(data)` -/
def zlibCrc32 (data : List U8) : U32 :=
  ~~~(data.foldl (fun crc byte => crc32Shift^[8] (crc ^^^ byte.setWidth 32)) 0xFFFFFFFF)

example : zlibCrc32 [0x31, 0x32, 0x33, 0x34, 0x35, 0x36, 0x37, 0x38, 0x39] = 0xCBF43926 := by
  decide +kernel

/-- `SBB_HEADER.pack(SBB_MAGIC, start_utc_ns)` -/
def packSbbHeader (startUtcNs : ℤ) : Option (List U8) :=
  (structPack [.Q] [startUtcNs]).map (sbbMagic ++ ·)

/-- `SBB_RECORD_HEADER.pack(SBB_RECORD_SERIAL, elapsed_ns, utc_ns, connection_id, len(data))` -/
def packSbbRecordHeader (record : SbbRecord) : Option (List U8) :=
  structPack sbbRecordFormat
    [sbbRecordSerial, record.elapsedNs, record.utcNs, record.connectionId, record.data.length]

/-- `header + data + SBB_RECORD_CRC.pack(crc)` -/
def packSbbRecord (record : SbbRecord) : Option (List U8) :=
  (packSbbRecordHeader record).map fun header =>
    header ++ record.data ++ toBE 4 (zlibCrc32 (header ++ record.data)).toNat

/-- One turn of the loop of `iter_sbb_records` on a stream that is not at its end: the record and
the rest of the stream. -/
def readSbbRecord (stream : List U8) : Except BlackboxFormatError (SbbRecord × List U8) :=
  let recordHeader := stream.take sbbRecordHeaderSize
  if recordHeader.length ≠ sbbRecordHeaderSize then .error ⟨"truncated SBB record header"⟩
  else
    let fields := structUnpack sbbRecordFormat recordHeader
    let kind := fields.getD 0 0
    let length := (fields.getD 4 0).toNat
    if kind ≠ sbbRecordSerial then .error ⟨s!"unknown SBB record kind {kind}"⟩
    else
      let stream := stream.drop sbbRecordHeaderSize
      let data := stream.take length
      let stream := stream.drop length
      let crcBytes := stream.take sbbRecordCrcSize
      if data.length ≠ length ∨ crcBytes.length ≠ sbbRecordCrcSize then
        .error ⟨"truncated SBB record"⟩
      else if (zlibCrc32 (recordHeader ++ data)).toNat ≠ ofBE crcBytes then
        .error ⟨"SBB record CRC mismatch"⟩
      else
        .ok (⟨fields.getD 1 0, fields.getD 2 0, fields.getD 3 0, data⟩,
          stream.drop sbbRecordCrcSize)

/-- `iter_sbb_records` on the contents of a chunk: what it yields, and the exception that ends
it. -/
def iterSbbRecords (contents : List U8) : List SbbRecord × Option BlackboxFormatError :=
  let header := contents.take sbbHeaderSize
  if header.length ≠ sbbHeaderSize then ([], some ⟨"truncated SBB header"⟩)
  else if header.take 8 ≠ sbbMagic then ([], some ⟨"unknown SBB format"⟩)
  else readAll readSbbRecord contents.length (contents.drop sbbHeaderSize)

/-! ### Files -/

/-- The `gzip` module, which gives a file's bytes back. -/
structure GzipCodec where
  compress : List U8 → List U8
  decompress : List U8 → List U8
  decompress_compress : ∀ contents, decompress (compress contents) = contents

/-- A chunk on disk, by its suffix. -/
inductive SerialFile
  | sbb (contents : List U8)
  | sbbGz (contents : List U8)
  deriving DecidableEq

/-- What the opener of `iter_sbb_records` reads. -/
def GzipCodec.openSerial (gzip : GzipCodec) : SerialFile → List U8
  | .sbb contents => contents
  | .sbbGz contents => gzip.decompress contents

/-! ### Reading back -/

theorem length_packSbbRecordHeader {record : SbbRecord} {header : List U8}
    (h : packSbbRecordHeader record = some header) : header.length = sbbRecordHeaderSize :=
  length_structPack h

theorem structUnpack_packSbbRecordHeader {record : SbbRecord} {header : List U8}
    (h : packSbbRecordHeader record = some header) :
    structUnpack sbbRecordFormat header =
      [sbbRecordSerial, record.elapsedNs, record.utcNs, record.connectionId, record.data.length] :=
  structUnpack_structPack rfl h

/-- A packed record is read back, and the reader stands behind it. -/
theorem readsAs_packSbbRecord {record : SbbRecord} {block : List U8}
    (h : packSbbRecord record = some block) : ReadsAs readSbbRecord record block := by
  obtain ⟨header, hheader, rfl⟩ := Option.map_eq_some_iff.1 h
  have hlen := length_packSbbRecordHeader hheader
  have hcrc := length_toBE 4 (zlibCrc32 (header ++ record.data)).toNat
  constructor
  · intro hnil
    have := congrArg List.length hnil
    rw [List.length_append, List.length_append, hlen] at this
    simp [sbbRecordHeaderSize] at this
  · intro rest
    have hsplit : header ++ record.data ++ toBE 4 (zlibCrc32 (header ++ record.data)).toNat ++ rest =
        header ++ (record.data ++ (toBE 4 (zlibCrc32 (header ++ record.data)).toNat ++ rest)) := by
      simp only [List.append_assoc]
    have hvalue : ofBE (toBE 4 (zlibCrc32 (header ++ record.data)).toNat) =
        (zlibCrc32 (header ++ record.data)).toNat :=
      ofBE_toBE_of_lt (zlibCrc32 (header ++ record.data)).isLt
    rw [hsplit, readSbbRecord, List.take_left' hlen, List.drop_left' hlen,
      structUnpack_packSbbRecordHeader hheader]
    simp only [List.getD_cons_zero, List.getD_cons_succ, Int.toNat_natCast, List.take_left,
      List.drop_left, List.take_left' hcrc, List.drop_left' hcrc, hlen, hvalue, hcrc,
      sbbRecordCrcSize, ne_eq, not_true_eq_false, or_self, if_false]

/-- `contents` is a chunk with these records. -/
def Encodes (startUtcNs : ℤ) (records : List SbbRecord) (contents : List U8) : Prop :=
  ∃ header blocks, packSbbHeader startUtcNs = some header ∧
    List.Forall₂ (fun record block => packSbbRecord record = some block) records blocks ∧
    contents = header ++ blocks.flatten

theorem length_packSbbHeader {startUtcNs : ℤ} {header : List U8}
    (h : packSbbHeader startUtcNs = some header) : header.length = sbbHeaderSize := by
  obtain ⟨bytes, hbytes, rfl⟩ := Option.map_eq_some_iff.1 h
  rw [List.length_append, length_structPack hbytes]
  rfl

theorem take_packSbbHeader {startUtcNs : ℤ} {header : List U8}
    (h : packSbbHeader startUtcNs = some header) : header.take 8 = sbbMagic := by
  obtain ⟨bytes, -, rfl⟩ := Option.map_eq_some_iff.1 h
  rfl

/-- **A chunk reads back as its records**, without an error. -/
theorem iterSbbRecords_of_encodes {startUtcNs : ℤ} {records : List SbbRecord} {contents : List U8}
    (h : Encodes startUtcNs records contents) : iterSbbRecords contents = (records, none) := by
  obtain ⟨header, blocks, hheader, hblocks, rfl⟩ := h
  have hreads : List.Forall₂ (ReadsAs readSbbRecord) records blocks :=
    hblocks.imp fun _ _ => readsAs_packSbbRecord
  have hlen := length_packSbbHeader hheader
  have hturns : records.length ≤ (header ++ blocks.flatten).length := by
    have := length_le_of_readsAs hreads
    rw [List.length_append]
    omega
  rw [iterSbbRecords, List.take_left' hlen, List.drop_left' hlen]
  simp only [hlen, take_packSbbHeader hheader, ne_eq, not_true_eq_false, if_false]
  exact readAll_flatten hreads hturns

theorem Encodes.push {startUtcNs : ℤ} {records : List SbbRecord} {contents block : List U8}
    {record : SbbRecord} (h : Encodes startUtcNs records contents)
    (hblock : packSbbRecord record = some block) :
    Encodes startUtcNs (records ++ [record]) (contents ++ block) := by
  obtain ⟨header, blocks, hheader, hblocks, rfl⟩ := h
  refine ⟨header, blocks ++ [block], hheader, ?_, by simp⟩
  exact List.rel_append hblocks (.cons hblock .nil)

theorem encodes_nil {startUtcNs : ℤ} {header : List U8}
    (h : packSbbHeader startUtcNs = some header) :
    Encodes startUtcNs [] header :=
  ⟨header, [], h, .nil, by simp⟩

end SilverwareTx.Blackbox
