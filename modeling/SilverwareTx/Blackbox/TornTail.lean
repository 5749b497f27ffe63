import SilverwareTx.Blackbox.Sbb

/-!
# Damaged chunks

A chunk that breaks off anywhere gives the records that are whole, and its end is an error unless it
is the end of a record. A chunk with altered data gives the records before it.
-/

namespace SilverwareTx.Blackbox

open BigEndian GroundStation RecordLog

/-! ### A record that breaks off -/

theorem length_packSbbRecord {record : SbbRecord} {block : List U8}
    (h : packSbbRecord record = some block) :
    block.length = sbbRecordHeaderSize + record.data.length + sbbRecordCrcSize := by
  obtain ⟨header, hheader, rfl⟩ := Option.map_eq_some_iff.1 h
  rw [List.length_append, List.length_append, length_packSbbRecordHeader hheader, length_toBE]
  rfl

/-- The reader on a stream that starts with a packed record header. -/
theorem readSbbRecord_of_header {record : SbbRecord} {header : List U8}
    (h : packSbbRecordHeader record = some header) (stream : List U8) :
    readSbbRecord (header ++ stream) =
      if (stream.take record.data.length).length ≠ record.data.length ∨
          ((stream.drop record.data.length).take sbbRecordCrcSize).length ≠ sbbRecordCrcSize then
        .error ⟨"truncated SBB record"⟩
      else if (zlibCrc32 (header ++ stream.take record.data.length)).toNat ≠
          ofBE ((stream.drop record.data.length).take sbbRecordCrcSize) then
        .error ⟨"SBB record CRC mismatch"⟩
      else
        .ok (⟨record.elapsedNs, record.utcNs, record.connectionId, stream.take record.data.length⟩,
          (stream.drop record.data.length).drop sbbRecordCrcSize) := by
  have hlen := length_packSbbRecordHeader h
  rw [readSbbRecord, List.take_left' hlen, List.drop_left' hlen,
    structUnpack_packSbbRecordHeader h]
  simp only [List.getD_cons_zero, List.getD_cons_succ, Int.toNat_natCast, hlen, ne_eq,
    not_true_eq_false, if_false]

theorem tornIsError_packSbbRecord {record : SbbRecord} {block : List U8}
    (h : packSbbRecord record = some block) : TornIsError readSbbRecord block := by
  have hblock := length_packSbbRecord h
  obtain ⟨header, hheader, rfl⟩ := Option.map_eq_some_iff.1 h
  have hlen := length_packSbbRecordHeader hheader
  intro k _ hk
  rw [hblock] at hk
  by_cases hshort : k < sbbRecordHeaderSize
  · have htake : (((header ++ record.data ++ toBE 4 (zlibCrc32 (header ++ record.data)).toNat).take
        k).take sbbRecordHeaderSize).length ≠ sbbRecordHeaderSize := by
      rw [List.length_take, List.length_take]
      omega
    rw [readSbbRecord, if_pos htake]
    exact ⟨_, rfl⟩
  · obtain ⟨k, rfl⟩ : ∃ k', k = header.length + k' := ⟨k - header.length, by omega⟩
    rw [List.append_assoc, List.take_length_add_append, readSbbRecord_of_header hheader, if_pos]
    · exact ⟨_, rfl⟩
    · rw [← not_and_or]
      rintro ⟨-, hcrc⟩
      rw [List.length_take, List.length_drop, List.length_take, sbbRecordCrcSize] at hcrc
      rw [sbbRecordCrcSize] at hk
      omega

/-! ### Altered data -/

theorem crc32Shift_xor (a b : U32) : crc32Shift (a ^^^ b) = crc32Shift a ^^^ crc32Shift b := by
  have hlow : ∀ crc : U32, crc &&& 1 ≠ 0 ↔ crc.getLsbD 0 = true := by
    intro crc
    rw [show (1 : U32) = BitVec.twoPow 32 0 by decide]
    exact and_twoPow_ne_zero_iff crc (by norm_num)
  have hcancel : ∀ x y p : U32, x ^^^ p ^^^ (y ^^^ p) = x ^^^ y := by
    intro x y p
    rw [BitVec.xor_assoc, BitVec.xor_comm y, ← BitVec.xor_assoc p, BitVec.xor_self,
      BitVec.zero_xor]
  unfold crc32Shift
  simp only [hlow, BitVec.getLsbD_xor, BitVec.ushiftRight_xor_distrib]
  cases a.getLsbD 0 <;> cases b.getLsbD 0 <;> simp [hcancel, BitVec.xor_assoc]
  rw [BitVec.xor_comm (b >>> 1)]

theorem iterate_crc32Shift_xor (n : ℕ) (a b : U32) :
    crc32Shift^[n] (a ^^^ b) = crc32Shift^[n] a ^^^ crc32Shift^[n] b := by
  induction n generalizing a b with
  | zero => rfl
  | succ n ih => simp only [Function.iterate_succ_apply, crc32Shift_xor, ih]

/-- One byte of `zlib.crc32`. -/
def crc32Byte (crc : U32) (byte : U8) : U32 := crc32Shift^[8] (crc ^^^ byte.setWidth 32)

theorem zlibCrc32_eq (data : List U8) : zlibCrc32 data = ~~~data.foldl crc32Byte 0xFFFFFFFF := rfl

/-- The register is linear in its start value and the bytes. -/
theorem foldl_crc32Byte_xor {x y : List U8} (h : x.length = y.length) (s t : U32) :
    x.foldl crc32Byte s ^^^ y.foldl crc32Byte t =
      (List.zipWith (· ^^^ ·) x y).foldl crc32Byte (s ^^^ t) := by
  induction x generalizing y s t with
  | nil =>
    obtain rfl := List.eq_nil_of_length_eq_zero h.symm
    rfl
  | cons a x ih =>
    cases y with
    | nil => cases h
    | cons b y =>
      have hbyte : crc32Byte s a ^^^ crc32Byte t b = crc32Byte (s ^^^ t) (a ^^^ b) := by
        rw [crc32Byte, crc32Byte, ← iterate_crc32Shift_xor, crc32Byte, BitVec.setWidth_xor]
        congr 1
        rw [BitVec.xor_assoc, ← BitVec.xor_assoc (a.setWidth 32), BitVec.xor_comm (a.setWidth 32),
          BitVec.xor_assoc t, ← BitVec.xor_assoc]
      rw [List.zipWith_cons_cons, List.foldl_cons, List.foldl_cons, List.foldl_cons, ← hbyte]
      exact ih (Nat.succ.inj h) _ _

/-- Whether two byte strings of one length have one CRC does not depend on what stands before
them. -/
theorem zlibCrc32_append_eq_iff (front : List U8) {x y : List U8} (h : x.length = y.length) :
    zlibCrc32 (front ++ x) = zlibCrc32 (front ++ y) ↔ zlibCrc32 x = zlibCrc32 y := by
  have hsame : ∀ s : U32, x.foldl crc32Byte s = y.foldl crc32Byte s ↔
      (List.zipWith (· ^^^ ·) x y).foldl crc32Byte 0 = 0 := by
    intro s
    have hxor := foldl_crc32Byte_xor h s s
    rw [BitVec.xor_self] at hxor
    rw [← BitVec.xor_eq_zero_iff, hxor]
    rfl
  have hnot : ∀ a b : U32, ~~~a = ~~~b ↔ a = b := fun a b => BitVec.not_inj
  rw [zlibCrc32_eq, zlibCrc32_eq, zlibCrc32_eq, zlibCrc32_eq, hnot, hnot, List.foldl_append,
    List.foldl_append, hsame, hsame]

/-! ### Damaged chunks -/

/-- The end of the first `i` records in a chunk. -/
def recordEnd (records : List SbbRecord) (i : ℕ) : ℕ :=
  sbbHeaderSize + ((records.take i).map fun record =>
    sbbRecordHeaderSize + record.data.length + sbbRecordCrcSize).sum

/-- `data` written over a chunk from `offset`. -/
def overwrite (contents : List U8) (offset : ℕ) (data : List U8) : List U8 :=
  contents.take offset ++ data ++ contents.drop (offset + data.length)

theorem recordEnd_mono (records : List SbbRecord) {i j : ℕ} (h : i ≤ j) :
    recordEnd records i ≤ recordEnd records j := by
  have hpre : records.take i <+: records.take j := List.take_prefix_take_left h
  have hsub := hpre.sublist.map fun record =>
    sbbRecordHeaderSize + record.data.length + sbbRecordCrcSize
  exact Nat.add_le_add_left (hsub.sum_le_sum fun _ _ => Nat.zero_le _) _

theorem recordEnd_eq {records : List SbbRecord} {blocks : List (List U8)}
    (h : List.Forall₂ (fun record block => packSbbRecord record = some block) records blocks)
    (i : ℕ) : recordEnd records i = sbbHeaderSize + blockEnd blocks i := by
  rw [recordEnd]
  congr 1
  induction h generalizing i with
  | nil => simp [blockEnd]
  | cons hblock _ ih =>
    cases i with
    | zero => rfl
    | succ i =>
      rw [List.take_succ_cons, List.map_cons, List.sum_cons, blockEnd_cons_succ, ih,
        length_packSbbRecord hblock]

/-- A prefix of a chunk gives the records that end in it. -/
theorem iterSbbRecords_prefix {startUtcNs : ℤ} {records : List SbbRecord} {contents p : List U8}
    (h : Encodes startUtcNs records contents) (hp : p <+: contents) :
    ∃ n ≤ records.length,
      (iterSbbRecords p).1 = records.take n ∧
      (∀ i, 1 ≤ i → i ≤ records.length → (recordEnd records i ≤ p.length ↔ i ≤ n)) ∧
      ((iterSbbRecords p).2 = none ↔ p.length = recordEnd records n) := by
  obtain ⟨header, blocks, hheader, hblocks, rfl⟩ := h
  have hlen := length_packSbbHeader hheader
  have hends := recordEnd_eq hblocks
  -- a prefix inside the file header has no records; behind it the log is cut
  by_cases hshort : p.length < sbbHeaderSize
  · have hread : iterSbbRecords p = ([], some ⟨"truncated SBB header"⟩) := by
      rw [iterSbbRecords, if_pos]
      rw [List.length_take]
      omega
    rw [hread]
    refine ⟨0, Nat.zero_le _, rfl, ?_, iff_of_false (by simp) ?_⟩
    · intro i hi _
      rw [hends]
      omega
    · rw [hends]
      omega
  · obtain ⟨k, hk⟩ : ∃ k, p.length = header.length + k := ⟨p.length - header.length, by omega⟩
    have hle := hp.length_le
    have hp' : p = header ++ blocks.flatten.take k := by
      rw [List.prefix_iff_eq_take.1 hp, hk, List.take_length_add_append]
    have hreads : List.Forall₂ (fun record block =>
        ReadsAs readSbbRecord record block ∧ TornIsError readSbbRecord block) records blocks :=
      hblocks.imp fun _ _ hpacked =>
        ⟨readsAs_packSbbRecord hpacked, tornIsError_packSbbRecord hpacked⟩
    rw [List.length_append] at hle
    have hread : iterSbbRecords p = readAll readSbbRecord p.length (blocks.flatten.take k) := by
      rw [iterSbbRecords]
      subst hp'
      rw [List.take_left' hlen, List.drop_left' hlen]
      simp only [hlen, take_packSbbHeader hheader, ne_eq, not_true_eq_false, if_false]
    obtain ⟨n, hn, hrecords, hwhole, hend⟩ :=
      @readAll_take_flatten _ _ _ readSbbRecord records blocks hreads k p.length
        (by omega) (by omega)
    rw [hread]
    refine ⟨n, hn, hrecords, ?_, ?_⟩
    · intro i _ hi
      rw [hends, ← hwhole i hi]
      omega
    · rw [hend, hends]
      omega

theorem forall₂_append_cons {α β : Type} {R : α → β → Prop} {before after : List α} {a : α}
    {blocks : List β} (h : List.Forall₂ R (before ++ a :: after) blocks) :
    ∃ bs b bs', blocks = bs ++ b :: bs' ∧ List.Forall₂ R before bs ∧ R a b := by
  induction before generalizing blocks with
  | nil =>
    obtain ⟨b, bs', hb, -, rfl⟩ := List.forall₂_cons_left_iff.1 h
    exact ⟨[], b, bs', rfl, .nil, hb⟩
  | cons c before ih =>
    obtain ⟨d, rest, hd, hrest, rfl⟩ := List.forall₂_cons_left_iff.1 h
    obtain ⟨bs, b, bs', rfl, hbs, hb⟩ := ih hrest
    exact ⟨d :: bs, b, bs', rfl, .cons hd hbs, hb⟩

theorem overwrite_append {front old back data : List U8} (h : data.length = old.length) :
    overwrite (front ++ (old ++ back)) front.length data = front ++ (data ++ back) := by
  rw [overwrite, List.take_left, h, List.drop_length_add_append, List.drop_left, List.append_assoc]

/-- Data with another CRC than the record's ends the reading there. -/
theorem readSbbRecord_altered {record : SbbRecord} {header data : List U8}
    (h : packSbbRecordHeader record = some header) (hlen : data.length = record.data.length)
    (hcrc : zlibCrc32 data ≠ zlibCrc32 record.data) (rest : List U8) :
    readSbbRecord
        (header ++ (data ++ (toBE 4 (zlibCrc32 (header ++ record.data)).toNat ++ rest))) =
      .error ⟨"SBB record CRC mismatch"⟩ := by
  have hwritten : (toBE 4 (zlibCrc32 (header ++ record.data)).toNat).length = sbbRecordCrcSize :=
    length_toBE 4 _
  have hvalue : ofBE (toBE 4 (zlibCrc32 (header ++ record.data)).toNat) =
      (zlibCrc32 (header ++ record.data)).toNat :=
    ofBE_toBE_of_lt (zlibCrc32 (header ++ record.data)).isLt
  have hne : (zlibCrc32 (header ++ data)).toNat ≠ (zlibCrc32 (header ++ record.data)).toNat := by
    rw [Ne, BitVec.toNat_inj, zlibCrc32_append_eq_iff header hlen]
    exact hcrc
  rw [readSbbRecord_of_header h, List.take_left' hlen, List.drop_left' hlen,
    List.take_left' hwritten, hvalue, if_neg, if_pos hne]
  rintro (hshort | hshort)
  · exact hshort hlen
  · exact hshort hwritten

/-- A chunk with altered data gives the records before it. -/
theorem iterSbbRecords_overwrite {startUtcNs : ℤ} {before after : List SbbRecord}
    {record : SbbRecord} {contents data : List U8}
    (h : Encodes startUtcNs (before ++ record :: after) contents)
    (hlen : data.length = record.data.length) (hcrc : zlibCrc32 data ≠ zlibCrc32 record.data) :
    iterSbbRecords (overwrite contents
        (recordEnd (before ++ record :: after) before.length + sbbRecordHeaderSize) data) =
      (before, some ⟨"SBB record CRC mismatch"⟩) := by
  obtain ⟨header, blocks, hheader, hblocks, rfl⟩ := h
  have hsize := length_packSbbHeader hheader
  have hends := recordEnd_eq hblocks before.length
  obtain ⟨bs, block, bs', rfl, hbs, hblock⟩ := forall₂_append_cons hblocks
  obtain ⟨recordHeader, hrecord, rfl⟩ := Option.map_eq_some_iff.1 hblock
  have hrecordSize := length_packSbbRecordHeader hrecord
  have hreads : List.Forall₂ (ReadsAs readSbbRecord) before bs :=
    hbs.imp fun _ _ => readsAs_packSbbRecord
  have hcount := length_le_of_readsAs hreads
  have hstart : recordEnd (before ++ record :: after) before.length + sbbRecordHeaderSize =
      (header ++ (bs.flatten ++ recordHeader)).length := by
    rw [hends, blockEnd, hbs.length_eq, List.take_left, List.length_append, List.length_append,
      hsize, hrecordSize]
    omega
  -- the file as three parts: up to the data, the data, and the rest with the old checksum
  have hfile : header ++ (bs ++ (recordHeader ++ record.data ++
      toBE 4 (zlibCrc32 (recordHeader ++ record.data)).toNat) :: bs').flatten =
      (header ++ (bs.flatten ++ recordHeader)) ++ (record.data ++
        (toBE 4 (zlibCrc32 (recordHeader ++ record.data)).toNat ++ bs'.flatten)) := by
    simp only [List.flatten_append, List.flatten_cons, List.append_assoc]
  rw [hfile, hstart, overwrite_append hlen, iterSbbRecords]
  simp only [List.append_assoc]
  rw [List.take_left' hsize, List.drop_left' hsize, if_neg (not_not_intro hsize),
    if_neg (not_not_intro (take_packSbbHeader hheader))]
  apply readAll_flatten_append hreads
  · intro hnil
    have := congrArg List.length hnil
    rw [List.length_append, hrecordSize] at this
    simp [sbbRecordHeaderSize] at this
  · exact readSbbRecord_altered hrecord hlen hcrc _
  · simp only [List.length_append, hsize, hrecordSize, sbbHeaderSize]
    omega

/-- **A torn tail costs the torn record only.** Every prefix of a chunk gives exactly the records
that lie wholly in it, and the reading ends normally exactly when the prefix holds the header and
ends with a record. Data with another CRC than before, in the place of a record's, gives exactly the
records before it and then the format error. -/
theorem torn_tail_costs_torn_record {startUtcNs : ℤ} {records : List SbbRecord}
    {contents : List U8} (h : Encodes startUtcNs records contents) :
    (∀ p, p <+: contents →
      ∃ n ≤ records.length,
        (iterSbbRecords p).1 = records.take n ∧
        (∀ i, 1 ≤ i → i ≤ records.length → (recordEnd records i ≤ p.length ↔ i ≤ n)) ∧
        ((iterSbbRecords p).2 = none ↔
          ∃ i ≤ records.length, p.length = recordEnd records i)) ∧
    (∀ before record after data, records = before ++ record :: after →
      data.length = record.data.length → zlibCrc32 data ≠ zlibCrc32 record.data →
      ∃ e, iterSbbRecords (overwrite contents
          (recordEnd records before.length + sbbRecordHeaderSize) data) = (before, some e)) := by
  constructor
  · intro p hp
    obtain ⟨n, hn, hrecords, hwhole, hend⟩ := iterSbbRecords_prefix h hp
    refine ⟨n, hn, hrecords, hwhole, ?_⟩
    rw [hend]
    constructor
    · intro hlen
      exact ⟨n, hn, hlen⟩
    · rintro ⟨i, hi, hlen⟩
      -- `i` records end at the prefix's end, so all `n` whole records do
      have hin : i ≤ n := by
        rcases Nat.eq_zero_or_pos i with rfl | hpos
        · exact Nat.zero_le n
        · exact (hwhole i hpos hi).1 hlen.ge
      rcases Nat.eq_zero_or_pos n with rfl | hpos
      · rw [hlen, Nat.le_zero.1 hin]
      · have hle := (hwhole n hpos hn).2 le_rfl
        have hmono := recordEnd_mono records hin
        omega
  · rintro before record after data rfl hlen hcrc
    exact ⟨_, iterSbbRecords_overwrite h hlen hcrc⟩

/-- A record of three bytes. -/
def tornRecord : SbbRecord := ⟨1000, 5, 7, [1, 2, 3]⟩

/-- A chunk that this record is the whole of. -/
def tornChunk : List U8 :=
  (packSbbHeader 100).getD [] ++ (packSbbRecord tornRecord).getD []

theorem encodes_tornChunk : Encodes 100 [tornRecord] tornChunk := by
  have hheader : packSbbHeader 100 = some ((packSbbHeader 100).getD []) := by decide
  have hblock : packSbbRecord tornRecord = some ((packSbbRecord tornRecord).getD []) := by
    decide +kernel
  exact (encodes_nil hheader).push hblock

theorem torn_tail_costs_torn_record_sample :
    ((iterSbbRecords (tornChunk.take 45)).2 = none ↔
      ∃ i ≤ 1, (tornChunk.take 45).length = recordEnd [tornRecord] i) ∧
    ∃ e, iterSbbRecords (overwrite tornChunk (recordEnd [tornRecord] 0 + sbbRecordHeaderSize)
      [1, 2, 4]) = ([], some e) := by
  obtain ⟨hpre, haltered⟩ := torn_tail_costs_torn_record encodes_tornChunk
  obtain ⟨-, -, -, -, hend⟩ := hpre (tornChunk.take 45) (List.take_prefix _ _)
  exact ⟨hend, haltered [] tornRecord [] [1, 2, 4] rfl rfl (by decide +kernel)⟩

end SilverwareTx.Blackbox
