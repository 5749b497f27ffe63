import SilverwareTx.Blackbox.QuotaInvariant

/-!
# The quota removes the oldest data, and only what is needed

`Enforced` says what a quota call does: sessions that are over go first, in the order of their
start, then this session's chunks in the order of their indices, each loop only down to the target;
the two newest chunks of each kind, the current files and chunks that are being compressed stay.
`enforce_quota_iff`: a call on any reachable storage does this exactly when a double can hold the
quota, and the logs directory is within it or nothing stands in the way (`Unhindered`): no
`session.json` that makes `_session_directories` raise, no lock file that cannot be opened before
enough is free, and no usage between the quota and a target that was rounded up above it.
-/

namespace SilverwareTx.Blackbox

open Double PruneUntil Transitions

/-! ### Settings -/

/-- A quota that is on, and a ratio in `(0, 1]`. -/
structure StorageConfig.Valid (config : StorageConfig) : Prop where
  quota_pos : 0 < config.maxStorageBytes
  ratio_pos : 0 < config.targetStorageRatio
  ratio_le : config.targetStorageRatio ≤ 1

/-- `int(parsed * multiplier)` in `parse_storage_size`. -/
def storageSize (parsed : ℚ) (multiplier : ℕ) : ℤ := ⌊roundDouble (parsed * multiplier)⌋

/-- A double holds every quota that is read from the command line. -/
theorem isDouble_storageSize {parsed : ℚ} {multiplier : ℕ} (hparsed : 0 < parsed)
    (hmultiplier : 0 < multiplier) : IsDouble (storageSize parsed multiplier) := by
  have hpos : 0 < parsed * multiplier := by positivity
  exact (isDouble_roundDouble hpos).floor

/-- The target is not above a quota that a double holds. -/
theorem StorageConfig.Valid.targetBytes_le {config : StorageConfig} (h : config.Valid)
    (hdouble : IsDouble config.maxStorageBytes) :
    (config.targetBytes : ℤ) ≤ config.maxStorageBytes := by
  have hquota : (0 : ℚ) < config.maxStorageBytes := by exact_mod_cast h.quota_pos
  have hpos : 0 < (config.maxStorageBytes : ℚ) * config.targetStorageRatio :=
    mul_pos hquota h.ratio_pos
  have hle : (config.maxStorageBytes : ℚ) * config.targetStorageRatio ≤ config.maxStorageBytes :=
    mul_le_of_le_one_right hquota.le h.ratio_le
  have hround := roundDouble_le hpos hle hdouble
  have hfloor : ⌊roundDouble ((config.maxStorageBytes : ℚ) * config.targetStorageRatio)⌋ ≤
      config.maxStorageBytes := by
    have := Int.floor_le_floor hround
    rwa [Int.floor_intCast] at this
  have hquota' := h.quota_pos
  rw [StorageConfig.targetBytes, roundDouble_of_isDouble hquota hdouble]
  omega

/-! ### What is left -/

section Left

variable {st : Storage}

/-- The storage without these sessions. -/
def Storage.withoutSessions (st : Storage) (sessions : List StoredSession) : Storage :=
  { st with
    entries := st.entries.filter fun entry => entry.name ∉ sessions.map StoredSession.name }

/-- The storage without the files of these chunks, which are marked and recorded. -/
def Storage.withoutChunks (st : Storage) (items : List (StoredChunk × ℕ)) : Storage :=
  { st with
    files := st.files.filter fun file => file.1 ∉ items.map fun item => item.1.filename
    chunks := st.chunks.zipIdx.map fun item =>
      if item.2 ∈ items.map Prod.snd then item.1.markPruned else item.1
    prunedRanges := st.prunedRanges ++
      items.map fun item => item.1.prunedRange ((st.stat item.1.filename).getD 0)
    events :=
      if st.stopRequested then st.events
      else st.events ++ items.map fun item =>
        .storageChunkPruned (item.1.prunedRange ((st.stat item.1.filename).getD 0)) }

theorem removeSession_of_prunable {session : StoredSession} (h : session.prunable = true) :
    removeSession st session =
      .ok (some { st with entries := st.entries.filter fun entry => entry.name ≠ session.name }) := by
  simp only [StoredSession.prunable, Bool.and_eq_true, decide_eq_true_eq] at h
  rw [removeSession, if_pos h.1, h.2]

theorem removeSession_of_unopenable {session : StoredSession} (h : session.unopenable = true) :
    removeSession st session = .error .osError := by
  simp only [StoredSession.unopenable, Bool.and_eq_true, decide_eq_true_eq] at h
  rw [removeSession, if_pos h.1, h.2]

theorem removeSession_of_kept {session : StoredSession} (h : session.prunable = false)
    (hopen : session.unopenable = false) : removeSession st session = .ok none := by
  rw [removeSession]
  by_cases hfinished : session.finished = true
  · rw [if_pos hfinished]
    cases hlock : session.lock with
    | free => simp [StoredSession.prunable, hfinished, hlock] at h
    | held => rfl
    | unopenable => simp [StoredSession.unopenable, hfinished, hlock] at hopen
  · rw [if_neg hfinished]

theorem deleteAll_removeSession {sessions : List StoredSession}
    (h : ∀ session ∈ sessions, session.prunable = true) :
    deleteAll removeSession st sessions = st.withoutSessions sessions := by
  induction sessions generalizing st with
  | nil => simp [Storage.withoutSessions]
  | cons session sessions ih =>
    rw [List.forall_mem_cons] at h
    rw [deleteAll_cons (removeSession_of_prunable h.1), ih h.2, Storage.withoutSessions,
      Storage.withoutSessions]
    congr 1
    rw [List.filter_filter]
    congr 1
    funext entry
    by_cases hname : entry.name = session.name
    · simp [hname]
    · simp [hname]

theorem getElem?_withoutChunks (st : Storage) (items : List (StoredChunk × ℕ)) (i : ℕ) :
    (st.withoutChunks items).chunks[i]? = st.chunks[i]?.map fun chunk =>
      if i ∈ items.map Prod.snd then chunk.markPruned else chunk := by
  simp only [Storage.withoutChunks, List.getElem?_map, List.getElem?_zipIdx, Option.map_map,
    Nat.zero_add]
  rfl

/-- Chunks of one loop have different files. -/
theorem ChunkLoop.filename_ne {item : StoredChunk × ℕ} {items : List (StoredChunk × ℕ)}
    (h : ChunkLoop st (item :: items)) {other : StoredChunk × ℕ} (hother : other ∈ items) :
    other.1.filename ≠ item.1.filename := by
  intro heq
  have hitem := (h.valid item List.mem_cons_self).1
  have hother' := (h.valid other (List.mem_cons_of_mem _ hother)).1
  have hdistinct := h.distinct
  rw [List.map_cons, List.nodup_cons] at hdistinct
  have hindex := h.inv.index_eq hother' hitem heq
  exact hdistinct.1 (hindex ▸ List.mem_map_of_mem hother)

theorem withoutChunks_nil (st : Storage) : st.withoutChunks [] = st := by
  have hchunks : st.chunks.zipIdx.map Prod.fst = st.chunks := List.zipIdx_map_fst 0 st.chunks
  simp [Storage.withoutChunks, hchunks]

/-- Marking one chunk, then others. -/
theorem modify_markPruned (chunks : List StoredChunk) (i : ℕ) (indices : List ℕ) :
    ((chunks.modify i StoredChunk.markPruned).zipIdx.map fun item =>
        if item.2 ∈ indices then item.1.markPruned else item.1) =
      chunks.zipIdx.map fun item =>
        if item.2 ∈ i :: indices then item.1.markPruned else item.1 := by
  apply List.ext_getElem?
  intro j
  simp only [List.getElem?_map, List.getElem?_zipIdx, List.getElem?_modify, Option.map_map,
    Nat.zero_add]
  rcases chunks[j]? with _ | chunk
  · rfl
  · by_cases hj : i = j
    · by_cases hmem : j ∈ indices
      · simp [hj, hmem, StoredChunk.markPruned]
      · simp [hj, hmem]
    · simp [hj, Ne.symm hj]

/-- The loop over the chunks, taken together. -/
theorem ChunkLoop.deleteAll_eq {items : List (StoredChunk × ℕ)} (h : ChunkLoop st items) :
    PruneUntil.deleteAll pruneChunk st items = st.withoutChunks items := by
  induction items generalizing st with
  | nil => rw [deleteAll_nil, withoutChunks_nil]
  | cons item items ih =>
    obtain ⟨st', hst', hloop⟩ := h.step
    rw [deleteAll_cons hst', ih hloop]
    obtain ⟨size, hsize, rfl⟩ := Option.map_eq_some_iff.1 (Except.ok.inj hst')
    -- a deletion does not change the size of a file with another name
    have hstat : ∀ other ∈ items,
        statIn (st.files.filter fun file => file.1 ≠ item.1.filename) other.1.filename =
          st.stat other.1.filename := fun other hother =>
      statIn_filter_ne (h.filename_ne hother)
    have hranges : (items.map fun other => other.1.prunedRange
        ((statIn (st.files.filter fun file => file.1 ≠ item.1.filename) other.1.filename).getD 0)) =
          items.map fun other => other.1.prunedRange ((st.stat other.1.filename).getD 0) :=
      List.map_congr_left fun other hother => by rw [hstat other hother]
    simp only [Storage.withoutChunks, Storage.mk.injEq, true_and, and_true]
    refine ⟨?_, ?_, ?_, ?_⟩
    · rw [List.filter_filter]
      congr 1
      funext file
      by_cases hname : file.1 = item.1.filename
      · simp [hname]
      · simp [hname]
    · exact modify_markPruned _ _ _
    · rw [List.append_assoc, List.map_cons, hsize, Option.getD_some]
      exact congrArg (fun ranges => st.prunedRanges ++ (_ :: ranges)) hranges
    · by_cases hstop : st.stopRequested = true
      · simp [hstop]
      · simp only [hstop, Bool.false_eq_true, if_false, List.append_assoc, List.map_cons, hsize,
          Option.getD_some]
        refine congrArg (fun events => st.events ++ (_ :: events)) ?_
        exact List.map_congr_left fun other hother => by
          rw [← hstat other hother]
          rfl

/-- The more sessions go, the less is left, -/
theorem directorySize_withoutSessions_le (st : Storage) {fewer more : List StoredSession}
    (h : fewer ⊆ more) :
    (st.withoutSessions more).directorySize ≤ (st.withoutSessions fewer).directorySize := by
  have hsub : (st.withoutSessions more).entries.Sublist (st.withoutSessions fewer).entries := by
    apply List.monotone_filter_right
    intro entry hentry
    rw [decide_eq_true_eq] at hentry ⊢
    exact fun hmem => hentry (List.map_subset _ h hmem)
  have hbytes : ((st.withoutSessions more).entries.map LogsEntry.bytes).sum ≤
      ((st.withoutSessions fewer).entries.map LogsEntry.bytes).sum :=
    (hsub.map LogsEntry.bytes).sum_le_sum fun _ _ => Nat.zero_le _
  exact Nat.add_le_add_right hbytes _

/-- and the same of chunks. -/
theorem directorySize_withoutChunks_le (st : Storage) {fewer more : List (StoredChunk × ℕ)}
    (h : fewer ⊆ more) :
    (st.withoutChunks more).directorySize ≤ (st.withoutChunks fewer).directorySize := by
  have hsub : (st.withoutChunks more).files.Sublist (st.withoutChunks fewer).files := by
    apply List.monotone_filter_right
    intro file hfile
    rw [decide_eq_true_eq] at hfile ⊢
    exact fun hmem => hfile (List.map_subset _ h hmem)
  have hbytes : ((st.withoutChunks more).files.map Prod.snd).sum ≤
      ((st.withoutChunks fewer).files.map Prod.snd).sum :=
    (hsub.map Prod.snd).sum_le_sum fun _ _ => Nat.zero_le _
  exact Nat.add_le_add_left hbytes _

end Left

/-! ### The sessions of a logs directory -/

/-- No `session.json` makes `_session_directories` raise. -/
def SessionsReadable (entries : List LogsEntry) : Prop :=
  ∀ entry ∈ entries, entry.sessionJson.raised = none

instance : DecidablePred SessionsReadable := fun entries =>
  inferInstanceAs (Decidable (∀ entry ∈ entries, entry.sessionJson.raised = none))

/-- The sessions of a logs directory in the order of their start. -/
def sessionsByStart (entries : List LogsEntry) : List StoredSession :=
  (entries.filterMap LogsEntry.session).insertionSort fun a b => a.startNs ≤ b.startNs

section Scan

variable {entries : List LogsEntry} {sessions : List StoredSession}

theorem scanEntries_eq_ok_iff :
    scanEntries entries = .ok sessions ↔
      SessionsReadable entries ∧ entries.filterMap LogsEntry.session = sessions := by
  induction entries generalizing sessions with
  | nil => simp [scanEntries, SessionsReadable]
  | cons entry entries ih =>
    rw [SessionsReadable, List.forall_mem_cons, ← SessionsReadable, List.filterMap_cons]
    rcases hraised : entry.sessionJson.raised with _ | e
    · rcases hscan : scanEntries entries with e | rest
      · have hnot : ¬SessionsReadable entries := fun hread => by
          have := ih.2 ⟨hread, rfl⟩
          rw [hscan] at this
          cases this
        simp [scanEntries, hraised, hscan, Except.map, hnot]
      · obtain ⟨hread, hrest⟩ := ih.1 hscan
        rcases hsession : entry.session with _ | session
        · simp [scanEntries, hraised, hscan, Except.map, hread, hrest, hsession]
        · simp [scanEntries, hraised, hscan, Except.map, hread, hrest, hsession]
    · simp [scanEntries, hraised]

theorem sessionDirectories_eq_ok_iff :
    sessionDirectories entries = .ok sessions ↔
      SessionsReadable entries ∧ sessionsByStart entries = sessions := by
  rw [sessionDirectories, sessionsByStart]
  rcases hscan : scanEntries entries with e | scanned
  · have hnot : ¬SessionsReadable entries := fun hread => by
      have := scanEntries_eq_ok_iff.2 ⟨hread, rfl⟩
      rw [hscan] at this
      cases this
    simp [Except.map, hnot]
  · obtain ⟨hread, hrest⟩ := scanEntries_eq_ok_iff.1 hscan
    simp [Except.map, hread, hrest]

theorem mem_sessionsByStart_iff {session : StoredSession} :
    session ∈ sessionsByStart entries ↔ ∃ entry ∈ entries, entry.session = some session := by
  rw [sessionsByStart, List.mem_insertionSort, List.mem_filterMap]

theorem mem_sessionDirectories_iff (h : sessionDirectories entries = .ok sessions)
    {session : StoredSession} :
    session ∈ sessions ↔ ∃ entry ∈ entries, entry.session = some session := by
  rw [← (sessionDirectories_eq_ok_iff.1 h).2, mem_sessionsByStart_iff]

theorem LogsEntry.name_of_session {entry : LogsEntry} {session : StoredSession}
    (h : entry.session = some session) : session.name = entry.name := by
  rw [LogsEntry.session] at h
  split at h
  · obtain rfl := Option.some.inj h
    rfl
  · cases h

/-- Directories have different names, so sessions have. -/
theorem nodup_sessionsByStart (h : DistinctNames entries) :
    ((sessionsByStart entries).map StoredSession.name).Nodup := by
  have hperm := (List.perm_insertionSort (fun a b : StoredSession => a.startNs ≤ b.startNs)
    (entries.filterMap LogsEntry.session)).map StoredSession.name
  refine hperm.nodup_iff.2 (List.Nodup.sublist ?_ h)
  clear h hperm
  induction entries with
  | nil => exact List.Sublist.refl _
  | cons entry entries ih =>
    rcases hsession : entry.session with _ | session
    · rw [List.filterMap_cons_none hsession]
      exact ih.cons _
    · rw [List.filterMap_cons_some hsession, List.map_cons, List.map_cons,
        LogsEntry.name_of_session hsession]
      exact ih.cons_cons _

/-- The list is in the order of the sessions' starts. -/
theorem pairwise_sessionDirectories (h : sessionDirectories entries = .ok sessions) :
    sessions.Pairwise fun a b => a.startNs ≤ b.startNs := by
  have htotal : Std.Total fun a b : StoredSession => a.startNs ≤ b.startNs :=
    ⟨fun _ _ => le_total _ _⟩
  have htrans : IsTrans StoredSession fun a b => a.startNs ≤ b.startNs :=
    ⟨fun _ _ _ => le_trans⟩
  rw [← (sessionDirectories_eq_ok_iff.1 h).2]
  exact List.pairwise_insertionSort _ _

/-- Once the prunable sessions are gone, none is left. -/
theorem filter_prunable_eq_nil {st : Storage} {left : List StoredSession}
    (h : sessionDirectories st.entries = .ok sessions)
    (hleft : sessionDirectories
      (st.withoutSessions (sessions.filter StoredSession.prunable)).entries = .ok left) :
    left.filter StoredSession.prunable = [] := by
  rw [List.filter_eq_nil_iff]
  intro session hsession hprunable
  obtain ⟨entry, hentry, hread⟩ := (mem_sessionDirectories_iff hleft).1 hsession
  obtain ⟨hmem, hname⟩ := List.mem_filter.1 hentry
  have hgone : session ∈ sessions.filter StoredSession.prunable :=
    List.mem_filter.2 ⟨(mem_sessionDirectories_iff h).2 ⟨entry, hmem, hread⟩, hprunable⟩
  have hnot : entry.name ∉ (sessions.filter StoredSession.prunable).map StoredSession.name := by
    simpa using hname
  exact hnot (LogsEntry.name_of_session hread ▸ List.mem_map_of_mem hgone)

end Scan

/-! ### The chunks that stay -/

section Stay

variable {st : Storage} {item : StoredChunk × ℕ}

theorem mem_protectedIndices {available : List (StoredChunk × ℕ)} {i : ℕ} :
    i ∈ protectedIndices available ↔
      ∃ kind, ∃ item ∈ newestTwo kind available, item.2 = i := by
  simp only [protectedIndices, List.mem_flatMap, List.mem_map]
  constructor
  · rintro ⟨kind, -, item, hitem, hi⟩
    exact ⟨kind, item, hitem, hi⟩
  · rintro ⟨kind, item, hitem, hi⟩
    refine ⟨kind, ?_, item, hitem, hi⟩
    cases kind <;> simp

theorem mem_of_mem_newestTwo {kind : ChunkKind} {available : List (StoredChunk × ℕ)}
    (h : item ∈ newestTwo kind available) : item ∈ available ∧ item.1.kind = kind := by
  have := List.mem_filter.1 (List.mem_of_mem_drop h)
  exact ⟨this.1, by simpa using this.2⟩

theorem mem_candidates_iff {chunks : List StoredChunk} :
    item ∈ candidates chunks ↔
      item ∈ availableChunks chunks ∧ ∀ kind, item ∉ newestTwo kind (availableChunks chunks) := by
  rw [candidates, List.mem_filter, decide_eq_true_eq]
  refine and_congr_right fun hitem => ?_
  rw [mem_protectedIndices]
  constructor
  · intro h kind hnewest
    exact h ⟨kind, item, hnewest, rfl⟩
  · rintro h ⟨kind, other, hother, heq⟩
    have hsame := (mem_availableChunks.1 (mem_of_mem_newestTwo hother).1).1
    rw [heq, (mem_availableChunks.1 hitem).1] at hsame
    have : other = item := Prod.ext (Option.some.inj hsame).symm heq
    exact h kind (this ▸ hother)

/-- Chunks and files that are not deleted stay as they are. -/
theorem ChunkLoop.kept {items : List (StoredChunk × ℕ)} (h : ChunkLoop st items) {i : ℕ}
    {chunk : StoredChunk} (hi : st.chunks[i]? = some chunk) (hnot : i ∉ items.map Prod.snd) :
    (st.withoutChunks items).chunks[i]? = some chunk ∧
      (st.withoutChunks items).stat chunk.filename = st.stat chunk.filename := by
  constructor
  · rw [getElem?_withoutChunks, hi, Option.map_some, if_neg hnot]
  · refine statIn_filter (fun name => decide (name ∉ items.map fun item => item.1.filename)) ?_
    rw [decide_eq_true_eq]
    intro hmem
    obtain ⟨item, hitem, hname⟩ := List.mem_map.1 hmem
    have hindex := h.inv.index_eq hi (h.valid item hitem).1 hname.symm
    exact hnot (hindex ▸ List.mem_map_of_mem hitem)

theorem length_newestTwo_le (kind : ChunkKind) (available : List (StoredChunk × ℕ)) :
    (newestTwo kind available).length ≤ 2 := by
  rw [newestTwo, List.length_drop]
  omega

theorem zipIdx_map_zipIdx {α β : Type*} (items : List α) (k : ℕ) (f : α × ℕ → β) :
    ((items.zipIdx k).map f).zipIdx k = (items.zipIdx k).map fun item => (f item, item.2) := by
  induction items generalizing k with
  | nil => rfl
  | cons a items ih =>
    rw [List.zipIdx_cons, List.map_cons, List.zipIdx_cons, List.map_cons, ih]

/-- The available chunks that were not deleted are those that still are. -/
theorem availableChunks_withoutChunks (st : Storage) (items : List (StoredChunk × ℕ)) :
    availableChunks (st.withoutChunks items).chunks =
      (availableChunks st.chunks).filter fun item => item.2 ∉ items.map Prod.snd := by
  have hkept : ∀ item : StoredChunk × ℕ,
      (if item.2 ∈ items.map Prod.snd then item.1.markPruned else item.1).available =
        (item.1.available && decide (item.2 ∉ items.map Prod.snd)) := by
    intro item
    by_cases hgone : item.2 ∈ items.map Prod.snd
    · simp [hgone, StoredChunk.available, StoredChunk.markPruned]
    · simp [hgone]
  rw [availableChunks, Storage.withoutChunks, zipIdx_map_zipIdx, List.filter_map, availableChunks,
    List.filter_filter]
  have hfilter : (fun item : StoredChunk × ℕ => item.1.available) ∘
      (fun item : StoredChunk × ℕ =>
        ((if item.2 ∈ items.map Prod.snd then item.1.markPruned else item.1), item.2)) =
      fun item => decide (item.2 ∉ items.map Prod.snd) && item.1.available := by
    funext item
    rw [Bool.and_comm, ← hkept item]
    rfl
  rw [hfilter]
  refine (List.map_congr_left fun item hitem => ?_).trans (List.map_id _)
  have hleft := (Bool.and_eq_true_iff.1 (List.mem_filter.1 hitem).2).1
  rw [if_neg (of_decide_eq_true hleft)]
  rfl

/-- Once the candidates are gone, none is left: the two newest of each kind are the two newest. -/
theorem candidates_withoutChunks (st : Storage) :
    candidates (st.withoutChunks (candidates st.chunks)).chunks = [] := by
  have hnewest : ∀ kind item,
      item ∈ availableChunks (st.withoutChunks (candidates st.chunks)).chunks →
        item.1.kind = kind → item ∈ newestTwo kind (availableChunks st.chunks) := by
    intro kind item hitem hkind
    rw [availableChunks_withoutChunks, List.mem_filter, decide_eq_true_eq] at hitem
    obtain ⟨hmem, hleft⟩ := hitem
    by_contra hnot
    refine hleft (List.mem_map_of_mem (mem_candidates_iff.2 ⟨hmem, fun k hk => ?_⟩))
    obtain rfl : k = kind := (mem_of_mem_newestTwo hk).2.symm.trans hkind
    exact hnot hk
  rw [List.eq_nil_iff_forall_not_mem]
  intro item hitem
  obtain ⟨hmem, hprotected⟩ := mem_candidates_iff.1 hitem
  refine hprotected item.1.kind ?_
  rw [newestTwo]
  -- the available ones of a kind are among the two that were spared
  have hsub : ((availableChunks (st.withoutChunks (candidates st.chunks)).chunks).filter
      fun other => other.1.kind = item.1.kind).length ≤ 2 := by
    refine le_trans (List.Nodup.length_le_of_subset ?_ ?_) (length_newestTwo_le item.1.kind
      (availableChunks st.chunks))
    · have hdistinct := ((pairwise_zipIdx
        (st.withoutChunks (candidates st.chunks)).chunks 0).filter
          fun item => item.1.available).filter fun other => other.1.kind = item.1.kind
      exact hdistinct.imp fun hlt heq => absurd (congrArg Prod.snd heq) hlt.ne
    · intro other hother
      obtain ⟨hother, hkind⟩ := List.mem_filter.1 hother
      exact hnewest _ _ hother (by simpa using hkind)
  rw [Nat.sub_eq_zero_of_le hsub, List.drop_zero]
  exact List.mem_filter.2 ⟨hmem, by simp⟩

/-- The last two stay the last two where both are kept. -/
theorem drop_filter_of_last {α : Type*} {items : List α} {keep : α → Bool}
    (h : ∀ a ∈ items.drop (items.length - 2), keep a = true) :
    (items.filter keep).drop ((items.filter keep).length - 2) =
      items.drop (items.length - 2) := by
  have hsplit : items.filter keep =
      (items.take (items.length - 2)).filter keep ++ items.drop (items.length - 2) := by
    conv_lhs => rw [← List.take_append_drop (items.length - 2) items, List.filter_append,
      List.filter_eq_self.2 h]
  have hlast : (items.drop (items.length - 2)).length = items.length - (items.length - 2) :=
    List.length_drop
  rw [hsplit, List.length_append]
  by_cases hlong : 2 ≤ items.length
  · rw [hlast, show items.length - (items.length - 2) = 2 by omega, Nat.add_sub_cancel]
    exact List.drop_left
  · rw [show items.length - 2 = 0 by omega, List.take_zero, List.filter_nil, List.nil_append,
      List.drop_zero, List.length_nil, Nat.zero_add, show items.length - 2 = 0 by omega,
      List.drop_zero]

/-- A candidate that is not deleted is a candidate still. -/
theorem mem_candidates_withoutChunks {m : ℕ} (hitem : item ∈ candidates st.chunks)
    (hleft : item ∉ (candidates st.chunks).take m) :
    item ∈ candidates (st.withoutChunks ((candidates st.chunks).take m)).chunks := by
  have hgone : ∀ other ∈ availableChunks st.chunks,
      other.2 ∈ ((candidates st.chunks).take m).map Prod.snd →
        other ∈ (candidates st.chunks).take m := by
    intro other hother hmem
    obtain ⟨item', hitem', hindex⟩ := List.mem_map.1 hmem
    have hsame := (mem_availableChunks.1
      (mem_candidates_iff.1 (List.mem_of_mem_take hitem')).1).1
    rw [hindex, (mem_availableChunks.1 hother).1] at hsame
    have : item' = other := Prod.ext (Option.some.inj hsame).symm hindex
    exact this ▸ hitem'
  obtain ⟨havailable, hnewest⟩ := mem_candidates_iff.1 hitem
  refine mem_candidates_iff.2 ⟨?_, fun kind => ?_⟩
  · rw [availableChunks_withoutChunks, List.mem_filter, decide_eq_true_eq]
    exact ⟨havailable, fun hmem => hleft (hgone item havailable hmem)⟩
  · -- the newest two are no candidates, so they are the newest two still
    have hsame : newestTwo kind
        (availableChunks (st.withoutChunks ((candidates st.chunks).take m)).chunks) =
          newestTwo kind (availableChunks st.chunks) := by
      rw [availableChunks_withoutChunks, newestTwo, List.filter_comm]
      refine drop_filter_of_last fun other hother => ?_
      rw [decide_eq_true_eq]
      intro hmem
      have hother' := @mem_of_mem_newestTwo _ kind _ hother
      exact (mem_candidates_iff.1 (List.mem_of_mem_take (hgone other hother'.1 hmem))).2 kind hother
    rw [hsame]
    exact hnewest kind

end Stay

/-! ### A quota call -/

/-- The sessions `old` and the chunks `eligible`, in the order in which they may go, lose their
first `n` and `m`: each as many as it takes to come down to the target. -/
structure PrunesFirst (config : StorageConfig) (st after : Storage) (old : List StoredSession)
    (eligible : List (StoredChunk × ℕ)) (n m : ℕ) : Prop where
  sessions : StopsAt (fun k => (st.withoutSessions (old.take k)).directorySize) config.targetBytes
    old.length n
  /-- The chunks are left alone once the sessions were enough. -/
  spared : (st.withoutSessions (old.take n)).directorySize ≤ config.maxStorageBytes → m = 0
  chunks : config.maxStorageBytes < (st.withoutSessions (old.take n)).directorySize →
    StopsAt (fun k =>
        ((st.withoutSessions (old.take n)).withoutChunks (eligible.take k)).directorySize)
      config.targetBytes eligible.length m
  entries : after.entries = (st.withoutSessions (old.take n)).entries
  files : after.files = (st.withoutChunks (eligible.take m)).files
  marked : after.chunks = (st.withoutChunks (eligible.take m)).chunks
  recorded : after.prunedRanges = (st.withoutChunks (eligible.take m)).prunedRanges

/-- What a quota call is to do. -/
structure Enforced (config : StorageConfig) (st after : Storage) : Prop where
  /-- Within the quota nothing is deleted. -/
  idle : st.directorySize ≤ config.maxStorageBytes →
    after.entries = st.entries ∧ after.files = st.files ∧ after.chunks = st.chunks ∧
      after.prunedRanges = st.prunedRanges
  /-- Above it, the oldest sessions go first, then the oldest chunks. -/
  oldest : config.maxStorageBytes < st.directorySize → ∃ sessions n m,
    sessionDirectories st.entries = .ok sessions ∧
      sessions.Pairwise (fun a b => a.startNs ≤ b.startNs) ∧
      (candidates st.chunks).Pairwise (fun a b => a.2 < b.2) ∧
      PrunesFirst config st after (sessions.filter StoredSession.prunable) (candidates st.chunks)
        n m
  /-- The two newest available chunks of each kind stay. -/
  newest : ∀ kind, ∀ item ∈ newestTwo kind (availableChunks st.chunks),
    after.chunks[item.2]? = some item.1 ∧ after.stat item.1.filename = st.stat item.1.filename
  /-- So does a chunk that is being compressed, -/
  compressing : ∀ (i : ℕ) (chunk : StoredChunk), st.chunks[i]? = some chunk →
    chunk.state = .compressing →
      after.chunks[i]? = some chunk ∧ after.stat chunk.filename = st.stat chunk.filename
  /-- and the current file of each kind. -/
  current : ∀ kind name, st.path kind = some name → after.stat name = st.stat name
  /-- Every chunk that was ever pruned has one entry, and no other chunk has any. -/
  once : ∀ chunk ∈ after.chunks,
    (after.prunedRanges.map PrunedRange.name).count chunk.filename = if chunk.pruned then 1 else 0
  /-- The quota is met, or nothing is left that may go. -/
  enough : after.directorySize ≤ config.maxStorageBytes ∨
    (∀ sessions, sessionDirectories after.entries = .ok sessions →
      sessions.filter StoredSession.prunable = []) ∧ candidates after.chunks = []

/-- A quota call returns, and does what it is to do. -/
def EnforcesQuota (config : StorageConfig) (st : Storage) : Prop :=
  ∃ after, enforceQuotaLocked config st = .ok after ∧ Enforced config st after

section Call

variable {config : StorageConfig} {st : Storage}

/-- Every pruned chunk has one entry. -/
theorem Storage.Inv.count_ranges (h : st.Inv) {chunk : StoredChunk} (hchunk : chunk ∈ st.chunks) :
    (st.prunedRanges.map PrunedRange.name).count chunk.filename =
      if chunk.pruned then 1 else 0 := by
  have hnodup : ((st.chunks.filter StoredChunk.pruned).map StoredChunk.filename).Nodup :=
    h.nodup_filename.sublist (List.filter_sublist.map _)
  rw [h.ranges.count_eq]
  by_cases hpruned : chunk.pruned = true
  · rw [if_pos hpruned]
    exact List.count_eq_one_of_mem hnodup
      (List.mem_map_of_mem (List.mem_filter.2 ⟨hchunk, hpruned⟩))
  · rw [if_neg hpruned, List.count_eq_zero]
    intro hmem
    obtain ⟨other, hother, hname⟩ := List.mem_map.1 hmem
    obtain ⟨hother, hpruned'⟩ := List.mem_filter.1 hother
    have hsame : other = chunk := List.inj_on_of_nodup_map h.nodup_filename hother hchunk hname
    exact hpruned (hsame ▸ hpruned')

/-- A reported removal changes the events only. -/
theorem exists_reportSessions (st : Storage) (removed : List String) :
    ∃ events, st.reportSessions removed = { st with events := events } := by
  rw [Storage.reportSessions]
  split_ifs
  · exact ⟨_, rfl⟩
  · exact ⟨_, rfl⟩

theorem ChunkLoop.take {items : List (StoredChunk × ℕ)} (h : ChunkLoop st items) (m : ℕ) :
    ChunkLoop st (items.take m) where
  inv := h.inv
  valid := fun item hitem => h.valid item (List.mem_of_mem_take hitem)
  distinct := h.distinct.sublist ((List.take_sublist m items).map _)

/-- The loop over the chunks deletes the first candidates, as many as it takes. -/
theorem exists_pruneChunks (h : st.Inv) (hover : config.maxStorageBytes < st.directorySize)
    (htarget : candidates st.chunks ≠ [] → config.targetBytes < st.directorySize) :
    ∃ m, StopsAt (fun k => (st.withoutChunks ((candidates st.chunks).take k)).directorySize)
        config.targetBytes (candidates st.chunks).length m ∧
      pruneChunks config st = st.withoutChunks ((candidates st.chunks).take m) := by
  have hall : ∀ k, PruneUntil.deleteAll pruneChunk st ((candidates st.chunks).take k) =
      st.withoutChunks ((candidates st.chunks).take k) := fun k => (h.chunkLoop.take k).deleteAll_eq
  obtain ⟨m, hm, hpruned⟩ := @pruneUntil_spec _ _ _ pruneChunk (fun _ => true) ChunkLoop
    (fun _ _ _ _ hfalse => by cases hfalse) (fun _ _ _ hloop _ => hloop.step) Storage.directorySize
    config.targetBytes st (candidates st.chunks) h.chunkLoop (by simpa using htarget)
  simp only [List.filter_true, hall] at hm hpruned
  refine ⟨m, hm, ?_⟩
  rw [pruneChunks, if_pos hover, hpruned]

/-- What is deleted is none of what must stay. -/
theorem ChunkLoop.spares (h : ChunkLoop st (candidates st.chunks)) (m : ℕ) {i : ℕ}
    {chunk : StoredChunk} (hi : st.chunks[i]? = some chunk)
    (hnot : (chunk, i) ∉ candidates st.chunks) :
    (st.withoutChunks ((candidates st.chunks).take m)).chunks[i]? = some chunk ∧
      (st.withoutChunks ((candidates st.chunks).take m)).stat chunk.filename =
        st.stat chunk.filename := by
  refine (h.take m).kept hi fun hmem => hnot ?_
  obtain ⟨item, hitem, rfl⟩ := List.mem_map.1 hmem
  have hitem := List.mem_of_mem_take hitem
  have hsame := (h.valid item hitem).1
  rw [hi] at hsame
  obtain rfl := Option.some.inj hsame
  exact hitem

/-! ### The loop over the sessions -/

/-- The loop over sessions whose locks can be opened. -/
theorem exists_pruneUntil_removeSession {sessions : List StoredSession}
    (hopen : ∀ session ∈ sessions, session.unopenable = false)
    (htarget : sessions.filter StoredSession.prunable ≠ [] →
      config.targetBytes < st.directorySize) :
    ∃ n, StopsAt (fun k => (st.withoutSessions
          ((sessions.filter StoredSession.prunable).take k)).directorySize)
        config.targetBytes (sessions.filter StoredSession.prunable).length n ∧
      pruneUntil removeSession (fun st => st.directorySize ≤ config.targetBytes) st sessions =
        ⟨(sessions.filter StoredSession.prunable).take n,
          st.withoutSessions ((sessions.filter StoredSession.prunable).take n), none⟩ := by
  have hall : ∀ k, PruneUntil.deleteAll removeSession st
      ((sessions.filter StoredSession.prunable).take k) =
        st.withoutSessions ((sessions.filter StoredSession.prunable).take k) := fun k =>
    deleteAll_removeSession fun session hsession =>
      (List.mem_filter.1 (List.mem_of_mem_take hsession)).2
  obtain ⟨n, hn, hpruned⟩ := @pruneUntil_spec _ _ _ removeSession StoredSession.prunable
    (fun _ items => ∀ session ∈ items, session.unopenable = false)
    (fun st session items hitems hkept =>
      ⟨removeSession_of_kept hkept (hitems session List.mem_cons_self),
        fun other hother => hitems other (List.mem_cons_of_mem _ hother)⟩)
    (fun st session items hitems hgone =>
      ⟨_, removeSession_of_prunable hgone,
        fun other hother => hitems other (List.mem_cons_of_mem _ hother)⟩)
    Storage.directorySize config.targetBytes st sessions hopen htarget
  simp only [hall] at hn hpruned
  exact ⟨n, hn, hpruned⟩

/-- Where a lock cannot be opened, the sessions listed before the first one are enough to come down
to the target. -/
def LocksOpen (config : StorageConfig) (st : Storage) : Prop :=
  ∀ before session after, sessionsByStart st.entries = before ++ session :: after →
    (∀ older ∈ before, older.unopenable = false) → session.unopenable = true →
      before.filter StoredSession.prunable ≠ [] ∧
        (st.withoutSessions (before.filter StoredSession.prunable)).directorySize ≤
          config.targetBytes

/-- Above the quota, but not above a target that was rounded up. -/
def StorageConfig.Between (config : StorageConfig) (usage : ℕ) : Prop :=
  config.maxStorageBytes < usage ∧ usage ≤ config.targetBytes

/-- No deletion but the last leaves such a usage. -/
structure RoundsClear (config : StorageConfig) (st : Storage) : Prop where
  sessions : ∀ n < ((sessionsByStart st.entries).filter StoredSession.prunable).length,
    ¬config.Between (st.withoutSessions
      (((sessionsByStart st.entries).filter StoredSession.prunable).take n)).directorySize
  chunks : ∀ m < (candidates st.chunks).length,
    ¬config.Between ((st.withoutSessions
      ((sessionsByStart st.entries).filter StoredSession.prunable)).withoutChunks
        ((candidates st.chunks).take m)).directorySize

/-- Nothing stands in the way of a quota call above the quota. -/
structure Unhindered (config : StorageConfig) (st : Storage) : Prop where
  readable : SessionsReadable st.entries
  locks : LocksOpen config st
  rounding : RoundsClear config st

/-- Rounding does no harm to a quota that a double holds. -/
theorem roundsClear_of_isDouble (hconfig : config.Valid) (hdouble : IsDouble config.maxStorageBytes)
    (st : Storage) : RoundsClear config st := by
  have hnone : ∀ usage, ¬config.Between usage := by
    rintro usage ⟨hover, htarget⟩
    have := hconfig.targetBytes_le hdouble
    omega
  exact ⟨fun _ _ => hnone _, fun _ _ => hnone _⟩

/-- Nor does it any to a quota from the command line. -/
theorem roundsClear_of_storageSize (hconfig : config.Valid) {parsed : ℚ} {multiplier : ℕ}
    (hparsed : 0 < parsed) (hmultiplier : 0 < multiplier)
    (hquota : config.maxStorageBytes = storageSize parsed multiplier) (st : Storage) :
    RoundsClear config st := by
  apply roundsClear_of_isDouble hconfig
  rw [hquota]
  exact isDouble_storageSize hparsed hmultiplier

/-- A usage above the quota is above the target while something is left to delete. -/
theorem RoundsClear.target_lt (h : RoundsClear config st)
    (hover : config.maxStorageBytes < st.directorySize)
    (hold : (sessionsByStart st.entries).filter StoredSession.prunable ≠ []) :
    config.targetBytes < st.directorySize := by
  have hnot := h.sessions 0 (List.length_pos_iff.2 hold)
  have hnone : st.withoutSessions [] = st := by simp [Storage.withoutSessions]
  rw [List.take_zero, hnone] at hnot
  by_contra hle
  exact hnot ⟨hover, not_lt.1 hle⟩

/-- A first item with a property. -/
theorem exists_first {α : Type*} {items : List α} {p : α → Bool} (h : ¬∀ a ∈ items, p a = false) :
    ∃ before a after, items = before ++ a :: after ∧ (∀ b ∈ before, p b = false) ∧ p a = true := by
  rcases hfind : items.find? p with _ | a
  · refine absurd (fun a ha => ?_) h
    simpa using List.find?_eq_none.1 hfind a ha
  · obtain ⟨ha, before, after, hsplit, hbefore⟩ := List.find?_eq_some_iff_append.1 hfind
    exact ⟨before, a, after, hsplit, fun b hb => by simpa using hbefore b hb, ha⟩

/-- The loop of `_prune_old_sessions_locked`. -/
def pruneLoop (config : StorageConfig) (st : Storage) (sessions : List StoredSession) :
    Pruned QuotaError Storage StoredSession :=
  pruneUntil removeSession (fun st => st.directorySize ≤ config.targetBytes) st sessions

theorem pruneOldSessions_above (hpos : 0 < config.maxStorageBytes)
    (hfits : config.overflows = false) (hover : config.maxStorageBytes < st.directorySize)
    (hread : SessionsReadable st.entries) :
    pruneOldSessions config st =
      ⟨(pruneLoop config st (sessionsByStart st.entries)).gone.map StoredSession.name,
        (pruneLoop config st (sessionsByStart st.entries)).state,
        (pruneLoop config st (sessionsByStart st.entries)).raised⟩ := by
  rw [pruneOldSessions, if_neg (by omega), if_neg (by simp [hfits]), if_neg (by omega),
    sessionDirectories_eq_ok_iff.2 ⟨hread, rfl⟩]
  rfl

/-- What it takes for `_prune_old_sessions_locked` to return. -/
theorem pruneOldSessions_returns (hpos : 0 < config.maxStorageBytes)
    (h : (pruneOldSessions config st).raised = none) :
    config.overflows = false ∧
      (config.maxStorageBytes < st.directorySize → SessionsReadable st.entries) := by
  rw [pruneOldSessions, if_neg (by omega)] at h
  by_cases hfits : config.overflows = true
  · rw [if_pos hfits] at h
    cases h
  · refine ⟨by simpa using hfits, fun hover => ?_⟩
    rw [if_neg hfits, if_neg (by omega)] at h
    rcases hscan : sessionDirectories st.entries with e | sessions
    · rw [hscan] at h
      cases h
    · exact (sessionDirectories_eq_ok_iff.1 hscan).1

/-- The loop over the sessions deletes the oldest that may go, as many as it takes. -/
theorem exists_pruneOldSessions (hpos : 0 < config.maxStorageBytes)
    (hfits : config.overflows = false) (hover : config.maxStorageBytes < st.directorySize)
    (h : Unhindered config st) :
    ∃ n, StopsAt (fun k => (st.withoutSessions
          (((sessionsByStart st.entries).filter StoredSession.prunable).take k)).directorySize)
        config.targetBytes ((sessionsByStart st.entries).filter StoredSession.prunable).length n ∧
      ∃ removed, pruneOldSessions config st = ⟨removed, st.withoutSessions
        (((sessionsByStart st.entries).filter StoredSession.prunable).take n), none⟩ := by
  have htarget := h.rounding.target_lt hover
  have hlocks := h.locks
  rw [LocksOpen] at hlocks
  rw [pruneOldSessions_above hpos hfits hover h.readable]
  generalize sessionsByStart st.entries = sessions at *
  by_cases hopen : ∀ session ∈ sessions, session.unopenable = false
  · obtain ⟨n, hn, hpruned⟩ := exists_pruneUntil_removeSession hopen htarget
    exact ⟨n, hn, _, by rw [pruneLoop, hpruned]⟩
  · obtain ⟨before, session, after, rfl, hbefore, hsession⟩ := exists_first hopen
    obtain ⟨hsome, henough⟩ := hlocks before session after rfl hbefore hsession
    rw [List.filter_append] at htarget ⊢
    have htarget := htarget (List.append_ne_nil_of_left_ne_nil hsome _)
    obtain ⟨n, hn, hpruned⟩ := exists_pruneUntil_removeSession hbefore fun _ => htarget
    have hdone : (st.withoutSessions
        ((before.filter StoredSession.prunable).take n)).directorySize ≤ config.targetBytes := by
      rcases hn.stop with hall | hstop
      · rwa [hall, List.take_length]
      · exact hstop
    have hgone : (before.filter StoredSession.prunable).take n ≠ [] := by
      intro hnil
      have hnone : st.withoutSessions [] = st := by simp [Storage.withoutSessions]
      rw [hnil, hnone] at hdone
      omega
    -- the loop has come to its end before the lock that cannot be opened
    have hraise := pruneUntil_raise (fun st => @removeSession_of_unopenable st _ hsession)
      (congrArg Pruned.raised hpruned) after
    rw [hpruned, if_pos ⟨hgone, by simpa using hdone⟩] at hraise
    have htake : ∀ k ≤ n, (before.filter StoredSession.prunable ++
        (session :: after).filter StoredSession.prunable).take k =
          (before.filter StoredSession.prunable).take k := fun k hk =>
      List.take_append_of_le_length (hk.trans hn.le)
    refine ⟨n, ⟨?_, fun k hk => ?_, .inr ?_⟩, _, by rw [pruneLoop, hraise, htake n le_rfl]⟩
    · rw [List.length_append]
      exact hn.le.trans (Nat.le_add_right _ _)
    · rw [htake k hk.le]
      exact hn.before k hk
    · rw [htake n le_rfl]
      exact hdone

/-- A loop that did not raise came to its end before every lock that cannot be opened. -/
theorem locksOpen_of_raised_eq_none (hpos : 0 < config.maxStorageBytes)
    (hover : config.maxStorageBytes < st.directorySize) (hround : RoundsClear config st)
    (h : (pruneOldSessions config st).raised = none) : LocksOpen config st := by
  intro before session after hsplit hbefore hsession
  obtain ⟨hfits, hread⟩ := pruneOldSessions_returns hpos h
  rw [pruneOldSessions_above hpos hfits hover (hread hover), hsplit] at h
  have htarget : before.filter StoredSession.prunable ≠ [] →
      config.targetBytes < st.directorySize := by
    intro hsome
    refine hround.target_lt hover ?_
    rw [hsplit, List.filter_append]
    exact List.append_ne_nil_of_left_ne_nil hsome _
  obtain ⟨n, hn, hpruned⟩ := exists_pruneUntil_removeSession hbefore htarget
  have hraise := congrArg Pruned.raised (pruneUntil_raise
    (fun st => @removeSession_of_unopenable st _ hsession) (congrArg Pruned.raised hpruned) after)
  rw [hpruned] at hraise
  by_cases hstopped : (before.filter StoredSession.prunable).take n ≠ [] ∧
      (st.withoutSessions ((before.filter StoredSession.prunable).take n)).directorySize ≤
        config.targetBytes
  · refine ⟨fun hnil => hstopped.1 (by rw [hnil, List.take_nil]), le_trans ?_ hstopped.2⟩
    exact directorySize_withoutSessions_le st (List.take_subset _ _)
  · rw [if_neg (by simpa using hstopped)] at hraise
    exact absurd (hraise.symm.trans h) (by simp)

/-! ### The call -/

theorem enforceQuotaLocked_within (hpos : 0 < config.maxStorageBytes)
    (hfits : config.overflows = false) (hwithin : st.directorySize ≤ config.maxStorageBytes) :
    enforceQuotaLocked config st = .ok st.updateUsage := by
  have hchunks : pruneChunks config st = st := if_neg (by omega)
  rw [enforceQuotaLocked, if_neg (by omega), pruneOldSessions, if_neg (by omega),
    if_neg (by simp [hfits]), if_pos hwithin]
  exact congrArg (fun st' => Except.ok (Storage.updateUsage st')) hchunks

/-- Within the quota, a call deletes nothing. -/
theorem enforcesQuota_within (h : st.Inv) (hpos : 0 < config.maxStorageBytes)
    (hfits : config.overflows = false) (hwithin : st.directorySize ≤ config.maxStorageBytes) :
    EnforcesQuota config st := by
  refine ⟨st.updateUsage, enforceQuotaLocked_within hpos hfits hwithin, ?_⟩
  constructor
  · exact fun _ => ⟨rfl, rfl, rfl, rfl⟩
  · intro hover
    omega
  · intro kind item hitem
    exact ⟨(mem_availableChunks.1 (mem_of_mem_newestTwo hitem).1).1, rfl⟩
  · intro i chunk hi _
    exact ⟨hi, rfl⟩
  · intro kind name _
    rfl
  · exact fun chunk hchunk => h.count_ranges hchunk
  · exact .inl hwithin

/-- The call above the quota, once its sessions are deleted. -/
theorem exists_enforceQuotaLocked (h : st.Inv) (hpos : 0 < config.maxStorageBytes)
    {removed : List String} {gone : List StoredSession}
    (hold : pruneOldSessions config st = ⟨removed, st.withoutSessions gone, none⟩)
    (htarget : config.maxStorageBytes < (st.withoutSessions gone).directorySize →
      candidates st.chunks ≠ [] → config.targetBytes < (st.withoutSessions gone).directorySize) :
    ∃ m events, ((st.withoutSessions gone).directorySize ≤ config.maxStorageBytes → m = 0) ∧
      (config.maxStorageBytes < (st.withoutSessions gone).directorySize →
        StopsAt (fun k => ((st.withoutSessions gone).withoutChunks
            ((candidates st.chunks).take k)).directorySize)
          config.targetBytes (candidates st.chunks).length m) ∧
      enforceQuotaLocked config st = .ok (Storage.updateUsage (Storage.withoutChunks
        { st.withoutSessions gone with events := events } ((candidates st.chunks).take m))) := by
  obtain ⟨events, hevents⟩ := exists_reportSessions (st.withoutSessions gone) removed
  have hinv : ((st.withoutSessions gone).reportSessions removed).Inv := by
    rw [hevents]
    exact h.of_files rfl rfl rfl rfl (fun _ _ hstat => hstat) fun _ _ _ hstat => hstat
  have hcall : enforceQuotaLocked config st =
      .ok (pruneChunks config ((st.withoutSessions gone).reportSessions removed)).updateUsage := by
    rw [enforceQuotaLocked, if_neg (by omega), hold]
  rw [hcall, hevents]
  rw [hevents] at hinv
  by_cases hover : config.maxStorageBytes < (st.withoutSessions gone).directorySize
  · obtain ⟨m, hm, hpruned⟩ := exists_pruneChunks hinv hover (htarget hover)
    exact ⟨m, events, fun hwithin => by omega, fun _ => hm, by rw [hpruned]; rfl⟩
  · refine ⟨0, events, fun _ => rfl, fun hover' => absurd hover' hover, ?_⟩
    rw [List.take_zero, withoutChunks_nil, pruneChunks]
    exact congrArg (fun st' => Except.ok (Storage.updateUsage st')) (if_neg hover)

/-- Above the quota, every session that could go has gone. -/
theorem RoundsClear.sessions_gone (h : RoundsClear config st) {n : ℕ}
    (hn : StopsAt (fun k => (st.withoutSessions
        (((sessionsByStart st.entries).filter StoredSession.prunable).take k)).directorySize)
      config.targetBytes ((sessionsByStart st.entries).filter StoredSession.prunable).length n)
    (hrest : config.maxStorageBytes < (st.withoutSessions
      (((sessionsByStart st.entries).filter StoredSession.prunable).take n)).directorySize) :
    n = ((sessionsByStart st.entries).filter StoredSession.prunable).length := by
  rcases hn.stop with hall | hdone
  · exact hall
  · by_contra hlt
    exact h.sessions n (lt_of_le_of_ne hn.le hlt) ⟨hrest, hdone⟩

/-- Above the quota, a usage with a chunk left to delete is above the target. -/
theorem RoundsClear.target_lt_chunks (h : RoundsClear config st) {n m : ℕ}
    (hall : n = ((sessionsByStart st.entries).filter StoredSession.prunable).length)
    (hm : m < (candidates st.chunks).length)
    (hleft : config.maxStorageBytes < ((st.withoutSessions
      (((sessionsByStart st.entries).filter StoredSession.prunable).take n)).withoutChunks
        ((candidates st.chunks).take m)).directorySize) :
    config.targetBytes < ((st.withoutSessions
      (((sessionsByStart st.entries).filter StoredSession.prunable).take n)).withoutChunks
        ((candidates st.chunks).take m)).directorySize := by
  rw [hall, List.take_length] at hleft ⊢
  by_contra hle
  exact h.chunks m hm ⟨hleft, not_lt.1 hle⟩

theorem PrunesFirst.directorySize {after : Storage} {old : List StoredSession}
    {eligible : List (StoredChunk × ℕ)} {n m : ℕ}
    (h : PrunesFirst config st after old eligible n m) :
    after.directorySize =
      ((st.withoutSessions (old.take n)).withoutChunks (eligible.take m)).directorySize := by
  rw [Storage.directorySize, Storage.sessionSize, h.entries, h.files]
  rfl

/-- Behind both loops the quota is met, or nothing is left that may go. -/
theorem PrunesFirst.enough {after : Storage} {n m : ℕ} (hclear : Unhindered config st)
    (h : PrunesFirst config st after ((sessionsByStart st.entries).filter StoredSession.prunable)
      (candidates st.chunks) n m) :
    after.directorySize ≤ config.maxStorageBytes ∨
      (∀ sessions, sessionDirectories after.entries = .ok sessions →
        sessions.filter StoredSession.prunable = []) ∧ candidates after.chunks = [] := by
  rw [h.directorySize]
  by_cases hrest : (st.withoutSessions (((sessionsByStart st.entries).filter
      StoredSession.prunable).take n)).directorySize ≤ config.maxStorageBytes
  · left
    rwa [h.spared hrest, List.take_zero, withoutChunks_nil]
  have hgone := hclear.rounding.sessions_gone h.sessions (not_le.1 hrest)
  have hchunks := h.chunks (not_le.1 hrest)
  refine or_iff_not_imp_left.2 fun habove => ?_
  have hall : m = (candidates st.chunks).length := by
    rcases hchunks.stop with hall | hdone
    · exact hall
    · by_contra hlt
      have htarget := hclear.rounding.target_lt_chunks hgone (lt_of_le_of_ne hchunks.le hlt)
        (not_le.1 habove)
      omega
  constructor
  · intro left hleft
    refine filter_prunable_eq_nil (sessionDirectories_eq_ok_iff.2 ⟨hclear.readable, rfl⟩) ?_
    rw [← hleft, h.entries, hgone, List.take_length]
  · rw [h.marked, hall, List.take_length]
    exact candidates_withoutChunks st

/-- Above the quota, where nothing stands in the way, it deletes the oldest data. -/
theorem enforcesQuota_above (h : st.Inv) (hpos : 0 < config.maxStorageBytes)
    (hfits : config.overflows = false) (hover : config.maxStorageBytes < st.directorySize)
    (hclear : Unhindered config st) : EnforcesQuota config st := by
  have hscan := sessionDirectories_eq_ok_iff.2 ⟨hclear.readable, rfl⟩
  obtain ⟨n, hn, removed, hold⟩ := exists_pruneOldSessions hpos hfits hover hclear
  set old := (sessionsByStart st.entries).filter StoredSession.prunable with hset
  obtain ⟨m, events, hspared, hm, hcall⟩ := exists_enforceQuotaLocked h hpos hold (by
    intro hrest hsome
    have hzero := hclear.rounding.target_lt_chunks (hclear.rounding.sessions_gone hn hrest)
      (List.length_pos_iff.2 hsome)
    rw [List.take_zero, withoutChunks_nil] at hzero
    exact hzero hrest)
  have hinv : (Storage.updateUsage (Storage.withoutChunks
      { st.withoutSessions (old.take n) with events := events }
        ((candidates st.chunks).take m))).Inv := by
    have hleft := inv_enforceQuotaLocked config h
    rwa [hcall] at hleft
  have hprunes : PrunesFirst config st (Storage.updateUsage (Storage.withoutChunks
      { st.withoutSessions (old.take n) with events := events }
        ((candidates st.chunks).take m))) old (candidates st.chunks) n m :=
    ⟨hn, hspared, hm, rfl, rfl, rfl, rfl⟩
  have hspares : ∀ (i : ℕ) (chunk : StoredChunk), st.chunks[i]? = some chunk →
      (chunk, i) ∉ candidates st.chunks → _ := fun i chunk hi hnot =>
    h.chunkLoop.spares m hi hnot
  refine ⟨_, hcall, ?_⟩
  constructor
  · intro hwithin
    omega
  · intro _
    exact ⟨_, n, m, hscan, pairwise_sessionDirectories hscan, pairwise_candidates _, hprunes⟩
  · intro kind item hitem
    -- the newest two of a kind are no candidates
    have hmem := (mem_of_mem_newestTwo hitem).1
    refine hspares item.2 item.1 (mem_availableChunks.1 hmem).1 fun hcandidate => ?_
    exact (mem_candidates_iff.1 hcandidate).2 kind hitem
  · intro i chunk hi hstate
    refine hspares i chunk hi fun hcandidate => ?_
    have havailable := (mem_availableChunks.1 (mem_candidates_iff.1 hcandidate).1).2
    exact (StoredChunk.state_of_available havailable).2 hstate
  · intro kind name hopen
    refine statIn_filter (fun name =>
      decide (name ∉ ((candidates st.chunks).take m).map fun item => item.1.filename)) ?_
    rw [decide_eq_true_eq]
    intro hmem
    obtain ⟨item, hitem, hname⟩ := List.mem_map.1 hmem
    have hchunk := List.mem_of_getElem? (h.chunkLoop.valid item (List.mem_of_mem_take hitem)).1
    exact h.filename_ne_current hopen hchunk hname
  · exact fun chunk hchunk => hinv.count_ranges hchunk
  · exact hprunes.enough hclear

/-- An item is not among those before it. -/
theorem getElem_notMem_take {α : Type*} {items : List α} (h : items.Nodup) {n : ℕ}
    (hn : n < items.length) : items[n] ∉ items.take n := by
  intro hmem
  obtain ⟨k, hk, hsame⟩ := List.getElem_of_mem hmem
  rw [List.length_take] at hk
  rw [List.getElem_take] at hsame
  have hkn := (List.Nodup.getElem_inj_iff h).1 hsame
  omega

/-- A session that was not deleted is found again. -/
theorem filter_prunable_ne_nil {after : Storage} {n : ℕ} (hnames : DistinctNames st.entries)
    (hread : SessionsReadable st.entries)
    (hn : n < ((sessionsByStart st.entries).filter StoredSession.prunable).length)
    (hentries : after.entries = (st.withoutSessions
      (((sessionsByStart st.entries).filter StoredSession.prunable).take n)).entries) :
    ∃ left, sessionDirectories after.entries = .ok left ∧
      left.filter StoredSession.prunable ≠ [] := by
  set old := (sessionsByStart st.entries).filter StoredSession.prunable with hset
  have hread' : SessionsReadable after.entries := by
    intro entry hentry
    rw [hentries] at hentry
    exact hread entry (List.mem_of_mem_filter hentry)
  obtain ⟨hmem, hprunable⟩ := List.mem_filter.1 (List.getElem_mem hn)
  obtain ⟨entry, hentry, hsession⟩ := mem_sessionsByStart_iff.1 hmem
  have hnodup : (old.map StoredSession.name).Nodup :=
    (nodup_sessionsByStart hnames).sublist (List.filter_sublist.map _)
  -- the sessions before it have other names
  have hfresh : entry.name ∉ (old.take n).map StoredSession.name := by
    have hothers := getElem_notMem_take hnodup (n := n) (by rwa [List.length_map])
    rwa [List.getElem_map, LogsEntry.name_of_session hsession, ← List.map_take] at hothers
  refine ⟨_, sessionDirectories_eq_ok_iff.2 ⟨hread', rfl⟩, List.ne_nil_of_mem
    (List.mem_filter.2 ⟨mem_sessionsByStart_iff.2 ⟨entry, ?_, hsession⟩, hprunable⟩)⟩
  rw [hentries]
  exact List.mem_filter.2 ⟨hentry, by simpa using hfresh⟩

/-- Behind a call that does what it is to do, no deletion of a session but the last has left a
usage between the quota and the target. -/
theorem Enforced.sessions_clear {after : Storage} (h : Enforced config st after) {n m : ℕ}
    (hprunes : PrunesFirst config st after
      ((sessionsByStart st.entries).filter StoredSession.prunable) (candidates st.chunks) n m)
    (hnames : DistinctNames st.entries) (hread : SessionsReadable st.entries) {n' : ℕ}
    (hn' : n' < ((sessionsByStart st.entries).filter StoredSession.prunable).length) :
    ¬config.Between (st.withoutSessions
      (((sessionsByStart st.entries).filter StoredSession.prunable).take n')).directorySize := by
  rintro ⟨habove, hbelow⟩
  have hle : n ≤ n' := hprunes.sessions.le_of_usage_le hbelow
  have hn := hle.trans_lt hn'
  obtain ⟨left, hleft, hsome⟩ := filter_prunable_ne_nil hnames hread hn hprunes.entries
  have hrest : config.maxStorageBytes < (st.withoutSessions
      (((sessionsByStart st.entries).filter StoredSession.prunable).take n)).directorySize :=
    habove.trans_le (Int.ofNat_le.2 (directorySize_withoutSessions_le st
      (List.take_subset_take_left _ hle)))
  have htarget := hprunes.sessions.stop.resolve_left hn.ne
  rcases h.enough with hquota | ⟨hnone, -⟩
  · -- the loop over the chunks finds nothing to do
    have hm : m = 0 := by
      by_contra hpos
      have hbefore := (hprunes.chunks hrest).before 0 (Nat.pos_of_ne_zero hpos)
      rw [List.take_zero, withoutChunks_nil] at hbefore
      omega
    rw [hprunes.directorySize, hm, List.take_zero, withoutChunks_nil] at hquota
    omega
  · exact hsome (hnone left hleft)

/-- A call that does what it is to do leaves no usage between the quota and the target. -/
theorem Enforced.roundsClear {after : Storage} (h : Enforced config st after)
    (hover : config.maxStorageBytes < st.directorySize) (hnames : DistinctNames st.entries) :
    RoundsClear config st := by
  obtain ⟨sessions, n, m, hscan, -, -, hprunes⟩ := h.oldest hover
  obtain ⟨hread, rfl⟩ := sessionDirectories_eq_ok_iff.1 hscan
  have hsessions : ∀ n' < ((sessionsByStart st.entries).filter StoredSession.prunable).length, _ :=
    fun n' hn' => h.sessions_clear hprunes hnames hread hn'
  refine ⟨hsessions, ?_⟩
  rintro m' hm' ⟨habove, hbelow⟩
  set old := (sessionsByStart st.entries).filter StoredSession.prunable with hset
  have hall : config.maxStorageBytes < (st.withoutSessions old).directorySize := by
    have hle := directorySize_withoutChunks_le (st.withoutSessions old)
      (List.nil_subset ((candidates st.chunks).take m'))
    rw [withoutChunks_nil] at hle
    omega
  have hn : n = old.length := by
    by_contra hlt
    have htarget := hprunes.sessions.stop.resolve_left hlt
    have hle := directorySize_withoutSessions_le st (List.take_subset n old)
    exact hsessions n (lt_of_le_of_ne hprunes.sessions.le hlt) ⟨by omega, htarget⟩
  have htake : old.take n = old := by rw [hn, List.take_length]
  have hchunks := hprunes.chunks (by rw [htake]; exact hall)
  rw [htake] at hchunks
  have hle : m ≤ m' := hchunks.le_of_usage_le hbelow
  rcases h.enough with hquota | ⟨-, hnone⟩
  · rw [hprunes.directorySize, htake] at hquota
    have hmore := directorySize_withoutChunks_le (st.withoutSessions old)
      (List.take_subset_take_left (candidates st.chunks) hle)
    omega
  · -- the next candidate is a candidate still
    have hdistinct : (candidates st.chunks).Nodup :=
      (pairwise_candidates st.chunks).imp fun hlt heq => absurd (congrArg Prod.snd heq) hlt.ne
    have hcandidate := mem_candidates_withoutChunks (List.getElem_mem (hle.trans_lt hm'))
      (getElem_notMem_take hdistinct (hle.trans_lt hm'))
    rw [← hprunes.marked, hnone] at hcandidate
    cases hcandidate

/-- **A quota call removes the oldest data, only what is needed, and nothing that is protected**,
exactly when a double can hold the quota, and the logs directory is within it or nothing stands in
the way. -/
theorem enforce_quota_iff (hconfig : config.Valid) (hst : st.Reachable) :
    EnforcesQuota config st ↔
      config.overflows = false ∧
        (st.directorySize ≤ config.maxStorageBytes ∨ Unhindered config st) := by
  have hpos := hconfig.quota_pos
  constructor
  · rintro ⟨after, hafter, henforced⟩
    have hraised : (pruneOldSessions config st).raised = none := by
      rw [enforceQuotaLocked, if_neg (by omega)] at hafter
      rcases hraised : (pruneOldSessions config st).raised with _ | e
      · rfl
      · simp [hraised] at hafter
    obtain ⟨hfits, hread⟩ := pruneOldSessions_returns hpos hraised
    refine ⟨hfits, ?_⟩
    by_cases hwithin : st.directorySize ≤ config.maxStorageBytes
    · exact .inl hwithin
    · have hover := not_le.1 hwithin
      have hround := henforced.roundsClear hover hst.distinctNames
      exact .inr ⟨hread hover, locksOpen_of_raised_eq_none hpos hover hround hraised, hround⟩
  · rintro ⟨hfits, hallowed⟩
    by_cases hwithin : st.directorySize ≤ config.maxStorageBytes
    · exact enforcesQuota_within hst.inv hpos hfits hwithin
    · exact enforcesQuota_above hst.inv hpos hfits (not_le.1 hwithin)
        (hallowed.resolve_left hwithin)

end Call

/-- A quota of 100 bytes, with the usual ratio. -/
def smallQuota : StorageConfig where
  maxStorageBytes := 100
  targetStorageRatio := 9 / 10

theorem smallQuota_valid : smallQuota.Valid where
  quota_pos := by decide
  ratio_pos := by norm_num [smallQuota]
  ratio_le := by norm_num [smallQuota]

theorem smallQuota_double : IsDouble smallQuota.maxStorageBytes :=
  isDouble_natCast (n := 100) (by norm_num)

theorem smallQuota_fits : smallQuota.overflows = false := by
  have hround : roundDouble (smallQuota.maxStorageBytes : ℚ) = 100 :=
    roundDouble_of_isDouble (by norm_num [smallQuota]) smallQuota_double
  have hlt : (100 : ℚ) < 2 ^ 1024 :=
    lt_of_lt_of_le (by norm_num) (pow_le_pow_right₀ (by norm_num) (show 7 ≤ 1024 by norm_num))
  rw [StorageConfig.overflows, hround]
  exact decide_eq_false (not_le.2 hlt)

/-- Opens a serial chunk, closes it and compresses it to 40 bytes. -/
def serialChunk (index : ℕ) : List StorageAction :=
  [.openChunk .raw 16, .closeChunk .raw 0 1, .compress index 40]

/-- Two finished sessions, the newer one first. -/
def pastSessions : List LogsEntry :=
  [⟨"newer", .session 2 .completed, .free, 30⟩, ⟨"older", .session 1 .interrupted, .free, 30⟩]

/-- A recorder with four compressed chunks and a current one, beside two sessions that are over. -/
def longSession : Option Storage :=
  exec storageStep (newStorage pastSessions)
    (serialChunk 0 ++ serialChunk 1 ++ serialChunk 2 ++ serialChunk 3 ++ [.openChunk .raw 16])

theorem smallQuota_target : smallQuota.targetBytes = 90 := by
  have hproduct : (smallQuota.maxStorageBytes : ℚ) * smallQuota.targetStorageRatio = (90 : ℕ) := by
    norm_num [smallQuota]
  rw [StorageConfig.targetBytes, roundDouble_of_isDouble (by norm_num [smallQuota]) smallQuota_double,
    hproduct, roundDouble_of_isDouble (by norm_num) (isDouble_natCast (by norm_num)),
    Int.floor_natCast]
  rfl

/-- Two sessions that are over; the lock of the newer one cannot be opened. -/
def lockedOut (bytes : ℕ) : Storage :=
  newStorage [⟨"locked out", .session 2 .completed, .unopenable, bytes⟩,
    ⟨"old", .session 1 .completed, .free, 60⟩]

theorem enforce_quota_longSession :
    (∃ st, longSession = some st ∧ EnforcesQuota smallQuota st) ∧
      EnforcesQuota smallQuota (lockedOut 60) := by
  have hround := roundsClear_of_isDouble smallQuota_valid smallQuota_double
  constructor
  · obtain ⟨st, hst⟩ : ∃ st, longSession = some st := Option.isSome_iff_exists.1 (by decide)
    have hentries : longSession.map Storage.entries = some pastSessions := by decide
    rw [hst, Option.map_some, Option.some.injEq] at hentries
    refine ⟨st, hst, (enforce_quota_iff smallQuota_valid ⟨_, _, by decide, hst⟩).2
      ⟨smallQuota_fits, .inr ⟨?_, ?_, hround st⟩⟩⟩
    · rw [hentries]
      decide
    · intro before session after hsplit _ hsession
      have hnone : ∀ session ∈ sessionsByStart st.entries, session.unopenable = false := by
        rw [hentries]
        decide
      rw [hsplit] at hnone
      rw [hnone session (by simp)] at hsession
      cases hsession
  · have hreachable : (lockedOut 60).Reachable := ⟨_, [], by decide, rfl⟩
    refine (enforce_quota_iff smallQuota_valid hreachable).2
      ⟨smallQuota_fits, .inr ⟨by decide, ?_, hround _⟩⟩
    intro before session after hsplit hbefore hsession
    -- the older session comes first, and is enough
    have hfirst : before = [⟨1, "old", .completed, .free⟩] := by
      have hsessions : sessionsByStart (lockedOut 60).entries =
          [⟨1, "old", .completed, .free⟩, ⟨2, "locked out", .completed, .unopenable⟩] := by decide
      rw [hsessions] at hsplit
      match before, hsplit with
      | [], hsplit =>
        obtain ⟨rfl, -⟩ := List.cons.inj hsplit
        cases hsession
      | [_], hsplit => rw [(List.cons.inj hsplit).1]
      | _ :: _ :: _, hsplit => simp at hsplit
    rw [hfirst, smallQuota_target]
    decide

/-- A session that is over beside a `session.json` that holds a list. -/
def brokenLogs : Storage :=
  newStorage [⟨"broken", .notObject, .free, 60⟩, ⟨"old", .session 1 .completed, .free, 60⟩]

theorem enforce_quota_brokenLogs :
    smallQuota.Valid ∧ (brokenLogs.Reachable ∧ ¬EnforcesQuota smallQuota brokenLogs) ∧
      ((lockedOut 95).Reachable ∧ ¬EnforcesQuota smallQuota (lockedOut 95)) := by
  refine ⟨smallQuota_valid, ⟨⟨_, [], by decide, rfl⟩, ?_⟩, ⟨_, [], by decide, rfl⟩, ?_⟩
  · rintro ⟨after, hafter, -⟩
    have hraised : pruneOldSessions smallQuota brokenLogs =
        ⟨[], brokenLogs, some .attributeError⟩ := by
      rw [pruneOldSessions, if_neg (by decide), if_neg (by simp [smallQuota_fits]),
        if_neg (by decide)]
      rfl
    rw [enforceQuotaLocked, if_neg (by decide), hraised] at hafter
    cases hafter
  · rintro ⟨after, hafter, -⟩
    have hraised : (pruneOldSessions smallQuota (lockedOut 95)).raised = some .osError := by
      rw [pruneOldSessions, if_neg (by decide), if_neg (by simp [smallQuota_fits]),
        if_neg (by decide), smallQuota_target]
      decide
    rw [enforceQuotaLocked, if_neg (by decide)] at hafter
    simp only [hraised] at hafter
    cases hafter

end SilverwareTx.Blackbox
