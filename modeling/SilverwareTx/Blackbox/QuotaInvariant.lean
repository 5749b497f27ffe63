import SilverwareTx.Blackbox.Quota

/-!
# What holds in a recorder's storage

Chunk files carry their numbers, so no two chunks share a file and the current file is no chunk's;
every chunk that is not pruned has its file, and every pruned one its entry in `_pruned_ranges`
(`Storage.Inv`). Every step of a recorder's life keeps this, the quota calls included
(`Storage.Inv.step`).
-/

namespace SilverwareTx.Blackbox

open PruneUntil Transitions

/-! ### Names -/

/-- The name of a chunk's file before compression. -/
def StoredName.base : StoredName → StoredName
  | .chunk name _ => .chunk name false
  | .other name => .other name

@[simp] theorem base_chunkFile (kind : ChunkKind) (i : ℕ) (gz : Bool) :
    (chunkFile kind i gz).base = chunkFile kind i false := by
  cases kind <;> rfl

@[simp] theorem withGz_chunkFile (kind : ChunkKind) (i : ℕ) (gz : Bool) :
    (chunkFile kind i gz).withGz = chunkFile kind i true := by
  cases kind <;> rfl

theorem chunkFile_inj {kind kind' : ChunkKind} {i i' : ℕ} {gz gz' : Bool} :
    chunkFile kind i gz = chunkFile kind' i' gz' ↔ kind = kind' ∧ i = i' ∧ gz = gz' := by
  cases kind <;> cases kind' <;> simp [chunkFile]

theorem chunkFile_ne_other (kind : ChunkKind) (i : ℕ) (gz : Bool) (name : String) :
    chunkFile kind i gz ≠ .other name := by
  cases kind <;> simp [chunkFile]

/-! ### Files -/

section Files

variable {st : Storage} {files : List (StoredName × ℕ)} {name other : StoredName} {bytes : ℕ}

/-- The size of a file in a listing. -/
def statIn (files : List (StoredName × ℕ)) (name : StoredName) : Option ℕ :=
  (files.find? fun file => file.1 = name).map Prod.snd

theorem stat_eq (st : Storage) (name : StoredName) : st.stat name = statIn st.files name := rfl

/-- Removing files leaves the others alone. -/
theorem statIn_filter (keep : StoredName → Bool) (h : keep name = true) :
    statIn (files.filter fun file => keep file.1) name = statIn files name := by
  unfold statIn
  congr 1
  rw [List.find?_filter]
  congr 1
  funext file
  by_cases hname : file.1 = name
  · simp [hname, h]
  · simp [hname]

theorem statIn_filter_ne (h : name ≠ other) :
    statIn (files.filter fun file => file.1 ≠ other) name = statIn files name :=
  statIn_filter (fun name => decide (name ≠ other)) (by simpa using h)

theorem statIn_append (files more : List (StoredName × ℕ)) (name : StoredName) :
    statIn (files ++ more) name = (statIn files name).or (statIn more name) := by
  unfold statIn
  rw [List.find?_append, Option.map_or]

theorem statIn_writeFile_of_ne (h : name ≠ other) :
    statIn (writeFile files other bytes) name = statIn files name := by
  have hnone : statIn [(other, bytes)] name = none := by
    simp [statIn, Ne.symm h]
  rw [writeFile, statIn_append, statIn_filter_ne h, hnone, Option.or_none]

theorem isSome_statIn_writeFile : (statIn (writeFile files name bytes) name).isSome = true := by
  rw [writeFile, statIn_append]
  simp [statIn]

end Files

/-! ### The invariant -/

/-- The files of a chunk carry its kind and number. -/
structure StoredChunk.Named (index : ChunkKind → ℕ) (chunk : StoredChunk) : Prop where
  name : ∃ i ≤ index chunk.kind, chunk.name = chunkFile chunk.kind i false
  filename : chunk.filename.base = chunk.name
  marked : chunk.pruned = true ↔ chunk.state = .pruned
  compressing : chunk.state = .compressing → chunk.compressedName = none

/-- The chunks of the session, the files on disk and the ranges of the pruned ones agree. -/
structure Storage.Inv (st : Storage) : Prop where
  named : ∀ chunk ∈ st.chunks, chunk.Named st.index
  distinct : (st.chunks.map StoredChunk.name).Nodup
  current : ∀ kind name, st.path kind = some name →
    name = chunkFile kind (st.index kind) false ∧ (statIn st.files name).isSome = true ∧
      name ∉ st.chunks.map StoredChunk.name
  present : ∀ chunk ∈ st.chunks, chunk.pruned = false →
    (statIn st.files chunk.filename).isSome = true
  ranges : (st.prunedRanges.map PrunedRange.name).Perm
    ((st.chunks.filter StoredChunk.pruned).map StoredChunk.filename)

section Inv

variable {st : Storage} {chunk : StoredChunk} {kind : ChunkKind} {name : StoredName}

/-- A chunk's file is no chunk file of a number that is not given out yet. -/
theorem StoredChunk.Named.filename_ne {index : ChunkKind → ℕ} (h : chunk.Named index) {i : ℕ}
    (hi : index kind < i) (gz : Bool) : chunk.filename ≠ chunkFile kind i gz := by
  intro heq
  obtain ⟨j, hj, hname⟩ := h.name
  have hbase := h.filename
  rw [heq, base_chunkFile, hname, chunkFile_inj] at hbase
  obtain ⟨rfl, rfl, -⟩ := hbase
  omega

theorem StoredChunk.Named.filename_ne_other {index : ChunkKind → ℕ} (h : chunk.Named index)
    (name : String) : chunk.filename ≠ .other name := by
  intro heq
  obtain ⟨j, -, hname⟩ := h.name
  have hbase := h.filename
  rw [heq, hname] at hbase
  exact chunkFile_ne_other _ _ _ _ hbase.symm

theorem StoredChunk.Named.base_name {index : ChunkKind → ℕ} (h : chunk.Named index) :
    chunk.name.base = chunk.name := by
  obtain ⟨i, -, hname⟩ := h.name
  rw [hname, base_chunkFile]

theorem StoredChunk.Named.base_withGz {index : ChunkKind → ℕ} (h : chunk.Named index) :
    chunk.name.withGz.base = chunk.name := by
  obtain ⟨i, -, hname⟩ := h.name
  rw [hname, withGz_chunkFile, base_chunkFile]

theorem StoredChunk.Named.mono {index index' : ChunkKind → ℕ} (h : chunk.Named index)
    (hle : ∀ kind, index kind ≤ index' kind) : chunk.Named index' := by
  obtain ⟨i, hi, hname⟩ := h.name
  exact ⟨⟨i, hi.trans (hle _), hname⟩, h.filename, h.marked, h.compressing⟩

/-- The current file is no chunk's file. -/
theorem Storage.Inv.filename_ne_current (h : st.Inv) (hpath : st.path kind = some name)
    (hchunk : chunk ∈ st.chunks) : chunk.filename ≠ name := by
  intro heq
  obtain ⟨hname, -, hnot⟩ := h.current kind name hpath
  have hbase := (h.named chunk hchunk).filename
  rw [heq, hname, base_chunkFile] at hbase
  exact hnot (List.mem_map.2 ⟨chunk, hchunk, by rw [← hbase, hname]⟩)

/-- No two chunks share a file. -/
theorem Storage.Inv.nodup_filename (h : st.Inv) : (st.chunks.map StoredChunk.filename).Nodup := by
  have hbase : (st.chunks.map StoredChunk.filename).map StoredName.base =
      st.chunks.map StoredChunk.name := by
    rw [List.map_map]
    exact List.map_congr_left fun chunk hchunk => (h.named chunk hchunk).filename
  exact List.Nodup.of_map _ (by rw [hbase]; exact h.distinct)

theorem Storage.Inv.index_eq (h : st.Inv) {i j : ℕ} {other : StoredChunk}
    (hi : st.chunks[i]? = some chunk) (hj : st.chunks[j]? = some other)
    (heq : chunk.filename = other.filename) : i = j := by
  have hfiles : (st.chunks.map StoredChunk.filename)[i]? =
      (st.chunks.map StoredChunk.filename)[j]? := by
    rw [List.getElem?_map, List.getElem?_map, hi, hj, Option.map_some, Option.map_some, heq]
  have hlt : i < (st.chunks.map StoredChunk.filename).length := by
    rw [List.length_map]
    exact (List.getElem?_eq_some_iff.1 hi).1
  exact (List.getElem?_inj hlt h.nodup_filename).1 hfiles

/-- The invariant looks at the files of unpruned chunks and the current files only. -/
theorem Storage.Inv.of_files (h : st.Inv) {st' : Storage} (hindex : st'.index = st.index)
    (hpath : st'.path = st.path) (hchunks : st'.chunks = st.chunks)
    (hranges : st'.prunedRanges = st.prunedRanges)
    (hfiles : ∀ chunk ∈ st.chunks, (statIn st.files chunk.filename).isSome = true →
      (statIn st'.files chunk.filename).isSome = true)
    (hcurrent : ∀ kind name, st.path kind = some name → (statIn st.files name).isSome = true →
      (statIn st'.files name).isSome = true) : st'.Inv := by
  refine ⟨?_, ?_, ?_, ?_, ?_⟩
  · rw [hchunks, hindex]
    exact h.named
  · rw [hchunks]
    exact h.distinct
  · rw [hpath, hindex, hchunks]
    intro kind name hopen
    obtain ⟨hname, hstat, hnot⟩ := h.current kind name hopen
    exact ⟨hname, hcurrent kind name hopen hstat, hnot⟩
  · rw [hchunks]
    intro chunk hchunk hpruned
    exact hfiles chunk hchunk (h.present chunk hchunk hpruned)
  · rw [hranges, hchunks]
    exact h.ranges

end Inv

/-! ### Steps -/

section Steps

variable {st : Storage}

theorem inv_newStorage (entries : List LogsEntry) : (newStorage entries).Inv where
  named := by simp [newStorage]
  distinct := by simp [newStorage]
  current := by simp [newStorage]
  present := by simp [newStorage]
  ranges := by simp [newStorage]

theorem Storage.Inv.openChunk (h : st.Inv) {kind : ChunkKind} (hclosed : st.path kind = none)
    (bytes : ℕ) :
    Storage.Inv { st with
      index := Function.update st.index kind (st.index kind + 1)
      path := Function.update st.path kind (some (chunkFile kind (st.index kind + 1) false))
      files := writeFile st.files (chunkFile kind (st.index kind + 1) false) bytes } := by
  have hmono : ∀ k, st.index k ≤ Function.update st.index kind (st.index kind + 1) k := by
    intro k
    by_cases hk : k = kind
    · subst hk
      simp
    · rw [Function.update_of_ne hk]
  have hfresh : ∀ chunk ∈ st.chunks, ∀ gz,
      chunk.filename ≠ chunkFile kind (st.index kind + 1) gz := fun chunk hchunk gz =>
    (h.named chunk hchunk).filename_ne (Nat.lt_succ_self _) gz
  constructor
  · intro chunk hchunk
    exact (h.named chunk hchunk).mono hmono
  · exact h.distinct
  · intro k name hname
    dsimp only at hname ⊢
    by_cases hk : k = kind
    · subst hk
      rw [Function.update_self] at hname ⊢
      obtain rfl := Option.some.inj hname
      refine ⟨rfl, isSome_statIn_writeFile, fun hmem => ?_⟩
      obtain ⟨chunk, hchunk, heq⟩ := List.mem_map.1 hmem
      -- a listed chunk of this name would have an index beyond the last one given out
      obtain ⟨i, hi, hi'⟩ := (h.named chunk hchunk).name
      rw [heq, chunkFile_inj] at hi'
      obtain ⟨hkind, rfl, -⟩ := hi'
      rw [← hkind] at hi
      omega
    · rw [Function.update_of_ne hk] at hname ⊢
      obtain ⟨hfile, hstat, hnot⟩ := h.current k name hname
      refine ⟨hfile, ?_, hnot⟩
      rw [statIn_writeFile_of_ne]
      · exact hstat
      · rw [hfile, Ne, chunkFile_inj]
        exact fun hsame => hk hsame.1
  · intro chunk hchunk hpruned
    dsimp only
    rw [statIn_writeFile_of_ne (hfresh chunk hchunk false)]
    exact h.present chunk hchunk hpruned
  · exact h.ranges

theorem Storage.Inv.closeChunk (h : st.Inv) {kind : ChunkKind} {name : StoredName}
    (hopen : st.path kind = some name) (startElapsedNs endElapsedNs : ℤ) :
    Storage.Inv { st with
      path := Function.update st.path kind none
      chunks := st.chunks ++ [{ kind, name, startElapsedNs, endElapsedNs }] } := by
  obtain ⟨hname, hstat, hnot⟩ := h.current kind name hopen
  constructor
  · intro chunk hchunk
    rcases List.mem_append.1 hchunk with hchunk | hchunk
    · exact h.named chunk hchunk
    · obtain rfl := List.mem_singleton.1 hchunk
      refine ⟨⟨st.index kind, le_rfl, hname⟩, ?_, by simp, by simp⟩
      rw [StoredChunk.filename, Option.getD_none, hname, base_chunkFile]
  · rw [List.map_append, List.map_singleton, List.nodup_append]
    refine ⟨h.distinct, List.nodup_singleton _, fun a ha b hb => ?_⟩
    rw [List.mem_singleton] at hb
    rw [hb]
    rintro rfl
    exact hnot ha
  · intro k other hother
    dsimp only at hother
    by_cases hk : k = kind
    · subst hk
      rw [Function.update_self] at hother
      cases hother
    · rw [Function.update_of_ne hk] at hother
      obtain ⟨hfile, hstat', hnot'⟩ := h.current k other hother
      refine ⟨hfile, hstat', fun hmem => ?_⟩
      rw [List.map_append, List.mem_append, List.map_singleton, List.mem_singleton] at hmem
      rcases hmem with hmem | heq
      · exact hnot' hmem
      · rw [hfile, hname, chunkFile_inj] at heq
        exact hk heq.1
  · intro chunk hchunk hpruned
    rcases List.mem_append.1 hchunk with hchunk | hchunk
    · exact h.present chunk hchunk hpruned
    · obtain rfl := List.mem_singleton.1 hchunk
      exact hstat
  · rw [List.filter_append]
    simpa using h.ranges

/-- A chunk between the others of its list. -/
theorem exists_split_modify {α : Type*} {chunks : List α} {i : ℕ} {chunk : α}
    (h : chunks[i]? = some chunk) :
    ∃ before after, chunks = before ++ chunk :: after ∧
      ∀ f, chunks.modify i f = before ++ f chunk :: after := by
  induction chunks generalizing i with
  | nil => cases h
  | cons head chunks ih =>
    cases i with
    | zero =>
      obtain rfl := Option.some.inj h
      exact ⟨[], chunks, rfl, fun f => rfl⟩
    | succ i =>
      obtain ⟨before, after, hchunks, hmodify⟩ := ih h
      refine ⟨head :: before, after, by rw [hchunks]; rfl, fun f => ?_⟩
      rw [List.modify_succ_cons, hmodify]
      rfl

/-- What a change of one chunk that is not pruned must keep. -/
theorem Storage.Inv.modifyChunk (h : st.Inv) {i : ℕ} {chunk : StoredChunk}
    (hi : st.chunks[i]? = some chunk) (hunpruned : chunk.pruned = false)
    {f : StoredChunk → StoredChunk} (hname : (f chunk).name = chunk.name)
    (hnamed : (f chunk).Named st.index) {st' : Storage} (hindex : st'.index = st.index)
    (hpath : st'.path = st.path) (hchunks : st'.chunks = st.chunks.modify i f)
    (hfile : (f chunk).pruned = false → (statIn st'.files (f chunk).filename).isSome = true)
    (hfiles : ∀ name : StoredName, name.base ≠ chunk.name →
      statIn st'.files name = statIn st.files name)
    (hranges : st'.prunedRanges.map PrunedRange.name = st.prunedRanges.map PrunedRange.name ++
      if (f chunk).pruned then [(f chunk).filename] else []) : st'.Inv := by
  obtain ⟨before, after, hsplit, hmodify⟩ := exists_split_modify hi
  have hmem : chunk ∈ st.chunks := List.mem_of_getElem? hi
  have hnames : st'.chunks.map StoredChunk.name = st.chunks.map StoredChunk.name := by
    rw [hchunks, hmodify, hsplit]
    simp [hname]
  have hdistinct := h.distinct
  rw [hsplit, List.map_append, List.map_cons, List.nodup_middle, List.nodup_cons] at hdistinct
  -- the names are distinct, so no other chunk loses its file
  have hother : ∀ other, other ∈ before ++ after → other ∈ st.chunks ∧ other.name ≠ chunk.name := by
    intro other hmem'
    constructor
    · rw [hsplit]
      simp only [List.mem_append, List.mem_cons] at hmem' ⊢
      tauto
    · intro heq
      refine hdistinct.1 ?_
      rw [← heq, ← List.map_append]
      exact List.mem_map_of_mem hmem'
  have hcases : ∀ other ∈ st'.chunks, other = f chunk ∨ other ∈ before ++ after := by
    intro other hmem'
    rw [hchunks, hmodify, List.mem_append, List.mem_cons] at hmem'
    rw [List.mem_append]
    tauto
  constructor
  · intro other hmem'
    rw [hindex]
    rcases hcases other hmem' with rfl | hmem'
    · exact hnamed
    · exact h.named other (hother other hmem').1
  · rw [hnames]
    exact h.distinct
  · rw [hpath, hindex, hnames]
    intro kind name hopen
    obtain ⟨hcurrent, hstat, hnot⟩ := h.current kind name hopen
    refine ⟨hcurrent, ?_, hnot⟩
    rw [hfiles]
    · exact hstat
    · rw [hcurrent, base_chunkFile, ← hcurrent]
      rintro rfl
      exact hnot (List.mem_map_of_mem hmem)
  · intro other hmem' hpruned
    rcases hcases other hmem' with rfl | hmem'
    · exact hfile hpruned
    · obtain ⟨hmem'', hne⟩ := hother other hmem'
      rw [hfiles]
      · exact h.present other hmem'' hpruned
      · rw [(h.named other hmem'').filename]
        exact hne
  · have hperm := h.ranges
    rw [hsplit, List.filter_append, List.filter_cons_of_neg (by simpa using hunpruned)] at hperm
    rw [hranges, hchunks, hmodify, List.filter_append, List.filter_cons]
    by_cases hp : (f chunk).pruned = true
    · rw [if_pos hp, if_pos hp, List.map_append, List.map_cons]
      refine (hperm.append_right _).trans ?_
      rw [List.map_append, List.append_assoc]
      exact List.Perm.append_left _ (List.perm_append_singleton _ _)
    · rw [if_neg hp, if_neg hp, List.append_nil]
      exact hperm

theorem StoredChunk.Named.not_pruned {index : ChunkKind → ℕ} {chunk : StoredChunk}
    (h : chunk.Named index) (hstate : chunk.state ≠ .pruned) : chunk.pruned = false := by
  rw [← Bool.not_eq_true]
  exact fun hpruned => hstate (h.marked.1 hpruned)

theorem Storage.Inv.compress (h : st.Inv) {i : ℕ} {chunk : StoredChunk}
    (hi : st.chunks[i]? = some chunk) (hstate : chunk.state = .compressing) (bytes : ℕ) :
    Storage.Inv { st with
      files := (writeFile st.files chunk.name.withGz bytes).filter fun file =>
        file.1 ≠ chunk.name
      chunks := st.chunks.modify i fun chunk' =>
        { chunk' with state := .compressed, compressedName := some chunk.name.withGz } } := by
  have hnamed := h.named chunk (List.mem_of_getElem? hi)
  have hunpruned : chunk.pruned = false := hnamed.not_pruned (by simp [hstate])
  have hne : chunk.name.withGz ≠ chunk.name := by
    obtain ⟨j, -, hname⟩ := hnamed.name
    rw [hname, withGz_chunkFile, Ne, chunkFile_inj]
    simp
  refine h.modifyChunk hi hunpruned rfl ?_ rfl rfl rfl ?_ ?_ ?_
  · exact ⟨hnamed.name, hnamed.base_withGz, by simp [hunpruned], by simp⟩
  · intro _
    have hfilename : statIn ((writeFile st.files chunk.name.withGz bytes).filter fun file =>
        file.1 ≠ chunk.name) chunk.name.withGz =
          statIn (writeFile st.files chunk.name.withGz bytes) chunk.name.withGz :=
      statIn_filter_ne hne
    exact (congrArg Option.isSome hfilename).trans isSome_statIn_writeFile
  · intro name hname
    have hname' : name ≠ chunk.name := by
      rintro rfl
      exact hname hnamed.base_name
    have hgz : name ≠ chunk.name.withGz := by
      rintro rfl
      exact hname hnamed.base_withGz
    exact (statIn_filter_ne hname').trans (statIn_writeFile_of_ne hgz)
  · simp [hunpruned]

theorem Storage.Inv.failCompression (h : st.Inv) {i : ℕ} {chunk : StoredChunk}
    (hi : st.chunks[i]? = some chunk) (hstate : chunk.state = .compressing) (leftover : Option ℕ) :
    Storage.Inv { st with
      files := leftover.elim st.files (writeFile st.files chunk.name.withGz)
      chunks := st.chunks.modify i fun chunk => { chunk with state := .compressionFailed } } := by
  have hmem := List.mem_of_getElem? hi
  have hnamed := h.named chunk hmem
  have hunpruned : chunk.pruned = false := hnamed.not_pruned (by simp [hstate])
  have hfilename : chunk.filename = chunk.name := by
    rw [StoredChunk.filename, hnamed.compressing hstate, Option.getD_none]
  have hfiles : ∀ name : StoredName, name ≠ chunk.name.withGz →
      statIn (leftover.elim st.files (writeFile st.files chunk.name.withGz)) name =
        statIn st.files name := by
    intro name hname
    rcases leftover with _ | bytes
    · rfl
    · exact statIn_writeFile_of_ne hname
  refine h.modifyChunk hi hunpruned rfl ?_ rfl rfl rfl ?_ ?_ ?_
  · exact ⟨hnamed.name, hnamed.filename, by simp [hunpruned], by simp⟩
  · intro _
    have hsource : chunk.filename ≠ chunk.name.withGz := by
      obtain ⟨j, -, hname⟩ := hnamed.name
      rw [hfilename, hname, withGz_chunkFile, Ne, chunkFile_inj]
      simp
    exact (congrArg Option.isSome (hfiles _ hsource)).trans (h.present chunk hmem hunpruned)
  · intro name hname
    refine hfiles name ?_
    rintro rfl
    exact hname hnamed.base_withGz
  · simp [hunpruned]

theorem StoredChunk.state_of_available {chunk : StoredChunk} (h : chunk.available = true) :
    chunk.pruned = false ∧ chunk.state ≠ .compressing := by
  simp only [StoredChunk.available, Bool.and_eq_true, Bool.or_eq_true, decide_eq_true_eq,
    Bool.not_eq_true'] at h
  refine ⟨h.2, fun hstate => ?_⟩
  simp [hstate] at h

/-- A candidate's file is there, so it is deleted. -/
theorem Storage.Inv.prune_candidate (h : st.Inv) {item : StoredChunk × ℕ}
    (hi : st.chunks[item.2]? = some item.1) (havailable : item.1.available = true) :
    ∃ st', pruneChunk st item = .ok (some st') ∧ st'.Inv := by
  have hmem := List.mem_of_getElem? hi
  have hnamed := h.named item.1 hmem
  have hunpruned := (StoredChunk.state_of_available havailable).1
  obtain ⟨size, hsize⟩ := Option.isSome_iff_exists.1 (h.present item.1 hmem hunpruned)
  refine ⟨_, by rw [pruneChunk, stat_eq, hsize]; rfl, ?_⟩
  refine h.modifyChunk hi hunpruned rfl ?_ rfl rfl rfl ?_ ?_ ?_
  · exact ⟨hnamed.name, hnamed.filename, by simp [StoredChunk.markPruned],
      by simp [StoredChunk.markPruned]⟩
  · simp [StoredChunk.markPruned]
  · intro name hname
    refine statIn_filter_ne ?_
    rintro rfl
    exact hname hnamed.filename
  · simp [StoredChunk.markPruned, StoredChunk.prunedRange, StoredChunk.filename]

end Steps

/-! ### The loop over the chunks -/

/-- Before the loop over `items`: they are available chunks at their indices. -/
structure ChunkLoop (st : Storage) (items : List (StoredChunk × ℕ)) : Prop where
  inv : st.Inv
  valid : ∀ item ∈ items, st.chunks[item.2]? = some item.1 ∧ item.1.available = true
  distinct : (items.map Prod.snd).Nodup

theorem pruneChunk_chunks {st st' : Storage} {item : StoredChunk × ℕ}
    (h : pruneChunk st item = .ok (some st')) :
    st'.chunks = st.chunks.modify item.2 StoredChunk.markPruned := by
  obtain ⟨size, -, rfl⟩ := Option.map_eq_some_iff.1 (Except.ok.inj h)
  rfl

theorem ChunkLoop.step {st : Storage} {item : StoredChunk × ℕ} {items : List (StoredChunk × ℕ)}
    (h : ChunkLoop st (item :: items)) :
    ∃ st', pruneChunk st item = .ok (some st') ∧ ChunkLoop st' items := by
  obtain ⟨hi, havailable⟩ := h.valid item List.mem_cons_self
  obtain ⟨st', hst', hinv⟩ := h.inv.prune_candidate hi havailable
  have hdistinct := h.distinct
  rw [List.map_cons, List.nodup_cons] at hdistinct
  refine ⟨st', hst', hinv, fun other hother => ?_, hdistinct.2⟩
  have hne : item.2 ≠ other.2 := by
    intro heq
    exact hdistinct.1 (heq ▸ List.mem_map_of_mem hother)
  have hkept : st'.chunks[other.2]? = st.chunks[other.2]? := by
    rw [pruneChunk_chunks hst', List.getElem?_modify]
    simp [hne]
  rw [hkept]
  exact h.valid other (List.mem_cons_of_mem _ hother)

theorem ChunkLoop.deleteAll {st : Storage} {items : List (StoredChunk × ℕ)} (h : ChunkLoop st items)
    (n : ℕ) : ChunkLoop (deleteAll pruneChunk st (items.take n)) (items.drop n) := by
  induction items generalizing st n with
  | nil => simpa using h
  | cons item items ih =>
    cases n with
    | zero => exact h
    | succ n =>
      obtain ⟨st', hst', hloop⟩ := h.step
      rw [List.take_succ_cons, deleteAll_cons hst', List.drop_succ_cons]
      exact ih hloop n

theorem mem_availableChunks {chunks : List StoredChunk} {item : StoredChunk × ℕ} :
    item ∈ availableChunks chunks ↔ chunks[item.2]? = some item.1 ∧ item.1.available = true := by
  rw [availableChunks, List.mem_filter, List.mem_zipIdx_iff_getElem?]

theorem pairwise_zipIdx (chunks : List StoredChunk) (k : ℕ) :
    (chunks.zipIdx k).Pairwise fun a b => a.2 < b.2 := by
  induction chunks generalizing k with
  | nil => simp
  | cons chunk chunks ih =>
    rw [List.zipIdx_cons, List.pairwise_cons]
    refine ⟨fun item hitem => ?_, ih _⟩
    have := List.le_snd_of_mem_zipIdx hitem
    omega

/-- The candidates stand in the order of their indices. -/
theorem pairwise_candidates (chunks : List StoredChunk) :
    (candidates chunks).Pairwise fun a b => a.2 < b.2 :=
  ((pairwise_zipIdx chunks 0).filter _).filter _

theorem Storage.Inv.chunkLoop {st : Storage} (h : st.Inv) :
    ChunkLoop st (candidates st.chunks) where
  inv := h
  valid := fun _ hitem => mem_availableChunks.1 (List.mem_of_mem_filter hitem)
  distinct := (List.pairwise_map.2 ((pairwise_candidates st.chunks).imp fun hlt => hlt.ne))

/-! ### Quota calls -/

theorem inv_updateUsage {st : Storage} (h : st.Inv) : st.updateUsage.Inv :=
  h.of_files rfl rfl rfl rfl (fun _ _ hstat => hstat) fun _ _ _ hstat => hstat

/-- Some entries of the logs directory are gone, and nothing else is changed. -/
def Storage.LosesEntries (st after : Storage) : Prop :=
  ∃ entries, entries.Sublist st.entries ∧ after = { st with entries := entries }

theorem Storage.LosesEntries.refl (st : Storage) : st.LosesEntries st :=
  ⟨st.entries, List.Sublist.refl _, rfl⟩

theorem Storage.LosesEntries.removeSession {st st' st'' : Storage} {session : StoredSession}
    (h : st.LosesEntries st') (hremove : removeSession st' session = .ok (some st'')) :
    st.LosesEntries st'' := by
  obtain ⟨entries, hsub, rfl⟩ := h
  rw [Blackbox.removeSession] at hremove
  by_cases hfinished : session.finished = true
  · rw [if_pos hfinished] at hremove
    cases hlock : session.lock with
    | free =>
      rw [hlock] at hremove
      obtain rfl := Option.some.inj (Except.ok.inj hremove)
      exact ⟨_, List.filter_sublist.trans hsub, rfl⟩
    | held =>
      rw [hlock] at hremove
      cases hremove
    | unopenable =>
      rw [hlock] at hremove
      cases hremove
  · rw [if_neg hfinished] at hremove
    cases hremove

/-- The loop over the sessions removes entries, also where it raises. -/
theorem losesEntries_pruneOldSessions (config : StorageConfig) (st : Storage) :
    st.LosesEntries (pruneOldSessions config st).state := by
  rw [pruneOldSessions]
  split_ifs
  · exact .refl st
  · exact .refl st
  · exact .refl st
  · rcases sessionDirectories st.entries with e | sessions
    · exact .refl st
    · exact @pruneUntil_invariant _ _ _ removeSession (fun st' _ => st.LosesEntries st')
        st.LosesEntries (fun _ _ h => h) (fun _ _ _ h _ => h)
        (fun _ _ _ h _ hremove => h.removeSession hremove) _ _ _ (.refl st)

theorem inv_pruneOldSessions {st : Storage} (config : StorageConfig) (h : st.Inv) :
    (pruneOldSessions config st).state.Inv := by
  obtain ⟨entries, -, hstate⟩ := losesEntries_pruneOldSessions config st
  rw [hstate]
  exact h.of_files rfl rfl rfl rfl (fun _ _ hstat => hstat) fun _ _ _ hstat => hstat

theorem inv_pruneChunks {st : Storage} (config : StorageConfig) (h : st.Inv) :
    (pruneChunks config st).Inv := by
  rw [pruneChunks]
  split_ifs
  · refine @pruneUntil_invariant _ _ _ pruneChunk ChunkLoop Storage.Inv
      (fun _ _ hloop => hloop.inv) ?_ ?_ _ _ _ h.chunkLoop
    · intro st item items hloop hnone
      obtain ⟨st', hst', -⟩ := hloop.step
      rw [hnone] at hst'
      cases hst'
    · intro st item items hloop st' hst'
      obtain ⟨st'', hst'', hnext⟩ := hloop.step
      obtain rfl := Option.some.inj (Except.ok.inj (hst'.symm.trans hst''))
      exact hnext
  · exact h

/-- The loop over the chunks leaves the entries. -/
theorem entries_pruneChunks (config : StorageConfig) (st : Storage) :
    (pruneChunks config st).entries = st.entries := by
  rw [pruneChunks]
  split_ifs
  · refine @pruneUntil_invariant _ _ _ pruneChunk (fun st' _ => st'.entries = st.entries)
      (fun st' => st'.entries = st.entries) (fun _ _ h => h) (fun _ _ _ h _ => h) ?_ _ _ _ rfl
    intro st' item items h st'' hst''
    obtain ⟨size, -, rfl⟩ := Option.map_eq_some_iff.1 (Except.ok.inj hst'')
    exact h
  · rfl

/-- What a quota call leaves, whether it returns or raises. -/
def quotaOutcome : Except (QuotaError × Storage) Storage → Storage
  | .ok st => st
  | .error (_, st) => st

theorem quotaOutcome_enforceQuotaLocked (config : StorageConfig) (st : Storage) :
    quotaOutcome (enforceQuotaLocked config st) =
      if config.maxStorageBytes ≤ 0 then st.updateUsage
      else if (pruneOldSessions config st).raised.isSome then (pruneOldSessions config st).state
      else (pruneChunks config ((pruneOldSessions config st).state.reportSessions
        (pruneOldSessions config st).gone)).updateUsage := by
  rw [enforceQuotaLocked]
  split_ifs with hoff hraised
  · rfl
  · obtain ⟨e, he⟩ := Option.isSome_iff_exists.1 hraised
    simp only [he, quotaOutcome]
  · rw [Bool.not_eq_true, Option.isSome_eq_false_iff, Option.isNone_iff_eq_none] at hraised
    simp only [hraised, quotaOutcome]

theorem inv_enforceQuotaLocked {st : Storage} (config : StorageConfig) (h : st.Inv) :
    (quotaOutcome (enforceQuotaLocked config st)).Inv := by
  have hold := inv_pruneOldSessions config h
  rw [quotaOutcome_enforceQuotaLocked]
  split_ifs
  · exact inv_updateUsage h
  · exact hold
  · refine inv_updateUsage (inv_pruneChunks config ?_)
    rw [Storage.reportSessions]
    split_ifs
    · exact hold.of_files rfl rfl rfl rfl (fun _ _ hstat => hstat) fun _ _ _ hstat => hstat
    · exact hold

theorem entries_enforceQuotaLocked (config : StorageConfig) (st : Storage) :
    (quotaOutcome (enforceQuotaLocked config st)).entries.Sublist st.entries := by
  obtain ⟨entries, hsub, hstate⟩ := losesEntries_pruneOldSessions config st
  rw [quotaOutcome_enforceQuotaLocked, hstate]
  split_ifs
  · exact List.Sublist.refl _
  · exact hsub
  · change (pruneChunks config _).entries.Sublist _
    rw [entries_pruneChunks, Storage.reportSessions]
    split_ifs
    · exact hsub
    · exact hsub

theorem storageStep_enforceQuota (config : StorageConfig) (st : Storage) :
    storageStep st (.enforceQuota config) = some (quotaOutcome (enforceQuotaLocked config st)) := by
  rw [storageStep]
  rcases enforceQuotaLocked config st with ⟨e, after⟩ | after
  · rfl
  · rfl

/-! ### Lives -/

/-- **Every step of a recorder's life keeps the invariant.** -/
theorem Storage.Inv.step {st st' : Storage} {action : StorageAction} (h : st.Inv)
    (hstep : storageStep st action = some st') : st'.Inv := by
  cases action with
  | openChunk kind bytes =>
    rw [storageStep] at hstep
    split_ifs at hstep with hclosed
    obtain rfl := Option.some.inj hstep
    exact h.openChunk hclosed bytes
  | closeChunk kind startElapsedNs endElapsedNs =>
    obtain ⟨name, hopen, rfl⟩ := Option.map_eq_some_iff.1 hstep
    exact h.closeChunk hopen startElapsedNs endElapsedNs
  | compress index bytes =>
    obtain ⟨chunk, hchunk, hcompress⟩ := Option.bind_eq_some_iff.1 hstep
    split_ifs at hcompress with hstate
    obtain rfl := Option.some.inj hcompress
    exact h.compress hchunk hstate bytes
  | failCompression index leftover =>
    obtain ⟨chunk, hchunk, hfail⟩ := Option.bind_eq_some_iff.1 hstep
    split_ifs at hfail with hstate
    obtain rfl := Option.some.inj hfail
    exact h.failCompression hchunk hstate leftover
  | grow kind bytes =>
    obtain ⟨name, hopen, rfl⟩ := Option.map_eq_some_iff.1 hstep
    refine h.of_files rfl rfl rfl rfl (fun chunk hchunk hstat => ?_) fun k other hother hstat => ?_
    · exact (congrArg Option.isSome
        (statIn_writeFile_of_ne (h.filename_ne_current hopen hchunk))).trans hstat
    · by_cases hsame : other = name
      · subst hsame
        exact isSome_statIn_writeFile
      · exact (congrArg Option.isSome (statIn_writeFile_of_ne hsame)).trans hstat
  | writeOther name bytes =>
    obtain rfl := Option.some.inj hstep
    refine h.of_files rfl rfl rfl rfl (fun chunk hchunk hstat => ?_) fun k other hother hstat => ?_
    · exact (congrArg Option.isSome
        (statIn_writeFile_of_ne ((h.named chunk hchunk).filename_ne_other name))).trans hstat
    · have hne : other ≠ .other name := by
        rw [(h.current k other hother).1]
        exact chunkFile_ne_other _ _ _ _
      exact (congrArg Option.isSome (statIn_writeFile_of_ne hne)).trans hstat
  | others entries =>
    rw [storageStep] at hstep
    split_ifs at hstep
    obtain rfl := Option.some.inj hstep
    exact h.of_files rfl rfl rfl rfl (fun _ _ hstat => hstat) fun _ _ _ hstat => hstat
  | requestStop =>
    obtain rfl := Option.some.inj hstep
    exact h.of_files rfl rfl rfl rfl (fun _ _ hstat => hstat) fun _ _ _ hstat => hstat
  | enforceQuota config =>
    rw [storageStep_enforceQuota] at hstep
    obtain rfl := Option.some.inj hstep
    exact inv_enforceQuotaLocked config h

/-- The invariant holds in every state of every life. -/
theorem Storage.Reachable.inv {st : Storage} (h : st.Reachable) : st.Inv := by
  obtain ⟨entries, actions, -, hrun⟩ := h
  exact exec_invariant (fun _ _ _ hinv hstep => hinv.step hstep) (inv_newStorage entries) hrun

/-- Every step keeps the names of the logs directory apart. -/
theorem DistinctNames.step {st st' : Storage} {action : StorageAction}
    (h : DistinctNames st.entries) (hstep : storageStep st action = some st') :
    DistinctNames st'.entries := by
  cases action with
  | openChunk kind bytes =>
    rw [storageStep] at hstep
    split_ifs at hstep
    obtain rfl := Option.some.inj hstep
    exact h
  | closeChunk kind startElapsedNs endElapsedNs =>
    obtain ⟨name, -, rfl⟩ := Option.map_eq_some_iff.1 hstep
    exact h
  | compress index bytes =>
    obtain ⟨chunk, -, hcompress⟩ := Option.bind_eq_some_iff.1 hstep
    split_ifs at hcompress
    obtain rfl := Option.some.inj hcompress
    exact h
  | failCompression index leftover =>
    obtain ⟨chunk, -, hfail⟩ := Option.bind_eq_some_iff.1 hstep
    split_ifs at hfail
    obtain rfl := Option.some.inj hfail
    exact h
  | grow kind bytes =>
    obtain ⟨name, -, rfl⟩ := Option.map_eq_some_iff.1 hstep
    exact h
  | writeOther name bytes =>
    obtain rfl := Option.some.inj hstep
    exact h
  | others entries =>
    rw [storageStep] at hstep
    split_ifs at hstep with hdistinct
    obtain rfl := Option.some.inj hstep
    exact hdistinct
  | requestStop =>
    obtain rfl := Option.some.inj hstep
    exact h
  | enforceQuota config =>
    rw [storageStep_enforceQuota] at hstep
    obtain rfl := Option.some.inj hstep
    exact h.sublist ((entries_enforceQuotaLocked config st).map _)

theorem Storage.Reachable.distinctNames {st : Storage} (h : st.Reachable) :
    DistinctNames st.entries := by
  obtain ⟨entries, actions, hdistinct, hrun⟩ := h
  exact exec_invariant (P := fun st => DistinctNames st.entries)
    (fun _ _ _ hnames hstep => hnames.step hstep) hdistinct hrun

end SilverwareTx.Blackbox
