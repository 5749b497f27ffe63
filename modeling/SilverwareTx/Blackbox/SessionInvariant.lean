import SilverwareTx.Blackbox.Sessions

/-!
# What keeps passes and recorders apart

`Inv`: a pass acts on a session only after it has found its lock free, and what it lists has a
`session.json`, which a recorder writes under its lock. The directory of a listed session stays as
long as the pass holds `.quota.lock`, so its name cannot become that of a new session in between.

`Inv.setTask`, `Inv.setDir` and the others say what each part of the system may become; the steps
are put together from them in `Blackbox.SessionLocks`.
-/

namespace SilverwareTx.Blackbox

open Transitions

/-! ### Where a process stands -/

/-- The process holds `.quota.lock`. -/
def Task.inPass : Task → Bool
  | .idle | .inspecting _ | .inspectProbed _ => false
  | _ => true

/-- The sessions a pass has read and not come to. -/
def Task.listed : Task → List ℕ
  | .scan _ _ found => found.map Prod.fst
  | .items _ todo | .probed _ _ todo | .acting _ _ todo | .replacing _ todo | .removed todo =>
    todo.map Prod.fst
  | _ => []

/-- The session a pass has probed. -/
def Task.target : Task → Option ℕ
  | .probed _ item _ | .acting _ item _ | .replacing item _ => some item.1
  | _ => none

/-- The sessions of a pass, the children still to read included. -/
def Task.names : Task → List ℕ
  | .scan _ todo found => todo ++ found.map Prod.fst
  | .items _ todo | .removed todo => todo.map Prod.fst
  | .probed _ item todo | .acting _ item todo | .replacing item todo =>
    item.1 :: todo.map Prod.fst
  | _ => []

/-- The content of `session.json.tmp`. -/
def System.sessionJsonTmp (S : System) (n : ℕ) : Option Metadata :=
  (S.dirs n).bind SessionDir.sessionJsonTmp

/-- The lock file is there. -/
def System.hasLockFile (S : System) (n : ℕ) : Prop :=
  ∃ dir, S.dirs n = some dir ∧ dir.activeLock = true

/-- The process holds the lock of its recorder's session. -/
def Holds (S : System) (p n : ℕ) : Prop :=
  (S.procs p).alive = true ∧ (S.procs p).stage.lockName = some n

/-- What holds of a process's task. -/
structure TaskInv (S : System) (p : ℕ) (task : Task) : Prop where
  quota : task.inPass = true → S.quotaLock = some p
  listed : ∀ n ∈ task.listed, (S.sessionJson n).isSome = true
  nodup : task.names.Nodup
  target_dir : ∀ n, task.target = some n → (S.dirs n).isSome = true
  target_free : ∀ n, task.target = some n → ∀ q, ¬ Owns S q n
  inspect_free : ∀ n, task = .inspectProbed n → ¬ Holds S p n

/-- What holds of a running process's recorder. -/
structure RecorderInv (S : System) (p : ℕ) (stage : RecorderStage) (pending : Option Metadata) :
    Prop where
  dir : ∀ n, stage.session = some n → (S.dirs n).isSome = true
  lock : ∀ n, stage.lockName = some n → S.locks n = some p ∧ S.hasLockFile n
  unpublished : ∀ n, stage.unpublished = some n → S.sessionJson n = none
  pending : ∀ n m, stage.lockName = some n → pending = some m → S.sessionJsonTmp n = some m

/-- Every task and every recorder is in order, and a session has one owner. -/
structure Inv (S : System) : Prop where
  task : ∀ p, TaskInv S p (S.procs p).task
  recorder : ∀ p, (S.procs p).alive = true →
    RecorderInv S p (S.procs p).stage (S.procs p).pending
  unique : ∀ p q n, Owns S p n → Owns S q n → p = q

/-! ### Reading an updated system -/

section Update

variable (S : System) (p q n k : ℕ) (task : Task) (job : Job) (stage : RecorderStage)
  (pending : Option Metadata) (dir : Option SessionDir) (holder : Option ℕ)

@[simp] theorem procs_setDir : (S.setDir n dir).procs = S.procs := rfl
@[simp] theorem procs_setLock : (S.setLock n holder).procs = S.procs := rfl
@[simp] theorem procs_setQuota : (S.setQuota holder).procs = S.procs := rfl
@[simp] theorem procs_unlock : (S.unlock p n).procs = S.procs := rfl

@[simp] theorem dirs_setTask : (S.setTask p task).dirs = S.dirs := rfl
@[simp] theorem dirs_setJob : (S.setJob p job).dirs = S.dirs := rfl
@[simp] theorem dirs_setRecorder : (S.setRecorder p stage pending).dirs = S.dirs := rfl
@[simp] theorem dirs_setLock : (S.setLock n holder).dirs = S.dirs := rfl
@[simp] theorem dirs_setQuota : (S.setQuota holder).dirs = S.dirs := rfl
@[simp] theorem dirs_unlock : (S.unlock p n).dirs = S.dirs := rfl

@[simp] theorem locks_setTask : (S.setTask p task).locks = S.locks := rfl
@[simp] theorem locks_setJob : (S.setJob p job).locks = S.locks := rfl
@[simp] theorem locks_setRecorder : (S.setRecorder p stage pending).locks = S.locks := rfl
@[simp] theorem locks_setDir : (S.setDir n dir).locks = S.locks := rfl
@[simp] theorem locks_setQuota : (S.setQuota holder).locks = S.locks := rfl

@[simp] theorem quotaLock_setTask : (S.setTask p task).quotaLock = S.quotaLock := rfl
@[simp] theorem quotaLock_setJob : (S.setJob p job).quotaLock = S.quotaLock := rfl
@[simp] theorem quotaLock_setRecorder :
    (S.setRecorder p stage pending).quotaLock = S.quotaLock := rfl
@[simp] theorem quotaLock_setDir : (S.setDir n dir).quotaLock = S.quotaLock := rfl
@[simp] theorem quotaLock_setLock : (S.setLock n holder).quotaLock = S.quotaLock := rfl
@[simp] theorem quotaLock_unlock : (S.unlock p n).quotaLock = S.quotaLock := rfl

@[simp] theorem alive_setTask : ((S.setTask p task).procs q).alive = (S.procs q).alive := by
  rcases eq_or_ne q p with rfl | hq
  · simp [System.setTask]
  · simp [System.setTask, hq]

@[simp] theorem stage_setTask : ((S.setTask p task).procs q).stage = (S.procs q).stage := by
  rcases eq_or_ne q p with rfl | hq
  · simp [System.setTask]
  · simp [System.setTask, hq]

@[simp] theorem pending_setTask : ((S.setTask p task).procs q).pending = (S.procs q).pending := by
  rcases eq_or_ne q p with rfl | hq
  · simp [System.setTask]
  · simp [System.setTask, hq]

@[simp] theorem task_setTask_self : ((S.setTask p task).procs p).task = task := by
  simp [System.setTask]

@[simp] theorem task_setTask_of_ne (hq : q ≠ p) :
    ((S.setTask p task).procs q).task = (S.procs q).task := by
  simp [System.setTask, hq]

@[simp] theorem alive_setRecorder :
    ((S.setRecorder p stage pending).procs q).alive = (S.procs q).alive := by
  rcases eq_or_ne q p with rfl | hq
  · simp [System.setRecorder]
  · simp [System.setRecorder, hq]

@[simp] theorem task_setRecorder :
    ((S.setRecorder p stage pending).procs q).task = (S.procs q).task := by
  rcases eq_or_ne q p with rfl | hq
  · simp [System.setRecorder]
  · simp [System.setRecorder, hq]

@[simp] theorem stage_setRecorder_self :
    ((S.setRecorder p stage pending).procs p).stage = stage := by
  simp [System.setRecorder]

@[simp] theorem pending_setRecorder_self :
    ((S.setRecorder p stage pending).procs p).pending = pending := by
  simp [System.setRecorder]

@[simp] theorem procs_setRecorder_of_ne (hq : q ≠ p) :
    (S.setRecorder p stage pending).procs q = S.procs q := by
  simp [System.setRecorder, hq]

theorem setRecorder_self : S.setRecorder p (S.procs p).stage (S.procs p).pending = S := by
  simp [System.setRecorder]

@[simp] theorem dirs_setDir_self : (S.setDir n dir).dirs n = dir := by
  simp [System.setDir]

@[simp] theorem dirs_setDir_of_ne (hk : k ≠ n) : (S.setDir n dir).dirs k = S.dirs k := by
  simp [System.setDir, hk]

@[simp] theorem locks_setLock_self : (S.setLock n holder).locks n = holder := by
  simp [System.setLock]

@[simp] theorem locks_setLock_of_ne (hk : k ≠ n) : (S.setLock n holder).locks k = S.locks k := by
  simp [System.setLock, hk]

end Update

/-! ### What follows from the invariant -/

section Facts

variable {S : System} {p q r n : ℕ}

theorem RecorderStage.session_of_lockName {stage : RecorderStage} (h : stage.lockName = some n) :
    stage.session = some n := by
  cases stage <;> first | exact h | cases h

theorem RecorderStage.session_of_unpublished {stage : RecorderStage}
    (h : stage.unpublished = some n) : stage.session = some n := by
  cases stage <;> first | exact h | cases h

/-- A session is locked by its recorder or has no metadata yet. -/
theorem RecorderStage.lockName_or_unpublished {stage : RecorderStage}
    (h : stage.session = some n) : stage.lockName = some n ∨ stage.unpublished = some n := by
  cases stage <;> first | exact .inl h | exact .inr h

theorem Task.inPass_of_mem_listed {task : Task} (h : n ∈ task.listed) : task.inPass = true := by
  cases task <;> first | rfl | simp [Task.listed] at h

theorem Task.inPass_of_target {task : Task} (h : task.target = some n) : task.inPass = true := by
  cases task <;> first | rfl | simp [Task.target] at h

theorem Task.not_mem_listed_of_target {task : Task} (hnodup : task.names.Nodup)
    (h : task.target = some n) : n ∉ task.listed := by
  cases task <;> simp_all [Task.target, Task.names, Task.listed]

/-- Only one process is in a pass. -/
theorem Inv.eq_of_inPass (h : Inv S) (hp : (S.procs p).task.inPass = true)
    (hq : (S.procs q).task.inPass = true) : q = p := by
  have hlock := (h.task p).quota hp
  rw [(h.task q).quota hq] at hlock
  exact Option.some.inj hlock

/-- The session that a pass has probed is listed by none. -/
theorem Inv.not_listed_of_target (h : Inv S) (ht : (S.procs p).task.target = some n) (r : ℕ) :
    n ∉ (S.procs r).task.listed := by
  intro hmem
  obtain rfl := h.eq_of_inPass (Task.inPass_of_target ht) (Task.inPass_of_mem_listed hmem)
  exact Task.not_mem_listed_of_target (h.task r).nodup ht hmem

theorem Holds.owns (h : Holds S p n) : Owns S p n :=
  ⟨h.1, RecorderStage.session_of_lockName h.2⟩

/-- No recorder holds a lock that is free. -/
theorem Inv.not_holds_of_free (h : Inv S) (hfree : S.locks n = none) : ¬ Holds S q n := by
  rintro ⟨halive, hname⟩
  rw [((h.recorder q halive).lock n hname).1] at hfree
  cases hfree

/-- A listed session with a free lock has no owner at all: it has metadata. -/
theorem Inv.not_owns_of_listed (h : Inv S) (hmem : n ∈ (S.procs p).task.listed)
    (hfree : S.locks n = none) : ¬ Owns S q n := by
  rintro ⟨halive, hsession⟩
  rcases RecorderStage.lockName_or_unpublished hsession with hname | hname
  · exact h.not_holds_of_free hfree ⟨halive, hname⟩
  · have hjson := (h.task p).listed n hmem
    rw [(h.recorder q halive).unpublished n hname] at hjson
    cases hjson

end Facts

/-! ### Updates that keep the invariant -/

section Preserve

variable {S S' : System} {p n : ℕ}

/-- Apart from its own task, a process's task is judged by the quota lock, the directories and the
recorders. -/
theorem TaskInv.congr {task : Task} (h : TaskInv S p task) (hquota : S'.quotaLock = S.quotaLock)
    (hdirs : S'.dirs = S.dirs) (howns : ∀ q n, Owns S' q n → Owns S q n)
    (hholds : ∀ n, Holds S' p n → Holds S p n) : TaskInv S' p task := by
  have hjson : S'.sessionJson = S.sessionJson := by
    unfold System.sessionJson
    rw [hdirs]
  constructor
  · rw [hquota]
    exact h.quota
  · rw [hjson]
    exact h.listed
  · exact h.nodup
  · rw [hdirs]
    exact h.target_dir
  · intro n ht q hq
    exact h.target_free n ht q (howns q n hq)
  · intro n ht hn
    exact h.inspect_free n ht (hholds n hn)

theorem RecorderInv.congr {stage : RecorderStage} {pending : Option Metadata}
    (h : RecorderInv S p stage pending) (hdirs : S'.dirs = S.dirs) (hlocks : S'.locks = S.locks) :
    RecorderInv S' p stage pending := by
  constructor
  · rw [hdirs]
    exact h.dir
  · unfold System.hasLockFile
    rw [hdirs, hlocks]
    exact h.lock
  · unfold System.sessionJson
    rw [hdirs]
    exact h.unpublished
  · unfold System.sessionJsonTmp
    rw [hdirs]
    exact h.pending

theorem owns_setTask {task : Task} {q : ℕ} : Owns (S.setTask p task) q n ↔ Owns S q n := by
  simp [Owns]

theorem holds_setTask {task : Task} {q : ℕ} : Holds (S.setTask p task) q n ↔ Holds S q n := by
  simp [Holds]

theorem Inv.setTask (h : Inv S) {task : Task} (htask : TaskInv S p task) :
    Inv (S.setTask p task) := by
  constructor
  · intro q
    rcases eq_or_ne q p with rfl | hq
    · rw [task_setTask_self]
      exact htask.congr rfl rfl (fun _ _ => owns_setTask.1) (fun _ => holds_setTask.1)
    · rw [task_setTask_of_ne _ _ _ _ hq]
      exact (h.task q).congr rfl rfl (fun _ _ => owns_setTask.1) (fun _ => holds_setTask.1)
  · intro q halive
    simp only [alive_setTask, stage_setTask, pending_setTask] at halive ⊢
    exact (h.recorder q halive).congr rfl rfl
  · intro q r n hq hr
    exact h.unique q r n (owns_setTask.1 hq) (owns_setTask.1 hr)

/-- The job has no part in the invariant. -/
theorem Inv.setJob (h : Inv S) (job : Job) : Inv (S.setJob p job) := by
  have hprocs : ∀ q, ((S.setJob p job).procs q).task = (S.procs q).task ∧
      ((S.setJob p job).procs q).alive = (S.procs q).alive ∧
      ((S.setJob p job).procs q).stage = (S.procs q).stage ∧
      ((S.setJob p job).procs q).pending = (S.procs q).pending := by
    intro q
    rcases eq_or_ne q p with rfl | hq
    · simp [System.setJob]
    · simp [System.setJob, hq]
  have howns : ∀ q n, Owns (S.setJob p job) q n ↔ Owns S q n := by
    intro q n
    rw [Owns, (hprocs q).2.1, (hprocs q).2.2.1, Owns]
  constructor
  · intro q
    rw [(hprocs q).1]
    exact (h.task q).congr rfl rfl (fun r n => (howns r n).1) (fun n hn => by
      rwa [Holds, (hprocs q).2.1, (hprocs q).2.2.1] at hn)
  · intro q halive
    obtain ⟨-, hq, hstage, hpending⟩ := hprocs q
    rw [hstage, hpending]
    exact (h.recorder q (hq ▸ halive)).congr rfl rfl
  · intro q r n hq hr
    exact h.unique q r n ((howns q n).1 hq) ((howns r n).1 hr)

/-- The quota lock changes hands while no process is in a pass. -/
theorem Inv.setQuota (h : Inv S) {holder : Option ℕ}
    (hidle : ∀ q, (S.procs q).task.inPass = false) : Inv (S.setQuota holder) := by
  constructor
  · intro q
    obtain ⟨-, hlisted, hnodup, hdir, hfree, hinspect⟩ := h.task q
    refine ⟨fun hpass => ?_, hlisted, hnodup, hdir, hfree, hinspect⟩
    rw [procs_setQuota, hidle q] at hpass
    cases hpass
  · intro q halive
    exact (h.recorder q halive).congr rfl rfl
  · exact h.unique

/-- A lock that no recorder holds may change hands. -/
theorem Inv.setLock (h : Inv S) {holder : Option ℕ}
    (hfree : ∀ q, ¬ Holds S q n) : Inv (S.setLock n holder) := by
  constructor
  · intro q
    exact (h.task q).congr rfl rfl (fun _ _ => id) (fun _ => id)
  · intro q halive
    obtain ⟨hdir, hlock, hunpublished, hpending⟩ := h.recorder q halive
    refine ⟨hdir, fun k hk => ?_, hunpublished, hpending⟩
    have hne : k ≠ n := by
      rintro rfl
      exact hfree q ⟨halive, hk⟩
    rw [locks_setLock_of_ne _ _ _ _ hne]
    exact hlock k hk
  · exact h.unique

/-- Releasing a lock that the process does not hold as a recorder. -/
theorem Inv.unlock (h : Inv S) (hfree : ¬ Holds S p n) : Inv (S.unlock p n) := by
  rw [System.unlock]
  split_ifs with hheld
  · refine h.setLock fun q hq => ?_
    rw [((h.recorder q hq.1).lock n hq.2).1] at hheld
    obtain rfl := Option.some.inj hheld
    exact hfree hq
  · rw [System.setLock, Function.update_eq_self]
    exact h

/-- A directory may change as far as no pass and no recorder counts on it. -/
theorem Inv.setDir (h : Inv S) {dir : Option SessionDir}
    (hlisted : ∀ q, n ∈ (S.procs q).task.listed → (dir.bind SessionDir.sessionJson).isSome = true)
    (htarget : ∀ q, (S.procs q).task.target = some n → dir.isSome = true)
    (hrecorder : ∀ q, (S.procs q).alive = true → (S.procs q).stage.session = some n →
      RecorderInv (S.setDir n dir) q (S.procs q).stage (S.procs q).pending) :
    Inv (S.setDir n dir) := by
  have hjson : ∀ k, k ≠ n → (S.setDir n dir).sessionJson k = S.sessionJson k := by
    intro k hk
    rw [System.sessionJson, dirs_setDir_of_ne _ _ _ _ hk, System.sessionJson]
  constructor
  · intro q
    obtain ⟨hquota, hlist, hnodup, hdir, hfree, hinspect⟩ := h.task q
    refine ⟨hquota, fun k hk => ?_, hnodup, fun k hk => ?_, hfree, hinspect⟩
    · rcases eq_or_ne k n with rfl | hne
      · rw [System.sessionJson, dirs_setDir_self]
        exact hlisted q hk
      · rw [hjson k hne]
        exact hlist k hk
    · rcases eq_or_ne k n with rfl | hne
      · rw [dirs_setDir_self]
        exact htarget q hk
      · rw [dirs_setDir_of_ne _ _ _ _ hne]
        exact hdir k hk
  · intro q halive
    by_cases hsession : (S.procs q).stage.session = some n
    · exact hrecorder q halive hsession
    -- a recorder of another session sees the same directory
    obtain ⟨hdir, hlock, hunpublished, hpending⟩ := h.recorder q halive
    have hne : ∀ k, (S.procs q).stage.session = some k → k ≠ n := by
      rintro k hk rfl
      exact hsession hk
    refine ⟨fun k hk => ?_, fun k hk => ?_, fun k hk => ?_, fun k m hk hm => ?_⟩
    · rw [dirs_setDir_of_ne _ _ _ _ (hne k hk)]
      exact hdir k hk
    · rw [System.hasLockFile,
        dirs_setDir_of_ne _ _ _ _ (hne k (RecorderStage.session_of_lockName hk))]
      exact hlock k hk
    · rw [hjson k (hne k (RecorderStage.session_of_unpublished hk))]
      exact hunpublished k hk
    · rw [System.sessionJsonTmp,
        dirs_setDir_of_ne _ _ _ _ (hne k (RecorderStage.session_of_lockName hk))]
      exact hpending k m hk hm
  · exact h.unique

/-- A recorder moves on to a stage that fits the directories, on a session that nobody else has. -/
theorem Inv.setRecorder (h : Inv S) {stage : RecorderStage} {pending : Option Metadata}
    (hrecorder : RecorderInv S p stage pending)
    (htarget : ∀ n, stage.session = some n → ∀ q, (S.procs q).task.target ≠ some n)
    (hunique : ∀ n, stage.session = some n → ∀ q, Owns S q n → q = p)
    (hinspect : ∀ n, (S.procs p).task ≠ .inspectProbed n) :
    Inv (S.setRecorder p stage pending) := by
  -- the only session that may be new to an owner is the one of the new stage
  have howns : ∀ q n, Owns (S.setRecorder p stage pending) q n →
      Owns S q n ∨ q = p ∧ stage.session = some n := by
    rintro q n ⟨halive, hsession⟩
    rcases eq_or_ne q p with rfl | hq
    · rw [stage_setRecorder_self] at hsession
      exact .inr ⟨rfl, hsession⟩
    · rw [procs_setRecorder_of_ne _ _ _ _ _ hq] at halive hsession
      exact .inl ⟨halive, hsession⟩
  constructor
  · intro q
    rw [task_setRecorder]
    obtain ⟨hquota, hlist, hnodup, hdir, hfree, hinsp⟩ := h.task q
    refine ⟨hquota, hlist, hnodup, hdir, fun n ht r hr => ?_, fun n ht => ?_⟩
    · rcases howns r n hr with hr | ⟨-, hsession⟩
      · exact hfree n ht r hr
      · exact htarget n hsession q ht
    · rcases eq_or_ne q p with rfl | hq
      · exact absurd ht (hinspect n)
      · rw [Holds, procs_setRecorder_of_ne _ _ _ _ _ hq]
        exact hinsp n ht
  · intro q halive
    rw [alive_setRecorder] at halive
    rcases eq_or_ne q p with rfl | hq
    · rw [stage_setRecorder_self, pending_setRecorder_self]
      exact hrecorder.congr rfl rfl
    · rw [procs_setRecorder_of_ne _ _ _ _ _ hq]
      exact (h.recorder q halive).congr rfl rfl
  · intro q r n hq hr
    rcases howns q n hq with hq' | ⟨hqp, hsession⟩
    · rcases howns r n hr with hr' | ⟨hrp, hsession⟩
      · exact h.unique q r n hq' hr'
      · rw [hrp]
        exact hunique n hsession q hq'
    · rcases howns r n hr with hr' | ⟨hrp, -⟩
      · rw [hqp]
        exact (hunique n hsession r hr').symm
      · rw [hqp, hrp]

/-- A death releases the locks of that process only. -/
theorem Inv.die (h : Inv S) (p : ℕ) : Inv (next S (.die p)) := by
  have hself : (next S (.die p)).procs p = { S.procs p with alive := false, task := .idle } := by
    simp [next]
  have hother : ∀ q, q ≠ p → (next S (.die p)).procs q = S.procs q := by
    intro q hq
    simp [next, hq]
  -- a dead process owns nothing, and the others own what they did
  have howns : ∀ q n, Owns (next S (.die p)) q n → Owns S q n := by
    rintro q n ⟨halive, hsession⟩
    rcases eq_or_ne q p with rfl | hq
    · rw [hself] at halive
      cases halive
    · rw [hother q hq] at halive hsession
      exact ⟨halive, hsession⟩
  constructor
  · intro q
    rcases eq_or_ne q p with rfl | hq
    · rw [hself]
      constructor <;> simp [Task.inPass, Task.listed, Task.names, Task.target]
    · rw [hother q hq]
      obtain ⟨hquota, hlisted, hnodup, hdir, hfree, hinspect⟩ := h.task q
      refine ⟨fun hpass => ?_, hlisted, hnodup, hdir, fun n ht r hr => ?_, fun n ht => ?_⟩
      · simp only [next, hquota hpass]
        rw [if_neg (by simpa using hq)]
      · exact hfree n ht r (howns r n hr)
      · rw [Holds, hother q hq]
        exact hinspect n ht
  · intro q halive
    rcases eq_or_ne q p with rfl | hq
    · rw [hself] at halive
      cases halive
    · rw [hother q hq] at halive ⊢
      obtain ⟨hdir, hlock, hunpublished, hpending⟩ := h.recorder q halive
      refine ⟨hdir, fun n hn => ⟨?_, (hlock n hn).2⟩, hunpublished, hpending⟩
      simp only [next, (hlock n hn).1]
      rw [if_neg (by simpa using hq)]
  · intro q r n hq hr
    exact h.unique q r n (howns q n hq) (howns r n hr)

end Preserve

/-! ### Directories -/

section Directories

variable {S : System} {p n : ℕ} {dir : Option SessionDir}

/-- A change of other files, or a new lock file. -/
theorem Inv.setDir_of_sameJson (h : Inv S)
    (hjson : dir.bind SessionDir.sessionJson = S.sessionJson n)
    (htmp : dir.bind SessionDir.sessionJsonTmp = S.sessionJsonTmp n)
    (hsome : (S.dirs n).isSome = true → dir.isSome = true)
    (hlock : S.hasLockFile n → ∃ d, dir = some d ∧ d.activeLock = true) :
    Inv (S.setDir n dir) := by
  refine h.setDir (fun q hq => ?_) (fun q hq => ?_) (fun q halive hsession => ?_)
  · rw [hjson]
    exact (h.task q).listed n hq
  · exact hsome ((h.task q).target_dir n hq)
  · obtain ⟨hdir, hlocked, hunpublished, hpending⟩ := h.recorder q halive
    have hn : ∀ k, (S.procs q).stage.session = some k → k = n := by
      intro k hk
      rw [hsession] at hk
      exact (Option.some.inj hk).symm
    refine ⟨fun k hk => ?_, fun k hk => ?_, fun k hk => ?_, fun k m hk hm => ?_⟩
    · obtain rfl := hn k hk
      rw [dirs_setDir_self]
      exact hsome (hdir k hk)
    · obtain rfl := hn k (RecorderStage.session_of_lockName hk)
      rw [System.hasLockFile, dirs_setDir_self]
      exact ⟨(hlocked k hk).1, hlock (hlocked k hk).2⟩
    · obtain rfl := hn k (RecorderStage.session_of_unpublished hk)
      rw [System.sessionJson, dirs_setDir_self, hjson]
      exact hunpublished k hk
    · obtain rfl := hn k (RecorderStage.session_of_lockName hk)
      rw [System.sessionJsonTmp, dirs_setDir_self, htmp]
      exact hpending k m hk hm

theorem Inv.touchLock (h : Inv S) (n : ℕ) : Inv (S.setDir n (touchLock (S.dirs n))) := by
  refine h.setDir_of_sameJson ?_ ?_ (fun _ => rfl) (fun _ => ⟨_, rfl, rfl⟩)
  · unfold System.sessionJson Blackbox.touchLock
    cases S.dirs n <;> rfl
  · unfold System.sessionJsonTmp Blackbox.touchLock
    cases S.dirs n <;> rfl

/-- A pass may do anything to the session it has probed but remove the directory. -/
theorem Inv.setDir_of_target (h : Inv S) (ht : (S.procs p).task.target = some n)
    (hsome : dir.isSome = true) : Inv (S.setDir n dir) := by
  refine h.setDir (fun q hq => ?_) (fun _ _ => hsome) (fun q halive hsession => ?_)
  · exact absurd hq (h.not_listed_of_target ht q)
  · exact absurd ⟨halive, hsession⟩ ((h.task p).target_free n ht q)

theorem isSome_map {f : SessionDir → SessionDir} (h : (S.dirs n).isSome = true) :
    ((S.dirs n).map f).isSome = true := by
  rwa [Option.isSome_map]

end Directories

end SilverwareTx.Blackbox
