import SilverwareTx.Lib.Transitions

/-!
# Processes on a logs directory (`tools/ground_station/blackbox.py`)

Any number of ground-station processes share a logs directory. A process runs at most one recorder
(`BlackboxRecorder.__init__`, the periodic metadata writes, `close`), and its tasks are the passes
under `.quota.lock` (`_recover_interrupted_sessions_locked`, `_prune_old_sessions_locked`) and
`inspect_session`. `step` makes one file-system or lock operation of one process; what a process
reads from its clock, the disk usage or its own threads is data of the action.

A lock is advisory and exclusive: `locks n` is the process that holds the `.active.lock` file that
is in the directory now, so removing that file frees the name. Numbers stand for process ids and
directory names. Session contents other than `session.json` are file names only.
-/

namespace SilverwareTx.Blackbox

open Transitions

/-! ### Session directories -/

/-- `"state"` of `session.json`; `unknown` is any other text, or none. -/
inductive SessionState
  | active
  | completed
  | completedWithErrors
  | interrupted
  | unknown
  deriving DecidableEq, Repr

/-- `"state"` of a chunk. -/
inductive ChunkState
  | compressing
  | compressed
  | compressionFailed
  | uncompressedAfterInterruption
  deriving DecidableEq, Repr

/-- The part of `session.json` that recovery and pruning read or change. -/
structure Metadata where
  state : SessionState
  startUtcNs : ℤ
  endUtcNs : Option ℤ := none
  exitReason : Option String := none
  chunks : List ChunkState := []
  deriving DecidableEq, Repr

/-- A file besides `session.json`, its temporary file and `.active.lock`; the first kind is
`*.gz.tmp`. -/
inductive SessionFile
  | gzTmp (chunk : ℕ)
  | other (id : ℕ)
  deriving DecidableEq, Repr

/-- What `_AdvisoryFileLock(".active.lock").acquire(blocking=False)` meets. -/
inductive LockProbe
  | free
  | held
  /-- The lock file cannot be opened for appending. -/
  | unopenable
  deriving DecidableEq, Repr

/-- A session's directory, by what its files say. -/
structure SessionDir where
  sessionJson : Option Metadata := none
  /-- `session.json.tmp` -/
  sessionJsonTmp : Option Metadata := none
  /-- Whether `.active.lock` exists. -/
  activeLock : Bool := false
  files : List SessionFile := []
  deriving DecidableEq, Repr

/-- What `shutil.rmtree` removes one after another. -/
inductive DirEntry
  | sessionJson
  | sessionJsonTmp
  | activeLock
  | file (file : SessionFile)
  deriving DecidableEq, Repr

/-- The directory without one of its entries. -/
def SessionDir.unlink (dir : SessionDir) : DirEntry → SessionDir
  | .sessionJson => { dir with sessionJson := none }
  | .sessionJsonTmp => { dir with sessionJsonTmp := none }
  | .activeLock => { dir with activeLock := false }
  | .file file => { dir with files := dir.files.erase file }

/-- `_AdvisoryFileLock.acquire` makes the directory and the lock file where they are missing. -/
def touchLock (dir : Option SessionDir) : Option SessionDir :=
  some { dir.getD {} with activeLock := true }

/-- What `_recover_interrupted_sessions_locked` writes for a session. -/
def markInterrupted (nowNs : ℤ) (metadata : Metadata) : Metadata :=
  { metadata with
    chunks := metadata.chunks.map fun chunk =>
      if chunk = .compressing then .uncompressedAfterInterruption else chunk
    state := .interrupted
    endUtcNs := some nowNs
    exitReason := some "previous process ended without closing the recorder" }

/-- The snapshot of a recorder that is not closed. -/
def liveMetadata (startUtcNs : ℤ) (chunks : List ChunkState) : Metadata where
  state := .active
  startUtcNs := startUtcNs
  chunks := chunks

/-- The snapshot that `close` writes. -/
def closedMetadata (startUtcNs : ℤ) (chunks : List ChunkState) (withErrors : Bool) (endNs : ℤ)
    (exitReason : String) : Metadata where
  state := if withErrors then .completedWithErrors else .completed
  startUtcNs := startUtcNs
  endUtcNs := some endNs
  exitReason := some exitReason
  chunks := chunks

/-! ### Processes -/

/-- How far a process is with its recorder; the numbers are the session's name and
`start_utc_ns`. -/
inductive RecorderStage
  /-- The pass of `__init__` is still to come. -/
  | starting
  | ready
  /-- `_create_session_dir` made the directory. -/
  | created (name : ℕ) (startUtcNs : ℤ)
  /-- `.active.lock` is taken. -/
  | locked (name : ℕ) (startUtcNs : ℤ)
  /-- `session.json` was written. -/
  | running (name : ℕ) (startUtcNs : ℤ)
  /-- `close`, once the writer and the compressor are done. -/
  | closing (name : ℕ) (startUtcNs : ℤ)
  /-- The last `_atomic_json` succeeded. -/
  | written (name : ℕ) (metadata : Metadata)
  /-- `close` has returned. -/
  | closed (name : ℕ) (metadata : Metadata)
  deriving DecidableEq

/-- Which of the two functions a pass is in. -/
inductive PassKind
  | recover
  | prune
  deriving DecidableEq

/-- Who asks for a pass. -/
inductive Job
  /-- `BlackboxRecorder.__init__`: recovery, then pruning. -/
  | startUp
  /-- `recover_interrupted_sessions` -/
  | recoverOnly
  /-- `_enforce_quota`: pruning, with the process's own session left out. -/
  | enforceQuota
  deriving DecidableEq

/-- What a process is doing besides its recorder's own writes. -/
inductive Task
  | idle
  /-- Before `usage = directory_size(logs_dir)`. -/
  | measure
  /-- Before `logs_dir.iterdir()`. -/
  | list (kind : PassKind)
  /-- `_session_directories`: the children still to read and the sessions found. -/
  | scan (kind : PassKind) (todo : List ℕ) (found : List (ℕ × Metadata))
  /-- The loop over the sessions. -/
  | items (kind : PassKind) (todo : List (ℕ × Metadata))
  /-- `session_lock` is acquired. -/
  | probed (kind : PassKind) (item : ℕ × Metadata) (todo : List (ℕ × Metadata))
  /-- `session_lock` is released: recovery removes `*.gz.tmp`, pruning is in `shutil.rmtree`. -/
  | acting (kind : PassKind) (item : ℕ × Metadata) (todo : List (ℕ × Metadata))
  /-- `session.json.tmp` is written, `os.replace` is next. -/
  | replacing (item : ℕ × Metadata) (todo : List (ℕ × Metadata))
  /-- `shutil.rmtree` succeeded, before `usage = directory_size(logs_dir)`. -/
  | removed (todo : List (ℕ × Metadata))
  /-- The end of the `with` block. -/
  | release
  /-- `inspect_session` has read `session.json`. -/
  | inspecting (name : ℕ)
  /-- `inspect_session` holds `ownership`. -/
  | inspectProbed (name : ℕ)
  deriving DecidableEq

/-- A process of the ground station. -/
structure Process where
  alive : Bool := true
  stage : RecorderStage := .starting
  /-- The snapshot in `session.json.tmp` between the two steps of the recorder's `_atomic_json`. -/
  pending : Option Metadata := none
  task : Task := .idle
  job : Job := .startUp
  /-- `config.max_storage_bytes` -/
  quota : ℤ := 2147483648
  /-- `int(quota * self.config.target_storage_ratio)` -/
  target : ℤ := 1932735283

/-- The processes, the sessions' directories and who holds which lock. -/
structure System where
  procs : ℕ → Process
  dirs : ℕ → Option SessionDir
  /-- The holder of `.quota.lock`. -/
  quotaLock : Option ℕ := none
  locks : ℕ → Option ℕ := fun _ => none

/-- Sessions may be there, but no process has started. -/
def System.Initial (S : System) : Prop :=
  (∀ p, (S.procs p).stage = .starting ∧ (S.procs p).task = .idle) ∧ S.quotaLock = none ∧
    ∀ n, S.locks n = none

/-- The session of a recorder until its last write and the release of its lock. -/
def RecorderStage.session : RecorderStage → Option ℕ
  | .created n _ | .locked n _ | .running n _ | .closing n _ | .written n _ => some n
  | .starting | .ready | .closed _ _ => none

/-- The session whose `.active.lock` the recorder holds. -/
def RecorderStage.lockName : RecorderStage → Option ℕ
  | .locked n _ | .running n _ | .closing n _ | .written n _ => some n
  | .starting | .ready | .created _ _ | .closed _ _ => none

/-- The session that has no `session.json` yet. -/
def RecorderStage.unpublished : RecorderStage → Option ℕ
  | .created n _ | .locked n _ => some n
  | .starting | .ready | .running _ _ | .closing _ _ | .written _ _ | .closed _ _ => none

/-- The metadata of a session that the recorder may still write. -/
def RecorderStage.nextMetadata (stage : RecorderStage) (chunks : List ChunkState)
    (withErrors : Bool) (endNs : ℤ) (exitReason : String) : Option Metadata :=
  match stage with
  | .locked _ start | .running _ start => some (liveMetadata start chunks)
  | .closing _ start => some (closedMetadata start chunks withErrors endNs exitReason)
  | _ => none

/-- The stage after `os.replace`. -/
def RecorderStage.afterReplace (stage : RecorderStage) (metadata : Metadata) : RecorderStage :=
  match stage with
  | .locked n start => .running n start
  | .closing n _ => .written n metadata
  | stage => stage

/-- The session whose files the recorder still changes. -/
def RecorderStage.openName : RecorderStage → Option ℕ
  | .created n _ | .locked n _ | .running n _ | .closing n _ => some n
  | .starting | .ready | .written _ _ | .closed _ _ => none

/-- `__init__` starts with its pass; the quota is enforced by the writer and by `close`. -/
def Job.allowed : Job → RecorderStage → Bool
  | .startUp, .starting => true
  | .recoverOnly, _ => true
  | .enforceQuota, .running _ _ => true
  | .enforceQuota, .closing _ _ => true
  | _, _ => false

/-- Whether a pass looks closer at a session, from what it read. -/
def eligible (proc : Process) (kind : PassKind) (item : ℕ × Metadata) : Bool :=
  match kind with
  | .recover => item.2.state = .active
  | .prune =>
    !(proc.job = .enforceQuota && proc.stage.session = some item.1) &&
      (item.2.state = .completed || item.2.state = .completedWithErrors ||
        item.2.state = .interrupted)

/-! ### Actions -/

/-- One operation of a process, the first argument. The others are where the process stands, and
what it reads from outside the model. -/
inductive Action
  | takeQuota (p : ℕ) (job : Job)
  | measure (p : ℕ) (usage : ℤ)
  | list (p : ℕ) (kind : PassKind) (names : List ℕ)
  | read (p : ℕ) (kind : PassKind) (n : ℕ) (metadata : Metadata) (todo : List ℕ)
      (found : List (ℕ × Metadata))
  /-- A child that is no directory, or whose `session.json` is missing or unreadable. -/
  | skipChild (p : ℕ) (kind : PassKind) (n : ℕ) (todo : List ℕ) (found : List (ℕ × Metadata))
  | sort (p : ℕ) (kind : PassKind) (found : List (ℕ × Metadata))
  /-- The next session is not eligible, or its lock is taken. -/
  | passOver (p : ℕ) (kind : PassKind) (item : ℕ × Metadata) (todo : List (ℕ × Metadata))
  | probe (p : ℕ) (kind : PassKind) (item : ℕ × Metadata) (todo : List (ℕ × Metadata))
  /-- The lock file cannot be opened: the exception leaves the pass. -/
  | probeError (p : ℕ) (kind : PassKind) (item : ℕ × Metadata) (todo : List (ℕ × Metadata))
  | releaseProbe (p : ℕ) (kind : PassKind) (item : ℕ × Metadata) (todo : List (ℕ × Metadata))
  | unlinkGzTmp (p : ℕ) (item : ℕ × Metadata) (todo : List (ℕ × Metadata)) (chunk : ℕ)
  | writeInterrupted (p : ℕ) (item : ℕ × Metadata) (todo : List (ℕ × Metadata)) (nowNs : ℤ)
  | replaceInterrupted (p : ℕ) (item : ℕ × Metadata) (todo : List (ℕ × Metadata))
  /-- An `OSError` in `_atomic_json`. -/
  | recoverFails (p : ℕ) (item : ℕ × Metadata) (todo : List (ℕ × Metadata))
  | unlinkEntry (p : ℕ) (item : ℕ × Metadata) (todo : List (ℕ × Metadata)) (entry : DirEntry)
  | rmdir (p : ℕ) (item : ℕ × Metadata) (todo : List (ℕ × Metadata))
  /-- An `OSError` in `shutil.rmtree`. -/
  | rmtreeFails (p : ℕ) (item : ℕ × Metadata) (todo : List (ℕ × Metadata))
  | remeasure (p : ℕ) (todo : List (ℕ × Metadata)) (usage : ℤ)
  | endItems (p : ℕ) (kind : PassKind)
  | releaseQuota (p : ℕ)
  | mkdir (p : ℕ) (n : ℕ) (startUtcNs : ℤ)
  | lock (p : ℕ) (n : ℕ) (startUtcNs : ℤ)
  /-- Chunks, events and compression: the new list of files. -/
  | ownWrite (p : ℕ) (n : ℕ) (files : List SessionFile)
  | writeJson (p : ℕ) (n : ℕ) (chunks : List ChunkState) (withErrors : Bool) (endNs : ℤ)
      (exitReason : String) (metadata : Metadata)
  | replaceJson (p : ℕ) (n : ℕ) (metadata : Metadata)
  /-- An `OSError` in the recorder's `_atomic_json`. -/
  | jsonFails (p : ℕ)
  | beginClose (p : ℕ) (n : ℕ) (startUtcNs : ℤ)
  | releaseSession (p : ℕ) (n : ℕ) (metadata : Metadata)
  | die (p : ℕ)
  | inspectRead (p : ℕ) (n : ℕ)
  | inspectProbe (p : ℕ) (n : ℕ)
  /-- The lock is taken: the session is live. -/
  | inspectBusy (p : ℕ) (n : ℕ)
  | inspectRelease (p : ℕ) (n : ℕ)
  deriving DecidableEq

/-- The steps of `_recover_interrupted_sessions_locked` and `_prune_old_sessions_locked`. -/
def Action.inPass : Action → Bool
  | .measure .. | .list .. | .read .. | .skipChild .. | .sort .. | .passOver .. | .probe ..
  | .probeError .. | .releaseProbe .. | .unlinkGzTmp .. | .writeInterrupted ..
  | .replaceInterrupted .. | .recoverFails .. | .unlinkEntry .. | .rmdir .. | .rmtreeFails ..
  | .remeasure .. | .endItems .. => true
  | _ => false

namespace System

variable (S : System)

/-- Process `p` goes on to a task. -/
def setTask (p : ℕ) (task : Task) : System :=
  { S with procs := Function.update S.procs p { S.procs p with task := task } }

/-- Process `p` has another job. -/
def setJob (p : ℕ) (job : Job) : System :=
  { S with procs := Function.update S.procs p { S.procs p with job := job } }

/-- `.quota.lock` goes to a holder, or to nobody. -/
def setQuota (holder : Option ℕ) : System := { S with quotaLock := holder }

/-- The recorder of process `p` goes on to a stage. -/
def setRecorder (p : ℕ) (stage : RecorderStage) (pending : Option Metadata) : System :=
  { S with
    procs := Function.update S.procs p { S.procs p with stage := stage, pending := pending } }

/-- Session `n` has another directory, or none. -/
def setDir (n : ℕ) (dir : Option SessionDir) : System :=
  { S with dirs := Function.update S.dirs n dir }

/-- The lock of session `n` goes to a holder, or to nobody. -/
def setLock (n : ℕ) (holder : Option ℕ) : System :=
  { S with locks := Function.update S.locks n holder }

/-- Releasing `n`: without effect on a file that another process has locked since. -/
def unlock (p n : ℕ) : System :=
  S.setLock n (if S.locks n = some p then none else S.locks n)

/-- What the `session.json` of session `n` says. -/
def sessionJson (n : ℕ) : Option Metadata := (S.dirs n).bind SessionDir.sessionJson

end System

/-! ### Steps -/

/-- Where an action is possible. -/
def Enabled (S : System) : Action → Prop
  | .takeQuota p job =>
    (S.procs p).alive = true ∧ (S.procs p).task = .idle ∧ S.quotaLock = none ∧
      job.allowed (S.procs p).stage = true
  | .measure p _ => (S.procs p).task = .measure
  -- `iterdir` is not atomic: which of the directories made meanwhile it lists is left open
  | .list p kind names =>
    (S.procs p).task = .list kind ∧ names.Nodup ∧ ∀ n ∈ names, (S.dirs n).isSome = true
  | .read p kind n metadata todo found =>
    (S.procs p).task = .scan kind (n :: todo) found ∧ S.sessionJson n = some metadata
  | .skipChild p kind n todo found => (S.procs p).task = .scan kind (n :: todo) found
  | .sort p kind found => (S.procs p).task = .scan kind [] found
  | .passOver p kind item todo =>
    (S.procs p).task = .items kind (item :: todo) ∧
      (eligible (S.procs p) kind item = false ∨ S.locks item.1 ≠ none)
  | .probe p kind item todo =>
    (S.procs p).task = .items kind (item :: todo) ∧ eligible (S.procs p) kind item = true ∧
      S.locks item.1 = none
  | .probeError p kind item todo =>
    (S.procs p).task = .items kind (item :: todo) ∧ eligible (S.procs p) kind item = true
  | .releaseProbe p kind item todo => (S.procs p).task = .probed kind item todo
  | .unlinkGzTmp p item todo _ => (S.procs p).task = .acting .recover item todo
  | .writeInterrupted p item todo _ => (S.procs p).task = .acting .recover item todo
  | .replaceInterrupted p item todo => (S.procs p).task = .replacing item todo
  | .recoverFails p item todo =>
    (S.procs p).task = .acting .recover item todo ∨ (S.procs p).task = .replacing item todo
  | .unlinkEntry p item todo _ => (S.procs p).task = .acting .prune item todo
  | .rmdir p item todo =>
    (S.procs p).task = .acting .prune item todo ∧ S.dirs item.1 = some {}
  | .rmtreeFails p item todo => (S.procs p).task = .acting .prune item todo
  | .remeasure p todo _ => (S.procs p).task = .removed todo
  | .endItems p kind => (S.procs p).task = .items kind []
  | .releaseQuota p => (S.procs p).task = .release
  | .mkdir p n _ =>
    (S.procs p).alive = true ∧ (S.procs p).task = .idle ∧ (S.procs p).stage = .ready ∧
      S.dirs n = none
  | .lock p n start =>
    (S.procs p).alive = true ∧ (S.procs p).task = .idle ∧ (S.procs p).stage = .created n start ∧
      S.locks n = none
  | .ownWrite p n _ => (S.procs p).alive = true ∧ (S.procs p).stage.openName = some n
  | .writeJson p n chunks withErrors endNs exitReason metadata =>
    (S.procs p).alive = true ∧ (S.procs p).task = .idle ∧ (S.procs p).pending = none ∧
      (S.procs p).stage.lockName = some n ∧
      (S.procs p).stage.nextMetadata chunks withErrors endNs exitReason = some metadata
  | .replaceJson p n metadata =>
    (S.procs p).alive = true ∧ (S.procs p).task = .idle ∧
      (S.procs p).pending = some metadata ∧ (S.procs p).stage.lockName = some n
  | .jsonFails p => (S.procs p).alive = true ∧ (S.procs p).task = .idle
  | .beginClose p n start =>
    (S.procs p).alive = true ∧ (S.procs p).task = .idle ∧ (S.procs p).pending = none ∧
      (S.procs p).stage = .running n start
  | .releaseSession p n metadata =>
    (S.procs p).alive = true ∧ (S.procs p).task = .idle ∧ (S.procs p).stage = .written n metadata
  | .die p => (S.procs p).alive = true
  | .inspectRead p n =>
    (S.procs p).alive = true ∧ (S.procs p).task = .idle ∧ (S.sessionJson n).isSome = true
  | .inspectProbe p n => (S.procs p).task = .inspecting n ∧ S.locks n = none
  | .inspectBusy p n => (S.procs p).task = .inspecting n ∧ S.locks n ≠ none
  | .inspectRelease p n => (S.procs p).task = .inspectProbed n

/-- What an action does. -/
def next (S : System) : Action → System
  | .takeQuota p job =>
    ((S.setQuota (some p)).setJob p job).setTask p
      (if job = .enforceQuota then .measure else .list .recover)
  | .measure p usage =>
    S.setTask p (if (S.procs p).quota ≤ 0 ∨ usage ≤ (S.procs p).quota then .release else .list .prune)
  | .list p kind names => S.setTask p (.scan kind names [])
  | .read p kind n metadata todo found => S.setTask p (.scan kind todo (found ++ [(n, metadata)]))
  | .skipChild p kind _ todo found => S.setTask p (.scan kind todo found)
  | .sort p kind found =>
    S.setTask p (.items kind (found.insertionSort fun a b => a.2.startUtcNs ≤ b.2.startUtcNs))
  | .passOver p kind _ todo => S.setTask p (.items kind todo)
  | .probe p kind item todo =>
    ((S.setTask p (.probed kind item todo)).setLock item.1 (some p)).setDir item.1
      (touchLock (S.dirs item.1))
  | .probeError p _ _ _ => (S.setJob p .recoverOnly).setTask p .release
  | .releaseProbe p kind item todo => (S.setTask p (.acting kind item todo)).unlock p item.1
  | .unlinkGzTmp _ item _ chunk =>
    S.setDir item.1 ((S.dirs item.1).map (·.unlink (.file (.gzTmp chunk))))
  | .writeInterrupted p item todo nowNs =>
    (S.setTask p (.replacing item todo)).setDir item.1
      ((S.dirs item.1).map fun dir =>
        { dir with sessionJsonTmp := some (markInterrupted nowNs item.2) })
  | .replaceInterrupted p item todo =>
    (S.setTask p (.items .recover todo)).setDir item.1
      ((S.dirs item.1).map fun dir =>
        { dir with sessionJson := dir.sessionJsonTmp, sessionJsonTmp := none })
  | .recoverFails p _ todo => S.setTask p (.items .recover todo)
  | .unlinkEntry _ item _ entry =>
    (S.setDir item.1 ((S.dirs item.1).map (·.unlink entry))).setLock item.1
      (if entry = .activeLock then none else S.locks item.1)
  | .rmdir p item todo => (S.setTask p (.removed todo)).setDir item.1 none
  | .rmtreeFails p _ todo => S.setTask p (.items .prune todo)
  | .remeasure p todo usage =>
    S.setTask p (if usage ≤ (S.procs p).target then .release else .items .prune todo)
  | .endItems p kind =>
    S.setTask p (if kind = .recover ∧ (S.procs p).job = .startUp then .measure else .release)
  | .releaseQuota p =>
    ((S.setTask p .idle).setRecorder p
      (if (S.procs p).job = .startUp ∧ (S.procs p).stage = .starting then .ready
        else (S.procs p).stage) (S.procs p).pending).setQuota none
  | .mkdir p n start => (S.setRecorder p (.created n start) none).setDir n (some {})
  | .lock p n start =>
    ((S.setRecorder p (.locked n start) none).setLock n (some p)).setDir n (touchLock (S.dirs n))
  | .ownWrite _ n files => S.setDir n ((S.dirs n).map fun dir => { dir with files := files })
  | .writeJson p n _ _ _ _ metadata =>
    (S.setRecorder p (S.procs p).stage (some metadata)).setDir n
      ((S.dirs n).map fun dir => { dir with sessionJsonTmp := some metadata })
  | .replaceJson p n metadata =>
    (S.setRecorder p ((S.procs p).stage.afterReplace metadata) none).setDir n
      ((S.dirs n).map fun dir =>
        { dir with sessionJson := dir.sessionJsonTmp, sessionJsonTmp := none })
  | .jsonFails p => S.setRecorder p (S.procs p).stage none
  | .beginClose p n start => S.setRecorder p (.closing n start) none
  | .releaseSession p n metadata => (S.setRecorder p (.closed n metadata) none).unlock p n
  | .die p =>
    { S with
      procs := Function.update S.procs p { S.procs p with alive := false, task := .idle }
      quotaLock := if S.quotaLock = some p then none else S.quotaLock
      locks := fun n => if S.locks n = some p then none else S.locks n }
  | .inspectRead p n => S.setTask p (.inspecting n)
  | .inspectProbe p n =>
    ((S.setTask p (.inspectProbed n)).setLock n (some p)).setDir n (touchLock (S.dirs n))
  | .inspectBusy p _ => S.setTask p .idle
  | .inspectRelease p n => (S.setTask p .idle).unlock p n

instance (S : System) (a : Action) : Decidable (Enabled S a) := by
  cases a <;> unfold Enabled <;> infer_instance

/-- An action, where it is possible. -/
def step (S : System) (a : Action) : Option System :=
  if Enabled S a then some (next S a) else none

theorem step_eq_some_iff {S S' : System} {a : Action} :
    step S a = some S' ↔ Enabled S a ∧ next S a = S' := by
  rw [step]
  split_ifs with h
  · simp [h]
  · simp [h]

/-- A system that some run from an initial one reaches. -/
def Reachable (S : System) : Prop :=
  ∃ (S₀ : System) (as : List Action), S₀.Initial ∧ exec step S₀ as = some S

/-- The process runs, and has not released the session's lock, or not taken it yet. -/
def Owns (S : System) (p n : ℕ) : Prop :=
  (S.procs p).alive = true ∧ (S.procs p).stage.session = some n

end SilverwareTx.Blackbox
