import SilverwareTx.Blackbox.SessionLocks

/-!
# The metadata of a closed session

Recovery reads `session.json` before it probes the session's lock. A `close` that writes its last
metadata and releases the lock in between is then taken for a crash (`clean_shutdown_rewritten`).
That is the only way: as long as no recovery takes the lock of the session with metadata that is out
of date, `session.json` stays what `close` wrote until pruning removes it (`clean_shutdown_kept`).
-/

namespace SilverwareTx.Blackbox

open Transitions

/-- A recovery takes the lock of session `n` with metadata that is not in `session.json` any
more. -/
def StaleProbe (n : ℕ) (S : System) : Action → Prop
  | .probe _ .recover item _ => item.1 = n ∧ S.sessionJson n ≠ some item.2
  | _ => False

/-- Pruning removes the metadata of session `n`. -/
def Action.prunes (n : ℕ) : Action → Prop
  | .unlinkEntry _ item _ .sessionJson => item.1 = n
  | _ => False

/-- The session that a recovery has probed. -/
def Task.recovering : Task → Option ℕ
  | .probed .recover item _ | .acting .recover item _ | .replacing item _ => some item.1
  | _ => none

theorem Task.target_of_recovering {task : Task} {n : ℕ} (h : task.recovering = some n) :
    task.target = some n := by
  cases task with
  | probed kind item todo => cases kind with
    | recover => exact h
    | prune => cases h
  | acting kind item todo => cases kind with
    | recover => exact h
    | prune => cases h
  | replacing item todo => exact h
  | _ => cases h

/-- Session `n` is closed with `metadata`: nobody is about to write its `session.json`. -/
structure Settled (p n : ℕ) (metadata : Metadata) (S : System) : Prop where
  json : S.sessionJson n = some metadata
  inactive : metadata.state ≠ .active
  unrecovered : ∀ q, (S.procs q).task.recovering ≠ some n
  owner : ∀ q, Owns S q n →
    q = p ∧ (S.procs q).stage = .written n metadata ∧ (S.procs q).pending = none

/-! ### What `close` writes -/

/-- The metadata on its way into `session.json` in `close` says that the session is complete. -/
def ClosePending (S : System) : Prop :=
  ∀ p n start metadata, (S.procs p).stage = .closing n start →
    (S.procs p).pending = some metadata →
    metadata.state = .completed ∨ metadata.state = .completedWithErrors

/-- The recorder that an action belongs to. -/
def Action.recorder : Action → Option ℕ
  | .releaseQuota p | .mkdir p _ _ | .lock p _ _ | .writeJson p _ _ _ _ _ _ | .replaceJson p _ _
  | .jsonFails p | .beginClose p _ _ | .releaseSession p _ _ | .die p => some p
  | _ => none

/-- A recorder is changed by its own actions only. -/
theorem recorder_next {S : System} {a : Action} {q : ℕ} (h : a.recorder ≠ some q) :
    ((next S a).procs q).alive = (S.procs q).alive ∧
      ((next S a).procs q).stage = (S.procs q).stage ∧
      ((next S a).procs q).pending = (S.procs q).pending := by
  have hjob : ∀ (S : System) p job, ((S.setJob p job).procs q).alive = (S.procs q).alive ∧
      ((S.setJob p job).procs q).stage = (S.procs q).stage ∧
      ((S.setJob p job).procs q).pending = (S.procs q).pending := by
    intro S p job
    rcases eq_or_ne q p with rfl | hq
    · simp [System.setJob]
    · simp [System.setJob, hq]
  cases a with
  | takeQuota p job => simpa [next] using hjob (S.setQuota (some p)) p job
  | probeError p kind item todo => simpa [next] using hjob S p .recoverOnly
  | releaseQuota p | mkdir p n start | lock p n start | writeJson p n | replaceJson p n
  | jsonFails p | beginClose p n start | releaseSession p n metadata | die p =>
    have hq : q ≠ p := by
      rintro rfl
      exact h rfl
    simp [next, hq]
  | _ => simp [next]

theorem closePending_step {S S' : System} {a : Action} (h : ClosePending S)
    (hstep : step S a = some S') : ClosePending S' := by
  obtain ⟨ha, rfl⟩ := step_eq_some_iff.1 hstep
  intro q k start metadata hstage hpending
  by_cases hq : a.recorder = some q
  · cases a with
    | writeJson p n chunks withErrors endNs exitReason m =>
      obtain rfl := Option.some.inj hq
      obtain ⟨-, -, -, -, hnext⟩ := ha
      simp only [next, procs_setDir, stage_setRecorder_self,
        pending_setRecorder_self] at hstage hpending
      obtain rfl := Option.some.inj hpending
      rw [hstage] at hnext
      obtain rfl := Option.some.inj hnext
      cases withErrors with
      | false => exact .inl rfl
      | true => exact .inr rfl
    | releaseQuota p =>
      obtain rfl := Option.some.inj hq
      simp only [next, procs_setQuota, stage_setRecorder_self,
        pending_setRecorder_self] at hstage hpending
      split_ifs at hstage
      exact h p k start metadata hstage hpending
    | die p =>
      obtain rfl := Option.some.inj hq
      simp only [next, Function.update_self] at hstage hpending
      exact h p k start metadata hstage hpending
    | mkdir p | lock p | replaceJson p | jsonFails p | beginClose p | releaseSession p =>
      -- nothing is pending after these
      obtain rfl := Option.some.inj hq
      simp [next] at hpending
    | _ => cases hq
  · obtain ⟨-, hs, hp⟩ := recorder_next (S := S) hq
    rw [hs] at hstage
    rw [hp] at hpending
    exact h q k start metadata hstage hpending

theorem closePending_of_reachable {S : System} (h : Reachable S) : ClosePending S := by
  obtain ⟨S₀, as, ⟨hprocs, -, -⟩, hrun⟩ := h
  refine exec_invariant (P := ClosePending)
    (fun _ _ _ hS hstep => closePending_step hS hstep) ?_ hrun
  intro p n start metadata hstage
  rw [(hprocs p).1] at hstage
  cases hstage

/-! ### After the last write -/

section Settled

variable {S S' : System} {p n : ℕ} {metadata : Metadata}

/-- The last write of `close` settles the session. -/
theorem settled_of_replaceJson (hS : Reachable S) {startUtcNs : ℤ}
    (hstage : (S.procs p).stage = .closing n startUtcNs)
    (ha : Enabled S (.replaceJson p n metadata)) :
    Settled p n metadata (next S (.replaceJson p n metadata)) := by
  have h := inv_of_reachable hS
  obtain ⟨halive, ht, hpending, hname⟩ := ha
  have hrecorder := h.recorder p halive
  obtain ⟨dir, hdir, -⟩ := (hrecorder.lock n hname).2
  have htmp : dir.sessionJsonTmp = some metadata := by
    have := hrecorder.pending n metadata hname hpending
    rwa [System.sessionJsonTmp, hdir] at this
  have howns : Owns S p n := ⟨halive, RecorderStage.session_of_lockName hname⟩
  constructor
  · simp [System.sessionJson, next, hdir, htmp]
  · rcases closePending_of_reachable hS p n startUtcNs metadata hstage hpending with hm | hm <;>
      rw [hm] <;> simp
  · intro q hq
    simp only [next, procs_setDir, task_setRecorder] at hq
    exact (h.task q).target_free n (Task.target_of_recovering hq) p howns
  · rintro q ⟨hqalive, hsession⟩
    simp only [next, procs_setDir] at hqalive hsession ⊢
    rw [alive_setRecorder] at hqalive
    rcases eq_or_ne q p with rfl | hq
    · simp [hstage, RecorderStage.afterReplace]
    · rw [procs_setRecorder_of_ne _ _ _ _ _ hq] at hsession
      exact absurd (h.unique q p n ⟨hqalive, hsession⟩ howns) hq

theorem sessionJson_setDir_of_ne {k : ℕ} {dir : Option SessionDir} (hk : n ≠ k) :
    (S.setDir k dir).sessionJson n = S.sessionJson n := by
  rw [System.sessionJson, dirs_setDir_of_ne _ _ _ _ hk, System.sessionJson]

theorem sessionJson_setDir_map {k : ℕ} {f : SessionDir → SessionDir}
    (hf : ∀ dir, (f dir).sessionJson = dir.sessionJson) :
    (S.setDir k ((S.dirs k).map f)).sessionJson n = S.sessionJson n := by
  rcases eq_or_ne n k with rfl | hk
  · rw [System.sessionJson, dirs_setDir_self, System.sessionJson]
    cases S.dirs n with
    | none => rfl
    | some dir => exact hf dir
  · exact sessionJson_setDir_of_ne hk

theorem sessionJson_touchLock {k : ℕ} :
    (S.setDir k (touchLock (S.dirs k))).sessionJson n = S.sessionJson n := by
  rcases eq_or_ne n k with rfl | hk
  · rw [System.sessionJson, dirs_setDir_self, System.sessionJson, touchLock]
    cases S.dirs n <;> rfl
  · exact sessionJson_setDir_of_ne hk

/-- Only a recovery that has probed the session, a recorder or pruning change its metadata. -/
theorem Settled.json_next (h : Settled p n metadata S) {a : Action} (ha : Enabled S a)
    (hprune : ¬ a.prunes n) : (next S a).sessionJson n = S.sessionJson n := by
  have hjson := h.json
  cases a with
  | probe | lock | inspectProbe => exact sessionJson_touchLock
  | unlinkGzTmp | writeInterrupted | ownWrite | writeJson =>
    exact sessionJson_setDir_map fun _ => rfl
  | replaceInterrupted q item todo =>
    have ht : (S.procs q).task = .replacing item todo := ha
    refine sessionJson_setDir_of_ne ?_
    rintro rfl
    exact h.unrecovered q (by rw [ht]; rfl)
  | unlinkEntry q item todo entry =>
    cases entry with
    | sessionJson => exact sessionJson_setDir_of_ne fun hn => hprune hn.symm
    | _ => exact sessionJson_setDir_map fun _ => rfl
  | rmdir q item todo =>
    refine sessionJson_setDir_of_ne ?_
    rintro rfl
    rw [System.sessionJson, ha.2] at hjson
    cases hjson
  | mkdir q k start =>
    refine sessionJson_setDir_of_ne ?_
    rintro rfl
    rw [System.sessionJson, ha.2.2.2] at hjson
    cases hjson
  | replaceJson q k m =>
    obtain ⟨halive, -, hpending, hname⟩ := ha
    refine sessionJson_setDir_of_ne ?_
    rintro rfl
    have hnone := (h.owner q ⟨halive, RecorderStage.session_of_lockName hname⟩).2.2
    rw [hnone] at hpending
    cases hpending
  | _ => rfl

/-- A recovery comes to probe the session with outdated metadata only. -/
theorem Settled.unrecovered_next (h : Settled p n metadata S) {a : Action} (ha : Enabled S a)
    (hfresh : ¬ StaleProbe n S a) (q : ℕ) : ((next S a).procs q).task.recovering ≠ some n := by
  have hset : ∀ (T : System) r task, (∀ q, (T.procs q).task = (S.procs q).task) →
      task.recovering ≠ some n → ((T.setTask r task).procs q).task.recovering ≠ some n := by
    intro T r task hT htask
    rcases eq_or_ne q r with rfl | hq
    · rwa [task_setTask_self]
    · rw [task_setTask_of_ne _ _ _ _ hq, hT]
      exact h.unrecovered q
  have hjob : ∀ (T : System) r job q, ((T.setJob r job).procs q).task = (T.procs q).task := by
    intro T r job q
    rcases eq_or_ne q r with rfl | hq
    · simp [System.setJob]
    · simp [System.setJob, hq]
  cases a with
  | takeQuota r job =>
    refine hset ((S.setQuota (some r)).setJob r job) r _ (hjob _ r job) ?_
    split_ifs <;> simp [Task.recovering]
  | measure r usage =>
    refine hset S r _ (fun _ => rfl) ?_
    split_ifs <;> simp [Task.recovering]
  | list r | read r | skipChild r | sort r | passOver r | recoverFails r | rmtreeFails r
  | inspectRead r | inspectBusy r => exact hset S r _ (fun _ => rfl) (by simp [Task.recovering])
  | probe r kind item todo =>
    refine hset S r _ (fun _ => rfl) ?_
    cases kind with
    | prune => simp [Task.recovering]
    | recover =>
      -- what was read of the session says `active`, and its file does not
      intro hn
      have hitem : item.1 = n := Option.some.inj hn
      refine hfresh ⟨hitem, fun hjson => h.inactive ?_⟩
      rw [h.json] at hjson
      rw [Option.some.inj hjson]
      simpa [eligible] using ha.2.1
  | probeError r kind item todo =>
    exact hset (S.setJob r .recoverOnly) r _ (hjob S r .recoverOnly) (by simp [Task.recovering])
  | releaseProbe r kind item todo =>
    have ht : (S.procs r).task = .probed kind item todo := ha
    have hr := h.unrecovered r
    rw [ht] at hr
    exact hset S r _ (fun _ => rfl) (by cases kind <;> exact hr)
  | writeInterrupted r item todo nowNs =>
    have ht : (S.procs r).task = .acting .recover item todo := ha
    have hr := h.unrecovered r
    rw [ht] at hr
    exact hset S r _ (fun _ => rfl) hr
  | replaceInterrupted r | rmdir r | inspectProbe r | inspectRelease r =>
    exact hset S r _ (fun _ => rfl) (by simp [Task.recovering])
  | remeasure r todo usage =>
    refine hset S r _ (fun _ => rfl) ?_
    split_ifs <;> simp [Task.recovering]
  | endItems r kind =>
    refine hset S r _ (fun _ => rfl) ?_
    split_ifs <;> simp [Task.recovering]
  | releaseQuota r =>
    simp only [next, procs_setQuota, task_setRecorder]
    exact hset S r .idle (fun _ => rfl) (by simp [Task.recovering])
  | die r =>
    rcases eq_or_ne q r with rfl | hq
    · simp [next, Task.recovering]
    · simp only [next, Function.update_of_ne hq]
      exact h.unrecovered q
  | unlinkGzTmp | unlinkEntry | ownWrite => exact h.unrecovered q
  | mkdir | lock | writeJson | replaceJson | jsonFails | beginClose | releaseSession =>
    simpa [next] using h.unrecovered q

theorem RecorderStage.session_of_afterReplace {stage : RecorderStage}
    (h : (stage.afterReplace metadata).session = some n) : stage.session = some n := by
  cases stage <;> exact h

/-- The session gets no new owner, and the old one has written its last. -/
theorem Settled.owner_next (h : Settled p n metadata S) {a : Action} (ha : Enabled S a) {q : ℕ}
    (hq : Owns (next S a) q n) :
    q = p ∧ ((next S a).procs q).stage = .written n metadata ∧
      ((next S a).procs q).pending = none := by
  -- only a step of the recorder itself changes what it owns
  by_cases hr : a.recorder = some q
  · cases a with
    | releaseQuota r =>
      obtain rfl := Option.some.inj hr
      obtain ⟨halive, hsession⟩ := hq
      simp only [next, procs_setQuota, alive_setRecorder, alive_setTask, stage_setRecorder_self,
        pending_setRecorder_self] at halive hsession ⊢
      split_ifs at hsession ⊢
      · cases hsession
      · exact h.owner r ⟨halive, hsession⟩
    | mkdir r k start =>
      obtain rfl := Option.some.inj hr
      have hk : k = n := by simpa [next, RecorderStage.session] using hq.2
      have hjson := h.json
      rw [System.sessionJson, ← hk, ha.2.2.2] at hjson
      cases hjson
    | lock r k start =>
      obtain rfl := Option.some.inj hr
      have hk : k = n := by simpa [next, RecorderStage.session] using hq.2
      have howner := (h.owner r ⟨ha.1, by rw [ha.2.2.1, hk]; rfl⟩).2.1
      rw [ha.2.2.1] at howner
      cases howner
    | writeJson r k chunks withErrors endNs exitReason m =>
      obtain rfl := Option.some.inj hr
      have hsession : (S.procs r).stage.session = some n := by simpa [next] using hq.2
      have hnext := ha.2.2.2.2
      rw [(h.owner r ⟨ha.1, hsession⟩).2.1] at hnext
      cases hnext
    | replaceJson r k m =>
      obtain rfl := Option.some.inj hr
      have hsession : (S.procs r).stage.session = some n :=
        RecorderStage.session_of_afterReplace (by simpa [next] using hq.2)
      have hpending := ha.2.2.1
      rw [(h.owner r ⟨ha.1, hsession⟩).2.2] at hpending
      cases hpending
    | jsonFails r =>
      obtain rfl := Option.some.inj hr
      have hsession : (S.procs r).stage.session = some n := by simpa [next] using hq.2
      simpa [next] using (h.owner r ⟨ha.1, hsession⟩).imp_right And.left
    | beginClose r k start =>
      obtain rfl := Option.some.inj hr
      have hk : k = n := by simpa [next, RecorderStage.session] using hq.2
      have howner := (h.owner r ⟨ha.1, by rw [ha.2.2.2, hk]; rfl⟩).2.1
      rw [ha.2.2.2] at howner
      cases howner
    | releaseSession r k m =>
      obtain rfl := Option.some.inj hr
      have hsession := hq.2
      simp [next, RecorderStage.session] at hsession
    | die r =>
      obtain rfl := Option.some.inj hr
      have halive := hq.1
      simp [next] at halive
    | _ => cases hr
  · obtain ⟨halive, hstage, hpending⟩ := recorder_next (S := S) hr
    rw [Owns, halive, hstage] at hq
    rw [hstage, hpending]
    exact h.owner q hq

theorem Settled.step (h : Settled p n metadata S) {a : Action} (hfresh : ¬ StaleProbe n S a)
    (hprune : ¬ a.prunes n) (hstep : step S a = some S') : Settled p n metadata S' := by
  obtain ⟨ha, rfl⟩ := step_eq_some_iff.1 hstep
  constructor
  · rw [h.json_next ha hprune]
    exact h.json
  · exact h.inactive
  · exact h.unrecovered_next ha hfresh
  · intro q hq
    exact h.owner_next ha hq

end Settled

/-- **A clean shutdown is kept** in every run in which no recovery takes the lock of the session
with outdated metadata: from the last write of `close` on, `session.json` is what `close` wrote, and
says that the session is complete, unless a pruning has removed it. -/
theorem clean_shutdown_kept {S S' : System} {as : List Action} {p n : ℕ} {startUtcNs : ℤ}
    {metadata : Metadata} (hS : Reachable S) (hstage : (S.procs p).stage = .closing n startUtcNs)
    (hfresh : Along step (fun S a => ¬ StaleProbe n S a) S (.replaceJson p n metadata :: as))
    (hrun : exec step S (.replaceJson p n metadata :: as) = some S') :
    (metadata.state = .completed ∨ metadata.state = .completedWithErrors) ∧
      (S'.sessionJson n = some metadata ∨ ∃ a ∈ as, a.prunes n) := by
  obtain ⟨T, hT, hrun⟩ := exec_cons_eq_some_iff.1 hrun
  obtain ⟨ha, rfl⟩ := step_eq_some_iff.1 hT
  refine ⟨closePending_of_reachable hS p n startUtcNs metadata hstage ha.2.2.1, ?_⟩
  by_cases hprune : ∃ a ∈ as, a.prunes n
  · exact .inr hprune
  have hkeep : Along step (fun S a => ¬ StaleProbe n S a ∧ ¬ a.prunes n) _ as :=
    (hfresh.2 _ hT).imp fun _ a ha hstale => ⟨hstale, fun hn => hprune ⟨a, ha, hn⟩⟩
  have hsettled := exec_invariant_along (P := Settled p n metadata)
    (fun _ _ _ hsettled hC hstep => hsettled.step hC.1 hC.2 hstep)
    (settled_of_replaceJson hS hstage ha) hkeep hrun
  exact .inl hsettled.json

/-- A recovery that gets the lock writes what it read before, marked as interrupted. -/
theorem recovery_rewrites {S : System} {q : ℕ} {item : ℕ × Metadata} {todo : List (ℕ × Metadata)}
    (ha : Enabled S (.probe q .recover item todo)) (nowNs : ℤ) :
    ∃ S', exec step S [.probe q .recover item todo, .releaseProbe q .recover item todo,
        .writeInterrupted q item todo nowNs, .replaceInterrupted q item todo] = some S' ∧
      S'.sessionJson item.1 = some (markInterrupted nowNs item.2) := by
  have hprobed : Enabled (next S (.probe q .recover item todo))
      (.releaseProbe q .recover item todo) := by
    simp [Enabled, next]
  refine ⟨_, exec_cons_eq_some_iff.2 ⟨_, step_eq_some_iff.2 ⟨ha, rfl⟩,
    exec_cons_eq_some_iff.2 ⟨_, step_eq_some_iff.2 ⟨hprobed, rfl⟩,
    exec_cons_eq_some_iff.2 ⟨_, step_eq_some_iff.2 ⟨?_, rfl⟩,
    exec_cons_eq_some_iff.2 ⟨_, step_eq_some_iff.2 ⟨?_, rfl⟩, rfl⟩⟩⟩⟩, ?_⟩
  · simp [Enabled, next]
  · simp [Enabled, next]
  · simp [next, System.sessionJson, touchLock]

/-! ### A run in which they cross -/

/-- What process `p` writes in `close`. -/
def sampleClosed : Metadata := closedMetadata 100 [] false 200 "normal shutdown"

/-- Process `p` is in `close`, before `os.replace` of its last metadata. -/
def beginClose (p n : ℕ) : List Action :=
  [.beginClose p n 100, .writeJson p n [] false 200 "normal shutdown" sampleClosed]

/-- Process 0 leaves `close` while process 1, which has read the old metadata, meets its lock; a
second recovery then reads the new. -/
def passedOver : List Action :=
  [.passOver 1 .recover (7, liveMetadata 100 []) [], .releaseSession 0 7 sampleClosed,
    .endItems 1 .recover, .measure 1 0, .releaseQuota 1, .takeQuota 1 .recoverOnly,
    .list 1 .recover [7], .read 1 .recover 7 sampleClosed [] [], .sort 1 .recover [(7, sampleClosed)],
    .passOver 1 .recover (7, sampleClosed) [], .endItems 1 .recover, .releaseQuota 1]

theorem clean_shutdown_kept_passedOver : ∃ S S' : System,
    exec step emptySystem (startRecorder 0 7 ++ beginClose 0 7 ++ readSessions 1 7) = some S ∧
      exec step S (.replaceJson 0 7 sampleClosed :: passedOver) = some S' ∧
      S'.sessionJson 7 = some sampleClosed := by
  obtain ⟨S, hS⟩ := Option.isSome_iff_exists.1 (show (exec step emptySystem
    (startRecorder 0 7 ++ beginClose 0 7 ++ readSessions 1 7)).isSome = true by decide)
  have hstage : (exec step emptySystem
      (startRecorder 0 7 ++ beginClose 0 7 ++ readSessions 1 7)).map
        (fun S => (S.procs 0).stage) = some (.closing 7 100) := by decide
  have hrest : ((exec step emptySystem
      (startRecorder 0 7 ++ beginClose 0 7 ++ readSessions 1 7)).bind
        (exec step · (.replaceJson 0 7 sampleClosed :: passedOver))).isSome = true := by decide
  rw [hS] at hstage hrest
  obtain ⟨S', hS'⟩ := Option.isSome_iff_exists.1 hrest
  refine ⟨S, S', hS, hS', ?_⟩
  -- neither recovery probes the lock
  have hfresh : Along step (fun S a => ¬ StaleProbe 7 S a) S
      (.replaceJson 0 7 sampleClosed :: passedOver) := by
    simp [passedOver, Along, StaleProbe]
  have hkept := (clean_shutdown_kept ⟨emptySystem, _, initial_emptySystem, hS⟩
    (Option.some.inj hstage) hfresh hS').2
  refine hkept.resolve_right ?_
  simp [passedOver, Action.prunes]

/-- Process 1 reads the metadata while process 0 is in `close`, and probes the lock after it. -/
theorem clean_shutdown_rewritten :
    ¬ ∀ (S S' : System) (as : List Action) (p n : ℕ) (startUtcNs : ℤ) (metadata : Metadata),
      Reachable S → (S.procs p).stage = .closing n startUtcNs →
      exec step S (.replaceJson p n metadata :: as) = some S' → (∀ a ∈ as, ¬ a.prunes n) →
      S'.sessionJson n = some metadata := by
  intro hclaim
  obtain ⟨S, hS⟩ := Option.isSome_iff_exists.1 (show (exec step emptySystem
    (startRecorder 0 7 ++ beginClose 0 7 ++ readSessions 1 7)).isSome = true by decide)
  have hstage : (exec step emptySystem
      (startRecorder 0 7 ++ beginClose 0 7 ++ readSessions 1 7)).map
        (fun S => (S.procs 0).stage) = some (.closing 7 100) := by decide
  have hrest : ((exec step emptySystem
      (startRecorder 0 7 ++ beginClose 0 7 ++ readSessions 1 7)).bind
        (exec step · (.replaceJson 0 7 sampleClosed :: [.releaseSession 0 7 sampleClosed,
          .probe 1 .recover (7, liveMetadata 100 []) [],
          .releaseProbe 1 .recover (7, liveMetadata 100 []) [],
          .writeInterrupted 1 (7, liveMetadata 100 []) [] 300,
          .replaceInterrupted 1 (7, liveMetadata 100 []) []]))).map (·.sessionJson 7) =
      some (some (markInterrupted 300 (liveMetadata 100 []))) := by decide
  rw [hS] at hstage hrest
  obtain ⟨S', hS', hjson⟩ := Option.map_eq_some_iff.1 hrest
  have hkept := hclaim S S' _ 0 7 100 sampleClosed ⟨emptySystem, _, initial_emptySystem, hS⟩
    (Option.some.inj hstage) hS' (by simp [Action.prunes])
  rw [hkept] at hjson
  exact absurd hjson (by decide)

end SilverwareTx.Blackbox
