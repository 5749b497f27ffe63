import SilverwareTx.Blackbox.SessionInvariant

/-!
# Live sessions are left alone

Every step keeps `Inv` (`Inv.step`), so it holds in every reachable system, and with it
`live_sessions_untouched`: no step of a recovery or a pruning changes a session that a running
process owns.
-/

namespace SilverwareTx.Blackbox

open Transitions

/-! ### Steps -/

section Step

variable {S S' : System} {p n : ℕ} {kind : PassKind} {item : ℕ × Metadata}
  {todo : List (ℕ × Metadata)} {task : Task}

/-- A task that lists nothing. -/
theorem TaskInv.of_plain (hquota : task.inPass = true → S.quotaLock = some p)
    (hlisted : task.listed = []) (hnames : task.names = []) (htarget : task.target = none)
    (hinspect : ∀ n, task ≠ .inspectProbed n) : TaskInv S p task := by
  constructor
  · exact hquota
  · simp [hlisted]
  · simp [hnames]
  · simp [htarget]
  · simp [htarget]
  · intro n ht
    exact absurd ht (hinspect n)

/-- A task at the same place of the lists. -/
theorem TaskInv.of_eq {task' : Task} (h : TaskInv S p task) (hpass : task.inPass = true)
    (hlisted : task'.listed = task.listed) (hnames : task'.names = task.names)
    (htarget : task'.target = task.target) (hinspect : ∀ n, task' ≠ .inspectProbed n) :
    TaskInv S p task' := by
  constructor
  · intro _
    exact h.quota hpass
  · rw [hlisted]
    exact h.listed
  · rw [hnames]
    exact h.nodup
  · rw [htarget]
    exact h.target_dir
  · rw [htarget]
    exact h.target_free
  · intro n ht
    exact absurd ht (hinspect n)

/-- The loop goes on with sessions that are listed. -/
theorem TaskInv.items (h : Inv S) (hpass : (S.procs p).task.inPass = true)
    (hlisted : ∀ n ∈ todo.map Prod.fst, n ∈ (S.procs p).task.listed)
    (hnodup : (todo.map Prod.fst).Nodup) : TaskInv S p (.items kind todo) := by
  constructor
  · intro _
    exact (h.task p).quota hpass
  · intro n hn
    exact (h.task p).listed n (hlisted n hn)
  · exact hnodup
  · simp [Task.target]
  · simp [Task.target]
  · simp

/-- The loop goes on after a session. -/
theorem Inv.next_item (h : Inv S) (item : ℕ × Metadata) (hpass : (S.procs p).task.inPass = true)
    (hlisted : ∀ n ∈ todo.map Prod.fst, n ∈ (S.procs p).task.listed)
    (hnames : (S.procs p).task.names = item.1 :: todo.map Prod.fst) :
    Inv (S.setTask p (.items kind todo)) := by
  have hnodup := (h.task p).nodup
  rw [hnames, List.nodup_cons] at hnodup
  exact h.setTask (TaskInv.items h hpass hlisted hnodup.2)

/-- The lock of a listed session is free: nobody owns it. -/
theorem Inv.probe (h : Inv S) (ht : (S.procs p).task = .items kind (item :: todo))
    (hfree : S.locks item.1 = none) : Inv (next S (.probe p kind item todo)) := by
  have hmem : item.1 ∈ (S.procs p).task.listed := by
    rw [ht]
    simp [Task.listed]
  have hdir : (S.dirs item.1).isSome = true := by
    have hjson := (h.task p).listed _ hmem
    rw [System.sessionJson] at hjson
    cases hd : S.dirs item.1 with
    | none => simp [hd] at hjson
    | some dir => rfl
  have hlock : Inv (S.setLock item.1 (some p)) :=
    h.setLock fun q => h.not_holds_of_free hfree
  refine (hlock.touchLock item.1).setTask (p := p) ?_
  have hlisted := (h.task p).listed
  have hnodup := (h.task p).nodup
  rw [ht] at hlisted hnodup
  refine ⟨fun _ => (h.task p).quota (by rw [ht]; rfl), fun n hn => ?_, hnodup, fun n hn => ?_,
    fun n hn q => ?_, by simp⟩
  · have hne : n ≠ item.1 := by
      rintro rfl
      exact (List.nodup_cons.1 hnodup).1 hn
    rw [System.sessionJson, dirs_setDir_of_ne _ _ _ _ hne]
    exact hlisted n (List.mem_cons_of_mem _ hn)
  · obtain rfl := Option.some.inj hn
    rw [dirs_setDir_self]
    rfl
  · obtain rfl := Option.some.inj hn
    exact h.not_owns_of_listed hmem hfree

/-- The directory is gone: its name is in no list. -/
theorem Inv.rmdir (h : Inv S) (ht : (S.procs p).task = .acting .prune item todo) :
    Inv (next S (.rmdir p item todo)) := by
  have htarget : (S.procs p).task.target = some item.1 := by rw [ht]; rfl
  have hremoved : Inv (S.setTask p (.removed todo)) := by
    have hnodup := (h.task p).nodup
    have hlisted := (h.task p).listed
    rw [ht] at hnodup hlisted
    refine h.setTask ⟨fun _ => (h.task p).quota (Task.inPass_of_target htarget), hlisted,
      (List.nodup_cons.1 hnodup).2, by simp [Task.target], by simp [Task.target], by simp⟩
  have hother : ∀ q, q ≠ p → (S.procs q).task.inPass = false := by
    intro q hq
    by_contra hpass
    exact hq (h.eq_of_inPass (Task.inPass_of_target htarget) (by simpa using hpass))
  refine hremoved.setDir (fun q hq => ?_) (fun q hq => ?_) (fun q halive hsession => ?_)
  · rcases eq_or_ne q p with rfl | hqp
    · rw [task_setTask_self] at hq
      have hmem : item.1 ∈ (S.procs q).task.listed := by rw [ht]; exact hq
      exact absurd hmem (h.not_listed_of_target htarget q)
    · rw [task_setTask_of_ne _ _ _ _ hqp] at hq
      exact absurd (Task.inPass_of_mem_listed hq) (by simp [hother q hqp])
  · rcases eq_or_ne q p with rfl | hqp
    · simp [Task.target] at hq
    · rw [task_setTask_of_ne _ _ _ _ hqp] at hq
      exact absurd (Task.inPass_of_target hq) (by simp [hother q hqp])
  · rw [alive_setTask] at halive
    rw [stage_setTask] at hsession
    exact absurd ⟨halive, hsession⟩ ((h.task p).target_free _ htarget q)

/-- Every step of a pass keeps the invariant. -/
theorem Inv.step_pass {a : Action} (h : Inv S) (ha : Enabled S a) (hpass : a.inPass = true) :
    Inv (next S a) := by
  cases a with
  | measure p usage =>
    have hlock := (h.task p).quota (by rw [show (S.procs p).task = .measure from ha]; rfl)
    refine h.setTask (TaskInv.of_plain (fun _ => hlock) ?_ ?_ ?_ ?_) <;> split_ifs <;>
      simp [Task.listed, Task.names, Task.target]
  | list p kind names =>
    obtain ⟨ht, hnodup, hdirs⟩ := ha
    have hlock := (h.task p).quota (by rw [ht]; rfl)
    refine h.setTask ⟨fun _ => hlock, ?_, ?_, ?_, ?_, ?_⟩
    · simp [Task.listed]
    · simpa [Task.names] using hnodup
    · simp [Task.target]
    · simp [Task.target]
    · simp
  -- the name moves from what is still to be read to what has been found
  | read p kind n metadata todo found =>
    obtain ⟨ht, hjson⟩ := ha
    have hlock := (h.task p).quota (by rw [ht]; rfl)
    have hlisted := (h.task p).listed
    have hnodup := (h.task p).nodup
    rw [ht] at hlisted hnodup
    refine h.setTask ⟨fun _ => hlock, ?_, ?_, ?_, ?_, ?_⟩
    · intro k hk
      simp only [Task.listed, List.map_append, List.mem_append, List.map_cons, List.map_nil,
        List.mem_singleton] at hk
      rcases hk with hk | rfl
      · exact hlisted k hk
      · rw [hjson]
        rfl
    · have hperm : (n :: todo ++ found.map Prod.fst).Perm
          (todo ++ (found ++ [(n, metadata)]).map Prod.fst) := by
        rw [List.map_append, ← List.append_assoc]
        exact (List.perm_append_singleton n _).symm
      exact hperm.nodup_iff.1 hnodup
    · simp [Task.target]
    · simp [Task.target]
    · simp
  | skipChild p kind n todo found =>
    have ht : (S.procs p).task = .scan kind (n :: todo) found := ha
    have hlock := (h.task p).quota (by rw [ht]; rfl)
    have hlisted := (h.task p).listed
    have hnodup := (h.task p).nodup
    rw [ht] at hlisted hnodup
    refine h.setTask ⟨fun _ => hlock, hlisted, ?_, ?_, ?_, ?_⟩
    · exact (List.nodup_cons.1 hnodup).2
    · simp [Task.target]
    · simp [Task.target]
    · simp
  -- the items are the found ones in another order
  | sort p kind found =>
    have ht : (S.procs p).task = .scan kind [] found := ha
    have hperm := (found.perm_insertionSort fun a b => a.2.startUtcNs ≤ b.2.startUtcNs).map Prod.fst
    have hlisted : (S.procs p).task.listed = found.map Prod.fst := by rw [ht]; rfl
    have hnodup := (h.task p).nodup
    rw [ht] at hnodup
    refine h.setTask (TaskInv.items h (by rw [ht]; rfl) (fun k hk => ?_) ?_)
    · rw [hlisted]
      exact hperm.subset hk
    · exact hperm.nodup_iff.2 hnodup
  | passOver p kind item todo =>
    have ht := ha.1
    refine h.next_item item (by rw [ht]; rfl) (fun k hk => ?_) (by rw [ht]; rfl)
    rw [ht]
    exact List.mem_cons_of_mem _ hk
  | probe p kind item todo => exact h.probe ha.1 ha.2.2
  | probeError p kind item todo =>
    have hlock := (h.task p).quota (by rw [ha.1]; rfl)
    exact (h.setJob .recoverOnly).setTask
      (TaskInv.of_plain (fun _ => hlock) rfl rfl rfl (by simp))
  -- the session that was probed has no owner, so nobody loses its lock
  | releaseProbe p kind item todo =>
    have ht : (S.procs p).task = .probed kind item todo := ha
    have hfree := (h.task p).target_free item.1 (by rw [ht]; rfl) p
    have hunlock : Inv (S.unlock p item.1) := h.unlock fun hholds => hfree hholds.owns
    have htask := hunlock.task p
    rw [procs_unlock, ht] at htask
    exact hunlock.setTask (htask.of_eq rfl rfl rfl rfl (by simp))
  | unlinkGzTmp p item todo chunk =>
    have ht : (S.procs p).task = .acting .recover item todo := ha
    have htarget : (S.procs p).task.target = some item.1 := by rw [ht]; rfl
    exact h.setDir_of_target htarget (isSome_map ((h.task p).target_dir _ htarget))
  | writeInterrupted p item todo nowNs =>
    have ht : (S.procs p).task = .acting .recover item todo := ha
    have htarget : (S.procs p).task.target = some item.1 := by rw [ht]; rfl
    have hdir := h.setDir_of_target htarget
      (isSome_map (f := fun dir =>
        { dir with sessionJsonTmp := some (markInterrupted nowNs item.2) })
        ((h.task p).target_dir _ htarget))
    have htask := hdir.task p
    rw [procs_setDir, ht] at htask
    exact hdir.setTask (htask.of_eq rfl rfl rfl rfl (by simp))
  -- no recorder owns the target, so `session.json` may change under everybody else
  | replaceInterrupted p item todo =>
    have ht : (S.procs p).task = .replacing item todo := ha
    have htarget : (S.procs p).task.target = some item.1 := by rw [ht]; rfl
    have hdir := h.setDir_of_target htarget
      (isSome_map (f := fun dir =>
        { dir with sessionJson := dir.sessionJsonTmp, sessionJsonTmp := none })
        ((h.task p).target_dir _ htarget))
    refine hdir.next_item item ?_ ?_ ?_ <;> rw [procs_setDir, ht]
    · rfl
    · exact fun _ => id
    · rfl
  | recoverFails p item todo =>
    rcases ha with ht | ht
    · exact h.next_item item (by rw [ht]; rfl) (by rw [ht]; exact fun _ => id)
        (by rw [ht]; rfl)
    · exact h.next_item item (by rw [ht]; rfl) (by rw [ht]; exact fun _ => id)
        (by rw [ht]; rfl)
  | unlinkEntry p item todo entry =>
    have ht : (S.procs p).task = .acting .prune item todo := ha
    have htarget : (S.procs p).task.target = some item.1 := by rw [ht]; rfl
    have hdir := h.setDir_of_target htarget
      (isSome_map (f := fun dir => dir.unlink entry) ((h.task p).target_dir _ htarget))
    exact hdir.setLock fun q hholds => (h.task p).target_free _ htarget q hholds.owns
  | rmdir p item todo => exact h.rmdir ha.1
  | rmtreeFails p item todo =>
    have ht : (S.procs p).task = .acting .prune item todo := ha
    exact h.next_item item (by rw [ht]; rfl) (by rw [ht]; exact fun _ => id)
      (by rw [ht]; rfl)
  -- the loop over the sessions stops as soon as the target is met
  | remeasure p todo usage =>
    have ht : (S.procs p).task = .removed todo := ha
    have hlock := (h.task p).quota (by rw [ht]; rfl)
    have hnodup := (h.task p).nodup
    rw [ht] at hnodup
    simp only [next]
    split_ifs with husage
    · exact h.setTask (TaskInv.of_plain (fun _ => hlock) rfl rfl rfl (by simp))
    · exact h.setTask (TaskInv.items h (by rw [ht]; rfl) (by rw [ht]; exact fun _ => id) hnodup)
  | endItems p kind =>
    have ht : (S.procs p).task = .items kind [] := ha
    have hlock := (h.task p).quota (by rw [ht]; rfl)
    refine h.setTask (TaskInv.of_plain (fun _ => hlock) ?_ ?_ ?_ ?_) <;> split_ifs <;>
      simp [Task.listed, Task.names, Task.target]
  | _ => cases hpass

/-- A recorder goes on with the session it has. -/
theorem Inv.setRecorder_same (h : Inv S) (halive : (S.procs p).alive = true)
    {stage : RecorderStage} {pending : Option Metadata} (hrecorder : RecorderInv S p stage pending)
    (hsession : ∀ n, stage.session = some n → (S.procs p).stage.session = some n)
    (hinspect : ∀ n, (S.procs p).task ≠ .inspectProbed n) :
    Inv (S.setRecorder p stage pending) := by
  refine h.setRecorder hrecorder (fun n hn q ht => ?_) (fun n hn q hq => ?_) hinspect
  · exact (h.task q).target_free n ht p ⟨halive, hsession n hn⟩
  · exact h.unique q p n hq ⟨halive, hsession n hn⟩

/-- The new directory has a name that was free, so no pass and no recorder knows it. -/
theorem Inv.mkdir (h : Inv S) {startUtcNs : ℤ}
    (ht : (S.procs p).task = .idle) (hfree : S.dirs n = none) :
    Inv (next S (.mkdir p n startUtcNs)) := by
  have hjson : S.sessionJson n = none := by rw [System.sessionJson, hfree]; rfl
  have hnone : ∀ q, ¬ Owns S q n := by
    rintro q ⟨hq, hsession⟩
    have hdir := (h.recorder q hq).dir n hsession
    rw [hfree] at hdir
    cases hdir
  have hmkdir : Inv (S.setDir n (some {})) := by
    refine h.setDir (fun q hq => ?_) (fun _ _ => rfl) (fun q hq hsession => ?_)
    · have hlisted := (h.task q).listed n hq
      rw [hjson] at hlisted
      cases hlisted
    · exact absurd ⟨hq, hsession⟩ (hnone q)
  refine hmkdir.setRecorder (p := p) ?_ ?_ ?_ ?_
  · constructor
    · rintro k hk
      obtain rfl := Option.some.inj hk
      rw [dirs_setDir_self]
      rfl
    · rintro k hk
      cases hk
    · rintro k hk
      obtain rfl := Option.some.inj hk
      rw [System.sessionJson, dirs_setDir_self]
      rfl
    · rintro k m hk
      cases hk
  · rintro k hk q htarget
    obtain rfl := Option.some.inj hk
    have hdir := (h.task q).target_dir n htarget
    rw [hfree] at hdir
    cases hdir
  · rintro k hk q hq
    obtain rfl := Option.some.inj hk
    exact absurd hq (hnone q)
  · intro k
    rw [procs_setDir, ht]
    simp

/-- The recorder takes the lock of the directory it has made. -/
theorem Inv.lock (h : Inv S) {startUtcNs : ℤ} (halive : (S.procs p).alive = true)
    (ht : (S.procs p).task = .idle) (hstage : (S.procs p).stage = .created n startUtcNs)
    (hfree : S.locks n = none) : Inv (next S (.lock p n startUtcNs)) := by
  have hlock : Inv ((S.setLock n (some p)).setDir n (Blackbox.touchLock (S.dirs n))) :=
    (h.setLock fun q => h.not_holds_of_free hfree).touchLock n
  have hrecorder := h.recorder p halive
  rw [hstage] at hrecorder
  refine hlock.setRecorder_same (p := p) halive
    ?_ (fun k hk => ?_) (fun k => ?_)
  · constructor
    · rintro k hk
      obtain rfl := Option.some.inj hk
      rw [dirs_setDir_self]
      rfl
    · rintro k hk
      obtain rfl := Option.some.inj hk
      refine ⟨by simp, _, dirs_setDir_self _ _ _, rfl⟩
    · rintro k hk
      obtain rfl := Option.some.inj hk
      have hjson := hrecorder.unpublished n rfl
      rw [System.sessionJson] at hjson ⊢
      rw [dirs_setDir_self, Blackbox.touchLock]
      cases hd : S.dirs n with
      | none => rfl
      | some dir => simpa [hd] using hjson
    · rintro k m hk hm
      cases hm
  · rw [procs_setDir, procs_setLock, hstage]
    exact hk
  · rw [procs_setDir, procs_setLock, ht]
    simp

/-- The first half of the recorder's `_atomic_json`. -/
theorem Inv.writeJson (h : Inv S) {metadata : Metadata} (halive : (S.procs p).alive = true)
    (ht : (S.procs p).task = .idle) (hpending : (S.procs p).pending = none)
    (hname : (S.procs p).stage.lockName = some n) :
    Inv ((S.setRecorder p (S.procs p).stage (some metadata)).setDir n
      ((S.dirs n).map fun dir => { dir with sessionJsonTmp := some metadata })) := by
  have hsession := RecorderStage.session_of_lockName hname
  have hrecorder := h.recorder p halive
  obtain ⟨dir, hdir, hactive⟩ := (hrecorder.lock n hname).2
  rw [hdir, Option.map_some]
  -- the lock is exclusive, so the write is seen by no other recorder
  have hother : ∀ q, (S.procs q).alive = true → (S.procs q).stage.session = some n → q = p :=
    fun q hq hs => h.unique q p n ⟨hq, hs⟩ ⟨halive, hsession⟩
  have hkeep : RecorderInv (S.setDir n (some { dir with sessionJsonTmp := some metadata })) p
      (S.procs p).stage (some metadata) := by
    have hn : ∀ k, (S.procs p).stage.session = some k → k = n := by
      intro k hk
      rw [hsession] at hk
      exact (Option.some.inj hk).symm
    refine ⟨fun k hk => ?_, fun k hk => ?_, fun k hk => ?_, fun k m hk hm => ?_⟩
    · obtain rfl := hn k hk
      rw [dirs_setDir_self]
      rfl
    · obtain rfl := hn k (RecorderStage.session_of_lockName hk)
      exact ⟨(hrecorder.lock k hk).1, _, dirs_setDir_self _ _ _, hactive⟩
    · obtain rfl := hn k (RecorderStage.session_of_unpublished hk)
      have hjson := hrecorder.unpublished k hk
      rw [System.sessionJson, hdir] at hjson
      rw [System.sessionJson, dirs_setDir_self]
      exact hjson
    · obtain rfl := hn k (RecorderStage.session_of_lockName hk)
      rw [System.sessionJsonTmp, dirs_setDir_self]
      exact hm
  have hwrite : Inv (S.setDir n (some { dir with sessionJsonTmp := some metadata })) := by
    refine h.setDir (fun q hq => ?_) (fun _ _ => rfl) (fun q hq hs => ?_)
    · have hlisted := (h.task q).listed n hq
      rw [System.sessionJson, hdir] at hlisted
      exact hlisted
    · obtain rfl := hother q hq hs
      rw [hpending]
      exact ⟨hkeep.dir, hkeep.lock, hkeep.unpublished, fun k m _ hm => by cases hm⟩
  refine hwrite.setRecorder_same (p := p) halive hkeep (fun _ => id) (fun k => ?_)
  rw [procs_setDir, ht]
  simp

/-- The second half: `session.json` is what the recorder wrote. -/
theorem Inv.replaceJson (h : Inv S) {metadata : Metadata} (halive : (S.procs p).alive = true)
    (ht : (S.procs p).task = .idle) (hpending : (S.procs p).pending = some metadata)
    (hname : (S.procs p).stage.lockName = some n) :
    Inv (next S (.replaceJson p n metadata)) := by
  have hsession := RecorderStage.session_of_lockName hname
  have hrecorder := h.recorder p halive
  obtain ⟨dir, hdir, hactive⟩ := (hrecorder.lock n hname).2
  have htmp : dir.sessionJsonTmp = some metadata := by
    have := hrecorder.pending n metadata hname hpending
    rwa [System.sessionJsonTmp, hdir] at this
  have hstage : ∀ k, ((S.procs p).stage.afterReplace metadata).session = some k → k = n := by
    intro k hk
    cases hs : (S.procs p).stage <;>
      simp_all [RecorderStage.afterReplace, RecorderStage.session, RecorderStage.lockName]
  have hpublished : ((S.procs p).stage.afterReplace metadata).unpublished = none := by
    cases hs : (S.procs p).stage <;>
      simp_all [RecorderStage.afterReplace, RecorderStage.unpublished, RecorderStage.lockName]
  -- first the stage moves on, then the file
  have hmoved : Inv (S.setRecorder p ((S.procs p).stage.afterReplace metadata) none) := by
    refine h.setRecorder_same halive ⟨fun k hk => ?_, fun k hk => ?_, fun k hk => ?_, ?_⟩
      (fun k hk => ?_) (by rw [ht]; simp)
    · rw [hstage k hk, hdir]
      rfl
    · rw [hstage k (RecorderStage.session_of_lockName hk)]
      exact hrecorder.lock n hname
    · rw [hpublished] at hk
      cases hk
    · rintro k m - hm
      cases hm
    · rw [hstage k hk]
      exact hsession
  have hreplaced : Inv ((S.setRecorder p ((S.procs p).stage.afterReplace metadata) none).setDir n
      (some { dir with sessionJson := dir.sessionJsonTmp, sessionJsonTmp := none })) := by
    refine hmoved.setDir (fun q hq => ?_) (fun _ _ => rfl) (fun q hq hs => ?_)
    · rw [htmp]
      rfl
    · obtain rfl : q = p := hmoved.unique q p n ⟨hq, hs⟩
        ⟨by simpa using halive, by
          rw [stage_setRecorder_self]
          cases hs' : (S.procs p).stage <;>
            simp_all [RecorderStage.afterReplace, RecorderStage.session, RecorderStage.lockName]⟩
      rw [stage_setRecorder_self, pending_setRecorder_self]
      refine ⟨fun k hk => ?_, fun k hk => ?_, fun k hk => ?_, ?_⟩
      · rw [hstage k hk, dirs_setDir_self]
        rfl
      · rw [hstage k (RecorderStage.session_of_lockName hk)]
        exact ⟨(hrecorder.lock n hname).1, _, dirs_setDir_self _ _ _, hactive⟩
      · rw [hpublished] at hk
        cases hk
      · rintro k m - hm
        cases hm
  rw [next, hdir]
  exact hreplaced

/-- Every other step keeps the invariant. -/
theorem Inv.step_other {a : Action} (h : Inv S) (ha : Enabled S a) (hpass : a.inPass = false) :
    Inv (next S a) := by
  cases a with
  | takeQuota p job =>
    obtain ⟨-, ht, hfree, -⟩ := ha
    have hidle : ∀ q, (S.procs q).task.inPass = false := by
      intro q
      by_contra hq
      rw [(h.task q).quota (by simpa using hq)] at hfree
      cases hfree
    refine ((h.setQuota hidle).setJob job).setTask
      (TaskInv.of_plain (fun _ => rfl) ?_ ?_ ?_ ?_) <;>
      split_ifs <;> simp [Task.listed, Task.names, Task.target]
  -- the start-up pass makes its recorder ready in the same step
  | releaseQuota p =>
    have ht : (S.procs p).task = .release := ha
    have hlock := (h.task p).quota (by rw [ht]; rfl)
    have hidle : Inv (S.setTask p .idle) :=
      h.setTask (TaskInv.of_plain (by simp [Task.inPass]) rfl rfl rfl (by simp))
    have hstage : Inv ((S.setTask p .idle).setRecorder p
        (if (S.procs p).job = .startUp ∧ (S.procs p).stage = .starting then .ready
          else (S.procs p).stage) (S.procs p).pending) := by
      split_ifs with hstart
      · refine hidle.setRecorder ⟨?_, ?_, ?_, ?_⟩ ?_ ?_ (by simp) <;>
          simp [RecorderStage.session, RecorderStage.lockName, RecorderStage.unpublished]
      · rw [← stage_setTask S p p .idle, ← pending_setTask S p p .idle, setRecorder_self]
        exact hidle
    refine hstage.setQuota fun q => ?_
    rw [task_setRecorder]
    by_contra hq
    rcases eq_or_ne q p with rfl | hqp
    · rw [task_setTask_self] at hq
      exact hq rfl
    · rw [task_setTask_of_ne _ _ _ _ hqp] at hq
      exact hqp (h.eq_of_inPass (by rw [ht]; rfl) (by simpa using hq))
  | mkdir p n start => exact h.mkdir ha.2.1 ha.2.2.2
  | lock p n start => exact h.lock ha.1 ha.2.1 ha.2.2.1 ha.2.2.2
  -- chunk files are no part of the invariant
  | ownWrite p n files =>
    refine h.setDir_of_sameJson ?_ ?_ isSome_map ?_
    · unfold System.sessionJson
      cases S.dirs n <;> rfl
    · unfold System.sessionJsonTmp
      cases S.dirs n <;> rfl
    · rintro ⟨dir, hdir, hlock⟩
      exact ⟨{ dir with files := files }, by rw [hdir]; rfl, hlock⟩
  | writeJson p n chunks withErrors endNs exitReason metadata =>
    exact h.writeJson ha.1 ha.2.1 ha.2.2.1 ha.2.2.2.1
  | replaceJson p n metadata => exact h.replaceJson ha.1 ha.2.1 ha.2.2.1 ha.2.2.2
  | jsonFails p =>
    obtain ⟨halive, ht⟩ := ha
    obtain ⟨hdir, hlock, hunpublished, -⟩ := h.recorder p halive
    refine h.setRecorder_same halive ⟨hdir, hlock, hunpublished, ?_⟩ (fun _ => id)
      (by rw [ht]; simp)
    rintro k m - hm
    cases hm
  | beginClose p n start =>
    obtain ⟨halive, ht, -, hstage⟩ := ha
    obtain ⟨hdir, hlock, -, -⟩ := h.recorder p halive
    rw [hstage] at hdir hlock
    refine h.setRecorder_same halive ⟨hdir, hlock, ?_, ?_⟩ ?_ (by rw [ht]; simp)
    · rintro k hk
      cases hk
    · rintro k m - hm
      cases hm
    · rw [hstage]
      exact fun _ => id
  | releaseSession p n metadata =>
    obtain ⟨halive, ht, hstage⟩ := ha
    have hclosed : Inv (S.setRecorder p (.closed n metadata) none) := by
      refine h.setRecorder_same halive ⟨?_, ?_, ?_, ?_⟩ ?_ (by rw [ht]; simp) <;>
        simp [RecorderStage.session, RecorderStage.lockName, RecorderStage.unpublished]
    refine hclosed.unlock ?_
    rintro ⟨-, hname⟩
    rw [stage_setRecorder_self] at hname
    cases hname
  | die p => exact h.die p
  | inspectRead p n =>
    exact h.setTask (TaskInv.of_plain (by simp [Task.inPass]) rfl rfl rfl (by simp))
  | inspectProbe p n =>
    obtain ⟨ht, hfree⟩ := ha
    have hnone := fun q => h.not_holds_of_free (q := q) hfree
    refine ((h.setLock hnone).touchLock n).setTask (p := p) ?_
    refine ⟨by simp [Task.inPass], by simp [Task.listed], by simp [Task.names],
      by simp [Task.target], by simp [Task.target], fun k hk => ?_⟩
    obtain rfl : n = k := by simpa using hk
    exact hnone p
  | inspectBusy p n =>
    exact h.setTask (TaskInv.of_plain (by simp [Task.inPass]) rfl rfl rfl (by simp))
  | inspectRelease p n =>
    have ht : (S.procs p).task = .inspectProbed n := ha
    have hunlock := h.unlock ((h.task p).inspect_free n ht)
    exact hunlock.setTask (TaskInv.of_plain (by simp [Task.inPass]) rfl rfl rfl (by simp))
  | _ => cases hpass

theorem Inv.step {a : Action} (h : Inv S) (ha : step S a = some S') : Inv S' := by
  obtain ⟨henabled, rfl⟩ := step_eq_some_iff.1 ha
  cases hpass : a.inPass with
  | true => exact h.step_pass henabled hpass
  | false => exact h.step_other henabled hpass

end Step

/-! ### Runs -/

theorem inv_of_initial {S : System} (h : S.Initial) : Inv S := by
  obtain ⟨hprocs, -, -⟩ := h
  constructor
  · intro p
    rw [(hprocs p).2]
    exact TaskInv.of_plain (by simp [Task.inPass]) rfl rfl rfl (by simp)
  · intro p _
    rw [(hprocs p).1]
    constructor <;> simp [RecorderStage.session, RecorderStage.lockName, RecorderStage.unpublished]
  · rintro p q n ⟨-, hp⟩
    rw [(hprocs p).1] at hp
    cases hp

theorem inv_of_reachable {S : System} (h : Reachable S) : Inv S := by
  obtain ⟨S₀, as, h₀, hrun⟩ := h
  exact exec_invariant (fun _ _ _ hS hstep => Inv.step hS hstep) (inv_of_initial h₀) hrun

/-- **Live sessions are untouched.** In every system that any interleaving reaches, a step of a
recovery or a pruning leaves the directory and the lock of every session whose owner is running and
has not released its lock, from the moment the directory is made. -/
theorem live_sessions_untouched {S S' : System} {a : Action} (hS : Reachable S)
    (hstep : step S a = some S') (hpass : a.inPass = true) {p n : ℕ} (howner : Owns S p n) :
    S'.dirs n = S.dirs n ∧ S'.locks n = S.locks n := by
  obtain ⟨ha, rfl⟩ := step_eq_some_iff.1 hstep
  have h := inv_of_reachable hS
  -- only the session that was probed changes, and that one has no owner
  have htarget : ∀ {q k : ℕ}, (S.procs q).task.target = some k → n ≠ k := by
    rintro q k ht rfl
    exact (h.task q).target_free n ht p howner
  cases a with
  | probe q kind item todo =>
    obtain ⟨ht, -, hfree⟩ := ha
    have hne : n ≠ item.1 := by
      rintro rfl
      exact h.not_owns_of_listed (p := q) (by rw [ht]; simp [Task.listed]) hfree howner
    exact ⟨dirs_setDir_of_ne _ _ _ _ hne, locks_setLock_of_ne _ _ _ _ hne⟩
  | releaseProbe q kind item todo =>
    have ht : (S.procs q).task = .probed kind item todo := ha
    exact ⟨rfl, locks_setLock_of_ne _ _ _ _ (htarget (by rw [ht]; rfl))⟩
  | unlinkGzTmp q item todo chunk =>
    have ht : (S.procs q).task = .acting .recover item todo := ha
    exact ⟨dirs_setDir_of_ne _ _ _ _ (htarget (by rw [ht]; rfl)), rfl⟩
  | writeInterrupted q item todo nowNs =>
    have ht : (S.procs q).task = .acting .recover item todo := ha
    exact ⟨dirs_setDir_of_ne _ _ _ _ (htarget (by rw [ht]; rfl)), rfl⟩
  | replaceInterrupted q item todo =>
    have ht : (S.procs q).task = .replacing item todo := ha
    exact ⟨dirs_setDir_of_ne _ _ _ _ (htarget (by rw [ht]; rfl)), rfl⟩
  | unlinkEntry q item todo entry =>
    have ht : (S.procs q).task = .acting .prune item todo := ha
    have hne : n ≠ item.1 := htarget (by rw [ht]; rfl)
    exact ⟨dirs_setDir_of_ne _ _ _ _ hne, locks_setLock_of_ne _ _ _ _ hne⟩
  | rmdir q item todo =>
    have ht := ha.1
    exact ⟨dirs_setDir_of_ne _ _ _ _ (htarget (by rw [ht]; rfl)), rfl⟩
  | measure | list | read | skipChild | sort | passOver | probeError | recoverFails | rmtreeFails
  | remeasure | endItems => exact ⟨rfl, rfl⟩
  | _ => cases hpass

/-- Processes that have not begun, on an empty logs directory. -/
def emptySystem : System where
  procs := fun _ => {}
  dirs := fun _ => none

theorem initial_emptySystem : emptySystem.Initial := ⟨fun _ => ⟨rfl, rfl⟩, rfl, fun _ => rfl⟩

/-- Process `p` starts a recorder in directory `n` while no other session is there. -/
def startRecorder (p n : ℕ) : List Action :=
  [.takeQuota p .startUp, .list p .recover [], .sort p .recover [], .endItems p .recover,
    .measure p 0, .releaseQuota p, .mkdir p n 100, .lock p n 100,
    .writeJson p n [] false 0 "" (liveMetadata 100 []), .replaceJson p n (liveMetadata 100 [])]

/-- Process `p` has read the metadata of session `n` and sorted its list. -/
def readSessions (p n : ℕ) : List Action :=
  [.takeQuota p .startUp, .list p .recover [n], .read p .recover n (liveMetadata 100 []) [] [],
    .sort p .recover [(n, liveMetadata 100 [])]]

/-- Process 1 starts while process 0 records, and passes over its session. -/
theorem live_sessions_untouched_passOver : ∃ S S' : System,
    exec step emptySystem (startRecorder 0 7 ++ readSessions 1 7) = some S ∧
      step S (.passOver 1 .recover (7, liveMetadata 100 []) []) = some S' ∧
      S'.dirs 7 = S.dirs 7 ∧ S'.locks 7 = S.locks 7 := by
  obtain ⟨S, hS⟩ := Option.isSome_iff_exists.1
    (show (exec step emptySystem (startRecorder 0 7 ++ readSessions 1 7)).isSome = true by decide)
  have howner : (exec step emptySystem (startRecorder 0 7 ++ readSessions 1 7)).map
      (fun S => ((S.procs 0).alive, (S.procs 0).stage.session)) = some (true, some 7) := by decide
  have hrest : ((exec step emptySystem (startRecorder 0 7 ++ readSessions 1 7)).bind
      (step · (.passOver 1 .recover (7, liveMetadata 100 []) []))).isSome = true := by decide
  rw [hS] at howner hrest
  obtain ⟨S', hS'⟩ := Option.isSome_iff_exists.1 hrest
  have hpair := Prod.mk.inj (Option.some.inj howner)
  exact ⟨S, S', hS, hS', live_sessions_untouched ⟨emptySystem, _, initial_emptySystem, hS⟩ hS' rfl
    ⟨hpair.1, hpair.2⟩⟩

end SilverwareTx.Blackbox
