import SilverwareTx.Blackbox.Recorder

/-!
# The raw log is lossless

* the writer's files are the chunks of a `RotatingLog` of the records written (`Writes`), a step for
  each of its operations;
* the queue is first in, first out, and drops nothing unless it says so (`Accounted`);
* `raw_lossless` puts both together and reads the chunks back.
-/

namespace SilverwareTx.Blackbox

open RecordLog

variable {config : RecorderConfig} {startUtcNs : ℤ}

/-! ### The writer -/

/-- The writer has the records of `log` in its chunks, in files numbered from 1. -/
structure Writes (startUtcNs : ℤ) (log : RotatingLog SbbRecord) (w : Writer) : Prop where
  numbers : w.serialFiles.map Prod.fst = List.range' 1 log.closed.length
  closed : List.Forall₂ (Encodes startUtcNs) log.closed (w.serialFiles.map Prod.snd)
  current : Option.Rel (Encodes startUtcNs) log.current w.rawStream
  index : w.rawIndex = log.closed.length + w.rawStream.toList.length
  count : w.rawRecordCount = log.contents.length

theorem writes_empty : Writes startUtcNs {} {} := by
  constructor
  · rfl
  · exact .nil
  · exact .none
  · rfl
  · rfl

section Writer

variable {log : RotatingLog SbbRecord} {w w' : Writer}

theorem Writes.openRaw (h : Writes startUtcNs log w) (hcurrent : w.rawStream = none)
    {elapsedNs : ℤ} (hopen : openRaw startUtcNs elapsedNs w = .ok w') :
    Writes startUtcNs log.ensureOpen w' ∧ w'.rawStream.isSome = true := by
  obtain ⟨hnumbers, hclosed, hrel, hindex, hcount⟩ := h
  rw [hcurrent] at hrel hindex
  have hlog : log.current = none := by
    cases hc : log.current with
    | none => rfl
    | some records =>
      rw [hc] at hrel
      cases hrel
  unfold Blackbox.openRaw at hopen
  cases hheader : packSbbHeader startUtcNs with
  | none => simp [hheader] at hopen
  | some header =>
    simp only [hheader, Except.ok.injEq] at hopen
    subst hopen
    refine ⟨⟨hnumbers, hclosed, ?_, ?_, ?_⟩, rfl⟩
    · simp only [RotatingLog.ensureOpen, hlog]
      exact .some (encodes_nil hheader)
    · simpa [RotatingLog.ensureOpen] using hindex
    · simpa using hcount

theorem Writes.closeRaw (h : Writes startUtcNs log w) :
    Writes startUtcNs log.close (closeRaw w) ∧ (Blackbox.closeRaw w).rawStream = none := by
  obtain ⟨hnumbers, hclosed, hrel, hindex, hcount⟩ := h
  unfold Blackbox.closeRaw
  cases hw : w.rawStream with
  | none =>
    rw [hw] at hrel hindex
    cases hc : log.current with
    | some records =>
      rw [hc] at hrel
      cases hrel
    | none =>
      have hclose : log.close = log := by
        cases log
        simp_all [RotatingLog.close]
      rw [hclose]
      exact ⟨⟨hnumbers, hclosed, by rw [hc, hw]; exact .none, by rw [hw]; exact hindex, hcount⟩, hw⟩
  | some contents =>
    rw [hw] at hrel hindex
    cases hc : log.current with
    | none =>
      rw [hc] at hrel
      cases hrel
    | some records =>
      rw [hc] at hrel
      have hencodes : Encodes startUtcNs records contents := by
        cases hrel with
        | some h => exact h
      refine ⟨⟨?_, ?_, .none, ?_, by simpa using hcount⟩, rfl⟩
      · simp only [RotatingLog.close, hc, List.map_append, hnumbers, List.length_append,
          Option.toList_some, List.length_singleton, List.map_cons, List.map_nil]
        rw [List.range'_concat, hindex]
        simp [Nat.add_comm]
      · simp only [RotatingLog.close, hc, List.map_append]
        exact List.rel_append hclosed (.cons hencodes .nil)
      · simpa [RotatingLog.close, hc] using hindex

theorem bind_eq_ok {ε α β : Type} {x : Except ε α} {f : α → Except ε β} {b : β} :
    x >>= f = .ok b ↔ ∃ a, x = .ok a ∧ f a = .ok b := by
  cases x with
  | error e => exact ⟨nofun, fun ⟨a, ha, _⟩ => by cases ha⟩
  | ok a => exact ⟨fun h => ⟨a, rfl, h⟩, fun ⟨_, ha, h⟩ => Except.ok.inj ha ▸ h⟩

theorem Writes.ensureRawOpen (h : Writes startUtcNs log w) {elapsedNs : ℤ}
    (hopen : ensureRawOpen startUtcNs elapsedNs w = .ok w') :
    ∃ log', Writes startUtcNs log' w' ∧ log'.contents = log.contents ∧
      w'.rawStream.isSome = true := by
  unfold Blackbox.ensureRawOpen at hopen
  cases hw : w.rawStream with
  | none =>
    rw [hw, Option.isNone_none, if_pos rfl] at hopen
    obtain ⟨hopened, hsome⟩ := h.openRaw hw hopen
    exact ⟨_, hopened, log.contents_ensureOpen, hsome⟩
  | some contents =>
    rw [hw, Option.isNone_some, if_neg Bool.false_ne_true] at hopen
    obtain rfl := Except.ok.inj hopen
    exact ⟨log, h, rfl, by rw [hw]; rfl⟩

theorem Writes.rotateRaw (h : Writes startUtcNs log w) (hsome : w.rawStream.isSome = true)
    {elapsedNs : ℤ} (hrotate : rotateRaw config startUtcNs elapsedNs w = .ok w') :
    ∃ log', Writes startUtcNs log' w' ∧ log'.contents = log.contents ∧
      w'.rawStream.isSome = true := by
  unfold Blackbox.rotateRaw at hrotate
  split_ifs at hrotate with hneeds
  · obtain ⟨hclosed, hnone⟩ := h.closeRaw
    obtain ⟨hopened, hsome⟩ := hclosed.openRaw hnone hrotate
    refine ⟨_, hopened, ?_, hsome⟩
    rw [RotatingLog.contents_ensureOpen, RotatingLog.contents_close]
  · obtain rfl := Except.ok.inj hrotate
    exact ⟨log, h, rfl, hsome⟩

theorem Writes.appendRecord (h : Writes startUtcNs log w) (hsome : w.rawStream.isSome = true)
    {record : SbbRecord} (happend : appendRecord record w = .ok w') :
    Writes startUtcNs (log.push record) w' := by
  unfold Blackbox.appendRecord at happend
  cases hblock : packSbbRecord record with
  | none => simp [hblock] at happend
  | some block =>
    simp only [hblock, Except.ok.injEq] at happend
    subst happend
    obtain ⟨hnumbers, hclosed, hrel, hindex, hcount⟩ := h
    obtain ⟨contents, hcontents⟩ := Option.isSome_iff_exists.1 hsome
    rw [hcontents] at hrel
    cases hcurrent : log.current with
    | none =>
      rw [hcurrent] at hrel
      cases hrel
    | some records =>
      rw [hcurrent] at hrel
      have hencodes : Encodes startUtcNs records contents := by
        cases hrel with
        | some h => exact h
      refine ⟨hnumbers, hclosed, ?_, ?_, ?_⟩
      · simp only [RotatingLog.push, hcurrent, hcontents]
        exact .some (hencodes.push hblock)
      · simpa [hcontents, RotatingLog.push] using hindex
      · rw [RotatingLog.contents_push, List.length_append, ← hcount]
        rfl

/-- A record that is written is at the end of the log, in one chunk. -/
theorem Writes.writeRaw (h : Writes startUtcNs log w) {record : SbbRecord}
    (hwrite : writeRaw config startUtcNs w record = .ok w') :
    ∃ log', Writes startUtcNs log' w' ∧ log'.contents = log.contents ++ [record] := by
  obtain ⟨w₁, hopen, hwrite⟩ := bind_eq_ok.1 hwrite
  obtain ⟨w₂, hrotate, hwrite⟩ := bind_eq_ok.1 hwrite
  obtain ⟨log₁, h₁, hcontents₁, hsome₁⟩ := h.ensureRawOpen hopen
  obtain ⟨log₂, h₂, hcontents₂, hsome₂⟩ := h₁.rotateRaw hsome₁ hrotate
  refine ⟨_, h₂.appendRecord hsome₂ hwrite, ?_⟩
  rw [RotatingLog.contents_push, hcontents₂, hcontents₁]

/-- The telemetry chunk and the counters of events have no part in the raw log. -/
theorem Writes.congr (h : Writes startUtcNs log w) (hfiles : w'.serialFiles = w.serialFiles)
    (hstream : w'.rawStream = w.rawStream) (hindex : w'.rawIndex = w.rawIndex)
    (hcount : w'.rawRecordCount = w.rawRecordCount) : Writes startUtcNs log w' := by
  constructor
  · rw [hfiles]
    exact h.numbers
  · rw [hfiles]
    exact h.closed
  · rw [hstream]
    exact h.current
  · rw [hindex, hstream]
    exact h.index
  · rw [hcount]
    exact h.count

theorem Writes.closeCsv (h : Writes startUtcNs log w) : Writes startUtcNs log (closeCsv w) := by
  unfold Blackbox.closeCsv
  split_ifs
  · exact h.congr rfl rfl rfl rfl
  · exact h

theorem Writes.writeSample (h : Writes startUtcNs log w) (rotates : Bool) :
    Writes startUtcNs log (writeSample rotates w) := by
  have hopened : Writes startUtcNs log (if w.csvOpen then w else openCsv w) := by
    split_ifs
    · exact h
    · exact h.congr rfl rfl rfl rfl
  have hrotated : Writes startUtcNs log
      (if rotates then openCsv (Blackbox.closeCsv (if w.csvOpen then w else openCsv w))
        else if w.csvOpen then w else openCsv w) := by
    split_ifs at hopened ⊢
    · exact hopened.closeCsv.congr rfl rfl rfl rfl
    · exact hopened.closeCsv.congr rfl rfl rfl rfl
    · exact hopened
    · exact hopened
  exact hrotated.congr rfl rfl rfl rfl

/-- The raw record of an item. -/
def QueueItem.record : QueueItem → Option SbbRecord
  | .raw record => some record
  | _ => none

/-- **One item**: its record, if it has one, goes to the end of the log. -/
theorem Writes.writeItem (h : Writes startUtcNs log w) {item : QueueItem}
    (hwrite : writeItem config startUtcNs w item = .ok w') :
    ∃ log', Writes startUtcNs log' w' ∧ log'.contents = log.contents ++ item.record.toList := by
  cases item with
  | raw record => exact h.writeRaw hwrite
  | event =>
    obtain rfl := Except.ok.inj hwrite
    exact ⟨log, h.congr rfl rfl rfl rfl, (List.append_nil _).symm⟩
  | sample rotates =>
    obtain rfl := Except.ok.inj hwrite
    exact ⟨log, h.writeSample rotates, (List.append_nil _).symm⟩
  | stop exitReason =>
    obtain rfl := Except.ok.inj hwrite
    exact ⟨log, h, (List.append_nil _).symm⟩

end Writer

/-! ### The queue -/

/-- What a running recorder has taken in: the records in its chunks and then those in its queue. -/
structure Accounted (startUtcNs : ℤ) (records : List SbbRecord) (r : Recorder) : Prop where
  open_ : r.stopRequested = false
  running : r.writerDone = false
  noStop : ∀ item ∈ r.queue, ∀ exitReason, item ≠ .stop exitReason
  written : ∃ log, Writes startUtcNs log r.writer ∧
    log.contents ++ r.queue.filterMap QueueItem.record = records

section Queue

variable {records : List SbbRecord} {r : Recorder}

@[simp] theorem healthy_put (item : QueueItem) : (put config r item).healthy = r.healthy := by
  unfold put
  split_ifs <;> rfl

theorem droppedItems_le_put (item : QueueItem) :
    r.droppedItems ≤ (put config r item).droppedItems := by
  unfold put
  split_ifs <;> simp

theorem healthy_of_writerTurn (h : (writerTurn config startUtcNs r).healthy = true) :
    r.healthy = true := by
  unfold writerTurn at h
  split_ifs at h
  · exact h
  · split at h
    · exact h
    · exact h
    · split at h
      · exact h
      · cases h

theorem droppedItems_writerTurn (config : RecorderConfig) (startUtcNs : ℤ) (r : Recorder) :
    (writerTurn config startUtcNs r).droppedItems = r.droppedItems := by
  unfold writerTurn
  split_ifs
  · rfl
  · split
    · rfl
    · rfl
    · split <;> rfl

/-- An item that is put without a drop is at the end of the queue. -/
theorem Accounted.put (h : Accounted startUtcNs records r) (hhealthy : r.healthy = true)
    {item : QueueItem} (hdrops : (put config r item).droppedItems = 0)
    (hitem : ∀ exitReason, item ≠ .stop exitReason) :
    Accounted startUtcNs (records ++ item.record.toList) (put config r item) := by
  obtain ⟨hopen, hrunning, hnoStop, log, hlog, hrecords⟩ := h
  unfold Blackbox.put at hdrops ⊢
  rw [if_neg (by simp [hopen, hhealthy])] at hdrops ⊢
  split_ifs at hdrops ⊢ with hfull
  refine ⟨hopen, hrunning, fun other hother => ?_, log, hlog, ?_⟩
  · rcases List.mem_append.1 hother with hother | hother
    · exact hnoStop other hother
    · obtain rfl := List.mem_singleton.1 hother
      exact hitem
  · rw [← hrecords, List.append_assoc, List.filterMap_append]
    cases hrecord : item.record <;> simp [hrecord]

/-- A turn of the running writer on an item. -/
theorem writerTurn_cons (hrunning : r.writerDone = false) {item : QueueItem}
    {queue : List QueueItem} (hqueue : r.queue = item :: queue)
    (hitem : ∀ exitReason, item ≠ .stop exitReason) :
    writerTurn config startUtcNs r =
      match writeItem config startUtcNs r.writer item with
      | .ok w => { r with queue := queue, writer := w }
      | .error w =>
        { r with
          queue := queue, writer := finishWriter w, healthy := false, writerDone := true } := by
  rw [writerTurn, if_neg (by simp [hrunning]), hqueue]
  cases item with
  | stop exitReason => exact absurd rfl (hitem exitReason)
  | raw | event | sample => rfl

theorem writerTurn_stop (hrunning : r.writerDone = false) {exitReason : String}
    {queue : List QueueItem} (hqueue : r.queue = .stop exitReason :: queue) :
    writerTurn config startUtcNs r =
      { r with queue := queue, writer := finishWriter r.writer, writerDone := true } := by
  rw [writerTurn, if_neg (by simp [hrunning]), hqueue]

/-- The writer moves the record at the head of the queue into its chunks. -/
theorem writer_takes {log : RotatingLog SbbRecord} (hlog : Writes startUtcNs log r.writer)
    (hrunning : r.writerDone = false) {item : QueueItem} {queue : List QueueItem}
    (hqueue : r.queue = item :: queue) (hitem : ∀ exitReason, item ≠ .stop exitReason)
    (hhealthy : (writerTurn config startUtcNs r).healthy = true) :
    ∃ w log', writerTurn config startUtcNs r = { r with queue := queue, writer := w } ∧
      Writes startUtcNs log' w ∧ log'.contents = log.contents ++ item.record.toList := by
  rw [writerTurn_cons hrunning hqueue hitem] at hhealthy ⊢
  cases hw : writeItem config startUtcNs r.writer item with
  | error w =>
    rw [hw] at hhealthy
    cases hhealthy
  | ok w =>
    obtain ⟨log', hlog', hcontents⟩ := hlog.writeItem hw
    exact ⟨w, log', rfl, hlog', hcontents⟩

theorem Accounted.writerTurn (h : Accounted startUtcNs records r)
    (hhealthy : (writerTurn config startUtcNs r).healthy = true) :
    Accounted startUtcNs records (writerTurn config startUtcNs r) := by
  obtain ⟨hopen, hrunning, hnoStop, log, hlog, hrecords⟩ := h
  cases hqueue : r.queue with
  | nil =>
    have hsame : Blackbox.writerTurn config startUtcNs r = r := by
      rw [Blackbox.writerTurn, if_neg (by simp [hrunning]), hqueue]
    rw [hsame]
    exact ⟨hopen, hrunning, hnoStop, log, hlog, hrecords⟩
  | cons item queue =>
    rw [hqueue] at hnoStop hrecords
    obtain ⟨w, log', hturn, hlog', hcontents⟩ :=
      writer_takes hlog hrunning hqueue (hnoStop _ List.mem_cons_self) hhealthy
    rw [hturn]
    refine ⟨hopen, hrunning, fun other hother => hnoStop _ (List.mem_cons_of_mem _ hother), log',
      hlog', ?_⟩
    rw [hcontents, ← hrecords, List.append_assoc, List.filterMap_cons]
    cases item.record <;> rfl

theorem healthy_of_recorderStep {action : RecorderAction}
    (h : (recorderStep config startUtcNs r action).healthy = true) : r.healthy = true := by
  cases action with
  | turn => exact healthy_of_writerTurn h
  | raw | event | sample => rwa [recorderStep, healthy_put] at h

theorem droppedItems_le_recorderStep (config : RecorderConfig) (startUtcNs : ℤ) (r : Recorder)
    (action : RecorderAction) :
    r.droppedItems ≤ (recorderStep config startUtcNs r action).droppedItems := by
  cases action with
  | turn => exact (droppedItems_writerTurn config startUtcNs r).ge
  | raw | event | sample => exact droppedItems_le_put _

theorem Accounted.step (h : Accounted startUtcNs records r) {action : RecorderAction}
    (hhealthy : (recorderStep config startUtcNs r action).healthy = true)
    (hdrops : (recorderStep config startUtcNs r action).droppedItems = 0) :
    Accounted startUtcNs (records ++ action.record.toList)
      (recorderStep config startUtcNs r action) := by
  have hbefore := healthy_of_recorderStep hhealthy
  cases action with
  | raw record =>
    have hput : (Blackbox.put config r (.raw record)).droppedItems = 0 := hdrops
    exact h.put hbefore hput nofun
  | event =>
    have hput : (Blackbox.put config r .event).droppedItems = 0 := hdrops
    exact h.put hbefore hput nofun
  | sample rotates =>
    have hput : (Blackbox.put config r (.sample rotates)).droppedItems = 0 := hdrops
    exact h.put hbefore hput nofun
  | turn =>
    have hsame : records ++ RecorderAction.turn.record.toList = records := List.append_nil _
    rw [hsame]
    exact h.writerTurn hhealthy

theorem recorderRun_concat (actions : List RecorderAction) (action : RecorderAction) :
    recorderRun config startUtcNs (actions ++ [action]) =
      recorderStep config startUtcNs (recorderRun config startUtcNs actions) action := by
  rw [recorderRun, List.foldl_append]
  rfl

/-- **The recorder while it runs**: a healthy one with no drops has every record that was put. -/
theorem accounted_run (actions : List RecorderAction)
    (hhealthy : (recorderRun config startUtcNs actions).healthy = true)
    (hdrops : (recorderRun config startUtcNs actions).droppedItems = 0) :
    Accounted startUtcNs (actions.filterMap RecorderAction.record)
      (recorderRun config startUtcNs actions) := by
  induction actions using List.reverseRecOn with
  | nil => exact ⟨rfl, rfl, by simp [recorderRun], {}, writes_empty, rfl⟩
  | append_singleton actions action ih =>
    rw [recorderRun_concat] at hhealthy hdrops ⊢
    have hle := droppedItems_le_recorderStep config startUtcNs
      (recorderRun config startUtcNs actions) action
    have hbefore := ih (healthy_of_recorderStep hhealthy) (Nat.le_zero.1 (hle.trans hdrops.le))
    rw [List.filterMap_append]
    have hstep := hbefore.step hhealthy hdrops
    cases haction : action.record <;> simpa [haction] using hstep

/-! ### Closing -/

theorem healthy_of_turns {n : ℕ} (h : ((writerTurn config startUtcNs)^[n] r).healthy = true) :
    r.healthy = true := by
  induction n generalizing r with
  | zero => exact h
  | succ n ih => exact healthy_of_writerTurn (ih h)

theorem droppedItems_turns (n : ℕ) :
    ((writerTurn config startUtcNs)^[n] r).droppedItems = r.droppedItems := by
  induction n generalizing r with
  | zero => rfl
  | succ n ih => rw [Function.iterate_succ_apply, ih, droppedItems_writerTurn]

theorem Writes.finish {log : RotatingLog SbbRecord} {w : Writer} (h : Writes startUtcNs log w) :
    Writes startUtcNs log.close (finishWriter w) := h.closeRaw.1.closeCsv

/-- The writer empties the queue up to the stop item and closes its chunks. -/
theorem drain {items : List QueueItem} {exitReason : String} {log : RotatingLog SbbRecord}
    (hrunning : r.writerDone = false) (hqueue : r.queue = items ++ [.stop exitReason])
    (hnoStop : ∀ item ∈ items, ∀ exitReason, item ≠ .stop exitReason)
    (hlog : Writes startUtcNs log r.writer)
    (hhealthy : ((writerTurn config startUtcNs)^[items.length + 1] r).healthy = true) :
    ((writerTurn config startUtcNs)^[items.length + 1] r).writerDone = true ∧
      ∃ log' : RotatingLog SbbRecord, Writes startUtcNs log'.close
          ((writerTurn config startUtcNs)^[items.length + 1] r).writer ∧
        log'.contents = log.contents ++ items.filterMap QueueItem.record := by
  induction items generalizing r log with
  | nil =>
    rw [List.length_nil, Nat.zero_add, Function.iterate_one, writerTurn_stop hrunning hqueue]
    exact ⟨rfl, log, hlog.finish, (List.append_nil _).symm⟩
  | cons item items ih =>
    rw [List.length_cons, Function.iterate_succ_apply] at hhealthy ⊢
    obtain ⟨w, log₁, hturn, hlog₁, hcontents₁⟩ := writer_takes hlog hrunning hqueue
      (hnoStop _ List.mem_cons_self) (healthy_of_turns hhealthy)
    rw [hturn] at hhealthy ⊢
    obtain ⟨hdone, log₂, hlog₂, hcontents₂⟩ :=
      ih (r := { r with queue := items ++ [.stop exitReason], writer := w }) hrunning rfl
      (fun other hother => hnoStop _ (List.mem_cons_of_mem _ hother)) hlog₁ hhealthy
    refine ⟨hdone, log₂, hlog₂, ?_⟩
    rw [hcontents₂, hcontents₁, List.append_assoc, List.filterMap_cons]
    cases item.record <;> rfl

theorem droppedItems_requestStop (config : RecorderConfig) (exitReason : String) (r : Recorder) :
    (requestStop config exitReason r).droppedItems = (put config r .event).droppedItems := by
  unfold requestStop
  simp only
  split_ifs <;> rfl

theorem healthy_requestStop (config : RecorderConfig) (exitReason : String) (r : Recorder) :
    (requestStop config exitReason r).healthy = r.healthy := by
  unfold requestStop
  simp only
  split_ifs <;> exact healthy_put _

/-- `close` leaves the stop item behind everything that was put. -/
theorem queue_requestStop {exitReason : String} (h : Accounted startUtcNs records r)
    (hhealthy : r.healthy = true)
    (hdrops : (requestStop config exitReason r).droppedItems = 0) :
    ∃ items log, (requestStop config exitReason r).queue = items ++ [.stop exitReason] ∧
      (requestStop config exitReason r).writerDone = false ∧
      (∀ item ∈ items, ∀ exitReason, item ≠ .stop exitReason) ∧
      Writes startUtcNs log (requestStop config exitReason r).writer ∧
      log.contents ++ items.filterMap QueueItem.record = records := by
  have hput : (put config r .event).droppedItems = 0 := by
    rwa [droppedItems_requestStop] at hdrops
  obtain ⟨-, hrunning, hnoStop, log, hlog, hrecords⟩ := h.put hhealthy hput nofun
  have hstop : requestStop config exitReason r =
      { put config r .event with
        stopRequested := true, queue := (put config r .event).queue ++ [.stop exitReason] } := by
    unfold requestStop
    rw [if_neg (by simp [hrunning])]
  rw [hstop]
  have hsame : records ++ QueueItem.event.record.toList = records := List.append_nil _
  exact ⟨_, log, rfl, hrunning, hnoStop, hlog, hrecords.trans hsame⟩

end Queue

/-! ### Calls -/

theorem flatten_slices {α : Type*} (l : List α) (k n : ℕ) :
    ((List.range n).map fun i => (l.drop (i * k)).take k).flatten = l.take (n * k) := by
  induction n with
  | zero => simp
  | succ n ih =>
    rw [List.range_succ, List.map_append, List.flatten_append, ih, Nat.succ_mul, List.take_add]
    simp

theorem flatten_payloadSlices (data : List U8) : (payloadSlices data).flatten = data := by
  rw [payloadSlices, flatten_slices]
  apply List.take_of_length_le
  have hmax : sbbMaxPayload = 65535 := rfl
  rw [hmax]
  omega

theorem length_of_mem_payloadSlices {data slice : List U8} (h : slice ∈ payloadSlices data) :
    1 ≤ slice.length ∧ slice.length ≤ 65535 := by
  obtain ⟨i, hi, rfl⟩ := List.mem_map.1 h
  have hi := List.mem_range.1 hi
  have hmax : sbbMaxPayload = 65535 := rfl
  rw [hmax] at hi ⊢
  rw [List.length_take, List.length_drop]
  omega

/-- `group` is what the log has of a call. -/
structure RecordsOf (call : RawCall) (group : List SbbRecord) : Prop where
  data : (group.map SbbRecord.data).flatten = call.data
  fields : ∀ record ∈ group, record.connectionId = call.connectionId ∧
    record.elapsedNs = call.elapsedNs ∧ record.utcNs = call.utcNs
  length : ∀ record ∈ group, 1 ≤ record.data.length ∧ record.data.length ≤ 65535

theorem recordsOf_items (call : RawCall) : RecordsOf call call.items := by
  unfold RawCall.items
  split_ifs with hempty
  · exact ⟨(List.isEmpty_iff.1 hempty).symm, by simp, by simp⟩
  · refine ⟨?_, ?_, ?_⟩
    · rw [List.map_map]
      exact (congrArg List.flatten (List.map_id _)).trans (flatten_payloadSlices call.data)
    · intro record hrecord
      obtain ⟨slice, -, rfl⟩ := List.mem_map.1 hrecord
      exact ⟨rfl, rfl, rfl⟩
    · intro record hrecord
      obtain ⟨slice, hslice, rfl⟩ := List.mem_map.1 hrecord
      exact length_of_mem_payloadSlices hslice

/-! ### Health -/

/-- With times and connection ids that fit their fields the writer makes no error. -/
theorem writeItem_isOk (config : RecorderConfig) (w : Writer) {item : QueueItem}
    (hstart : (packSbbHeader startUtcNs).isSome = true)
    (hitem : ∀ record, item.record = some record → (packSbbRecord record).isSome = true) :
    ∃ w', writeItem config startUtcNs w item = .ok w' := by
  obtain ⟨header, hheader⟩ := Option.isSome_iff_exists.1 hstart
  have hopen : ∀ elapsedNs (w : Writer), ∃ w', openRaw startUtcNs elapsedNs w = .ok w' := by
    intro elapsedNs w
    simp only [openRaw, hheader]
    exact ⟨_, rfl⟩
  cases item with
  | raw record =>
    obtain ⟨block, hblock⟩ := Option.isSome_iff_exists.1 (hitem record rfl)
    have hensure : ∃ w₁, ensureRawOpen startUtcNs record.elapsedNs w = .ok w₁ := by
      unfold ensureRawOpen
      split_ifs
      · exact hopen _ _
      · exact ⟨w, rfl⟩
    obtain ⟨w₁, h₁⟩ := hensure
    have hrotate : ∃ w₂, rotateRaw config startUtcNs record.elapsedNs w₁ = .ok w₂ := by
      unfold rotateRaw
      split_ifs
      · exact hopen _ _
      · exact ⟨w₁, rfl⟩
    obtain ⟨w₂, h₂⟩ := hrotate
    have happend : ∃ w₃, appendRecord record w₂ = .ok w₃ := by
      simp only [appendRecord, hblock]
      exact ⟨_, rfl⟩
    obtain ⟨w₃, h₃⟩ := happend
    exact ⟨w₃, bind_eq_ok.2 ⟨w₁, h₁, bind_eq_ok.2 ⟨w₂, h₂, h₃⟩⟩⟩
  | event | sample | stop => exact ⟨_, rfl⟩

/-- Every record in the queue can be packed. -/
def Packable (r : Recorder) : Prop :=
  r.healthy = true ∧ ∀ item ∈ r.queue, ∀ record, item.record = some record →
    (packSbbRecord record).isSome = true

theorem Packable.put {r : Recorder} (h : Packable r) {item : QueueItem}
    (hitem : ∀ record, item.record = some record → (packSbbRecord record).isSome = true) :
    Packable (put config r item) := by
  unfold Blackbox.put
  split_ifs
  · exact h
  · exact h
  · refine ⟨h.1, fun other hother => ?_⟩
    rcases List.mem_append.1 hother with hother | hother
    · exact h.2 other hother
    · obtain rfl := List.mem_singleton.1 hother
      exact hitem

theorem Packable.writerTurn {r : Recorder} (h : Packable r)
    (hstart : (packSbbHeader startUtcNs).isSome = true) :
    Packable (writerTurn config startUtcNs r) := by
  obtain ⟨hhealthy, hqueue⟩ := h
  unfold Blackbox.writerTurn
  split_ifs
  · exact ⟨hhealthy, hqueue⟩
  · split
    · exact ⟨hhealthy, hqueue⟩
    · rename_i hr
      exact ⟨hhealthy,
        fun item hitem => hqueue item (by rw [hr]; exact List.mem_cons_of_mem _ hitem)⟩
    · rename_i item queue _ hr
      obtain ⟨w, hw⟩ := writeItem_isOk config r.writer hstart
        (hqueue item (by rw [hr]; exact List.mem_cons_self))
      rw [hw]
      exact ⟨hhealthy,
        fun item hitem => hqueue item (by rw [hr]; exact List.mem_cons_of_mem _ hitem)⟩

theorem Packable.requestStop {r : Recorder} (h : Packable r) (exitReason : String) :
    Packable (requestStop config exitReason r) := by
  have hput : Packable (Blackbox.put config r .event) := h.put nofun
  unfold Blackbox.requestStop
  simp only
  split_ifs
  · exact hput
  · refine ⟨hput.1, fun item hitem => ?_⟩
    rcases List.mem_append.1 hitem with hitem | hitem
    · exact hput.2 item hitem
    · obtain rfl := List.mem_singleton.1 hitem
      exact nofun

/-- A recorder stays healthy when the start time and the records put fit their fields. -/
theorem healthy_closeRecorder {exitReason : String} {actions : List RecorderAction}
    (hstart : (packSbbHeader startUtcNs).isSome = true)
    (hrecords : ∀ record ∈ actions.filterMap RecorderAction.record,
      (packSbbRecord record).isSome = true) :
    (closeRecorder config startUtcNs exitReason
      (recorderRun config startUtcNs actions)).healthy = true := by
  have hrun : Packable (recorderRun config startUtcNs actions) := by
    induction actions using List.reverseRecOn with
    | nil => exact ⟨rfl, by simp [recorderRun]⟩
    | append_singleton actions action ih =>
      have hbefore := ih fun record hrecord => hrecords record (by
        rw [List.filterMap_append]
        exact List.mem_append_left _ hrecord)
      rw [recorderRun_concat]
      cases action with
      | raw record =>
        refine hbefore.put fun other hother => ?_
        obtain rfl := Option.some.inj hother
        exact hrecords record (by simp [RecorderAction.record])
      | event => exact hbefore.put nofun
      | sample rotates => exact hbefore.put nofun
      | turn => exact hbefore.writerTurn hstart
  have hturns : ∀ n r, Packable r → Packable ((writerTurn config startUtcNs)^[n] r) := by
    intro n r hr
    induction n generalizing r with
    | zero => exact hr
    | succ n ih => exact ih _ (hr.writerTurn hstart)
  exact (hturns _ _ (hrun.requestStop exitReason)).1

/-! ### Reading the chunks -/

theorem Encodes.take_header {records : List SbbRecord} {contents : List U8}
    (h : Encodes startUtcNs records contents) :
    packSbbHeader startUtcNs = some (contents.take sbbHeaderSize) := by
  obtain ⟨header, blocks, hheader, -, rfl⟩ := h
  rw [List.take_left' (length_packSbbHeader hheader), hheader]

theorem openSerial_serialChunks (gzip : GzipCodec) (compressed : ℕ → Bool) (w : Writer) :
    (serialChunks gzip compressed w).map (fun file => gzip.openSerial file.2) =
      w.serialFiles.map Prod.snd := by
  rw [serialChunks, List.map_map]
  refine List.map_congr_left fun file _ => ?_
  simp only [Function.comp_apply]
  split_ifs
  · exact gzip.decompress_compress file.2
  · rfl

/-- **The raw blackbox is lossless.** For any calls of `raw`, whose items go into the queue between
any other items and turns of the writer, a recorder that is healthy and has dropped nothing when
`close` is done has numbered its chunks from 1, each with the header; they read back without an
error, whichever of them are compressed, and their records are those of the calls, in order. -/
theorem raw_lossless (gzip : GzipCodec) (compressed : ℕ → Bool) (config : RecorderConfig)
    (startUtcNs : ℤ) (exitReason : String) (calls : List RawCall) (actions : List RecorderAction)
    (hcalls : actions.filterMap RecorderAction.record = calls.flatMap RawCall.items)
    (r : Recorder)
    (hclose : r = closeRecorder config startUtcNs exitReason
      (recorderRun config startUtcNs actions))
    (hhealthy : r.healthy = true) (hdrops : r.droppedItems = 0) :
    r.writerDone = true ∧
      (serialChunks gzip compressed r.writer).map Prod.fst =
        List.range' 1 (serialChunks gzip compressed r.writer).length ∧
      ∃ chunks groups : List (List SbbRecord),
        List.Forall₂ (fun file records =>
            packSbbHeader startUtcNs = some ((gzip.openSerial file.2).take sbbHeaderSize) ∧
              iterSbbRecords (gzip.openSerial file.2) = (records, none))
          (serialChunks gzip compressed r.writer) chunks ∧
        chunks.flatten = groups.flatten ∧ List.Forall₂ RecordsOf calls groups ∧
        r.writer.rawRecordCount = chunks.flatten.length := by
  obtain ⟨hopen, hnone⟩ : (recorderRun config startUtcNs actions).healthy = true ∧
      (requestStop config exitReason (recorderRun config startUtcNs actions)).droppedItems = 0 := by
    rw [hclose, closeRecorder] at hhealthy hdrops
    rw [droppedItems_turns] at hdrops
    have := healthy_of_turns hhealthy
    rw [healthy_requestStop] at this
    exact ⟨this, hdrops⟩
  have hdropped : (recorderRun config startUtcNs actions).droppedItems = 0 := by
    rw [droppedItems_requestStop] at hnone
    exact Nat.le_zero.1 ((droppedItems_le_put _).trans hnone.le)
  -- what the recorder has when `close` is called, and after the writer has emptied the queue
  obtain ⟨items, log, hqueue, hrunning, hnoStop, hlog, hrecords⟩ :=
    queue_requestStop (accounted_run actions hopen hdropped) hopen hnone
  have hlength : (requestStop config exitReason
      (recorderRun config startUtcNs actions)).queue.length = items.length + 1 := by
    rw [hqueue, List.length_append, List.length_singleton]
  rw [closeRecorder] at hclose
  simp only [hlength] at hclose
  rw [hclose] at hhealthy
  obtain ⟨hdone, final, hfinal, hcontents⟩ := drain hrunning hqueue hnoStop hlog hhealthy
  rw [← hclose] at hdone hfinal
  have hall : final.close.closed.flatten = (calls.map RawCall.items).flatten := by
    rw [RotatingLog.flatten_closed_close, hcontents, hrecords, hcalls, List.flatMap]
  refine ⟨hdone, ?_, final.close.closed, calls.map RawCall.items, ?_, hall, ?_, ?_⟩
  · have hfiles := hfinal.closed.length_eq
    rw [serialChunks, List.map_map, List.length_map]
    rw [List.length_map] at hfiles
    rw [← hfiles]
    exact hfinal.numbers
  · have hreads : List.Forall₂ (fun contents records =>
        packSbbHeader startUtcNs = some (contents.take sbbHeaderSize) ∧
          iterSbbRecords contents = (records, none))
        ((serialChunks gzip compressed r.writer).map fun file => gzip.openSerial file.2)
        final.close.closed := by
      rw [openSerial_serialChunks]
      exact hfinal.closed.flip.imp fun _ _ (h : Encodes startUtcNs _ _) =>
        ⟨h.take_header, iterSbbRecords_of_encodes h⟩
    exact List.forall₂_map_left_iff.1 hreads
  · rw [List.forall₂_map_right_iff]
    exact List.forall₂_same.2 fun call _ => recordsOf_items call
  · rw [hfinal.count, RotatingLog.contents_close, RotatingLog.flatten_closed_close]

/-- Two chunks, the first one closed for its size between the two calls. -/
def sampleCalls : List RawCall := [⟨[1, 2, 3], 7, 1000, 5⟩, ⟨[], 7, 1500, 6⟩, ⟨[4], 7, 2000, 8⟩]

/-- An event, two records and a rotation between them, with the turns of the writer. -/
def sampleActions : List RecorderAction :=
  [.event, .turn, .raw ⟨1000, 5, 7, [1, 2, 3]⟩, .sample true, .turn, .raw ⟨2000, 8, 7, [4]⟩, .turn]

/-- A gzip member with one stored block, for contents that fit one. -/
def storedGzip : GzipCodec where
  compress contents :=
    [0x1F, 0x8B, 0x08, 0, 0, 0, 0, 0, 0, 0xFF, 1] ++ (BigEndian.toBE 2 contents.length).reverse ++
      (BigEndian.toBE 2 (65535 - contents.length)).reverse ++ contents ++
      ((BigEndian.toBE 4 (zlibCrc32 contents).toNat).reverse ++
        (BigEndian.toBE 4 contents.length).reverse)
  decompress file := (file.drop 15).take (file.length - 23)
  decompress_compress contents := by
    rw [List.append_assoc _ contents, List.drop_left' (by simp), List.take_left' (by simp; omega)]

theorem raw_lossless_sample :
    ((serialChunks storedGzip (· = 1) (closeRecorder ⟨8192, 20, fun _ _ => false⟩ 100 "end"
      (recorderRun ⟨8192, 20, fun _ _ => false⟩ 100 sampleActions)).writer).map Prod.fst) =
      [1, 2] := by
  have hlossless := raw_lossless storedGzip (· = 1) ⟨8192, 20, fun _ _ => false⟩ 100 "end"
    sampleCalls sampleActions (by decide) _ rfl
    (healthy_closeRecorder (by decide +kernel) (by decide +kernel)) (by decide +kernel)
  rw [hlossless.2.1]
  decide +kernel

end SilverwareTx.Blackbox
