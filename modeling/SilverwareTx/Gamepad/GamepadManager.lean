import SilverwareTx.Gamepad.ArduinoPlatform
import SilverwareTx.Lib.InputRun

/-!
# The gamepad snapshot (`ArduinoBluepad32.cpp`, `gamepad_manager.cpp`)

* `Bluepad32.update`: one pass over the seats, then the callbacks of those that changed;
* `GamepadManager.update`: `gamepad_update`, with the callbacks that the Bluetooth task runs while
  the pass is under way, also while a report is copied;
* `single_owner`: which controller the snapshot follows, and which of its reports, for any number
  of seats.
-/

namespace SilverwareTx

variable {n : ℕ} {δ : Type} [DecidableEq δ]

/-! ### Fetching a report -/

/-- `UNI_ARDUINO_ERROR_*` -/
inductive FetchStatus
  | success
  | invalidDevice
  | noData
  deriving DecidableEq

/-- The platform after some callbacks of the Bluetooth task. -/
def ArduinoPlatform.callbacks (p : ArduinoPlatform n δ) (cs : List (PlatformCallback δ)) :
    ArduinoPlatform n δ :=
  cs.foldl ArduinoPlatform.callback p

/-- What the Bluetooth task does around the fetch of a seat. -/
structure SeatTurn (δ : Type) where
  /-- Before the index of the seat is read. -/
  before : List (PlatformCallback δ) := []
  /-- From there until the mutex is taken. -/
  inside : List (PlatformCallback δ) := []
  /-- While the report is copied: what does not take the mutex. -/
  during : List { c : PlatformCallback δ // c.Unlocked } := []
  /-- What the seat reads as while it is being cleared. -/
  read : SeatRead := {}

/-- The callbacks while the report is copied. -/
def SeatTurn.copying (turn : SeatTurn δ) : List (PlatformCallback δ) :=
  turn.during.map Subtype.val

/-- `arduino_get_controller_data`, from the read of the index of the seat. -/
def ArduinoPlatform.getControllerData (p : ArduinoPlatform n δ) (i : Fin n) (turn : SeatTurn δ)
    (outData : UniController) : FetchStatus × UniController × ArduinoPlatform n δ :=
  if p.readIdx i turn.read = gamepadInvalid then (.invalidDevice, outData, p)
  else
    let p := p.callbacks turn.inside
    if p.readDataUpdated i turn.read then
      (.success, p.readData i turn.copying turn.read, (p.callbacks turn.copying).fetch i)
    else (.noData, outData, p)

/-! ### Bluepad32 -/

/-- `class Controller` -/
structure Controller where
  connected : Bool := false
  idx : ℤ := -1
  data : UniController := {}
  hasData : Bool := false

/-- `class Bluepad32`; the bits of `_prevConnectedControllers` by seat. -/
structure Bluepad32 (n : ℕ) where
  prevConnectedControllers : Fin n → Bool := fun _ => false
  controllers : Fin n → Controller := fun _ => {}

/-- What one `gamepad_update` meets: the Bluetooth task at each seat, and the clock after the
pass. -/
structure GamepadTurn (n : ℕ) (δ : Type) where
  seats : Fin n → SeatTurn δ := fun _ => {}
  nowUs : ℤ

/-- The locals of `Bluepad32::update` in the pass over the seats. -/
structure UpdateScan (n : ℕ) (δ : Type) where
  platform : ArduinoPlatform n δ
  controllers : Fin n → Controller
  dataUpdated : Bool := false
  connectedControllers : Fin n → Bool := fun _ => false

/-- The first loop's body. -/
def UpdateScan.seat (turn : GamepadTurn n δ) (s : UpdateScan n δ) (i : Fin n) : UpdateScan n δ :=
  match (s.platform.callbacks (turn.seats i).before).getControllerData i (turn.seats i)
      (s.controllers i).data with
  | (.invalidDevice, _, platform) => { s with platform := platform }
  | (status, data, platform) =>
    { platform := platform
      controllers := Function.update s.controllers i
        { s.controllers i with data := data, hasData := status = .success, idx := (i : ℕ) }
      dataUpdated := s.dataUpdated || status = .success
      connectedControllers := Function.update s.connectedControllers i true }

/-- The first loop. -/
def UpdateScan.seats (turn : GamepadTurn n δ) (s : UpdateScan n δ) (is : List (Fin n)) :
    UpdateScan n δ :=
  is.foldl (UpdateScan.seat turn) s

/-- The second loop's body, with the two callbacks acting on a state of their own. -/
def notifySeat {ω : Type} (onConnect onDisconnect : Fin n → ω → ω) (current prev : Fin n → Bool)
    (s : (Fin n → Controller) × ω) (i : Fin n) : (Fin n → Controller) × ω :=
  if current i = prev i then s
  else (Function.update s.1 i { s.1 i with connected := current i },
    if current i then onConnect i s.2 else onDisconnect i s.2)

/-- `Bluepad32::update` -/
def Bluepad32.update {ω : Type} (onConnect onDisconnect : Fin n → ω → ω) (turn : GamepadTurn n δ)
    (bp32 : Bluepad32 n) (platform : ArduinoPlatform n δ) (w : ω) :
    Bool × Bluepad32 n × ArduinoPlatform n δ × ω :=
  let scan := UpdateScan.seats turn { platform := platform, controllers := bp32.controllers }
    (List.finRange n)
  if scan.connectedControllers = bp32.prevConnectedControllers then
    (scan.dataUpdated, { bp32 with controllers := scan.controllers }, scan.platform, w)
  else
    let notified := (List.finRange n).foldl
      (notifySeat onConnect onDisconnect scan.connectedControllers bp32.prevConnectedControllers)
      (scan.controllers, w)
    (scan.dataUpdated,
      { prevConnectedControllers := scan.connectedControllers, controllers := notified.1 },
      scan.platform, notified.2)

/-! ### The manager -/

/-- The statics of `gamepad_manager.cpp` with what they read; `myController` names a seat. -/
structure GamepadManager (n : ℕ) (δ : Type) where
  platform : ArduinoPlatform n δ := {}
  bp32 : Bluepad32 n := {}
  myController : Option (Fin n) := none
  currentState : ControlState := {}

/-- `onConnectedController`: a controller becomes the owner where there is none. -/
def onConnectedController (ctl : Fin n) (myController : Option (Fin n)) : Option (Fin n) :=
  if myController = none then some ctl else myController

/-- `onDisconnectedController`: the owner is let go. -/
def onDisconnectedController (ctl : Fin n) (myController : Option (Fin n)) : Option (Fin n) :=
  if myController = some ctl then none else myController

namespace GamepadManager

/-- The controller that `gamepad_update` reads. -/
def reading (bp32 : Bluepad32 n) (myController : Option (Fin n)) : Option ControllerReading :=
  match myController with
  | none => none
  | some i =>
    if (bp32.controllers i).connected then some (bp32.controllers i).data.reading else none

/-- `gamepad_update` -/
def update (s : GamepadManager n δ) (turn : GamepadTurn n δ) : GamepadManager n δ :=
  let (dataUpdated, bp32, platform, myController) :=
    s.bp32.update onConnectedController onDisconnectedController turn s.platform s.myController
  { platform := platform
    bp32 := bp32
    myController := myController
    currentState := gamepadUpdate (reading bp32 myController) dataUpdated turn.nowUs s.currentState }

/-- The manager before update `k`. -/
def stateAt (turns : ℕ → GamepadTurn n δ) (k : ℕ) : GamepadManager n δ :=
  InputRun.run update {} turns k

/-- The pass over the seats in an update. -/
def scan (s : GamepadManager n δ) (turn : GamepadTurn n δ) : UpdateScan n δ :=
  UpdateScan.seats turn { platform := s.platform, controllers := s.bp32.controllers }
    (List.finRange n)

/-- The second loop over some of the seats. -/
def notify (current prev : Fin n → Bool) (is : List (Fin n))
    (w : (Fin n → Controller) × Option (Fin n)) : (Fin n → Controller) × Option (Fin n) :=
  is.foldl (notifySeat onConnectedController onDisconnectedController current prev) w

end GamepadManager

/-! ### The pass over the seats -/

namespace UpdateScan

variable {turn : GamepadTurn n δ} {s : UpdateScan n δ} {is : List (Fin n)} {i : Fin n}

/-- The report that the pass took from a seat. -/
def taken (s : UpdateScan n δ) (i : Fin n) : Option UniController :=
  if s.connectedControllers i && (s.controllers i).hasData then some (s.controllers i).data
  else none

/-- The accesses to the platform while the pass is at a seat. -/
def actions (turn : GamepadTurn n δ) (s : UpdateScan n δ) (i : Fin n) :
    List (PlatformAction n δ) :=
  let seat := turn.seats i
  let p := s.platform.callbacks seat.before
  seat.before.map .callback ++
    if p.readIdx i seat.read = gamepadInvalid then []
    else
      seat.inside.map .callback ++
        if (p.callbacks seat.inside).readDataUpdated i seat.read then
          seat.copying.map .callback ++ [.fetch i]
        else []

/-- The accesses of a pass. -/
def allActions (turn : GamepadTurn n δ) : UpdateScan n δ → List (Fin n) → List (PlatformAction n δ)
  | _, [] => []
  | s, i :: is => actions turn s i ++ allActions turn (seat turn s i) is

theorem after_map_callback (p : ArduinoPlatform n δ) (cs : List (PlatformCallback δ)) :
    LastWrite.after ArduinoPlatform.act p (cs.map .callback) = p.callbacks cs :=
  List.foldl_map

/-- A report is taken from seat `i` of the platform: one waits there, and the copy is that one unless
the seat is cleared in the meantime. -/
def Copied (p : ArduinoPlatform n δ) (i : Fin n) (during : List (PlatformCallback δ))
    (data : UniController) : Prop :=
  (p.controllers i).dataUpdated = true ∧
    (data = (p.controllers i).data ∨ p.clearsIn i during = true)

theorem copied_readData {p : ArduinoPlatform n δ} {i : Fin n} {read : SeatRead}
    (h : p.readDataUpdated i read = true) (during : List (PlatformCallback δ)) :
    Copied p i during (p.readData i during read) := by
  rw [ArduinoPlatform.readDataUpdated, Bool.and_eq_true] at h
  refine ⟨h.1, ?_⟩
  unfold ArduinoPlatform.readData
  split_ifs with hclears
  · exact .inr hclears
  · exact .inl rfl

/-- What the pass does at a seat: it finds the seat empty, without a report, or takes one. -/
theorem seat_cases (turn : GamepadTurn n δ) (s : UpdateScan n δ) (i : Fin n) :
    (seat turn s i = { s with
        platform := LastWrite.after ArduinoPlatform.act s.platform (actions turn s i) }) ∨
    (∃ data status, seat turn s i =
        { platform := LastWrite.after ArduinoPlatform.act s.platform (actions turn s i)
          controllers := Function.update s.controllers i
            { s.controllers i with data := data, hasData := status, idx := (i : ℕ) }
          dataUpdated := s.dataUpdated || status
          connectedControllers := Function.update s.connectedControllers i true } ∧
      ((status = false ∧ data = (s.controllers i).data) ∨
        (status = true ∧ ∃ before during,
          actions turn s i = before ++ (during.map .callback ++ [.fetch i]) ∧
          Copied (LastWrite.after ArduinoPlatform.act s.platform before) i during data))) := by
  by_cases hidx : (s.platform.callbacks (turn.seats i).before).readIdx i (turn.seats i).read =
      gamepadInvalid
  · left
    simp [seat, actions, ArduinoPlatform.getControllerData, hidx, after_map_callback]
  · right
    by_cases hflag : ((s.platform.callbacks (turn.seats i).before).callbacks
        (turn.seats i).inside).readDataUpdated i (turn.seats i).read = true
    · refine ⟨((s.platform.callbacks (turn.seats i).before).callbacks
          (turn.seats i).inside).readData i (turn.seats i).copying (turn.seats i).read, true, ?_,
        .inr ⟨rfl, (turn.seats i).before.map .callback ++ (turn.seats i).inside.map .callback,
          (turn.seats i).copying, ?_, ?_⟩⟩
      · simp [seat, actions, ArduinoPlatform.getControllerData, hidx, hflag, LastWrite.after_append,
          after_map_callback, ArduinoPlatform.act]
      · simp [actions, hidx, hflag]
      · rw [LastWrite.after_append, after_map_callback, after_map_callback]
        exact copied_readData hflag _
    · refine ⟨_, false, ?_, .inl ⟨rfl, rfl⟩⟩
      simp [seat, actions, ArduinoPlatform.getControllerData, hidx, hflag, LastWrite.after_append,
        after_map_callback]

theorem platform_seat (turn : GamepadTurn n δ) (s : UpdateScan n δ) (i : Fin n) :
    (seat turn s i).platform =
      LastWrite.after ArduinoPlatform.act s.platform (actions turn s i) := by
  rcases seat_cases turn s i with h | ⟨data, status, h, -⟩ <;> rw [h]

theorem platform_seats (turn : GamepadTurn n δ) (s : UpdateScan n δ) (is : List (Fin n)) :
    (seats turn s is).platform =
      LastWrite.after ArduinoPlatform.act s.platform (allActions turn s is) := by
  induction is generalizing s with
  | nil => rfl
  | cons i is ih =>
    have hstep := ih (seat turn s i)
    rw [platform_seat, ← LastWrite.after_append] at hstep
    exact hstep

/-- A seat leaves the other seats. -/
theorem seat_frame (turn : GamepadTurn n δ) {j : Fin n} (hij : i ≠ j) :
    (seat turn s j).controllers i = s.controllers i ∧
      (seat turn s j).connectedControllers i = s.connectedControllers i := by
  rcases seat_cases turn s j with h | ⟨data, status, h, -⟩ <;> rw [h]
  · exact ⟨rfl, rfl⟩
  · exact ⟨Function.update_of_ne hij _ _, Function.update_of_ne hij _ _⟩

theorem seats_frame (turn : GamepadTurn n δ) (hi : i ∉ is) :
    (seats turn s is).controllers i = s.controllers i ∧
      (seats turn s is).connectedControllers i = s.connectedControllers i := by
  induction is generalizing s with
  | nil => exact ⟨rfl, rfl⟩
  | cons j is ih =>
    obtain ⟨hij, hi⟩ := not_or.1 (List.mem_cons.not.1 hi)
    have hrest := ih (s := seat turn s j) hi
    have hseat := seat_frame turn (s := s) hij
    exact ⟨hrest.1.trans hseat.1, hrest.2.trans hseat.2⟩

/-- What a pass takes from a seat is the report that waits there, copied after the accesses `before`
and while the callbacks `during` run. -/
def TakenAfter (turn : GamepadTurn n δ) (s : UpdateScan n δ) (is : List (Fin n)) (i : Fin n)
    (ctl : UniController) (before : List (PlatformAction n δ))
    (during : List (PlatformCallback δ)) : Prop :=
  (∃ since, allActions turn s is = before ++ (during.map .callback ++ .fetch i :: since)) ∧
    Copied (LastWrite.after ArduinoPlatform.act s.platform before) i during ctl

/-- **A pass over the seats.** The controller of a seat holds the report that was taken from the
seat, or what it held before. -/
theorem seats_spec (turn : GamepadTurn n δ) (hnodup : is.Nodup) (hi : i ∈ is)
    (hfree : s.connectedControllers i = false) :
    ((seats turn s is).controllers i).data =
        ((seats turn s is).taken i).getD (s.controllers i).data ∧
      ((seats turn s is).controllers i).connected = (s.controllers i).connected ∧
      ∀ ctl, (seats turn s is).taken i = some ctl →
        ∃ before during, TakenAfter turn s is i ctl before during := by
  induction is generalizing s with
  | nil => simp at hi
  | cons j is ih =>
    obtain ⟨hj, hnodup⟩ := List.nodup_cons.1 hnodup
    change ((seats turn (seat turn s j) is).controllers i).data =
        ((seats turn (seat turn s j) is).taken i).getD (s.controllers i).data ∧
      ((seats turn (seat turn s j) is).controllers i).connected = (s.controllers i).connected ∧
      ∀ ctl, (seats turn (seat turn s j) is).taken i = some ctl →
        ∃ before during, TakenAfter turn s (j :: is) i ctl before during
    by_cases hij : i = j
    · subst hij
      obtain ⟨hcontroller, hconnected⟩ := seats_frame turn (s := seat turn s i) hj
      rw [taken, hcontroller, hconnected]
      rcases seat_cases turn s i with h | ⟨data, status, h, hstatus⟩
      · rw [h]
        simp [hfree]
      · rw [h]
        rcases hstatus with ⟨rfl, rfl⟩ | ⟨rfl, before, during, hactions, hcopied⟩
        · simp
        · refine ⟨by simp, by simp, ?_⟩
          rintro ctl hctl
          obtain rfl : data = ctl := by simpa using hctl
          refine ⟨before, during, ⟨allActions turn (seat turn s i) is, ?_⟩, hcopied⟩
          rw [allActions, hactions, List.append_assoc, List.append_assoc]
          rfl
    · obtain ⟨hcontroller, hconnected⟩ := seat_frame turn (s := s) hij
      obtain ⟨hdata, hlink, htaken⟩ := ih (s := seat turn s j) hnodup
        (List.mem_of_ne_of_mem hij hi) (hconnected.trans hfree)
      rw [hcontroller] at hdata hlink
      refine ⟨hdata, hlink, fun ctl hctl => ?_⟩
      obtain ⟨before, during, ⟨since, hactions⟩, hcopied⟩ := htaken ctl hctl
      rw [platform_seat, ← LastWrite.after_append] at hcopied
      refine ⟨actions turn s j ++ before, during, ⟨since, ?_⟩, hcopied⟩
      rw [allActions, hactions, List.append_assoc]

theorem dataUpdated_seats (turn : GamepadTurn n δ) (hnodup : is.Nodup)
    (hfree : ∀ i ∈ is, s.connectedControllers i = false) :
    (seats turn s is).dataUpdated = true ↔
      s.dataUpdated = true ∨ ∃ i ∈ is, ((seats turn s is).taken i).isSome = true := by
  induction is generalizing s with
  | nil => simp [seats]
  | cons j is ih =>
    obtain ⟨hj, hnodup⟩ := List.nodup_cons.1 hnodup
    have hrest : ∀ i ∈ is, (seat turn s j).connectedControllers i = false := by
      intro i hi
      have hij : i ≠ j := fun hij => hj (hij ▸ hi)
      exact (seat_frame turn hij).2.trans (hfree i (List.mem_cons_of_mem _ hi))
    change (seats turn (seat turn s j) is).dataUpdated = true ↔ s.dataUpdated = true ∨
      ∃ i ∈ j :: is, ((seats turn (seat turn s j) is).taken i).isSome = true
    rw [ih hnodup hrest, List.exists_mem_cons_iff, ← or_assoc]
    refine or_congr ?_ Iff.rfl
    obtain ⟨hcontroller, hconnected⟩ := seats_frame turn (s := seat turn s j) hj
    rw [taken, hcontroller, hconnected]
    have hjfree := hfree j List.mem_cons_self
    rcases seat_cases turn s j with h | ⟨data, status, h, -⟩
    · rw [h]
      simp [hjfree]
    · rw [h]
      cases status <;> simp

end UpdateScan

/-! ### The callbacks of the manager -/

namespace GamepadManager

variable {current prev : Fin n → Bool} {is : List (Fin n)} {i j : Fin n}
  {w : (Fin n → Controller) × Option (Fin n)}

theorem notify_concat (current prev : Fin n → Bool) (is : List (Fin n)) (i : Fin n)
    (w : (Fin n → Controller) × Option (Fin n)) :
    notify current prev (is ++ [i]) w =
      notifySeat onConnectedController onDisconnectedController current prev
        (notify current prev is w) i :=
  List.foldl_concat _ _ _ _

theorem notify_self (is : List (Fin n)) (w : (Fin n → Controller) × Option (Fin n)) :
    notify current current is w = w := by
  induction is using List.reverseRecOn with
  | nil => rfl
  | append_singleton is i ih => rw [notify_concat, ih, notifySeat, if_pos rfl]

/-- The callbacks leave the reports, and mark the controllers of the list. -/
theorem notify_controllers (current : Fin n → Bool) (is : List (Fin n)) (i : Fin n)
    (w : (Fin n → Controller) × Option (Fin n)) (hprev : (w.1 i).connected = prev i) :
    ((notify current prev is w).1 i).data = (w.1 i).data ∧
      ((notify current prev is w).1 i).connected = if i ∈ is then current i else prev i := by
  induction is using List.reverseRecOn with
  | nil => exact ⟨rfl, hprev⟩
  | append_singleton is j ih =>
    rw [notify_concat, notifySeat]
    obtain ⟨hdata, hconnected⟩ := ih
    by_cases hsame : current j = prev j
    · rw [if_pos hsame]
      refine ⟨hdata, ?_⟩
      rw [hconnected]
      by_cases hij : i = j
      · subst hij
        simp [hsame]
      · simp [hij]
    · rw [if_neg hsame]
      by_cases hij : i = j
      · subst hij
        simp [hdata]
      · simp [hdata, hconnected, hij]

/-- An owner whose seat is still held stays the owner. -/
theorem owner_kept (is : List (Fin n)) (howner : w.2 = some i) (hcurrent : current i = true) :
    (notify current prev is w).2 = some i := by
  induction is using List.reverseRecOn with
  | nil => exact howner
  | append_singleton is j ih =>
    rw [notify_concat, notifySeat]
    split_ifs with hsame hj
    · exact ih
    · simp [onConnectedController, ih]
    · have hij : i ≠ j := by
        rintro rfl
        exact hj hcurrent
      simp [onDisconnectedController, ih, hij]

/-- An owner after the callbacks holds its seat, or was the owner of a seat that the callbacks have
not reached. -/
theorem owner_current (hnodup : is.Nodup) (hprev : ∀ i, w.2 = some i → prev i = true)
    (howner : (notify current prev is w).2 = some i) :
    if i ∈ is then current i = true else w.2 = some i := by
  induction is using List.reverseRecOn generalizing i with
  | nil => exact howner
  | append_singleton is j ih =>
    rw [List.nodup_append] at hnodup
    obtain ⟨hnodup, -, hdisjoint⟩ := hnodup
    have hj : j ∉ is := fun hj => hdisjoint j hj j (List.mem_singleton_self j) rfl
    have hkeep : (notify current prev is w).2 = some i → i ≠ j →
        if i ∈ is ++ [j] then current i = true else w.2 = some i := by
      intro h hij
      have hi := ih hnodup h
      simpa [hij] using hi
    rw [notify_concat, notifySeat] at howner
    split_ifs at howner with hsame hconnect
    · by_cases hij : i = j
      · subst hij
        have hold := ih hnodup howner
        rw [if_neg hj] at hold
        simp [hsame, hprev i hold]
      · exact hkeep howner hij
    · by_cases hij : i = j
      · subst hij
        simp [hconnect]
      · dsimp only [onConnectedController] at howner
        split_ifs at howner
        · exact absurd (Option.some.inj howner).symm hij
        · exact hkeep howner hij
    · dsimp only [onDisconnectedController] at howner
      split_ifs at howner with hwas
      have hij : i ≠ j := by
        rintro rfl
        exact hwas howner
      exact hkeep howner hij

/-- A new owner was found connected just now. -/
theorem owner_taken (is : List (Fin n)) (hnew : w.2 ≠ some i)
    (howner : (notify current prev is w).2 = some i) : current i = true ∧ prev i = false := by
  induction is using List.reverseRecOn with
  | nil => exact absurd howner hnew
  | append_singleton is j ih =>
    rw [notify_concat, notifySeat] at howner
    split_ifs at howner with hsame hconnect
    · exact ih howner
    · dsimp only [onConnectedController] at howner
      split_ifs at howner
      · obtain rfl := Option.some.inj howner
        refine ⟨hconnect, ?_⟩
        cases hprev : prev j with
        | false => rfl
        | true => exact absurd (hconnect.trans hprev.symm) hsame
      · exact ih howner
    · dsimp only [onDisconnectedController] at howner
      split_ifs at howner
      exact ih howner

/-! ### One update -/

theorem bluepad32_update_eq (s : GamepadManager n δ) (turn : GamepadTurn n δ) :
    s.bp32.update onConnectedController onDisconnectedController turn s.platform s.myController =
      ((s.scan turn).dataUpdated,
        { prevConnectedControllers := (s.scan turn).connectedControllers
          controllers := (notify (s.scan turn).connectedControllers s.bp32.prevConnectedControllers
            (List.finRange n) ((s.scan turn).controllers, s.myController)).1 },
        (s.scan turn).platform,
        (notify (s.scan turn).connectedControllers s.bp32.prevConnectedControllers
          (List.finRange n) ((s.scan turn).controllers, s.myController)).2) := by
  by_cases hsame : (s.scan turn).connectedControllers = s.bp32.prevConnectedControllers
  · rw [hsame, notify_self]
    exact if_pos hsame
  · exact if_neg hsame

/-- The owner's controller is connected, and the manager agrees with the platform on who is. -/
structure Consistent (s : GamepadManager n δ) : Prop where
  connected : ∀ i, (s.bp32.controllers i).connected = s.bp32.prevConnectedControllers i
  owner : ∀ i, s.myController = some i → s.bp32.prevConnectedControllers i = true

section Update

variable (s : GamepadManager n δ) (turn : GamepadTurn n δ)

theorem prevConnectedControllers_update :
    (s.update turn).bp32.prevConnectedControllers = (s.scan turn).connectedControllers := by
  rw [update, bluepad32_update_eq]

theorem platform_update : (s.update turn).platform = (s.scan turn).platform := by
  rw [update, bluepad32_update_eq]

theorem myController_update :
    (s.update turn).myController =
      (notify (s.scan turn).connectedControllers s.bp32.prevConnectedControllers (List.finRange n)
        ((s.scan turn).controllers, s.myController)).2 := by
  rw [update, bluepad32_update_eq]

theorem controllers_update (i : Fin n) :
    (s.update turn).bp32.controllers i =
      (notify (s.scan turn).connectedControllers s.bp32.prevConnectedControllers (List.finRange n)
        ((s.scan turn).controllers, s.myController)).1 i := by
  rw [update, bluepad32_update_eq]

theorem currentState_update :
    (s.update turn).currentState =
      gamepadUpdate (reading (s.update turn).bp32 (s.update turn).myController)
        (s.scan turn).dataUpdated turn.nowUs s.currentState := by
  rw [update, bluepad32_update_eq]

theorem controllers_scan (i : Fin n) :
    ((s.scan turn).controllers i).data = ((s.scan turn).taken i).getD (s.bp32.controllers i).data ∧
      ((s.scan turn).controllers i).connected = (s.bp32.controllers i).connected :=
  have hspec := UpdateScan.seats_spec turn
    (s := { platform := s.platform, controllers := s.bp32.controllers }) (List.nodup_finRange n)
    (List.mem_finRange i) rfl
  ⟨hspec.1, hspec.2.1⟩

variable {s turn}

/-- The controllers after an update. -/
theorem Consistent.controllers_update (h : s.Consistent) (i : Fin n) :
    ((s.update turn).bp32.controllers i).data =
        ((s.scan turn).taken i).getD (s.bp32.controllers i).data ∧
      ((s.update turn).bp32.controllers i).connected = (s.scan turn).connectedControllers i := by
  obtain ⟨hdata, hconnected⟩ := controllers_scan s turn i
  have hnotify := notify_controllers (s.scan turn).connectedControllers (List.finRange n) i
    ((s.scan turn).controllers, s.myController) (hconnected.trans (h.connected i))
  rw [if_pos (List.mem_finRange i)] at hnotify
  rw [GamepadManager.controllers_update]
  exact ⟨hnotify.1.trans hdata, hnotify.2⟩

theorem Consistent.owner_held (h : s.Consistent) (howner : (s.update turn).myController = some i) :
    (s.scan turn).connectedControllers i = true := by
  rw [myController_update] at howner
  have hcurrent := owner_current (List.nodup_finRange n) h.owner howner
  rwa [if_pos (List.mem_finRange i)] at hcurrent

theorem Consistent.update (h : s.Consistent) : (s.update turn).Consistent where
  connected i := by
    rw [(h.controllers_update i).2, prevConnectedControllers_update]
  owner i howner := by
    rw [prevConnectedControllers_update]
    exact h.owner_held howner

end Update

theorem consistent_stateAt (turns : ℕ → GamepadTurn n δ) (k : ℕ) : (stateAt turns k).Consistent :=
  InputRun.run_invariant (P := Consistent)
    ⟨fun _ => rfl, fun _ h => absurd h (Option.some_ne_none _).symm⟩ (fun _ _ h => h.update) k

theorem dataUpdated_scan (s : GamepadManager n δ) (turn : GamepadTurn n δ) :
    (s.scan turn).dataUpdated = decide (∃ j, ((s.scan turn).taken j).isSome = true) := by
  have hdata := UpdateScan.dataUpdated_seats turn
    (s := { platform := s.platform, controllers := s.bp32.controllers }) (List.nodup_finRange n)
    (fun _ _ => rfl)
  rw [Bool.eq_iff_iff, decide_eq_true_iff]
  simpa [scan] using hdata

/-- Without an owner the snapshot is cleared. -/
theorem currentState_of_ownerless {s : GamepadManager n δ} {turn : GamepadTurn n δ}
    (hnone : (s.update turn).myController = none) : (s.update turn).currentState = {} := by
  rw [currentState_update, hnone]
  rfl

/-- With an owner it is mapped from what the owner's controller holds. -/
theorem Consistent.currentState_of_owner {s : GamepadManager n δ} {turn : GamepadTurn n δ}
    (h : s.Consistent) {i : Fin n} (howner : (s.update turn).myController = some i) :
    (s.update turn).currentState =
      gamepadUpdate (some ((s.update turn).bp32.controllers i).data.reading)
        (decide (∃ j, ((s.scan turn).taken j).isSome = true)) turn.nowUs s.currentState := by
  rw [currentState_update, howner, dataUpdated_scan, reading, (h.controllers_update i).2,
    if_pos (h.owner_held howner)]

/-! ### Runs -/

section Run

variable (turns : ℕ → GamepadTurn n δ) (k : ℕ)

/-- The report that update `k` took from a seat. -/
def takenAt (i : Fin n) : Option UniController := ((stateAt turns k).scan (turns k)).taken i

/-- `report` is the last one that the updates up to `k` took from a seat, or the empty one before
the first. -/
def LastTaken (i : Fin n) (report : UniController) : Prop :=
  (∃ j ≤ k, takenAt turns j i = some report ∧ ∀ m, j < m → m ≤ k → takenAt turns m i = none) ∨
    (report = {} ∧ ∀ m ≤ k, takenAt turns m i = none)

/-- What the controller of a seat holds after an update. -/
theorem lastTaken_controllers (i : Fin n) :
    LastTaken turns k i ((stateAt turns (k + 1)).bp32.controllers i).data := by
  have hdata : ∀ m, ((stateAt turns (m + 1)).bp32.controllers i).data =
      (takenAt turns m i).getD ((stateAt turns m).bp32.controllers i).data := by
    intro m
    have hupdate : stateAt turns (m + 1) = (stateAt turns m).update (turns m) := rfl
    rw [hupdate]
    exact ((consistent_stateAt turns m).controllers_update i).1
  induction k with
  | zero =>
    rw [hdata]
    cases htaken : takenAt turns 0 i with
    | none =>
      refine .inr ⟨rfl, fun m hm => ?_⟩
      rwa [Nat.le_zero.1 hm]
    | some report => exact .inl ⟨0, le_rfl, htaken, fun m hm hm' => by omega⟩
  | succ k ih =>
    rw [hdata]
    cases htaken : takenAt turns (k + 1) i with
    | some report => exact .inl ⟨k + 1, le_rfl, htaken, fun m hm hm' => by omega⟩
    | none =>
      rw [Option.getD_none]
      -- nothing new: the last one before is still the last
      have hstep : ∀ m, m ≤ k + 1 → (m ≤ k → takenAt turns m i = none) →
          takenAt turns m i = none := by
        intro m hm hbefore
        rcases Nat.lt_or_eq_of_le hm with hlt | rfl
        · exact hbefore (Nat.lt_succ_iff.1 hlt)
        · exact htaken
      rcases ih with ⟨j, hj, hreport, hsince⟩ | ⟨hempty, hnone⟩
      · exact .inl ⟨j, by omega, hreport, fun m hm hm' => hstep m hm' (hsince m hm)⟩
      · exact .inr ⟨hempty, fun m hm => hstep m hm (hnone m)⟩

/-- Which controller the snapshot follows through update `k`, and which of its reports. -/
structure FollowsOwner : Prop where
  /-- The owner stays while the update finds its seat held. -/
  kept : ∀ i, (stateAt turns k).myController = some i →
    ((stateAt turns k).scan (turns k)).connectedControllers i = true →
      (stateAt turns (k + 1)).myController = some i
  /-- It is let go as soon as the update finds its seat empty. -/
  released : ∀ i, (stateAt turns k).myController = some i →
    ((stateAt turns k).scan (turns k)).connectedControllers i = false →
      (stateAt turns (k + 1)).myController ≠ some i
  /-- Another controller becomes the owner only when it is newly connected and there is no owner
  left. -/
  taken : ∀ i, (stateAt turns (k + 1)).myController = some i →
    (stateAt turns k).myController ≠ some i →
      ((stateAt turns k).scan (turns k)).connectedControllers i = true ∧
        (stateAt turns k).bp32.prevConnectedControllers i = false ∧
        ∀ j, (stateAt turns k).myController = some j →
          ((stateAt turns k).scan (turns k)).connectedControllers j = false
  /-- Without an owner the snapshot is cleared. -/
  cleared : (stateAt turns (k + 1)).myController = none → (stateAt turns (k + 1)).currentState = {}
  /-- With one it stays when the update took no report from any seat; a report from any of them
  makes it the last one that was taken from the owner's seat, whoever sat there then. -/
  mapped : ∀ i, (stateAt turns (k + 1)).myController = some i → ∃ report,
    LastTaken turns k i report ∧
      (stateAt turns (k + 1)).currentState =
        gamepadUpdate (some report.reading) (decide (∃ j, (takenAt turns k j).isSome = true))
          (turns k).nowUs (stateAt turns k).currentState

/-- **One controller flies.** In every run of updates, with any number of seats and whatever the
Bluetooth task does between and inside the fetches, the snapshot follows one owner: no other
controller takes it over while its seat is held, it is cleared once there is no owner, and otherwise
what it shows was taken from the owner's seat. -/
theorem single_owner : FollowsOwner turns k := by
  have h := consistent_stateAt turns k
  refine ⟨fun i howner hheld => ?_, fun i howner hempty => ?_, fun i howner hnew => ?_,
    fun hnone => currentState_of_ownerless hnone, fun i howner => ?_⟩
  · exact (myController_update _ _).trans (owner_kept _ howner hheld)
  · intro hstays
    rw [h.owner_held hstays] at hempty
    exact Bool.noConfusion hempty
  · obtain ⟨hheld, hprev⟩ := owner_taken (List.finRange n)
      (w := (((stateAt turns k).scan (turns k)).controllers, (stateAt turns k).myController)) hnew
      ((myController_update _ _).symm.trans howner)
    refine ⟨hheld, hprev, fun j hj => ?_⟩
    cases hcurrent : ((stateAt turns k).scan (turns k)).connectedControllers j with
    | false => rfl
    | true =>
      have hkept : (stateAt turns (k + 1)).myController = some j :=
        (myController_update _ _).trans (owner_kept _ hj hcurrent)
      rw [howner] at hkept
      exact absurd (hj.trans hkept.symm) hnew
  · exact ⟨_, lastTaken_controllers turns k i, h.currentState_of_owner howner⟩

end Run

end GamepadManager

end SilverwareTx
