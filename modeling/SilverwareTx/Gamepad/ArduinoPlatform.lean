import SilverwareTx.Gamepad.ThrottleMapping
import SilverwareTx.Lib.LastWrite

/-!
# The seats of the controllers (`arduino_platform.c`)

The Bluetooth task reports devices and their data through the platform's callbacks, the control task
fetches the data seat by seat; both run on their own core, so a history of the platform is any list
of `PlatformAction`s. The number of seats, `CONFIG_BLUEPAD32_MAX_DEVICES`, is `n`.

* `ArduinoPlatform`: the seats, the seat that each device remembers, and the seat that is being
  cleared;
* `ArduinoPlatform.act`: one action. A report is stored and taken under `controller_mutex_`, a seat
  is claimed by one store. A disconnect clears its seat without the mutex, so it is two actions:
  from the first to the second the seat may read as anything (`SeatRead`);
* `delivered_of_dataUpdated`: what waits in a seat is the last report of a device on that seat.

The cached properties, the player lights and the queue of output requests are left out.
-/

namespace SilverwareTx

/-! ### The report of a controller -/

/-- `uni_controller_class_t` -/
inductive ControllerClass
  | none
  | gamepad
  | mouse
  | keyboard
  | balanceBoard
  deriving DecidableEq

/-- `uni_gamepad_t`, the fields that `gamepad_update` reads. -/
structure UniGamepad where
  dpad : U8 := 0
  axisX : ℤ := 0
  axisY : ℤ := 0
  axisRX : ℤ := 0
  axisRY : ℤ := 0
  throttle : ℤ := 0
  buttons : U16 := 0
  miscButtons : U8 := 0
  deriving DecidableEq

/-- `uni_controller_t`; the gamepad's and the mouse's view of the union stand side by side. -/
structure UniController where
  klass : ControllerClass := .none
  gamepad : UniGamepad := {}
  mouseButtons : U16 := 0
  mouseMiscButtons : U8 := 0
  deriving DecidableEq

namespace UniController

/-- `Controller::buttons` -/
def buttons (ctl : UniController) : U16 :=
  match ctl.klass with
  | .gamepad => ctl.gamepad.buttons
  | .mouse => ctl.mouseButtons
  | _ => 0

/-- `Controller::miscButtons` -/
def miscButtons (ctl : UniController) : U8 :=
  match ctl.klass with
  | .gamepad => ctl.gamepad.miscButtons
  | .mouse => ctl.mouseMiscButtons
  | _ => 0

/-- One bit of `buttons`. -/
def button (ctl : UniController) (mask : U16) : Bool := ctl.buttons &&& mask != 0

/-- The accessors of `Controller`, with the masks of `uni_gamepad.h`. -/
def reading (ctl : UniController) : ControllerReading where
  axisX := ctl.gamepad.axisX
  axisY := ctl.gamepad.axisY
  axisRX := ctl.gamepad.axisRX
  axisRY := ctl.gamepad.axisRY
  throttle := ctl.gamepad.throttle
  a := ctl.button 0x0001
  b := ctl.button 0x0002
  x := ctl.button 0x0004
  y := ctl.button 0x0008
  l1 := ctl.button 0x0010
  r1 := ctl.button 0x0020
  thumbL := ctl.button 0x0100
  thumbR := ctl.button 0x0200
  miscStart := flagSet ctl.miscButtons 0x04
  miscSelect := flagSet ctl.miscButtons 0x02
  dpad := ctl.gamepad.dpad

end UniController

/-! ### The platform -/

/-- `UNI_ARDUINO_GAMEPAD_INVALID` -/
def gamepadInvalid : ℤ := -1

/-- `arduino_controller_t`: one seat. -/
structure ArduinoController where
  idx : ℤ := gamepadInvalid
  data : UniController := {}
  dataUpdated : Bool := false
  deriving DecidableEq

/-- The statics of `arduino_platform.c`, and the `arduino_instance_t` of each device. -/
structure ArduinoPlatform (n : ℕ) (δ : Type) where
  controllers : Fin n → ArduinoController := fun _ => {}
  usedControllers : ℤ := 0
  /-- `controller_idx`; a cleared device has zero there. -/
  controllerIdx : δ → ℤ := fun _ => 0
  /-- The device whose disconnect is under way, and the seat that its `memset` clears. -/
  clearing : Option (δ × Fin n) := none

/-- What the Bluetooth task does to the platform. -/
inductive PlatformCallback (δ : Type)
  /-- `uni_hid_device_create` and `uni_hid_device_delete` clear the device. -/
  | deviceCleared (d : δ)
  | deviceConnected (d : δ)
  /-- `arduino_on_device_disconnected` up to the `memset`. -/
  | deviceDisconnected (d : δ)
  /-- The seat is cleared, and the disconnect goes to its end. -/
  | seatCleared
  | deviceReady (d : δ)
  | controllerData (d : δ) (ctl : UniController)

/-- A callback that does not take `controller_mutex_`. -/
def PlatformCallback.Unlocked {δ : Type} : PlatformCallback δ → Prop
  | .controllerData _ _ => False
  | _ => True

/-- An access to the platform, by the Bluetooth task or by the control task. -/
inductive PlatformAction (n : ℕ) (δ : Type)
  | callback (c : PlatformCallback δ)
  /-- The end of the critical section of `arduino_get_controller_data`, when it took a report. -/
  | fetch (i : Fin n)

/-- What the control task reads of a seat that is being cleared: old bytes, zeros, or some of each.
The report is left open. -/
structure SeatRead where
  idx : ℤ := gamepadInvalid
  dataUpdated : Bool := false
  data : UniController := {}

namespace ArduinoPlatform

variable {n : ℕ} {δ : Type} [DecidableEq δ]

/-- The seat of a device, if its index is in range. -/
def seatOf (p : ArduinoPlatform n δ) (d : δ) : Option (Fin n) :=
  (List.finRange n).find? fun i => p.controllerIdx d = (i : ℕ)

/-- The first seat that is free. -/
def freeSeat (p : ArduinoPlatform n δ) : Option (Fin n) :=
  (List.finRange n).find? fun i => (p.controllers i).idx = gamepadInvalid

/-- `arduino_on_device_connected` -/
def onDeviceConnected (p : ArduinoPlatform n δ) (d : δ) : ArduinoPlatform n δ :=
  { p with controllerIdx := Function.update p.controllerIdx d gamepadInvalid }

/-- `arduino_on_device_disconnected`, up to the `memset`. -/
def onDeviceDisconnected (p : ArduinoPlatform n δ) (d : δ) : ArduinoPlatform n δ :=
  match p.seatOf d with
  | none => p
  | some i => { p with usedControllers := p.usedControllers - 1, clearing := some (d, i) }

/-- The rest of `arduino_on_device_disconnected`. -/
def onSeatCleared (p : ArduinoPlatform n δ) : ArduinoPlatform n δ :=
  match p.clearing with
  | none => p
  | some (d, i) =>
    { p with
      controllers := Function.update p.controllers i {}
      controllerIdx := Function.update p.controllerIdx d gamepadInvalid
      clearing := none }

/-- `arduino_on_device_ready` -/
def onDeviceReady (p : ArduinoPlatform n δ) (d : δ) : ArduinoPlatform n δ :=
  if p.usedControllers = n then p
  else if p.controllerIdx d ≠ gamepadInvalid then p
  else
    match p.freeSeat with
    | none => p
    | some i =>
      { p with
        controllers := Function.update p.controllers i { p.controllers i with idx := (i : ℕ) }
        usedControllers := p.usedControllers + 1
        controllerIdx := Function.update p.controllerIdx d (i : ℕ) }

/-- `arduino_on_controller_data` -/
def onControllerData (p : ArduinoPlatform n δ) (d : δ) (ctl : UniController) :
    ArduinoPlatform n δ :=
  match p.seatOf d with
  | none => p
  | some i =>
    { p with
      controllers := Function.update p.controllers i
        { p.controllers i with data := ctl, dataUpdated := true } }

/-- A callback of a task that is not in a disconnect. -/
def callbackIdle (p : ArduinoPlatform n δ) : PlatformCallback δ → ArduinoPlatform n δ
  | .deviceCleared d => { p with controllerIdx := Function.update p.controllerIdx d 0 }
  | .deviceConnected d => p.onDeviceConnected d
  | .deviceDisconnected d => p.onDeviceDisconnected d
  | .seatCleared => p
  | .deviceReady d => p.onDeviceReady d
  | .controllerData d ctl => p.onControllerData d ctl

/-- The Bluetooth task does one thing after the other: in a disconnect it first clears the seat. -/
def callback (p : ArduinoPlatform n δ) (c : PlatformCallback δ) : ArduinoPlatform n δ :=
  match p.clearing with
  | none => p.callbackIdle c
  | some _ =>
    match c with
    | .seatCleared => p.onSeatCleared
    | _ => p

/-- The control task has taken the report of a seat. -/
def fetch (p : ArduinoPlatform n δ) (i : Fin n) : ArduinoPlatform n δ :=
  { p with
    controllers := Function.update p.controllers i { p.controllers i with dataUpdated := false } }

/-- The platform after an access to it. -/
def act (p : ArduinoPlatform n δ) : PlatformAction n δ → ArduinoPlatform n δ
  | .callback c => p.callback c
  | .fetch i => p.fetch i

/-- The platform after a history. -/
def afterHistory (history : List (PlatformAction n δ)) : ArduinoPlatform n δ :=
  LastWrite.after act {} history

/-! ### Reading a seat -/

/-- Whether a seat is being cleared. -/
def clears (p : ArduinoPlatform n δ) (i : Fin n) : Bool := p.clearing.any fun c => c.2 = i

/-- Whether a seat is being cleared at the start of some callbacks or after one of them. -/
def clearsIn (i : Fin n) : ArduinoPlatform n δ → List (PlatformCallback δ) → Bool
  | p, [] => p.clears i
  | p, c :: cs => p.clears i || clearsIn i (p.callback c) cs

/-- `controllers_[idx].idx` -/
def readIdx (p : ArduinoPlatform n δ) (i : Fin n) (read : SeatRead) : ℤ :=
  if p.clears i then read.idx else (p.controllers i).idx

/-- `controllers_[idx].data_updated`; clearing a seat does not set it. -/
def readDataUpdated (p : ArduinoPlatform n δ) (i : Fin n) (read : SeatRead) : Bool :=
  (p.controllers i).dataUpdated && (!p.clears i || read.dataUpdated)

/-- `controllers_[idx].data`, copied while the Bluetooth task runs the callbacks `during`. -/
def readData (p : ArduinoPlatform n δ) (i : Fin n) (during : List (PlatformCallback δ))
    (read : SeatRead) : UniController :=
  if p.clearsIn i during then read.data else (p.controllers i).data

/-! ### What a seat holds -/

/-- The report of a seat and its flag. -/
def pending (i : Fin n) (p : ArduinoPlatform n δ) : UniController × Bool :=
  ((p.controllers i).data, (p.controllers i).dataUpdated)

/-- The actions that write the report of a seat: data of a device on it, the end of a disconnect
from it, and its fetch. -/
def Writes (i : Fin n) (p : ArduinoPlatform n δ) : PlatformAction n δ → Prop
  | .callback (.controllerData d _) => p.clearing = none ∧ p.seatOf d = some i
  | .callback .seatCleared => ∃ d, p.clearing = some (d, i)
  | .fetch j => j = i
  | _ => False

/-- Every other callback leaves the report. -/
theorem pending_callbackIdle (i : Fin n) (p : ArduinoPlatform n δ) (c : PlatformCallback δ)
    (h : ∀ d ctl, c = .controllerData d ctl → p.seatOf d ≠ some i) :
    pending i (p.callbackIdle c) = pending i p := by
  rcases c with d | d | d | - | d | ⟨d, ctl⟩
  · rfl
  · rfl
  · rw [callbackIdle, onDeviceDisconnected]
    cases p.seatOf d <;> rfl
  · rfl
  · rw [callbackIdle, onDeviceReady]
    split_ifs
    · rfl
    · rfl
    · cases p.freeSeat with
      | none => rfl
      | some j =>
        -- a seat is taken with the report that it holds
        by_cases hij : i = j
        · subst hij
          simp [pending]
        · simp [pending, Function.update_of_ne hij]
  · rw [callbackIdle, onControllerData]
    cases hd : p.seatOf d with
    | none => rfl
    | some j =>
      have hij : i ≠ j := fun hij => h d ctl rfl (hij ▸ hd)
      simp [pending, Function.update_of_ne hij]

/-- An action on another seat leaves the report. -/
theorem pending_act (i : Fin n) (p : ArduinoPlatform n δ) (a : PlatformAction n δ)
    (h : ¬ Writes i p a) : pending i (p.act a) = pending i p := by
  rcases a with c | j
  · rw [act]
    unfold callback
    cases hclearing : p.clearing with
    | none =>
      refine pending_callbackIdle i p c ?_
      rintro d ctl rfl hd
      exact h ⟨hclearing, hd⟩
    | some cleared =>
      obtain ⟨d, j⟩ := cleared
      cases c with
      | seatCleared =>
        have hij : i ≠ j := by
          rintro rfl
          exact h ⟨d, hclearing⟩
        simp [onSeatCleared, hclearing, pending, Function.update_of_ne hij]
      | _ => rfl
  · have hij : i ≠ j := Ne.symm h
    simp [act, fetch, pending, Function.update_of_ne hij]

/-- The report `ctl` was delivered in the history by a device on seat `i`, and nothing has written
the seat since. -/
def Delivered (i : Fin n) (history : List (PlatformAction n δ)) (ctl : UniController) : Prop :=
  ∃ before d since, history = before ++ .callback (.controllerData d ctl) :: since ∧
    (afterHistory before).clearing = none ∧ (afterHistory before).seatOf d = some i ∧
    LastWrite.Quiet act (Writes i) (afterHistory (before ++ [.callback (.controllerData d ctl)]))
      since

/-- **What waits in a seat** is the last report of a device on the seat, with no report, fetch or
end of a disconnect on it since. -/
theorem delivered_of_dataUpdated {i : Fin n} {history : List (PlatformAction n δ)}
    (h : ((afterHistory history).controllers i).dataUpdated = true) :
    Delivered i history ((afterHistory history).controllers i).data := by
  rcases LastWrite.quiet_or_last act (Writes i) ({} : ArduinoPlatform n δ) history with
    hquiet | ⟨before, a, since, rfl, hwrites, hsince⟩
  · have hpending := LastWrite.read_after_quiet (pending_act i) hquiet
    have hflag : ((afterHistory history).controllers i).dataUpdated = false :=
      congrArg Prod.snd hpending
    rw [h] at hflag
    simp at hflag
  · have hpending : pending i (afterHistory (before ++ a :: since)) =
        pending i ((afterHistory before).act a) := by
      rw [afterHistory, LastWrite.after_append]
      exact LastWrite.read_after_quiet (pending_act i) hsince
    have hflag := (congrArg Prod.snd hpending).symm.trans h
    have hdata := congrArg Prod.fst hpending
    dsimp only [pending] at hflag hdata
    rw [hdata]
    change Writes i (afterHistory before) a at hwrites
    -- of the writes only a report sets the flag
    rcases a with (d | d | d | - | d | ⟨d, ctl⟩) | j
    · exact hwrites.elim
    · exact hwrites.elim
    · exact hwrites.elim
    · obtain ⟨d, hclearing⟩ := hwrites
      simp [act, callback, onSeatCleared, hclearing] at hflag
    · exact hwrites.elim
    · obtain ⟨hclearing, hd⟩ := hwrites
      refine ⟨before, d, since, ?_, hclearing, hd, ?_⟩
      · simp [act, callback, callbackIdle, onControllerData, hclearing, hd]
      · rw [afterHistory, LastWrite.after_append]
        simpa [act, callback, callbackIdle, onControllerData, hclearing, hd] using hsince
    · obtain rfl : j = i := hwrites
      simp [act, fetch] at hflag

end ArduinoPlatform

end SilverwareTx
