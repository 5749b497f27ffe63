import SilverwareTx.GroundStation.DashboardRows
import SilverwareTx.Lib.ChangeLog

/-!
# The events of a session (`FlightEventTracker` in `tools/ground_station/ground_station.py`)

The tracker is told of every accepted record and asked for the health of the links on every turn of
the viewer. `flight_events` says what its events are over any interleaving of the two: of each
watched value the changes that `ChangeLog` describes, one event for every update that reports a
restart or a gap, one event for the first state, and the health events as if `health` were called
alone.

A restart that is found on a record whose payload is then rejected has no update, and so no event.
-/

namespace SilverwareTx.GroundStation

open ChangeLog

/-- The keys of `accept` in `FlightEventTracker.previous`. -/
inductive ChangeKey
  | armed
  | fcFailsafe
  | flightMode
  | lowVoltage
  | systemState
  | controlEnabled
  | gamepadConnected
  | gamepadFresh
  | binding
  | gamepadFailsafe
  | radioError
  deriving DecidableEq

/-- The key's text. -/
def ChangeKey.name : ChangeKey → String
  | .armed => "armed"
  | .fcFailsafe => "fc_failsafe"
  | .flightMode => "flight_mode"
  | .lowVoltage => "low_voltage"
  | .systemState => "system_state"
  | .controlEnabled => "control_enabled"
  | .gamepadConnected => "gamepad_connected"
  | .gamepadFresh => "gamepad_fresh"
  | .binding => "binding"
  | .gamepadFailsafe => "gamepad_failsafe"
  | .radioError => "radio_error"

/-- A value that is watched. -/
inductive EventValue
  | bool (value : Bool)
  | text (value : String)
  deriving DecidableEq

/-- The details of the event `initial_state`. -/
structure InitialState where
  protocol : FcProtocol
  armed : Option Bool
  flightMode : Option String
  systemState : Option String
  statusFlags : Option ℤ
  deriving DecidableEq

/-- The severity of an event. -/
inductive Severity
  | info
  | warning
  deriving DecidableEq

/-- A call of `recorder.event` by the tracker. -/
inductive FlightEvent
  | espReboot
  | bridgeSequenceGap (messageType gap : ℕ)
  | change (key : ChangeKey) (severity : Severity) (message : String) (entry : Entry EventValue)
  | initialState (details : InitialState)
  | health (event : HealthEvent)
  deriving DecidableEq

namespace FlightEvent

/-- The type of an event. -/
def eventType : FlightEvent → String
  | .espReboot => "esp_reboot"
  | .bridgeSequenceGap _ _ => "bridge_sequence_gap"
  | .change key _ _ _ => key.name
  | .initialState _ => "initial_state"
  | .health event => event.eventType

/-- The severity of an event, as text. -/
def severity : FlightEvent → String
  | .espReboot => "warning"
  | .bridgeSequenceGap _ _ => "warning"
  | .change _ .info _ _ => "info"
  | .change _ .warning _ _ => "warning"
  | .initialState _ => "info"
  | .health event => event.severity

/-- The message of an event. -/
def message : FlightEvent → String
  | .espReboot => "ESP timestamp restarted"
  | .bridgeSequenceGap messageType gap =>
    s!"Bridge message type {messageType} skipped {gap} record(s)"
  | .change _ _ message _ => message
  | .initialState _ => "Initial telemetry state acquired"
  | .health event => event.message

end FlightEvent

/-- `SYSTEM_STATES.get(local.system_state, f"UNKNOWN({local.system_state})")` -/
def systemStateName (localState : LocalState) : String :=
  match systemStates.lookup localState.systemState with
  | some name => name
  | none => s!"UNKNOWN({localState.systemState})"

/-- The arguments of a call of `_change`. -/
structure Change where
  key : ChangeKey
  value : EventValue
  message : String
  dangerWhen : Option EventValue := none

/-- The calls of `_change` for the flight controller. -/
def fcChanges (fc : FcTelemetry) : List Change :=
  (if fc.protocol = .extendedV1 then
    [⟨.armed, .bool fc.armed, "FC arm state changed", some (.bool true)⟩,
      ⟨.fcFailsafe, .bool fc.failsafe, "FC failsafe state changed", some (.bool true)⟩] ++
    (if fc.pageMask.testBit 1 then
      [⟨.flightMode, .text (flightModeName fc.flightMode),
        s!"Flight mode changed to {flightModeName fc.flightMode}", none⟩]
    else [])
  else []) ++
  (if fc.protocol ≠ .never then
    [⟨.lowVoltage, .bool fc.lowVoltage, "Low-voltage state changed", some (.bool true)⟩]
  else [])

/-- The calls of `_change` for the transmitter. -/
def localChanges (localState : Option LocalState) : List Change :=
  match localState with
  | none => []
  | some st =>
    let state := systemStateName st
    let flags := st.statusFlags
    [⟨.systemState, .text state, s!"Transmitter state changed to {state}", none⟩,
      ⟨.controlEnabled, .bool (flags.testBit 3), "Control enable state changed",
        some (.bool false)⟩,
      ⟨.gamepadConnected, .bool (flags.testBit 0), "Gamepad connection state changed",
        some (.bool false)⟩,
      ⟨.gamepadFresh, .bool (flags.testBit 1), "Gamepad freshness state changed",
        some (.bool false)⟩,
      ⟨.binding, .bool (flags.testBit 4), "Binding state changed", some (.bool true)⟩,
      ⟨.gamepadFailsafe, .bool (flags.testBit 5), "Gamepad failsafe changed", some (.bool true)⟩,
      ⟨.radioError, .bool (flags.testBit 6), "Radio error state changed", some (.bool true)⟩]

/-- The details of `initial_state`. -/
def initialStateOf (model : TelemetryModel) : InitialState where
  protocol := model.fc.protocol
  armed := if model.fc.protocol = .extendedV1 then some model.fc.armed else none
  flightMode :=
    if model.fc.pageMask.testBit 1 then some (flightModeName model.fc.flightMode) else none
  systemState := model.localState.map systemStateName
  statusFlags := model.localState.map LocalState.statusFlags

/-- The model has something to tell: a decoded telemetry packet or a local state. -/
def HasState (model : TelemetryModel) : Prop :=
  model.fc.protocol ≠ .never ∨ model.localState.isSome

instance (model : TelemetryModel) : Decidable (HasState model) :=
  inferInstanceAs (Decidable (_ ∨ _))

/-- The whole of `class FlightEventTracker`: its entries of `health` in `previous`, and the rest. -/
structure EventTracker where
  links : FlightEventTracker := {}
  previous : ChangeKey → Option EventValue := fun _ => none
  initialStateLogged : Bool := false

namespace EventTracker

/-- `_change` -/
def change (self : EventTracker) (call : Change) : List FlightEvent × EventTracker :=
  let old := self.previous call.key
  let self := { self with previous := Function.update self.previous call.key (some call.value) }
  let severity : Severity :=
    if call.dangerWhen ≠ none ∧ some call.value = call.dangerWhen then .warning else .info
  let event := FlightEvent.change call.key severity call.message ⟨old, call.value⟩
  match old with
  | none =>
    if call.dangerWhen = none ∨ some call.value ≠ call.dangerWhen then ([], self)
    else ([event], self)
  | some value => if value = call.value then ([], self) else ([event], self)

/-- Calls of `_change`, one after the other. -/
def changeAll (self : EventTracker) : List Change → List FlightEvent × EventTracker
  | [] => ([], self)
  | call :: calls =>
    let first := self.change call
    let rest := first.2.changeAll calls
    (first.1 ++ rest.1, rest.2)

/-- The event `initial_state`, once there is something to tell. -/
def logInitialState (self : EventTracker) (model : TelemetryModel) :
    List FlightEvent × EventTracker :=
  if self.initialStateLogged = false ∧ HasState model then
    ([.initialState (initialStateOf model)], { self with initialStateLogged := true })
  else ([], self)

/-- `FlightEventTracker.accept` -/
def accept (self : EventTracker) (model : TelemetryModel) (update : ModelUpdate) :
    List FlightEvent × EventTracker :=
  let reboot := if update.espRestarted then [FlightEvent.espReboot] else []
  let gap :=
    if update.sequenceGap ≠ 0 then
      [FlightEvent.bridgeSequenceGap update.messageType update.sequenceGap]
    else []
  let fc := self.changeAll (fcChanges model.fc)
  let initial := fc.2.logInitialState model
  let transmitter := initial.2.changeAll (localChanges model.localState)
  (reboot ++ gap ++ fc.1 ++ initial.1 ++ transmitter.1, transmitter.2)

/-- `FlightEventTracker.health`, for all of the tracker's state. -/
def health (self : EventTracker) (model : TelemetryModel) (now : ℚ) :
    List FlightEvent × EventTracker :=
  let links := self.links.health model now
  (links.1.map FlightEvent.health, { self with links := links.2 })

end EventTracker

/-- A call of the tracker by the viewer. -/
inductive TrackerCall
  | accept (model : TelemetryModel) (update : ModelUpdate)
  | health (model : TelemetryModel) (now : ℚ)

namespace EventTracker

/-- A call and the tracker after it. -/
def call (self : EventTracker) : TrackerCall → List FlightEvent × EventTracker
  | .accept model update => self.accept model update
  | .health model now => self.health model now

/-- The events of a sequence of calls. -/
def run (self : EventTracker) : List TrackerCall → List FlightEvent
  | [] => []
  | first :: calls => (self.call first).1 ++ (self.call first).2.run calls

end EventTracker

/-! ### What is watched -/

/-- What a model says of a watched value. -/
def watched (model : TelemetryModel) : ChangeKey → Option EventValue
  | .armed => if model.fc.protocol = .extendedV1 then some (.bool model.fc.armed) else none
  | .fcFailsafe => if model.fc.protocol = .extendedV1 then some (.bool model.fc.failsafe) else none
  | .flightMode =>
    if model.fc.protocol = .extendedV1 ∧ model.fc.pageMask.testBit 1 then
      some (.text (flightModeName model.fc.flightMode))
    else none
  | .lowVoltage => if model.fc.protocol = .never then none else some (.bool model.fc.lowVoltage)
  | .systemState => model.localState.map fun st => .text (systemStateName st)
  | .controlEnabled => model.localState.map fun st => .bool (st.statusFlags.testBit 3)
  | .gamepadConnected => model.localState.map fun st => .bool (st.statusFlags.testBit 0)
  | .gamepadFresh => model.localState.map fun st => .bool (st.statusFlags.testBit 1)
  | .binding => model.localState.map fun st => .bool (st.statusFlags.testBit 4)
  | .gamepadFailsafe => model.localState.map fun st => .bool (st.statusFlags.testBit 5)
  | .radioError => model.localState.map fun st => .bool (st.statusFlags.testBit 6)

namespace ChangeKey

/-- The value that is a warning. -/
def alarm : ChangeKey → Option EventValue
  | .flightMode => none
  | .systemState => none
  | .controlEnabled => some (.bool false)
  | .gamepadConnected => some (.bool false)
  | .gamepadFresh => some (.bool false)
  | .armed | .fcFailsafe | .lowVoltage | .binding | .gamepadFailsafe | .radioError =>
    some (.bool true)

/-- The message of a change, from the new value. -/
def messageOf (key : ChangeKey) (value : EventValue) : String :=
  match key, value with
  | .armed, _ => "FC arm state changed"
  | .fcFailsafe, _ => "FC failsafe state changed"
  | .flightMode, .text mode => s!"Flight mode changed to {mode}"
  | .flightMode, .bool _ => ""
  | .lowVoltage, _ => "Low-voltage state changed"
  | .systemState, .text state => s!"Transmitter state changed to {state}"
  | .systemState, .bool _ => ""
  | .controlEnabled, _ => "Control enable state changed"
  | .gamepadConnected, _ => "Gamepad connection state changed"
  | .gamepadFresh, _ => "Gamepad freshness state changed"
  | .binding, _ => "Binding state changed"
  | .gamepadFailsafe, _ => "Gamepad failsafe changed"
  | .radioError, _ => "Radio error state changed"

/-- The event of an entry: a warning when the new value is alarming. -/
def event (key : ChangeKey) (entry : Entry EventValue) : FlightEvent :=
  .change key (if key.alarm = some entry.current then .warning else .info)
    (key.messageOf entry.current) entry

/-- The call of `_change` that tells of a value. -/
def tell (key : ChangeKey) (value : EventValue) : Change :=
  ⟨key, value, key.messageOf value, key.alarm⟩

end ChangeKey

/-- The values that a sequence of calls tells of a key. -/
def valuesOf (key : ChangeKey) (calls : List Change) : List EventValue :=
  calls.filterMap fun call => if call.key = key then some call.value else none

/-- The changes of a key among the events. -/
def changesOf (key : ChangeKey) (events : List FlightEvent) : List FlightEvent :=
  events.filter fun event => match event with
    | .change changed _ _ _ => changed = key
    | _ => false

section Changes

variable {key : ChangeKey} {self : EventTracker} {calls : List Change}

theorem changesOf_append (events events' : List FlightEvent) :
    changesOf key (events ++ events') = changesOf key events ++ changesOf key events' := by
  simp [changesOf]

/-- Every call that `accept` makes tells of a value with its own message and alarm. -/
theorem changes_regular (model : TelemetryModel) :
    ∀ call ∈ fcChanges model.fc ++ localChanges model.localState,
      call = call.key.tell call.value := by
  rw [List.forall_mem_append]
  constructor
  · unfold fcChanges
    split_ifs <;> simp only [List.forall_mem_append, List.forall_mem_cons, List.append_nil] <;>
      and_intros <;> first | rfl | exact fun _ h => absurd h List.not_mem_nil
  · unfold localChanges
    cases model.localState with
    | none => simp
    | some st =>
      simp only [List.forall_mem_cons]
      exact ⟨rfl, rfl, rfl, rfl, rfl, rfl, rfl, by simp⟩

theorem valuesOf_changes (model : TelemetryModel) :
    valuesOf key (fcChanges model.fc ++ localChanges model.localState) =
      (watched model key).toList := by
  cases hlocal : model.localState <;> cases hprotocol : model.fc.protocol <;>
    cases hpage : model.fc.pageMask.testBit 1 <;> cases key <;>
      simp [valuesOf, fcChanges, localChanges, watched, hlocal, hprotocol, hpage]

theorem change_tell (self : EventTracker) (value : EventValue) :
    self.change (key.tell value) =
      ((note key.alarm (self.previous key) value).map key.event,
        { self with previous := Function.update self.previous key (some value) }) := by
  unfold EventTracker.change note ChangeKey.tell ChangeKey.event
  cases self.previous key with
  | none =>
    by_cases h : key.alarm = some value
    · simp [h]
    · simp [h, Ne.symm h]
  | some old =>
    by_cases hold : old = value
    · simp [hold]
    · by_cases h : key.alarm = some value
      · simp [h, hold]
      · simp [h, hold, Ne.symm h]

/-- What calls tell of a key is logged, whatever else they tell. -/
theorem changeAll_key (self : EventTracker) (key : ChangeKey)
    (hcalls : ∀ call ∈ calls, call = call.key.tell call.value) :
    changesOf key (self.changeAll calls).1 =
        (log key.alarm (self.previous key) (valuesOf key calls)).map key.event ∧
      (self.changeAll calls).2.previous key =
        (valuesOf key calls).getLast?.or (self.previous key) := by
  induction calls generalizing self with
  | nil => exact ⟨rfl, rfl⟩
  | cons call calls ih =>
    obtain ⟨hcall, hcalls⟩ := List.forall_mem_cons.1 hcalls
    have hfirst : self.change (call.key.tell call.value) = _ := change_tell self call.value
    rw [← hcall] at hfirst
    obtain ⟨hevents, hprevious⟩ := ih (self.change call).2 hcalls
    rw [EventTracker.changeAll, changesOf_append, hevents, hprevious, hfirst]
    dsimp only
    by_cases hkey : call.key = key
    · subst hkey
      have hall : ∀ entries : List (Entry EventValue),
          changesOf call.key (entries.map call.key.event) = entries.map call.key.event := by
        intro entries
        refine List.filter_eq_self.2 fun event h => ?_
        obtain ⟨entry, -, rfl⟩ := List.mem_map.1 h
        simp [ChangeKey.event]
      have hvalues : valuesOf call.key (call :: calls) = call.value :: valuesOf call.key calls := by
        simp [valuesOf]
      rw [hall, hvalues, log, List.map_append, List.getLast?_cons, Function.update_self]
      exact ⟨rfl, by cases (valuesOf call.key calls).getLast? <;> rfl⟩
    · have hnone : ∀ entries : List (Entry EventValue),
          changesOf key (entries.map call.key.event) = [] := by
        intro entries
        refine List.filter_eq_nil_iff.2 fun event h => ?_
        obtain ⟨entry, -, rfl⟩ := List.mem_map.1 h
        simp [ChangeKey.event, hkey]
      have hvalues : valuesOf key (call :: calls) = valuesOf key calls := by
        simp [valuesOf, hkey]
      rw [hnone, hvalues, List.nil_append, Function.update_of_ne (Ne.symm hkey)]
      exact ⟨rfl, rfl⟩

/-- `_change` touches nothing else, and its events are changes. -/
theorem changeAll_frame (self : EventTracker) (calls : List Change) :
    (self.changeAll calls).2.links = self.links ∧
      (self.changeAll calls).2.initialStateLogged = self.initialStateLogged ∧
      ∀ event ∈ (self.changeAll calls).1, ∃ key severity message entry,
        event = .change key severity message entry := by
  induction calls generalizing self with
  | nil => exact ⟨rfl, rfl, by simp [EventTracker.changeAll]⟩
  | cons call calls ih =>
    have hone : (self.change call).2.links = self.links ∧
        (self.change call).2.initialStateLogged = self.initialStateLogged ∧
        ∀ event ∈ (self.change call).1, ∃ key severity message entry,
          event = .change key severity message entry := by
      unfold EventTracker.change
      cases self.previous call.key <;> dsimp only <;> split_ifs <;> simp
    obtain ⟨hlinks, hlogged, hevents⟩ := ih (self.change call).2
    refine ⟨hlinks.trans hone.1, hlogged.trans hone.2.1, fun event h => ?_⟩
    rcases List.mem_append.1 h with h | h
    · exact hone.2.2 event h
    · exact hevents event h

end Changes

/-! ### The other events -/

/-- How many restarts of the ESP some events report. -/
def rebootsOf (events : List FlightEvent) : ℕ := events.count .espReboot

/-- The message type and the gap of each gap event. -/
def gapsOf (events : List FlightEvent) : List (ℕ × ℕ) :=
  events.filterMap fun event => match event with
    | .bridgeSequenceGap messageType gap => some (messageType, gap)
    | _ => none

/-- The initial states that some events report. -/
def initialStatesOf (events : List FlightEvent) : List InitialState :=
  events.filterMap fun event => match event with
    | .initialState details => some details
    | _ => none

/-- The events of the links among some events. -/
def healthOf (events : List FlightEvent) : List HealthEvent :=
  events.filterMap fun event => match event with
    | .health event => some event
    | _ => none

section Step

variable (self : EventTracker) (model : TelemetryModel) (update : ModelUpdate) (now : ℚ)

/-- Changes are none of the other events. -/
theorem others_of_changes {events : List FlightEvent}
    (h : ∀ event ∈ events, ∃ key severity message entry,
      event = FlightEvent.change key severity message entry) :
    rebootsOf events = 0 ∧ gapsOf events = [] ∧ initialStatesOf events = [] ∧
      healthOf events = [] := by
  refine ⟨List.count_eq_zero.2 fun hmem => ?_, List.filterMap_eq_nil_iff.2 fun event hmem => ?_,
    List.filterMap_eq_nil_iff.2 fun event hmem => ?_,
    List.filterMap_eq_nil_iff.2 fun event hmem => ?_⟩
  · obtain ⟨key, severity, message, entry, heq⟩ := h _ hmem
    cases heq
  all_goals
    obtain ⟨key, severity, message, entry, rfl⟩ := h event hmem
    rfl

/-- What `accept` logs of a key. -/
theorem accept_key (key : ChangeKey) :
    changesOf key (self.accept model update).1 =
        (log key.alarm (self.previous key) (watched model key).toList).map key.event ∧
      (self.accept model update).2.previous key = (watched model key).or (self.previous key) := by
  obtain ⟨hfc, htransmitter⟩ := List.forall_mem_append.1 (changes_regular model)
  obtain ⟨hevents, hprevious⟩ := changeAll_key self key hfc
  have hinitial : ∀ tracker : EventTracker,
      changesOf key (tracker.logInitialState model).1 = [] ∧
        (tracker.logInitialState model).2.previous = tracker.previous := by
    intro tracker
    unfold EventTracker.logInitialState
    split_ifs
    · exact ⟨rfl, rfl⟩
    · exact ⟨rfl, rfl⟩
  obtain ⟨hnone, hkept⟩ := hinitial (self.changeAll (fcChanges model.fc)).2
  obtain ⟨hevents', hprevious'⟩ := changeAll_key
    ((self.changeAll (fcChanges model.fc)).2.logInitialState model).2 key htransmitter
  have hflags : changesOf key (if update.espRestarted then [FlightEvent.espReboot] else []) = [] ∧
      changesOf key (if update.sequenceGap ≠ 0 then
        [FlightEvent.bridgeSequenceGap update.messageType update.sequenceGap] else []) = [] := by
    constructor <;> split_ifs <;> rfl
  have hvalues : (watched model key).toList =
      valuesOf key (fcChanges model.fc) ++ valuesOf key (localChanges model.localState) := by
    rw [← valuesOf_changes, valuesOf, List.filterMap_append]
    rfl
  constructor
  · simp only [EventTracker.accept, changesOf_append, hflags.1, hflags.2, hnone, hevents, hevents',
      hkept, hprevious, hvalues, log_append, List.map_append, List.nil_append, List.append_nil]
  · have hlast : (watched model key).toList.getLast? = watched model key := by
      cases watched model key <;> rfl
    simp only [EventTracker.accept, hprevious', hkept, hprevious]
    rw [← hlast, hvalues, List.getLast?_append, Option.or_assoc]

/-- What else `accept` logs, and what it leaves alone. -/
theorem accept_others :
    rebootsOf (self.accept model update).1 = (if update.espRestarted then 1 else 0) ∧
      gapsOf (self.accept model update).1 =
        (if update.sequenceGap ≠ 0 then [(update.messageType, update.sequenceGap)] else []) ∧
      initialStatesOf (self.accept model update).1 =
        (if self.initialStateLogged = false ∧ HasState model then [initialStateOf model] else []) ∧
      healthOf (self.accept model update).1 = [] ∧
      (self.accept model update).2.links = self.links ∧
      (self.accept model update).2.initialStateLogged =
        (self.initialStateLogged || decide (HasState model)) := by
  obtain ⟨hlinks, hlogged, hevents⟩ := changeAll_frame self (fcChanges model.fc)
  obtain ⟨hlinks', hlogged', hevents'⟩ := changeAll_frame
    ((self.changeAll (fcChanges model.fc)).2.logInitialState model).2
    (localChanges model.localState)
  obtain ⟨hr, hg, hi, hh⟩ := others_of_changes hevents
  obtain ⟨hr', hg', hi', hh'⟩ := others_of_changes hevents'
  unfold rebootsOf at hr hr'
  unfold gapsOf at hg hg'
  unfold initialStatesOf at hi hi'
  unfold healthOf at hh hh'
  simp only [EventTracker.accept, rebootsOf, gapsOf, initialStatesOf, healthOf, List.count_append,
    List.filterMap_append, hr, hg, hi, hh, hr', hg', hi', hh', hlinks', hlogged']
  unfold EventTracker.logInitialState
  rw [hlogged]
  refine ⟨?_, ?_, ?_, ?_, ?_, ?_⟩
  · split_ifs <;> rfl
  · split_ifs <;> rfl
  · split_ifs <;> rfl
  · split_ifs <;> rfl
  · split_ifs <;> exact hlinks
  · by_cases hfirst : self.initialStateLogged = false ∧ HasState model
    · rw [if_pos hfirst, decide_eq_true hfirst.2, Bool.or_true]
    · rw [if_neg hfirst, hlogged]
      cases hbefore : self.initialStateLogged with
      | true => rfl
      | false => rw [decide_eq_false fun hstate => hfirst ⟨hbefore, hstate⟩]; rfl

theorem health_events :
    (∀ key, changesOf key (self.health model now).1 = []) ∧
      rebootsOf (self.health model now).1 = 0 ∧ gapsOf (self.health model now).1 = [] ∧
      initialStatesOf (self.health model now).1 = [] ∧
      healthOf (self.health model now).1 = (self.links.health model now).1 := by
  refine ⟨fun key => ?_, ?_, ?_, ?_, ?_⟩
  · refine List.filter_eq_nil_iff.2 fun event h => ?_
    obtain ⟨event, -, rfl⟩ := List.mem_map.1 h
    simp
  · refine List.count_eq_zero.2 fun h => ?_
    obtain ⟨event, -, heq⟩ := List.mem_map.1 h
    cases heq
  · refine List.filterMap_eq_nil_iff.2 fun event h => ?_
    obtain ⟨event, -, rfl⟩ := List.mem_map.1 h
    rfl
  · refine List.filterMap_eq_nil_iff.2 fun event h => ?_
    obtain ⟨event, -, rfl⟩ := List.mem_map.1 h
    rfl
  · rw [healthOf, EventTracker.health, List.filterMap_map]
    exact List.filterMap_some

end Step

/-! ### Runs -/

/-- The updates of the accepted records, in order. -/
def updatesOf (calls : List TrackerCall) : List ModelUpdate :=
  calls.filterMap fun call => match call with
    | .accept _ update => some update
    | .health _ _ => none

/-- The models after the accepted records, in order. -/
def modelsOf (calls : List TrackerCall) : List TelemetryModel :=
  calls.filterMap fun call => match call with
    | .accept model _ => some model
    | .health _ _ => none

/-- The calls of `health` among some calls. -/
def healthCallsOf (calls : List TrackerCall) : List (TelemetryModel × ℚ) :=
  calls.filterMap fun call => match call with
    | .accept _ _ => none
    | .health model now => some (model, now)

section Calls

variable (model : TelemetryModel) (update : ModelUpdate) (calls : List TrackerCall)

theorem updatesOf_accept : updatesOf (.accept model update :: calls) = update :: updatesOf calls :=
  rfl

theorem modelsOf_accept : modelsOf (.accept model update :: calls) = model :: modelsOf calls := rfl

end Calls

/-- What the accepted records show of a key, in order. -/
def shown (key : ChangeKey) (calls : List TrackerCall) : List EventValue :=
  (modelsOf calls).filterMap fun model => watched model key

/-- The entries of the changes of a key. -/
def entriesOf (key : ChangeKey) (events : List FlightEvent) : List (Entry EventValue) :=
  (changesOf key events).filterMap fun event => match event with
    | .change _ _ _ entry => some entry
    | _ => none

/-- The events tell of the calls, and of nothing else. -/
structure Chronicle (calls : List TrackerCall) (events : List FlightEvent) : Prop where
  /-- Of a key: nothing, until a record shows it; then its first value if that is alarming, and
  every step of its values. -/
  changes : ∀ key, changesOf key events = match shown key calls with
    | [] => []
    | first :: values => List.map key.event
      ((if key.alarm = some first then [⟨none, first⟩] else []) ++
        steps ((first :: values).destutter (· ≠ ·)))
  /-- The last change has the value that was shown last. -/
  upToDate : ∀ key first values, shown key calls = first :: values →
    readBack (some first) (entriesOf key events) = some (values.getLastD first)
  /-- Silence means that nothing has changed. -/
  silent : ∀ key first values, shown key calls = first :: values →
    (changesOf key events = [] ↔ key.alarm ≠ some first ∧ ∀ value ∈ values, value = first)
  /-- The first model that has a state is told of, and no other. -/
  initialState : initialStatesOf events =
    ((modelsOf calls).find? fun model => HasState model).toList.map initialStateOf
  reboots : rebootsOf events = (updatesOf calls).countP ModelUpdate.espRestarted
  gaps : gapsOf events = ((updatesOf calls).filter fun update => update.sequenceGap ≠ 0).map
    fun update => (update.messageType, update.sequenceGap)
  health : healthOf events = ({} : FlightEventTracker).healthRun (healthCallsOf calls)

section Run

variable (calls : List TrackerCall)

theorem run_key (self : EventTracker) (key : ChangeKey) :
    changesOf key (self.run calls) =
      (log key.alarm (self.previous key) (shown key calls)).map key.event := by
  induction calls generalizing self with
  | nil => rfl
  | cons first calls ih =>
    rw [EventTracker.run, changesOf_append, ih]
    cases first with
    | accept model update =>
      obtain ⟨hevents, hprevious⟩ := accept_key self model update key
      have hshown : shown key (.accept model update :: calls) =
          (watched model key).toList ++ shown key calls := by
        simp only [shown, modelsOf, List.filterMap_cons]
        cases watched model key <;> rfl
      have hlast : (watched model key).toList.getLast? = watched model key := by
        cases watched model key <;> rfl
      rw [EventTracker.call, hevents, hprevious, hshown, log_append, List.map_append, hlast]
    | health model now =>
      rw [EventTracker.call, (health_events self model now).1 key, List.nil_append]
      rfl

theorem run_others (self : EventTracker) :
    rebootsOf (self.run calls) = (updatesOf calls).countP ModelUpdate.espRestarted ∧
      gapsOf (self.run calls) =
        ((updatesOf calls).filter fun update => update.sequenceGap ≠ 0).map
          (fun update => (update.messageType, update.sequenceGap)) ∧
      initialStatesOf (self.run calls) =
        (if self.initialStateLogged then []
        else ((modelsOf calls).find? fun model => HasState model).toList.map initialStateOf) ∧
      healthOf (self.run calls) = self.links.healthRun (healthCallsOf calls) := by
  induction calls generalizing self with
  | nil => exact ⟨rfl, rfl, by split_ifs <;> rfl, rfl⟩
  | cons first calls ih =>
    obtain ⟨ihr, ihg, ihi, ihh⟩ := ih (self.call first).2
    have hsplit : rebootsOf (self.run (first :: calls)) =
        rebootsOf (self.call first).1 + rebootsOf ((self.call first).2.run calls) ∧
        gapsOf (self.run (first :: calls)) =
          gapsOf (self.call first).1 ++ gapsOf ((self.call first).2.run calls) ∧
        initialStatesOf (self.run (first :: calls)) =
          initialStatesOf (self.call first).1 ++
            initialStatesOf ((self.call first).2.run calls) ∧
        healthOf (self.run (first :: calls)) =
          healthOf (self.call first).1 ++ healthOf ((self.call first).2.run calls) :=
      ⟨List.count_append, List.filterMap_append, List.filterMap_append, List.filterMap_append⟩
    rw [hsplit.1, hsplit.2.1, hsplit.2.2.1, hsplit.2.2.2, ihr, ihg, ihi, ihh]
    cases first with
    | accept model update =>
      obtain ⟨hr, hg, hi, hh, hlinks, hlogged⟩ := accept_others self model update
      refine ⟨?_, ?_, ?_, ?_⟩
      · rw [EventTracker.call, hr, updatesOf_accept, List.countP_cons, Nat.add_comm]
      · rw [EventTracker.call, hg, updatesOf_accept, List.filter_cons]
        by_cases hgap : update.sequenceGap = 0
        · simp only [hgap]
          rfl
        · rw [if_pos hgap, if_pos (decide_eq_true hgap)]
          rfl
      · rw [EventTracker.call, hi, hlogged, modelsOf_accept, List.find?_cons]
        by_cases hstate : HasState model
        · cases self.initialStateLogged <;> simp [hstate]
        · cases self.initialStateLogged <;> simp [hstate]
      · rw [EventTracker.call, hh, hlinks]
        rfl
    | health model now =>
      obtain ⟨-, hr, hg, hi, hh⟩ := health_events self model now
      refine ⟨?_, ?_, ?_, ?_⟩
      · rw [EventTracker.call, hr, Nat.zero_add]
        rfl
      · rw [EventTracker.call, hg, List.nil_append]
        rfl
      · rw [EventTracker.call, hi, List.nil_append]
        rfl
      · rw [EventTracker.call, hh]
        rfl

theorem entriesOf_map_event {key : ChangeKey} {entries : List (Entry EventValue)}
    {events : List FlightEvent} (h : changesOf key events = entries.map key.event) :
    entriesOf key events = entries := by
  rw [entriesOf, h, List.filterMap_map]
  exact List.filterMap_some

/-- **The events of a session tell its story**, over any interleaving of records and health
checks. -/
theorem flight_events : Chronicle calls (({} : EventTracker).run calls) := by
  obtain ⟨hreboots, hgaps, hinitial, hhealth⟩ := run_others calls {}
  have hkey : ∀ key, changesOf key (({} : EventTracker).run calls) =
      (log key.alarm none (shown key calls)).map key.event := run_key calls {}
  refine ⟨fun key => ?_, fun key first values h => ?_, fun key first values h => ?_, hinitial,
    hreboots, hgaps, hhealth⟩
  · rw [hkey]
    cases shown key calls with
    | nil => rfl
    | cons first values => rw [log_eq]
  · rw [entriesOf_map_event (hkey key), h, log, note]
    split_ifs
    · rw [List.singleton_append, readBack_cons]
      exact readBack_log first values
    · exact readBack_log first values
  · rw [hkey, List.map_eq_nil_iff, h, log, List.append_eq_nil_iff, log_eq_nil_iff, note]
    refine and_congr_left' ?_
    split_ifs with halarm <;> simp [halarm]

end Run

end SilverwareTx.GroundStation
