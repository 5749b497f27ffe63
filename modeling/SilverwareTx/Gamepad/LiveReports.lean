import SilverwareTx.ControlLoop.PacketSafety
import SilverwareTx.Gamepad.GamepadManager

/-!
# From the report of a controller to the packet

* `Fetched`: the history behind a report that an update took;
* `snapshot_succ`: with the one seat of this build the snapshot is cleared, kept, or the report that
  the update took;
* `thrust_follows_report`: every packet that commands thrust carries one such report, half a second
  old at most, and whole unless a disconnect ran into its copying.
-/

namespace SilverwareTx

open GamepadManager

/-- `CONFIG_BLUEPAD32_MAX_DEVICES` in `sdkconfig.defaults`. -/
abbrev maxDevices : ℕ := 1

variable {n : ℕ} {δ : Type} [DecidableEq δ]

/-! ### The history of a run -/

/-- The accesses to the platform in an update. -/
def updateActions (s : GamepadManager n δ) (turn : GamepadTurn n δ) : List (PlatformAction n δ) :=
  UpdateScan.allActions turn { platform := s.platform, controllers := s.bp32.controllers }
    (List.finRange n)

/-- The accesses to the platform before update `k`. -/
def platformHistory (turns : ℕ → GamepadTurn n δ) : ℕ → List (PlatformAction n δ)
  | 0 => []
  | k + 1 => platformHistory turns k ++ updateActions (stateAt turns k) (turns k)

theorem platform_stateAt (turns : ℕ → GamepadTurn n δ) (k : ℕ) :
    (stateAt turns k).platform = ArduinoPlatform.afterHistory (platformHistory turns k) := by
  induction k with
  | zero => rfl
  | succ k ih =>
    have hscan : (stateAt turns (k + 1)).platform =
        LastWrite.after ArduinoPlatform.act (stateAt turns k).platform
          (updateActions (stateAt turns k) (turns k)) :=
      (platform_update _ _).trans (UpdateScan.platform_seats _ _ _)
    rw [hscan, ih, platformHistory, ArduinoPlatform.afterHistory, ArduinoPlatform.afterHistory,
      LastWrite.after_append]

/-- Update `k` took the report `ctl` from seat `i`: a device on the seat delivered one, nothing had
written the seat since, and it was taken as it is, unless the seat was being cleared while the
update copied it. -/
def Fetched (turns : ℕ → GamepadTurn n δ) (k : ℕ) (i : Fin n) (ctl : UniController) : Prop :=
  ∃ before during since delivered,
    updateActions (stateAt turns k) (turns k) =
      before ++ (during.map .callback ++ .fetch i :: since) ∧
    ArduinoPlatform.Delivered i (platformHistory turns k ++ before) delivered ∧
    (ctl = delivered ∨ (ArduinoPlatform.afterHistory (platformHistory turns k ++ before)).clearsIn i
      during = true)

theorem fetched_of_taken {turns : ℕ → GamepadTurn n δ} {k : ℕ} {i : Fin n} {ctl : UniController}
    (h : takenAt turns k i = some ctl) : Fetched turns k i ctl := by
  obtain ⟨-, -, htaken⟩ := UpdateScan.seats_spec (turns k)
    (s := { platform := (stateAt turns k).platform
            controllers := (stateAt turns k).bp32.controllers })
    (List.nodup_finRange n) (List.mem_finRange i) rfl
  obtain ⟨before, during, ⟨since, hactions⟩, hflag, hctl⟩ := htaken ctl h
  dsimp only at hflag hctl
  rw [platform_stateAt, ArduinoPlatform.afterHistory, ← LastWrite.after_append] at hflag hctl
  exact ⟨before, during, since, _, hactions, ArduinoPlatform.delivered_of_dataUpdated hflag, hctl⟩

/-! ### The one seat of this build -/

section SingleSeat

variable (turns : ℕ → GamepadTurn maxDevices δ)

/-- The seat. -/
def theSeat : Fin maxDevices := 0

/-- Update `k` found the seat held. -/
def seatHeld (k : ℕ) : Bool := ((stateAt turns k).scan (turns k)).connectedControllers theSeat

/-- The report that update `k` took. -/
def reportTaken (k : ℕ) : Option UniController := takenAt turns k theSeat

/-- What `gamepad_get_state` copies out after update `k`. -/
def snapshotAfter (k : ℕ) : ControlState := (stateAt turns (k + 1)).currentState

/-- The snapshot of a report. -/
def controlsOf (ctl : UniController) (nowUs : ℤ) : ControlState :=
  gamepadUpdate (some ctl.reading) true nowUs {}

theorem dataUpdated_singleSeat (k : ℕ) :
    ((stateAt turns k).scan (turns k)).dataUpdated = (reportTaken turns k).isSome := by
  rw [dataUpdated_scan, Bool.eq_iff_iff, decide_eq_true_iff]
  constructor
  · rintro ⟨j, hj⟩
    rwa [Subsingleton.elim j theSeat] at hj
  · exact fun h => ⟨theSeat, h⟩

omit [DecidableEq δ] in
/-- The callbacks at the seat, from an owner that holds it. -/
theorem notifySeat_theSeat (current prev : Fin maxDevices → Bool)
    (controllers : Fin maxDevices → Controller) :
    (notifySeat onConnectedController onDisconnectedController current prev
      (controllers, if prev theSeat then some theSeat else none) theSeat).2 =
        if current theSeat then some theSeat else none := by
  unfold notifySeat
  cases hprev : prev theSeat <;> cases hcurrent : current theSeat <;>
    simp [onConnectedController, onDisconnectedController]

/-- The only seat owns the snapshot as long as it is held. -/
theorem myController_stateAt (k : ℕ) :
    (stateAt turns (k + 1)).myController = if seatHeld turns k then some theSeat else none := by
  have hstep : ∀ k, (stateAt turns k).myController =
      (if (stateAt turns k).bp32.prevConnectedControllers theSeat then some theSeat else none) →
      (stateAt turns (k + 1)).myController = if seatHeld turns k then some theSeat else none := by
    intro k howner
    have hupdate := myController_update (stateAt turns k) (turns k)
    rw [howner] at hupdate
    exact hupdate.trans (notifySeat_theSeat _ _ _)
  induction k with
  | zero => exact hstep 0 rfl
  | succ k ih =>
    refine hstep (k + 1) ?_
    rw [ih]
    exact congrArg (fun held : Bool => if held then some theSeat else none)
      (congrFun (prevConnectedControllers_update (stateAt turns k) (turns k)) theSeat).symm

/-- **The snapshot, update by update.** -/
theorem snapshot_succ (k : ℕ) :
    snapshotAfter turns k =
      if seatHeld turns k then
        (reportTaken turns k).elim (stateAt turns k).currentState
          fun ctl => controlsOf ctl (turns k).nowUs
      else {} := by
  have h := consistent_stateAt turns k
  have howner := myController_stateAt turns k
  by_cases hheld : seatHeld turns k = true
  · rw [if_pos hheld] at howner ⊢
    have hmapped := h.currentState_of_owner howner
    have hdata := dataUpdated_singleSeat turns k
    rw [dataUpdated_scan] at hdata
    rw [hdata, (h.controllers_update theSeat).1] at hmapped
    change snapshotAfter turns k = _ at hmapped
    rw [hmapped]
    have hsame : ((stateAt turns k).scan (turns k)).taken theSeat = reportTaken turns k := rfl
    rw [hsame]
    cases reportTaken turns k <;> rfl
  · rw [if_neg hheld] at howner ⊢
    exact currentState_of_ownerless howner

/-- What a snapshot that is not cleared rests on: the last report taken, by an update since which
the seat was held and brought no report. -/
theorem snapshot_connected (k : ℕ) (h : (snapshotAfter turns k).connected = true) :
    ∃ j ≤ k, ∃ ctl, reportTaken turns j = some ctl ∧
      snapshotAfter turns k = controlsOf ctl (turns j).nowUs ∧
      ∀ m, j < m → m ≤ k → seatHeld turns m = true ∧ reportTaken turns m = none := by
  induction k with
  | zero =>
    rw [snapshot_succ] at h ⊢
    split_ifs at h ⊢
    cases hreport : reportTaken turns 0 with
    | none =>
      rw [hreport] at h
      exact absurd h Bool.false_ne_true
    | some ctl => exact ⟨0, le_rfl, ctl, hreport, rfl, fun m hm hm' => by omega⟩
  | succ k ih =>
    rw [snapshot_succ] at h ⊢
    split_ifs at h ⊢ with hheld
    cases hreport : reportTaken turns (k + 1) with
    | none =>
      rw [hreport] at h
      obtain ⟨j, hj, ctl, hctl, hsnapshot, hsince⟩ := ih h
      refine ⟨j, by omega, ctl, hctl, hsnapshot, fun m hjm hmk => ?_⟩
      rcases Nat.lt_or_eq_of_le hmk with hlt | rfl
      · exact hsince m hjm (by omega)
      · exact ⟨hheld, hreport⟩
    | some ctl => exact ⟨k + 1, le_rfl, ctl, hreport, rfl, fun m hm hm' => by omega⟩

end SingleSeat

/-! ### The control loop on the gamepad -/

/-- The control loop with the snapshots of the gamepad. -/
def withGamepad (turns : ℕ → GamepadTurn maxDevices δ) (ins : ℕ → CycleInput) (k : ℕ) :
    CycleInput :=
  { ins k with controls := snapshotAfter turns k }

/-- **Thrust follows a live report.** In every run of the control loop on the gamepad, whatever the
Bluetooth task does meanwhile, a packet that commands thrust carries the sticks and buttons of one
report: an update took it from the seat at most half a second before the cycle, as a device on the
seat had delivered it unless a disconnect ran into the copying, and every update since found the
seat held and no newer report. -/
theorem thrust_follows_report (c : Setup) (turns : ℕ → GamepadTurn maxDevices δ)
    (ins : ℕ → CycleInput) (k : ℕ) (tx : Transmission)
    (htx : (loopOutput c (withGamepad turns ins) k).transmission = some tx)
    (hthrust : commandsThrust tx.packet) :
    ∃ j ≤ k, ∃ ctl, Fetched turns j theSeat ctl ∧
      (ins k).cycleStartUs - (turns j).nowUs ≤ 500000 ∧
      (∀ m, j < m → m ≤ k → seatHeld turns m = true ∧ reportTaken turns m = none) ∧
      tx.packet = bayangBuildDataPacket (bayangInit c.txId)
        (activeControl c.channelMap (controlsOf ctl (turns j).nowUs)
          (auxAtBuild (loopState c (withGamepad turns ins) k) (withGamepad turns ins k))) := by
  have hstate : stateAtBuild (loopState c (withGamepad turns ins) k) (withGamepad turns ins k) =
      .active := active_of_commandsThrust htx hthrust
  obtain ⟨hconnected, hage⟩ := live_of_active hstate
  obtain ⟨j, hj, ctl, htaken, hsnapshot, hsince⟩ := snapshot_connected turns k hconnected
  have hcontrols : (withGamepad turns ins k).controls = controlsOf ctl (turns j).nowUs := hsnapshot
  refine ⟨j, hj, ctl, fetched_of_taken htaken, ?_, hsince, ?_⟩
  · rw [hcontrols] at hage
    exact hage
  · rw [packet_of_transmission htx (by simp [hstate]), controlAtBuild_of_active hstate, hcontrols]

/-- A gamepad that connects before the first update and reports in each; Start is down in the
second report. -/
def sampleReports (k : ℕ) : GamepadTurn maxDevices Unit where
  seats _ := {
    before := (if k = 0 then [.deviceConnected (), .deviceReady ()] else []) ++
      [.controllerData ()
        { klass := .gamepad, gamepad := { miscButtons := if k = 1 then 4 else 0 } }] }
  nowUs := 5000 * k

theorem thrust_follows_report_sampleReports : ∃ tx,
    (loopOutput sampleSetup (withGamepad sampleReports sampleFlight) 2).transmission = some tx ∧
      commandsThrust tx.packet ∧
      ∃ j ≤ 2, ∃ ctl, Fetched sampleReports j theSeat ctl ∧
        (sampleFlight 2).cycleStartUs - (sampleReports j).nowUs ≤ 500000 := by
  obtain ⟨tx, htx⟩ := Option.isSome_iff_exists.1
    (show (loopOutput sampleSetup (withGamepad sampleReports sampleFlight) 2).transmission.isSome =
      true by decide +kernel)
  have hactive : (loopOutput sampleSetup (withGamepad sampleReports sampleFlight) 2).state =
      .active := by decide +kernel
  have hthrust : commandsThrust tx.packet := commandsThrust_of_active htx hactive
  obtain ⟨j, hj, ctl, hfetched, hage, -⟩ :=
    thrust_follows_report sampleSetup sampleReports sampleFlight 2 tx htx hthrust
  exact ⟨tx, htx, hthrust, j, hj, ctl, hfetched, hage⟩

end SilverwareTx
