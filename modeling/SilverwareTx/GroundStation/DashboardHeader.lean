import SilverwareTx.GroundStation.DashboardRows

/-!
# The header of the dashboard (`Dashboard._alert_line`, `Dashboard._header` in
`tools/ground_station/ground_station.py`)

Below 120 columns the header wraps everything it shows. From there on it pads the three groups of
badges to fixed widths, so the exact length of every badge counts (`shows_flightBadges`) and the row
is as long as `shows_badgeRow` says.
-/

namespace SilverwareTx.GroundStation

open Ansi NumberText

/-- What the dashboard reads of `BlackboxRecorder.status()`, with the defaults of `get`; the error
is empty if there is none. -/
structure BlackboxStatus where
  enabled : Bool := false
  error : List Char := []
  sessionUsage : ℤ := 0
  totalUsage : ℤ := 0
  quotaBytes : ℤ := 0

/-- The arguments of `_header` that `render` computes. -/
structure Liveness where
  bridge : Bool
  localState : Bool
  fc : Bool

namespace Dashboard

/-- `alerts` of `_alert_line`, with their colours. -/
def alerts (model : TelemetryModel) (live : Liveness) (status : Option BlackboxStatus) :
    List (String × List Char) :=
  let fc := model.fc
  (match model.localState with
    | none => [("WAITING FOR LOCAL STATE", warnCode)]
    | some _ => if !live.localState then [("LOCAL STATE STALE", warnCode)] else []) ++
  (if fc.protocol = .never then [("WAITING FOR FC TELEMETRY", warnCode)]
    else if !live.fc then [("FC TELEMETRY LOST", badCode)]
    else []) ++
  (if live.fc ∧ fc.protocol ≠ .never ∧ fc.failsafe then [("FC FAILSAFE", badCode)] else []) ++
  (if live.fc ∧ fc.protocol ≠ .never ∧ fc.lowVoltage then [("LOW VOLTAGE", badCode)] else []) ++
  (match model.localState with
    | none => []
    | some st =>
      if live.localState then
        (if st.statusFlags.testBit 5 then [("GAMEPAD FAILSAFE", badCode)] else []) ++
        (if st.statusFlags.testBit 6 then [("RADIO ERROR", badCode)] else []) ++
        (if st.statusFlags.testBit 10 then [("FC DATA STALE", warnCode)] else [])
      else []) ++
  match status with
  | none => []
  | some status => if status.error ≠ [] then [("BLACKBOX WRITE FAILED", badCode)] else []

/-- `_alert_line`: what the pilot is warned of. -/
def alertLine (self : Dashboard) (model : TelemetryModel) (live : Liveness)
    (status : Option BlackboxStatus) : List Char :=
  if model.lastAnyAt = none then
    self.color "STATUS  WAITING - no bridge telemetry received yet".toList warnCode
  else if !live.bridge then
    self.color "ALERTS  ! BRIDGE OFFLINE - telemetry values are frozen".toList badCode
  else
    let alerts := alerts model live status
    if alerts = [] then []
    else
      self.color "ALERTS  ".toList badCode ++
        (spaces 2).intercalate
          (alerts.map fun alert => self.color ("! ".toList ++ alert.1.toList) alert.2)

/-! ### Badges -/

/-- The badge `BRIDGE`. -/
def bridgeBadge (self : Dashboard) (model : TelemetryModel) (live : Liveness) : List Char :=
  let bridgeSeen := model.lastAnyAt ≠ none
  self.badge "BRIDGE"
    (if live.bridge then "LIVE" else if ¬ bridgeSeen then "WAIT" else "OFFLINE").toList
    (if live.bridge then goodCode else if ¬ bridgeSeen then warnCode else badCode)

/-- The badge of the local state. -/
def localBadge (self : Dashboard) (model : TelemetryModel) (live : Liveness) : List Char :=
  self.badge "LOCAL"
    (if live.localState then "LIVE"
      else if model.localState.isNone then "WAIT" else "STALE").toList
    (if live.localState then goodCode else warnCode)

/-- The badge of the flight controller. -/
def fcBadge (self : Dashboard) (model : TelemetryModel) (live : Liveness) : List Char :=
  self.badge "FC"
    (if live.fc then "LIVE" else if model.fc.protocol = .never then "WAIT" else "LOST").toList
    (if live.fc then goodCode else if model.fc.protocol = .never then warnCode else badCode)

/-- The badge of the control link. -/
def controlBadge (self : Dashboard) (model : TelemetryModel) (live : Liveness) : List Char :=
  match model.localState with
  | none => self.badge "CONTROL" "--".toList labelCode
  | some st =>
    if !live.localState then self.badge "CONTROL" "--".toList labelCode
    else
      let controlEnabled := st.statusFlags.testBit 3
      self.badge "CONTROL" (if controlEnabled then "ENABLED" else "LOCKED").toList
        (if controlEnabled then infoCode else warnCode)

/-- The badge `ARM`. -/
def armBadge (self : Dashboard) (model : TelemetryModel) (live : Liveness) : List Char :=
  if model.fc.protocol ≠ .extendedV1 ∨ !live.fc then self.badge "ARM" "--".toList labelCode
  else
    self.badge "ARM" (if model.fc.armed then "ARMED" else "DISARMED").toList
      (if model.fc.armed then warnCode else goodCode)

/-- The flight mode in the badge `MODE`. -/
def modeValue (fc : FcTelemetry) : List Char :=
  if fc.pageMask.testBit 1 then (flightModeName fc.flightMode).toList.map Char.toUpper
  else "--".toList

/-- The badge `MODE`. -/
def modeBadge (self : Dashboard) (model : TelemetryModel) (live : Liveness) : List Char :=
  if model.fc.protocol ≠ .extendedV1 ∨ !live.fc then self.badge "MODE" "--".toList labelCode
  else
    self.badge "MODE" (modeValue model.fc)
      (if modeValue model.fc ≠ "--".toList then infoCode else labelCode)

/-- Whether the power page has been received. -/
def powerKnown (fc : FcTelemetry) : Bool :=
  fc.protocol = .original ∨ (fc.protocol = .extendedV1 ∧ fc.pageMask.testBit 2)

/-- The badge `BAT`. -/
def batteryBadge (self : Dashboard) (model : TelemetryModel) (live : Liveness) : List Char :=
  if live.fc ∧ powerKnown model.fc then
    self.badge "BAT" (fixedText 3 model.fc.batteryCompensatedV.value ++ ['V'])
      (if model.fc.lowVoltage then badCode else valueCode)
  else self.badge "BAT" "--.--V".toList labelCode

/-- The badges of the links. -/
def linkBadges (self : Dashboard) (model : TelemetryModel) (live : Liveness) : List Char :=
  (spaces 2).intercalate
    [self.bridgeBadge model live, self.localBadge model live, self.fcBadge model live]

/-- The badges of the flight. -/
def flightBadges (self : Dashboard) (model : TelemetryModel) (live : Liveness) : List Char :=
  (spaces 2).intercalate
    [self.armBadge model live, self.modeBadge model live, self.batteryBadge model live]

/-! ### The header -/

/-- What `_header` says of the recorder. -/
def recorderText (status : Option BlackboxStatus) : List Char :=
  match status with
  | none => "REC OFF".toList
  | some status =>
    if !status.enabled then "REC OFF".toList
    else if status.error ≠ [] then "REC ERROR".toList
    else
      "REC ".toList ++ humanBytes status.sessionUsage ++ "  |  LOGS ".toList ++
        humanBytes status.totalUsage ++
        (if status.quotaBytes ≠ 0 then ['/'] ++ humanBytes status.quotaBytes else [])

/-- What `_header` says of the port and the last frame. -/
def metaText (model : TelemetryModel) (port : List Char) (now : ℚ)
    (status : Option BlackboxStatus) : List Char :=
  "Port ".toList ++ port ++ "  |  RX age ".toList ++ monotonicAgeText model.lastAnyAt now ++
    "  |  ".toList ++ recorderText status ++ "  |  Ctrl+C exit".toList

/-- `box_row` -/
def boxRow (text : List Char) (contentWidth : ℕ) : List Char :=
  "| ".toList ++ align text contentWidth .left ++ " |".toList

/-- The rows of texts that are wrapped. -/
def boxWrapped (texts : List (List Char)) (contentWidth : ℕ) : List (List Char) :=
  texts.flatMap fun text => (wrapLine text contentWidth).map fun wrapped =>
    boxRow wrapped contentWidth

/-- The widths of the three groups of badges side by side. -/
structure GroupWidths where
  link : ℕ
  control : ℕ
  flight : ℕ

/-- The widths of the three groups in `_header`. -/
def groupWidths (contentWidth : ℕ) : GroupWidths :=
  let gap := 3
  let usable := contentWidth - 2 * gap
  let controlWidth := max 18 (usable / 6)
  let linkWidth := (usable - controlWidth) / 2
  ⟨linkWidth, controlWidth, usable - linkWidth - controlWidth⟩

/-- Three texts in the groups. -/
def groupRow (link control flight : List Char) (contentWidth : ℕ) : List Char :=
  let widths := groupWidths contentWidth
  align link widths.link .left ++ spaces 3 ++ align control widths.control .center ++ spaces 3 ++
    align flight widths.flight .right

/-- The rows with the badges. -/
def badgeRows (self : Dashboard) (model : TelemetryModel) (live : Liveness) (contentWidth : ℕ) :
    List (List Char) :=
  if contentWidth ≥ 116 then
    let labels := groupRow (self.color "LINK / DATA".toList labelCode)
      (self.color "CONTROL STATE".toList labelCode) (self.color "FLIGHT / POWER".toList labelCode)
      contentWidth
    let badges := groupRow (self.linkBadges model live) (self.controlBadge model live)
      (self.flightBadges model live) contentWidth
    [boxRow labels contentWidth, boxRow badges contentWidth]
  else
    boxWrapped
      [self.color "LINK / DATA  ".toList labelCode ++ self.linkBadges model live,
        self.color "CONTROL / FLIGHT  ".toList labelCode ++
          (spaces 2).intercalate
            [self.controlBadge model live, self.armBadge model live, self.modeBadge model live,
              self.batteryBadge model live]]
      contentWidth

/-- `_header` -/
def header (self : Dashboard) (model : TelemetryModel) (port : List Char) (now : ℚ) (width : ℕ)
    (live : Liveness) (status : Option BlackboxStatus) : List (List Char) :=
  let title := self.color "SILVERWARE TX / GROUND STATION".toList titleCode
  let info := metaText model port now status
  let alert := self.alertLine model live status
  let border := self.color (['+'] ++ List.replicate (width - 2) '-' ++ ['+']) borderCode
  let contentWidth := max 1 (width - 4)
  [border] ++
  (if visibleLen title + visibleLen info + 2 ≤ contentWidth then
    [boxRow (spread title info contentWidth) contentWidth]
  else boxWrapped [title, info] contentWidth) ++
  [border] ++
  self.badgeRows model live contentWidth ++
  (if alert ≠ [] then [border] ++ boxWrapped [alert] contentWidth else []) ++
  [border]

/-! ### The badges -/

section Badges

variable (self : Dashboard) (model : TelemetryModel) (live : Liveness)

theorem shows_three {a b c : List Char} {l m n : ℕ} (ha : Shows a l) (hb : Shows b m)
    (hc : Shows c n) : Shows ((spaces 2).intercalate [a, b, c]) (l + 2 + m + 2 + n) := by
  have hjoin : (spaces 2).intercalate [a, b, c] = a ++ spaces 2 ++ b ++ spaces 2 ++ c := by
    simp [List.intercalate]
  rw [hjoin]
  exact (((ha.append (shows_spaces 2)).append hb).append (shows_spaces 2)).append hc

theorem shows_bridgeBadge : ∃ n ≤ 16, Shows (self.bridgeBadge model live) n := by
  refine ⟨_, ?_, self.shows_badge "BRIDGE" (by decide) ?_ ?_⟩
  all_goals split_ifs <;> decide

theorem shows_localBadge : ∃ n ≤ 13, Shows (self.localBadge model live) n := by
  refine ⟨_, ?_, self.shows_badge "LOCAL" (by decide) ?_ ?_⟩
  all_goals split_ifs <;> decide

theorem shows_fcBadge : ∃ n ≤ 9, Shows (self.fcBadge model live) n := by
  refine ⟨_, ?_, self.shows_badge "FC" (by decide) ?_ ?_⟩
  all_goals split_ifs <;> decide

theorem shows_linkBadges : ∃ n ≤ 42, Shows (self.linkBadges model live) n := by
  obtain ⟨l, hl, hbridge⟩ := self.shows_bridgeBadge model live
  obtain ⟨m, hm, hlocal⟩ := self.shows_localBadge model live
  obtain ⟨n, hn, hfc⟩ := self.shows_fcBadge model live
  exact ⟨_, by omega, shows_three hbridge hlocal hfc⟩

theorem shows_controlBadge : ∃ n ≤ 17, Shows (self.controlBadge model live) n := by
  unfold controlBadge
  split
  · exact ⟨_, by decide, self.shows_badge "CONTROL" (by decide) (by decide) (by decide)⟩
  · split_ifs
    · exact ⟨_, by decide, self.shows_badge "CONTROL" (by decide) (by decide) (by decide)⟩
    · refine ⟨_, ?_, self.shows_badge "CONTROL" (by decide) ?_ ?_⟩
      all_goals split_ifs <;> decide

/-- Whether the extended telemetry is shown. -/
def extendedLive : Prop := model.fc.protocol = .extendedV1 ∧ live.fc = true

instance : Decidable (extendedLive model live) := inferInstanceAs (Decidable (_ ∧ _))

/-- The columns of the badge `ARM`. -/
def armLength : ℕ := if extendedLive model live then if model.fc.armed then 11 else 14 else 8

theorem shows_armBadge : Shows (self.armBadge model live) (armLength model live) := by
  unfold armBadge armLength
  by_cases hlive : extendedLive model live
  · rw [if_neg (by simpa [extendedLive] using hlive), if_pos hlive]
    cases model.fc.armed
    · exact self.shows_badge "ARM" (by decide) (by decide) (by decide)
    · exact self.shows_badge "ARM" (by decide) (by decide) (by decide)
  · rw [if_pos (by simpa [extendedLive, or_iff_not_imp_left] using hlive), if_neg hlive]
    exact self.shows_badge "ARM" (by decide) (by decide) (by decide)

/-- The columns of the badge `MODE`. -/
def modeLength : ℕ :=
  if extendedLive model live ∧ model.fc.pageMask.testBit 1 then
    (flightModeName model.fc.flightMode).toList.length + 7
  else 9

theorem shows_modeBadge : Shows (self.modeBadge model live) (modeLength model live) := by
  unfold modeBadge modeLength
  by_cases hlive : extendedLive model live
  · have hvalue : (modeValue model.fc).all isOrdinary = true := by
      unfold modeValue
      split_ifs
      · cases model.fc.flightMode <;> decide
      · decide
    have hcode : (if modeValue model.fc ≠ "--".toList then infoCode
        else labelCode).all isParameter = true := by
      split_ifs <;> decide
    have hlength : "MODE".toList.length + (modeValue model.fc).length + 3 =
        if extendedLive model live ∧ model.fc.pageMask.testBit 1 then
          (flightModeName model.fc.flightMode).toList.length + 7
        else 9 := by
      unfold modeValue
      cases model.fc.pageMask.testBit 1
      · simp
      · simp only [hlive, and_self, if_true, List.length_map]
        exact Nat.add_right_comm 4 _ 3 |>.trans (Nat.add_comm 7 _)
    rw [if_neg (by simpa [extendedLive] using hlive), ← hlength]
    exact self.shows_badge "MODE" (by decide) hvalue hcode
  · rw [if_pos (by simpa [extendedLive, or_iff_not_imp_left] using hlive),
      if_neg fun h => hlive h.1]
    exact self.shows_badge "MODE" (by decide) (by decide) (by decide)

/-- A voltage of the telemetry: a number of millivolts of 16 bits. The hundredths of a volt of the
Original protocol have 11 bits. -/
def VoltageInRange (volts : Scaled) : Prop :=
  ∃ millivolts : ℕ, millivolts < 2 ^ 16 ∧ volts.value = millivolts / 1000

/-- The voltage before any was received. -/
theorem voltageInRange_default : VoltageInRange {} :=
  ⟨0, by norm_num, by norm_num [Scaled.value]⟩

/-- The columns of the badge `BAT`. -/
def batteryLength : ℕ :=
  if live.fc = true ∧ powerKnown model.fc = true ∧ 10 ≤ model.fc.batteryCompensatedV.value then 13
  else 12

theorem isOrdinary_digit {c : Char} (h : c.isDigit = true) : isOrdinary c = true := by
  have hesc : c ≠ esc := by
    rintro rfl
    exact absurd h (by decide)
  have hline : TextLines.isBreak c = false := by
    rw [← Bool.not_eq_true]
    intro hbreak
    simp only [TextLines.isBreak, List.mem_cons, List.not_mem_nil, or_false,
      decide_eq_true_eq] at hbreak
    rcases hbreak with rfl | rfl | rfl | rfl | rfl | rfl | rfl | rfl | rfl | rfl <;>
      exact absurd h (by decide)
  simp [isOrdinary, hesc, hline]

theorem shows_batteryBadge (h : VoltageInRange model.fc.batteryCompensatedV) :
    Shows (self.batteryBadge model live) (batteryLength model live) := by
  unfold batteryBadge batteryLength
  by_cases hknown : live.fc = true ∧ powerKnown model.fc = true
  · obtain ⟨millivolts, hlt, hvalue⟩ := h
    have hpow : (millivolts : ℚ) / 1000 = millivolts / 10 ^ 3 := by norm_num
    have htext : (fixedText 3 model.fc.batteryCompensatedV.value ++ ['V']).all isOrdinary =
        true := by
      refine List.all_eq_true.2 fun c hc => ?_
      rw [hvalue, hpow] at hc
      rcases List.mem_append.1 hc with hc | hc
      · rcases mem_fixedText_div (by decide) hc with hdigit | rfl
        · exact isOrdinary_digit hdigit
        · decide
      · rw [List.mem_singleton.1 hc]
        decide
    have hcode : (if model.fc.lowVoltage then badCode else valueCode).all isParameter =
        true := by
      split_ifs <;> decide
    have hbadge := self.shows_badge "BAT" (by decide) htext hcode
    -- three decimals, a point and the unit; the whole volts have one digit or two
    have hlength : "BAT".toList.length +
        (fixedText 3 model.fc.batteryCompensatedV.value ++ ['V']).length + 3 =
          if live.fc = true ∧ powerKnown model.fc = true ∧
            10 ≤ model.fc.batteryCompensatedV.value then 13 else 12 := by
      have hten : 10 ≤ (millivolts : ℚ) / 1000 ↔ 10000 ≤ millivolts := by
        rw [le_div_iff₀ (by norm_num)]
        norm_cast
      have hdigits : (natText (millivolts / 10 ^ 3)).length =
          if 10000 ≤ millivolts then 2 else 1 := by
        have hone := length_natText_le_iff (n := millivolts / 10 ^ 3) (k := 1) (by decide)
        have htwo := length_natText_le_iff (n := millivolts / 10 ^ 3) (k := 2) (by decide)
        have hpos : 0 < (natText (millivolts / 10 ^ 3)).length := Nat.length_toDigits_pos
        split_ifs <;> omega
      rw [List.length_append, hvalue, hpow, length_fixedText_div (by decide), hdigits, ← hpow]
      simp only [hknown, true_and, hten]
      split_ifs <;> rfl
    rw [if_pos hknown, ← hlength]
    exact hbadge
  · rw [if_neg hknown, if_neg fun h => hknown ⟨h.1, h.2.1⟩]
    exact self.shows_badge "BAT" (by decide) (by decide) (by decide)

/-- The visible length of the flight badges. -/
def flightLength : ℕ :=
  armLength model live + 2 + modeLength model live + 2 + batteryLength model live

theorem shows_flightBadges (h : VoltageInRange model.fc.batteryCompensatedV) :
    Shows (self.flightBadges model live) (flightLength model live) :=
  shows_three (self.shows_armBadge model live) (self.shows_modeBadge model live)
    (self.shows_batteryBadge model live h)

end Badges

/-! ### Rows of the header -/

theorem shows_groupRow {link control flight : List Char} {l m n : ℕ} (hlink : Shows link l)
    (hcontrol : Shows control m) (hflight : Shows flight n) (contentWidth : ℕ) :
    Shows (groupRow link control flight contentWidth)
      (max (groupWidths contentWidth).link l + 3 + max (groupWidths contentWidth).control m + 3 +
        max (groupWidths contentWidth).flight n) :=
  ((((shows_align hlink _ .left).append (shows_spaces 3)).append
    (shows_align hcontrol _ .center)).append (shows_spaces 3)).append (shows_align hflight _ .right)

theorem shows_boxRow {text : List Char} {n : ℕ} (h : Shows text n) (contentWidth : ℕ) :
    Shows (boxRow text contentWidth) (max contentWidth n + 4) := by
  have hleft : Shows "| ".toList 2 := shows_plain (by decide)
  have hright : Shows " |".toList 2 := shows_plain (by decide)
  have hall := (hleft.append (shows_align h contentWidth .left)).append hright
  rwa [show max contentWidth n + 4 = 2 + max contentWidth n + 2 by omega]

/-- The groups fill the row; the width for the flight badges grows with that of the terminal. -/
theorem groupWidths_spec {contentWidth : ℕ} (h : 116 ≤ contentWidth) :
    (groupWidths contentWidth).link + 3 + (groupWidths contentWidth).control + 3 +
        (groupWidths contentWidth).flight = contentWidth ∧
      46 ≤ (groupWidths contentWidth).link ∧ 18 ≤ (groupWidths contentWidth).control ∧
      46 ≤ (groupWidths contentWidth).flight ∧
      ((groupWidths contentWidth).flight < 48 ↔ contentWidth ≤ 118) ∧
      ((groupWidths contentWidth).flight < 49 ↔ contentWidth ≤ 121) := by
  simp only [groupWidths]
  omega

theorem boxRow_le {text : List Char} {contentWidth : ℕ} (h : visibleLen text ≤ contentWidth) :
    visibleLen (boxRow text contentWidth) ≤ contentWidth + 4 :=
  visibleLen_bordered_le ((visibleLen_align_le text contentWidth .left).trans (by omega))

theorem boxWrapped_fits (texts : List (List Char)) {contentWidth : ℕ} (h : 3 ≤ contentWidth) :
    Fits (contentWidth + 4) (boxWrapped texts contentWidth) := by
  intro line hline
  obtain ⟨text, -, htext⟩ := List.mem_flatMap.1 hline
  obtain ⟨wrapped, hwrapped, rfl⟩ := List.mem_map.1 htext
  exact boxRow_le (wrapLine_fits text h wrapped hwrapped)

section Header

variable (self : Dashboard) (model : TelemetryModel) (live : Liveness)

/-- The badges side by side are as wide as the row, unless the flight badges need more than their
part of it. -/
theorem shows_badgeRow (hbattery : VoltageInRange model.fc.batteryCompensatedV) {contentWidth : ℕ}
    (h : 116 ≤ contentWidth) :
    Shows (boxRow (groupRow (self.linkBadges model live) (self.controlBadge model live)
        (self.flightBadges model live) contentWidth) contentWidth)
      (contentWidth + (flightLength model live - (groupWidths contentWidth).flight) + 4) := by
  obtain ⟨l, hl, hlink⟩ := self.shows_linkBadges model live
  obtain ⟨m, hm, hcontrol⟩ := self.shows_controlBadge model live
  obtain ⟨hsum, hlinkWidth, hcontrolWidth, -⟩ := groupWidths_spec h
  have hrow := shows_boxRow (shows_groupRow hlink hcontrol
    (self.shows_flightBadges model live hbattery) contentWidth) contentWidth
  have hlength : max contentWidth (max (groupWidths contentWidth).link l + 3 +
      max (groupWidths contentWidth).control m + 3 +
        max (groupWidths contentWidth).flight (flightLength model live)) + 4 =
      contentWidth + (flightLength model live - (groupWidths contentWidth).flight) + 4 := by
    omega
  rwa [hlength] at hrow

theorem badgeRows_fits (hbattery : VoltageInRange model.fc.batteryCompensatedV) {contentWidth : ℕ}
    (h : 3 ≤ contentWidth)
    (hflight : 116 ≤ contentWidth →
      flightLength model live ≤ (groupWidths contentWidth).flight) :
    Fits (contentWidth + 4) (self.badgeRows model live contentWidth) := by
  unfold badgeRows
  split_ifs with hwide
  · obtain ⟨hsum, hlinkWidth, hcontrolWidth, hflightWidth, -⟩ := groupWidths_spec hwide
    have hlink : Shows (self.color "LINK / DATA".toList labelCode) 11 :=
      self.shows_color (by decide) (by decide)
    have hcontrol : Shows (self.color "CONTROL STATE".toList labelCode) 13 :=
      self.shows_color (by decide) (by decide)
    have hpower : Shows (self.color "FLIGHT / POWER".toList labelCode) 14 :=
      self.shows_color (by decide) (by decide)
    have hlabels := shows_groupRow hlink hcontrol hpower contentWidth
    have hbadges := self.shows_badgeRow model live hbattery hwide
    have hfits := hflight hwide
    intro line hline
    rcases List.mem_cons.1 hline with rfl | hline
    · refine boxRow_le ?_
      rw [hlabels.visible]
      omega
    · rw [List.mem_singleton.1 hline, hbadges.visible]
      omega
  · exact boxWrapped_fits _ h

/-- **The header fits** if the flight badges do. -/
theorem header_fits (hbattery : VoltageInRange model.fc.batteryCompensatedV) (port : List Char)
    (now : ℚ) {width : ℕ} (hwidth : 8 ≤ width) (status : Option BlackboxStatus)
    (hflight : 120 ≤ width → flightLength model live ≤ (groupWidths (width - 4)).flight) :
    Fits width (self.header model port now width live status) := by
  have hcontent : max 1 (width - 4) = width - 4 := by omega
  have hborder : Fits width
      [self.color (['+'] ++ List.replicate (width - 2) '-' ++ ['+']) borderCode] :=
    self.border_fits (by omega)
  have hwrapped : ∀ texts, Fits width (boxWrapped texts (width - 4)) := fun texts =>
    (boxWrapped_fits texts (by omega)).mono (by omega)
  have hbadges := self.badgeRows_fits model live hbattery (show 3 ≤ width - 4 by omega)
    fun h => hflight (by omega)
  simp only [header, hcontent, fits_append]
  refine ⟨⟨⟨⟨⟨hborder, ?_⟩, hborder⟩, hbadges.mono (by omega)⟩, ?_⟩, hborder⟩
  · split_ifs with hshort
    · intro line hline
      rw [List.mem_singleton.1 hline]
      exact (boxRow_le (visibleLen_spread_le hshort)).trans (by omega)
    · exact hwrapped _
  · split_ifs
    · exact fits_append.2 ⟨hborder, hwrapped _⟩
    · exact fun line hline => absurd hline List.not_mem_nil

/-- A row of the header that is too wide. -/
theorem exists_header_too_wide (hbattery : VoltageInRange model.fc.batteryCompensatedV)
    (port : List Char) (now : ℚ) {width : ℕ} (hwidth : 120 ≤ width)
    (status : Option BlackboxStatus)
    (hflight : (groupWidths (width - 4)).flight < flightLength model live) :
    ∃ row ∈ self.header model port now width live status,
      (∀ c ∈ row, TextLines.isBreak c = false) ∧ width < visibleLen row := by
  have hcontent : max 1 (width - 4) = width - 4 := by omega
  have hrow := self.shows_badgeRow model live hbattery (show 116 ≤ width - 4 by omega)
  refine ⟨_, ?_, hrow.unbroken, ?_⟩
  · have hmem : boxRow (groupRow (self.linkBadges model live) (self.controlBadge model live)
        (self.flightBadges model live) (width - 4)) (width - 4) ∈
          self.badgeRows model live (width - 4) := by
      rw [badgeRows, if_pos (show width - 4 ≥ 116 by omega)]
      exact List.mem_cons_of_mem _ (List.mem_singleton_self _)
    simp only [header, hcontent, List.mem_append]
    exact .inl (.inl (.inr hmem))
  · rw [hrow.visible]
    omega

end Header

end Dashboard

end SilverwareTx.GroundStation
