import SilverwareTx.GroundStation.DashboardHeader

/-!
# The dashboard (`Dashboard.render` in `tools/ground_station/ground_station.py`)

Panels and wrapped rows fit any width. From 120 columns on the header sets its badges side by side
without wrapping them, and those of a disarmed quad in the mode `RaceHorizon` need more than their
part of a row up to 125 columns. `render_fits_iff` is the exact condition.
-/

namespace SilverwareTx.GroundStation

open Ansi TextLines

namespace Dashboard

section Render

variable (self : Dashboard) (projection : Projection) (model : TelemetryModel) (now : ℚ)

/-- The panels from 96 columns on. -/
def threeColumns (width : ℕ) : List (List Char) :=
  let gap := 2
  let fc := model.fc
  let usable := width - 2 * gap
  let base := usable / 3
  let last := usable - 2 * base
  let flightPanel := self.panel "PRIMARY FLIGHT" (self.flightRows fc) base
  let powerPanel := self.panel "POWER / RF LINK" (self.powerRows fc) base
  let controlPanel := self.panel "CONTROL / OUTPUT" (controlRows fc model.localState) last
  let topHeight := max (max flightPanel.length powerPanel.length) controlPanel.length
  let flightPanel := growPanel flightPanel base topHeight
  let powerPanel := growPanel powerPanel base topHeight
  let controlPanel := growPanel controlPanel last topHeight
  let transmitterPanel := self.panel "TRANSMITTER / INPUT" (transmitterRows model.localState) base
  let systemPanel := self.panel "FC SYSTEM" (systemRows fc) base
  let visualizerPanel := self.panel "3D QUAD / ATTITUDE"
    (self.visualizerRows projection fc (base - 4)) base
  let systemStack := systemPanel ++ [spaces base] ++ visualizerPanel
  let telemetryPanel := self.panel "TELEMETRY / PROTOCOL" (telemetryRows model now) last
  let transmitterPanel := growPanel transmitterPanel base systemStack.length
  let telemetryPanel := growPanel telemetryPanel last systemStack.length
  joinManyColumns [flightPanel, powerPanel, controlPanel] [base, base, last] gap ++
    joinManyColumns [transmitterPanel, systemStack, telemetryPanel] [base, base, last] gap

/-- The panels from 72 columns on. -/
def twoColumns (width : ℕ) : List (List Char) :=
  let gap := 2
  let fc := model.fc
  let leftWidth := (width - gap) / 2
  let rightWidth := width - gap - leftWidth
  let flightPanel := self.panel "PRIMARY FLIGHT" (self.flightRows fc) leftWidth
  let powerPanel := self.panel "POWER / RF LINK" (self.powerRows fc) rightWidth
  let firstHeight := max flightPanel.length powerPanel.length
  let flightPanel := growPanel flightPanel leftWidth firstHeight
  let powerPanel := growPanel powerPanel rightWidth firstHeight
  let controlPanel := self.panel "CONTROL / OUTPUT" (controlRows fc model.localState) leftWidth
  let transmitterPanel := self.panel "TRANSMITTER / INPUT" (transmitterRows model.localState)
    rightWidth
  let secondHeight := max controlPanel.length transmitterPanel.length
  let controlPanel := growPanel controlPanel leftWidth secondHeight
  let transmitterPanel := growPanel transmitterPanel rightWidth secondHeight
  let systemStack := self.panel "FC SYSTEM" (systemRows fc) leftWidth ++ [spaces leftWidth] ++
    self.panel "3D QUAD / ATTITUDE" (self.visualizerRows projection fc (leftWidth - 4)) leftWidth
  let telemetryPanel := self.panel "TELEMETRY / PROTOCOL" (telemetryRows model now) rightWidth
  let telemetryPanel := growPanel telemetryPanel rightWidth systemStack.length
  [[]] ++ joinColumns flightPanel powerPanel leftWidth rightWidth gap ++
    [[]] ++ joinColumns controlPanel transmitterPanel leftWidth rightWidth gap ++
    [[]] ++ joinColumns systemStack telemetryPanel leftWidth rightWidth gap

/-- The panels below 72 columns. -/
def oneColumn (width : ℕ) : List (List Char) :=
  let fc := model.fc
  [[]] ++ self.panel "PRIMARY FLIGHT" (self.flightRows fc) width ++
    [[]] ++ self.panel "POWER / RF LINK" (self.powerRows fc) width ++
    [[]] ++ self.panel "CONTROL / OUTPUT" (controlRows fc model.localState) width ++
    [[]] ++ self.panel "TRANSMITTER / INPUT" (transmitterRows model.localState) width ++
    [[]] ++ self.panel "FC SYSTEM" (systemRows fc) width ++
    [[]] ++ self.panel "3D QUAD / ATTITUDE" (self.visualizerRows projection fc (width - 4)) width ++
    [[]] ++ self.panel "TELEMETRY / PROTOCOL" (telemetryRows model now) width

/-- `bridge_live`, `local_live` and `fc_live` of `render`. -/
def liveness : Liveness := ⟨model.bridgeLive now, model.localLive now, model.fcLive now⟩

/-- `lines` at the end of `render`. -/
def lines (port : List Char) (width : ℕ) (status : Option BlackboxStatus) : List (List Char) :=
  let width := max 8 width
  self.header model port now width (liveness model now) status ++
    if width ≥ 96 then self.threeColumns projection model now width
    else if width ≥ 72 then self.twoColumns projection model now width
    else self.oneColumn projection model now width

/-- `render`: the panels, joined by line feeds. -/
def render (port : List Char) (width : ℕ) (status : Option BlackboxStatus) : List Char :=
  joinLines (self.lines projection model now port width status)

/-! ### The panels fit -/

theorem blank_fits (width : ℕ) : Fits width [[]] := by
  intro line hline
  rw [List.mem_singleton.1 hline, visibleLen_nil]
  exact Nat.zero_le width

theorem threeColumns_fits {width : ℕ} (h : 96 ≤ width) :
    Fits width (self.threeColumns projection model now width) := by
  have hbase : 8 ≤ (width - 2 * 2) / 3 := by omega
  have hlast : 8 ≤ width - 2 * 2 - 2 * ((width - 2 * 2) / 3) := by omega
  have hleft := fun title rows => self.grownPanel_fits title rows hbase
  have hright := fun title rows => self.grownPanel_fits title rows hlast
  have hstack := fun upper lower rows rows' => self.stack_fits upper lower rows rows' hbase
  have hsum : (width - 2 * 2) / 3 + 2 + (width - 2 * 2) / 3 + 2 +
      (width - 2 * 2 - 2 * ((width - 2 * 2) / 3)) = width := by omega
  unfold threeColumns
  refine fits_append.2 ⟨?_, ?_⟩
  · exact (joinManyColumns_fits (hleft _ _ _) (hleft _ _ _) (hright _ _ _) 2).mono hsum.le
  · exact (joinManyColumns_fits (hleft _ _ _) (hstack _ _ _ _) (hright _ _ _) 2).mono hsum.le

theorem twoColumns_fits {width : ℕ} (h : 72 ≤ width) :
    Fits width (self.twoColumns projection model now width) := by
  have hleftWidth : 8 ≤ (width - 2) / 2 := by omega
  have hrightWidth : 8 ≤ width - 2 - (width - 2) / 2 := by omega
  have hleft := fun title rows => self.grownPanel_fits title rows hleftWidth
  have hright := fun title rows => self.grownPanel_fits title rows hrightWidth
  have hstack := fun upper lower rows rows' => self.stack_fits upper lower rows rows' hleftWidth
  have hsum : (width - 2) / 2 + 2 + (width - 2 - (width - 2) / 2) = width := by omega
  unfold twoColumns
  simp only [fits_append]
  refine ⟨⟨⟨⟨⟨blank_fits _, ?_⟩, blank_fits _⟩, ?_⟩, blank_fits _⟩, ?_⟩
  · exact (joinColumns_fits (hleft _ _ _) (hright _ _ _) 2).mono hsum.le
  · exact (joinColumns_fits (hleft _ _ _) (hright _ _ _) 2).mono hsum.le
  · exact (joinColumns_fits (hstack _ _ _ _) (hright _ _ _) 2).mono hsum.le

theorem oneColumn_fits {width : ℕ} (h : 8 ≤ width) :
    Fits width (self.oneColumn projection model now width) := by
  have hblank := blank_fits width
  have hpanel := fun title rows => self.panel_fits title rows h
  simp only [oneColumn, fits_append, hblank, hpanel, and_self]

/-! ### The exact condition -/

/-- The flight badges need more than their part of the row: a disarmed quad in `RaceHorizon` at 120
to 122 columns, or up to 125 with a voltage of two digits. -/
def FlightBadgesTooWide (width : ℕ) : Prop :=
  model.fcLive now = true ∧ model.fc.protocol = .extendedV1 ∧
    model.fc.pageMask.testBit 1 = true ∧ model.fc.flightMode = .raceHorizon ∧
    model.fc.armed = false ∧ 120 ≤ width ∧
    (width ≤ 122 ∨
      width ≤ 125 ∧ model.fc.pageMask.testBit 2 = true ∧
        10 ≤ model.fc.batteryCompensatedV.value)

/-- Everywhere else the flight badges are short. -/
theorem flightLength_le {live : Liveness}
    (h : ¬ (extendedLive model live ∧ model.fc.pageMask.testBit 1 = true ∧
      model.fc.flightMode = .raceHorizon ∧ model.fc.armed = false)) :
    flightLength model live ≤ 46 := by
  have hbattery : batteryLength model live ≤ 13 := by
    unfold batteryLength
    split_ifs <;> decide
  have harm : armLength model live ≤ 14 := by
    unfold armLength
    split_ifs <;> decide
  have hmode : (modeLength model live ≤ 14) ∨ (modeLength model live ≤ 18 ∧
      armLength model live ≤ 11) := by
    unfold modeLength
    split_ifs with hflight
    · obtain ⟨hlive, hpage⟩ := hflight
      cases hname : model.fc.flightMode
      case raceHorizon =>
        have harmed : model.fc.armed = true := by
          by_contra hdisarmed
          exact h ⟨hlive, hpage, hname, by simpa using hdisarmed⟩
        refine .inr ⟨by decide, ?_⟩
        rw [armLength, if_pos hlive, if_pos harmed]
      all_goals exact .inl (by decide)
    · exact .inl (by decide)
  unfold flightLength
  omega

theorem flightLength_le_iff {width : ℕ} (hwidth : 120 ≤ width) :
    flightLength model (liveness model now) ≤ (groupWidths (width - 4)).flight ↔
      ¬ FlightBadgesTooWide model now width := by
  obtain ⟨-, -, -, hleast, h48, h49⟩ := groupWidths_spec (show 116 ≤ width - 4 by omega)
  -- `RACE HORIZON` and `DISARMED` are the longest badges; without both of them the group fits
  by_cases hlong : extendedLive model (liveness model now) ∧ model.fc.pageMask.testBit 1 = true ∧
      model.fc.flightMode = .raceHorizon ∧ model.fc.armed = false
  · obtain ⟨hlive, hpage, hmode, hdisarmed⟩ := hlong
    have hpower : powerKnown model.fc = true ↔ model.fc.pageMask.testBit 2 = true := by
      simp [powerKnown, hlive.1]
    have hlength : flightLength model (liveness model now) =
        if model.fc.pageMask.testBit 2 = true ∧ 10 ≤ model.fc.batteryCompensatedV.value then 49
        else 48 := by
      have hfc : (liveness model now).fc = true := hlive.2
      simp only [flightLength, armLength, modeLength, batteryLength, hlive, hpage, hmode, hdisarmed,
        hpower, hfc, true_and, and_true, if_true, Bool.false_eq_true, if_false]
      split_ifs <;> rfl
    have htoo : FlightBadgesTooWide model now width ↔ width ≤ 122 ∨
        width ≤ 125 ∧ model.fc.pageMask.testBit 2 = true ∧
          10 ≤ model.fc.batteryCompensatedV.value :=
      ⟨fun h => h.2.2.2.2.2.2, fun h => ⟨hlive.2, hlive.1, hpage, hmode, hdisarmed, hwidth, h⟩⟩
    rw [htoo, hlength]
    split_ifs with hpair
    · have : width ≤ 122 ∨ width ≤ 125 ∧ model.fc.pageMask.testBit 2 = true ∧
          10 ≤ model.fc.batteryCompensatedV.value ↔ width ≤ 125 :=
        ⟨fun h => h.elim (by omega) And.left, fun h => .inr ⟨h, hpair⟩⟩
      rw [this]
      omega
    · have : width ≤ 122 ∨ width ≤ 125 ∧ model.fc.pageMask.testBit 2 = true ∧
          10 ≤ model.fc.batteryCompensatedV.value ↔ width ≤ 122 :=
        ⟨fun h => h.elim id fun h => absurd h.2 hpair, .inl⟩
      rw [this]
      omega
  · have hshort := (flightLength_le model hlong).trans hleast
    refine iff_of_true hshort fun htoo => hlong ?_
    exact ⟨⟨htoo.2.1, htoo.1⟩, htoo.2.2.1, htoo.2.2.2.1, htoo.2.2.2.2.1⟩

/-- Where they need more, a line is too long. -/
theorem exists_line_too_long (hbattery : VoltageInRange model.fc.batteryCompensatedV)
    (port : List Char) {width : ℕ} (status : Option BlackboxStatus)
    (hwide : FlightBadgesTooWide model now width) :
    ∃ line ∈ splitlines (self.render projection model now port width status),
      width < visibleLen line := by
  have hcolumns : 120 ≤ width := hwide.2.2.2.2.2.1
  have hflight : (groupWidths (width - 4)).flight < flightLength model (liveness model now) := by
    rw [← not_le, flightLength_le_iff model now hcolumns, not_not]
    exact hwide
  obtain ⟨row, hrow, hplain, htoo⟩ := self.exists_header_too_wide model (liveness model now)
    hbattery port now hcolumns status hflight
  have hne : row ≠ [] := by
    rintro rfl
    rw [visibleLen_nil] at htoo
    exact absurd htoo (Nat.not_lt_zero width)
  have hmax : max 8 width = width := by omega
  have hline : row ∈ self.lines projection model now port width status := by
    simp only [lines, hmax]
    exact List.mem_append_left _ hrow
  exact ⟨row, mem_joinLines hline hplain hne, htoo⟩

/-- Everywhere else all lines fit. -/
theorem lines_fit (hbattery : VoltageInRange model.fc.batteryCompensatedV) (port : List Char)
    {width : ℕ} (hwidth : 8 ≤ width) (status : Option BlackboxStatus)
    (hnarrow : ¬ FlightBadgesTooWide model now width) :
    Fits width (splitlines (self.render projection model now port width status)) := by
  have hmax : max 8 width = width := max_eq_right hwidth
  have hheader := self.header_fits model (liveness model now) hbattery port now hwidth status
    fun h => (flightLength_le_iff model now h).2 hnarrow
  have hlines : Fits width (self.lines projection model now port width status) := by
    simp only [lines, hmax, fits_append]
    refine ⟨hheader, ?_⟩
    split_ifs with hthree htwo
    · exact self.threeColumns_fits projection model now hthree
    · exact self.twoColumns_fits projection model now htwo
    · exact self.oneColumn_fits projection model now hwidth
  intro line hline
  rcases mem_splitlines_joinLines hline with rfl | ⟨row, hrow, hmem⟩
  · rw [visibleLen_nil]
    exact Nat.zero_le width
  · exact (visibleLen_le_of_mem_splitlines hmem).trans (hlines row hrow)

/-- **When every row fits.** At every width from 8 on, whatever the telemetry, the port, the
blackbox status, the clock and the canvas are, with colour or without, no line of the dashboard is
longer than the width, unless the flight badges need more than their part of the header's row. -/
theorem render_fits_iff (hbattery : VoltageInRange model.fc.batteryCompensatedV)
    (port : List Char) {width : ℕ} (hwidth : 8 ≤ width) (status : Option BlackboxStatus) :
    (∀ line ∈ splitlines (self.render projection model now port width status),
        visibleLen line ≤ width) ↔
      ¬ FlightBadgesTooWide model now width := by
  constructor
  · intro hfits hwide
    obtain ⟨line, hline, htoo⟩ :=
      self.exists_line_too_long projection model now hbattery port status hwide
    exact absurd (hfits line hline) (not_le.2 htoo)
  · exact self.lines_fit projection model now hbattery port hwidth status

end Render

/-- A disarmed quad in `RaceHorizon` whose flight page was received just now. -/
def raceHorizonModel : TelemetryModel where
  fc := { protocol := .extendedV1, pageMask := 2, flightMode := .raceHorizon }
  lastAnyAt := some 0
  lastType1At := some 0

theorem render_too_wide_raceHorizon :
    ¬ ∀ line ∈ splitlines (render {} exactProjection raceHorizonModel 0 "COM3".toList 120 none),
      visibleLen line ≤ 120 := by
  have hlive : raceHorizonModel.fcLive 0 = true := by
    simp [raceHorizonModel, TelemetryModel.fcLive, liveWithin]
  have htoo : FlightBadgesTooWide raceHorizonModel 0 120 :=
    ⟨hlive, rfl, by decide, rfl, rfl, by decide, .inl (by decide)⟩
  obtain ⟨line, hline, hlong⟩ := exists_line_too_long {} exactProjection raceHorizonModel 0
    voltageInRange_default "COM3".toList none htoo
  exact fun hfits => absurd (hfits line hline) (not_le.2 hlong)

/-! ### The voltage of a model -/

theorem voltageInRange_receive {v : FcView} (h : VoltageInRange v.batteryCompensatedV)
    (packet : Packet) : VoltageInRange (v.receive packet).batteryCompensatedV := by
  have hswitch (protocol : TelemetryProtocol) :
      VoltageInRange (v.switchTo protocol).batteryCompensatedV := by
    unfold FcView.switchTo
    split_ifs
    · exact h
    · exact voltageInRange_default
  unfold FcView.receive
  cases packetProtocol packet with
  | original =>
    have h5 := (packet.byte 5).isLt
    have h6 := (packet.byte 6).isLt
    refine ⟨10 * ((packet.byte 5).toNat % 8 * 256 + (packet.byte 6).toNat), by omega, ?_⟩
    simp only [FcView.receiveOriginal, Scaled.value]
    generalize (packet.byte 5).toNat % 8 * 256 + (packet.byte 6).toNat = n
    push_cast
    ring
  | extendedV1 =>
    simp only [FcView.receiveExtended, FcView.receivePage]
    split
    · exact hswitch .extendedV1
    · exact hswitch .extendedV1
    · refine ⟨MsbBits.field (payloadBit packet) 16 16, MsbBits.field_lt _ 16 16, ?_⟩
      simp [FcView.receivePower, Scaled.value]
    · unfold FcView.receiveSystem
      split_ifs <;> exact hswitch .extendedV1

theorem voltageInRange_update {s : FcTelemetry} (h : VoltageInRange s.batteryCompensatedV)
    (payload : List U8) (receivedAt : ℚ) :
    VoltageInRange (s.update payload receivedAt).2.batteryCompensatedV := by
  by_cases hlength : payload.length = 15
  · obtain ⟨packet, rfl⟩ : ∃ packet : Packet, payload = packet.toList :=
      ⟨⟨payload.toArray, by simpa using hlength⟩, by simp⟩
    cases hcheck : bayangCheckTelemetry packet with
    | false =>
      obtain ⟨e, he⟩ := FcTelemetry.update_of_invalid hcheck s receivedAt
      rw [he]
      exact h
    | true =>
      have hview := congrArg FcView.batteryCompensatedV
        (FcTelemetry.update_of_valid hcheck s receivedAt).2
      have hreceive := voltageInRange_receive (v := s.view) h packet
      rw [← hview] at hreceive
      exact hreceive
  · rw [FcTelemetry.update, if_pos (.inl hlength)]
    exact h

theorem voltageInRange_takePayload {model : TelemetryModel}
    (h : VoltageInRange model.fc.batteryCompensatedV) (record : BridgeRecord) (receivedAt : ℚ) :
    VoltageInRange (model.takePayload record receivedAt).2.fc.batteryCompensatedV := by
  have hupdate := voltageInRange_update h record.payload receivedAt
  unfold TelemetryModel.takePayload
  split_ifs
  · generalize model.fc.update record.payload receivedAt = result at hupdate
    obtain ⟨outcome, fc⟩ := result
    cases outcome <;> exact hupdate
  · cases LocalState.decode record.payload <;> exact h

theorem voltageInRange_accept {model : TelemetryModel}
    (h : VoltageInRange model.fc.batteryCompensatedV) (record : BridgeRecord) (receivedAt : ℚ) :
    VoltageInRange (model.accept record receivedAt).2.fc.batteryCompensatedV := by
  have hclear : VoltageInRange (if model.espRestarted record then model.clearAfterRestart
      else model).fc.batteryCompensatedV := by
    split_ifs
    · exact voltageInRange_default
    · exact h
  unfold TelemetryModel.accept
  simp only
  generalize (if model.espRestarted record then model.clearAfterRestart else model) = cleared
    at hclear
  have htracked : VoltageInRange (TelemetryModel.trackSequence
      { cleared with lastEspTimestamp := some record.timestampUs }
        record).fc.batteryCompensatedV := hclear
  have htake := voltageInRange_takePayload htracked record receivedAt
  generalize (TelemetryModel.trackSequence
    { cleared with lastEspTimestamp := some record.timestampUs } record).takePayload record
      receivedAt = result at htake
  obtain ⟨outcome, after⟩ := result
  cases outcome <;> exact htake

/-- **Every model that records lead to has a voltage in its range.** -/
theorem voltageInRange_acceptAll (records : List (BridgeRecord × ℚ)) :
    VoltageInRange (TelemetryModel.acceptAll {} records).fc.batteryCompensatedV := by
  have hrun : ∀ model : TelemetryModel, VoltageInRange model.fc.batteryCompensatedV →
      VoltageInRange (model.acceptAll records).fc.batteryCompensatedV := by
    induction records with
    | nil => exact fun model h => h
    | cons record records ih =>
      exact fun model h => ih _ (voltageInRange_accept h record.1 record.2)
  exact hrun {} voltageInRange_default

/-- A flight page in `RaceHorizon` and a power page with 12.6 V. -/
def chargedRecords : List (BridgeRecord × ℚ) :=
  [({ messageType := messageRawFc, sequence := 0, timestampUs := 1000
      payload := (setChecksum
        #v[0x86, 0x40, 0, 0, 0, 0, 0, 0, 0, 0, 0, 0, 0, 0x38, 0]).toList }, 0),
    ({ messageType := messageRawFc, sequence := 1, timestampUs := 2000
       payload := (setChecksum
        #v[0x86, 0x81, 0, 0, 0x31, 0x38, 0, 0, 0, 0, 0, 0, 0, 0, 0]).toList }, 0)]

/-- The model that these records lead to. -/
def chargedModel : TelemetryModel := TelemetryModel.acceptAll {} chargedRecords

/-- With the voltage the badges need three columns more. -/
theorem render_fits_iff_charged :
    (¬ ∀ line ∈ splitlines (render {} exactProjection chargedModel (1 / 4) "COM3".toList 125 none),
        visibleLen line ≤ 125) ∧
      ∀ line ∈ splitlines (render {} exactProjection chargedModel (1 / 4) "COM3".toList 126 none),
        visibleLen line ≤ 126 := by
  have htoo : FlightBadgesTooWide chargedModel (1 / 4) 125 := by
    unfold FlightBadgesTooWide
    decide +kernel
  have hfits : ¬ FlightBadgesTooWide chargedModel (1 / 4) 126 := by
    unfold FlightBadgesTooWide
    decide +kernel
  have hbattery : VoltageInRange chargedModel.fc.batteryCompensatedV := by
    rw [chargedModel]
    exact voltageInRange_acceptAll chargedRecords
  constructor
  · have hiff := render_fits_iff {} exactProjection chargedModel (1 / 4) hbattery "COM3".toList
      (show 8 ≤ 125 by decide) none
    rw [hiff]
    exact not_not.2 htoo
  · have hiff := render_fits_iff {} exactProjection chargedModel (1 / 4) hbattery "COM3".toList
      (show 8 ≤ 126 by decide) none
    exact hiff.2 hfits

end Dashboard

end SilverwareTx.GroundStation
