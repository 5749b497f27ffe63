import SilverwareTx.Telemetry.FcView

/-!
# The retained fields and the packet history

What the pre-arm guard reads (the protocol, the armed flag, the flight mode, the PID profile and
their times) traced to the packets that said it. Protocol switches clear the flight page's fields,
so a known flight mode is always that of the most recent flight page (`flightPage_of_flightMode`).
-/

namespace SilverwareTx

/-- A valid extended packet with the flight page. -/
def isFlightPage (packet : Packet) : Bool :=
  bayangCheckTelemetry packet && decide (packetProtocol packet = .extendedV1) &&
    decide (packet.byte 1 >>> 6 = 1)

/-- The most recent flight page of a history. -/
def lastFlightPage (history : List Reception) : Option Reception :=
  history.foldl (fun last r => if isFlightPage r.packet then some r else last) none

theorem lastFlightPage_concat (history : List Reception) (r : Reception) :
    lastFlightPage (history ++ [r]) =
      if isFlightPage r.packet then some r else lastFlightPage history := by
  rw [lastFlightPage, List.foldl_append]
  rfl

theorem mem_of_lastFlightPage {history : List Reception} {r : Reception}
    (h : lastFlightPage history = some r) : r ∈ history := by
  induction history using List.reverseRecOn with
  | nil => simp [lastFlightPage] at h
  | append_singleton history last ih =>
    rw [lastFlightPage_concat] at h
    split_ifs at h with hpage
    · obtain rfl : last = r := Option.some.inj h
      simp
    · exact List.mem_append_left _ (ih h)

/-! ### One packet -/

/-- The flight mode, the PID profile and the time of the flight page. -/
def TelemetryData.flightStatus (t : TelemetryData) : FlightMode × Bool × ℤ :=
  (t.flightMode, t.pidProfile, t.lastFlightPageUs)

/-- The flags of a flight page are its byte 13. -/
theorem readBits_flightFlags (packet : Packet) :
    ((readBits packet 88 8).1.setWidth 8 : U8) = packet.byte 13 := by
  refine BitVec.eq_of_getLsbD_eq fun k hk => ?_
  rw [getLsbD_readBits packet 88 hk, payloadBit, show 2 + (88 + (7 - k)) / 8 = 13 by omega,
    show 7 - (88 + (7 - k)) % 8 = k by omega, getD_toList packet 13]

theorem flightStatus_parsePage (packet : Packet) (t : ℤ) (data : TelemetryData) :
    (parsePage packet t data).flightStatus =
      if packet.byte 1 >>> 6 = 1 then
        (decodeFlightMode (packet.byte 13), flagSet (packet.byte 13) 0x40, t)
      else data.flightStatus := by
  rcases parsePage_cases packet t with ⟨hflight, h⟩ | ⟨hother, h⟩
  · rw [if_pos hflight, h]
    simp only [parseFlight, TelemetryData.flightStatus, readBits_snd, readSignedBits_snd,
      Nat.reduceAdd, readBits_flightFlags]
    rfl
  · rw [if_neg hother]
    rcases h with h | h | h | h <;> rw [h] <;> rfl

theorem protocol_parsePage (packet : Packet) (t : ℤ) (data : TelemetryData) :
    (parsePage packet t data).protocol = data.protocol ∧
      (parsePage packet t data).armed = data.armed := by
  rcases parsePage_cases packet t with ⟨-, h⟩ | ⟨-, h | h | h | h⟩ <;> rw [h] <;> exact ⟨rfl, rfl⟩

section Valid

variable {m : TelemetryModule} {packet : Packet} {t : ℤ}

theorem protocol_switchProtocol (m : TelemetryModule) (protocol : TelemetryProtocol) :
    (switchProtocol m protocol).currentTelemetry.protocol = protocol := by
  by_cases h : m.currentTelemetry.protocol = protocol
  · rw [switchProtocol_of_eq h, h]
  · rw [switchProtocol_of_ne h]

/-- What a valid packet says of itself: its time, its protocol and, if extended, the armed flag. -/
theorem telemetryParse_stamp (hv : bayangCheckTelemetry packet = true) :
    (telemetryParse m packet t).2.hasTelemetry = true ∧
      (telemetryParse m packet t).2.currentTelemetry.lastValidUs = t ∧
      (telemetryParse m packet t).2.currentTelemetry.protocol = packetProtocol packet ∧
      (packetProtocol packet = .extendedV1 →
        (telemetryParse m packet t).2.currentTelemetry.armed = flagSet (packet.byte 1) 0x20) := by
  have hswitch := protocol_switchProtocol m (packetProtocol packet)
  rw [telemetryParse_of_valid hv]
  refine ⟨rfl, rfl, ?_, fun hext => ?_⟩
  · refine Eq.trans ?_ hswitch
    unfold parseBody
    cases packetProtocol packet with
    | original => rfl
    | extendedV1 => exact (protocol_parsePage packet t _).1
  · simp only [parseBody, hext, parseExtended, (protocol_parsePage packet t _).2]
    rfl

/-- A valid packet sets the fields of the flight page, keeps them, or clears them with a switch of
the protocol. -/
theorem flightStatus_telemetryParse (hv : bayangCheckTelemetry packet = true) :
    (telemetryParse m packet t).2.currentTelemetry.flightStatus =
      if isFlightPage packet then
        (decodeFlightMode (packet.byte 13), flagSet (packet.byte 13) 0x40, t)
      else if m.currentTelemetry.protocol = packetProtocol packet then
        m.currentTelemetry.flightStatus
      else (.unknown, false, 0) := by
  have hswitch : (switchProtocol m (packetProtocol packet)).currentTelemetry.flightStatus =
      if m.currentTelemetry.protocol = packetProtocol packet then m.currentTelemetry.flightStatus
      else (.unknown, false, 0) := by
    split_ifs with h
    · rw [switchProtocol_of_eq h]
    · rw [switchProtocol_of_ne h]
      rfl
  rw [telemetryParse_of_valid hv, ← hswitch]
  generalize switchProtocol m (packetProtocol packet) = m'
  simp only [isFlightPage, hv, Bool.true_and, Bool.and_eq_true, decide_eq_true_eq]
  unfold parseBody
  cases packetProtocol packet with
  | original =>
    rw [if_neg (by simp)]
    rfl
  | extendedV1 =>
    simp only [true_and]
    exact flightStatus_parsePage packet t (parseExtendedHeader packet m').currentTelemetry

end Valid

/-! ### A history -/

/-- The module's stamps are those of the last packet. -/
theorem telemetryFeed_stamp {history : List Reception}
    (hv : ∀ r ∈ history, bayangCheckTelemetry r.packet = true)
    (hhas : (telemetryFeed telemetryInit history).hasTelemetry = true) :
    ∃ r, history.getLast? = some r ∧
      (telemetryFeed telemetryInit history).currentTelemetry.lastValidUs = r.receivedUs ∧
      (telemetryFeed telemetryInit history).currentTelemetry.protocol = packetProtocol r.packet ∧
      (packetProtocol r.packet = .extendedV1 →
        (telemetryFeed telemetryInit history).currentTelemetry.armed =
          flagSet (r.packet.byte 1) 0x20) := by
  rcases List.eq_nil_or_concat' history with rfl | ⟨earlier, r, rfl⟩
  · exact Bool.noConfusion hhas
  · rw [telemetryFeed_concat]
    obtain ⟨-, hlast, hprotocol, harmed⟩ :=
      telemetryParse_stamp (m := telemetryFeed telemetryInit earlier) (t := r.receivedUs)
        (hv r (by simp))
    exact ⟨r, List.getLast?_concat, hlast, hprotocol, harmed⟩

/-- A known flight mode is that of the most recent flight page, with its PID profile and its
time. -/
theorem flightPage_of_flightMode {history : List Reception}
    (hv : ∀ r ∈ history, bayangCheckTelemetry r.packet = true)
    (hmode : (telemetryFeed telemetryInit history).currentTelemetry.flightMode ≠ .unknown) :
    ∃ f, lastFlightPage history = some f ∧
      (telemetryFeed telemetryInit history).currentTelemetry.flightStatus =
        (decodeFlightMode (f.packet.byte 13), flagSet (f.packet.byte 13) 0x40, f.receivedUs) := by
  induction history using List.reverseRecOn with
  | nil => exact absurd rfl hmode
  | append_singleton history r ih =>
    have hstep := flightStatus_telemetryParse (m := telemetryFeed telemetryInit history)
      (t := r.receivedUs) (hv r (by simp))
    rw [telemetryFeed_concat, lastFlightPage_concat]
    have hknown : (telemetryParse (telemetryFeed telemetryInit history) r.packet
        r.receivedUs).2.currentTelemetry.flightStatus.1 ≠ .unknown :=
      telemetryFeed_concat telemetryInit history r ▸ hmode
    rw [hstep] at hknown ⊢
    split_ifs at hknown ⊢ with hpage hsame
    · exact ⟨r, rfl, rfl⟩
    · exact ih (fun q hq => hv q (List.mem_append_left _ hq)) hknown
    · exact absurd rfl hknown

end SilverwareTx
