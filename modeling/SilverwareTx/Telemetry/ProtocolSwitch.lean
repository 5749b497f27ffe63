import Mathlib.Tactic
import SilverwareTx.Telemetry.Telemetry

/-!
# What survives a protocol switch

`forget` takes from the telemetry module what a valid packet overwrites (`last_valid_us`,
`has_telemetry`), the last sequence number while it is unused, and the PID terms. The parser
respects `forget`, and a switch of the protocol leaves nothing else behind. The PID terms are kept
by `clear_extended_data`, so they are what can survive.
-/

namespace SilverwareTx

/-- The PID terms of the legacy packets. -/
inductive PidTerm
  | p
  | i
  | d
  deriving DecidableEq

/-- The two bits that name the term. -/
def PidTerm.code : PidTerm → U8
  | .p => 0
  | .i => 1
  | .d => 2

/-- A PID term. -/
def TelemetryData.pid (t : TelemetryData) : PidTerm → U16
  | .p => t.pidP
  | .i => t.pidI
  | .d => t.pidD

/-- A valid original packet that carries the term. -/
def carriesPid (term : PidTerm) (packet : Packet) : Bool :=
  bayangCheckTelemetry packet && decide (packetProtocol packet = .original) &&
    decide (pidTerm packet = term.code)

/-- The last value of the term in a history, `start` if it has none. -/
def lastPid (term : PidTerm) (start : U16) (history : List Reception) : U16 :=
  history.foldl (fun v r => if carriesPid term r.packet then pidValue r.packet else v) start

/-- A history that has the term forgets the start; another one keeps it. -/
theorem lastPid_eq_iff (term : PidTerm) (a b : U16) (history : List Reception) :
    lastPid term a history = lastPid term b history ↔
      (∃ r ∈ history, carriesPid term r.packet = true) ∨ a = b := by
  induction history generalizing a b with
  | nil => simp [lastPid]
  | cons r history ih =>
    have hcons : ∀ v, lastPid term v (r :: history) =
        lastPid term (if carriesPid term r.packet then pidValue r.packet else v) history :=
      fun _ => rfl
    rw [hcons, hcons, ih]
    cases hr : carriesPid term r.packet with
    | true => simp [hr]
    | false => simp [hr]

/-! ### The PID terms of the module -/

theorem pid_switchProtocol (m : TelemetryModule) (protocol : TelemetryProtocol) (term : PidTerm) :
    (switchProtocol m protocol).currentTelemetry.pid term = m.currentTelemetry.pid term := by
  by_cases h : m.currentTelemetry.protocol = protocol
  · rw [switchProtocol_of_eq h]
  · rw [switchProtocol_of_ne h]
    cases term <;> rfl

theorem pid_parsePage (packet : Packet) (t : ℤ) (data : TelemetryData) (term : PidTerm) :
    (parsePage packet t data).pid term = data.pid term := by
  rcases parsePage_cases packet t with ⟨-, h⟩ | ⟨-, h | h | h | h⟩ <;> rw [h] <;> cases term <;> rfl

theorem pid_parseBody (m : TelemetryModule) (packet : Packet) (t : ℤ) (term : PidTerm) :
    (parseBody packet t m).currentTelemetry.pid term =
      if packetProtocol packet = .original ∧ pidTerm packet = term.code then pidValue packet
      else m.currentTelemetry.pid term := by
  unfold parseBody
  cases hp : packetProtocol packet with
  | original =>
    simp only [true_and]
    cases term <;> rfl
  | extendedV1 =>
    rw [if_neg (by simp)]
    have hheader : (parseExtendedHeader packet m).currentTelemetry.pid term =
        m.currentTelemetry.pid term := by cases term <;> rfl
    rw [← hheader]
    exact pid_parsePage packet t _ term

theorem pid_telemetryParse (m : TelemetryModule) (r : Reception) (term : PidTerm) :
    (telemetryParse m r.packet r.receivedUs).2.currentTelemetry.pid term =
      if carriesPid term r.packet then pidValue r.packet else m.currentTelemetry.pid term := by
  unfold telemetryParse carriesPid
  cases hv : bayangCheckTelemetry r.packet with
  | false => rfl
  | true =>
    have hstamp : ∀ (data : TelemetryData) (t : ℤ),
        ({ data with lastValidUs := t } : TelemetryData).pid term = data.pid term := by
      intro data t
      cases term <;> rfl
    simp only [Bool.not_true, if_false, hstamp, pid_parseBody, pid_switchProtocol, Bool.true_and,
      Bool.and_eq_true, decide_eq_true_eq, Bool.false_eq_true]

/-- A term of the module is its last value in the packets. -/
theorem pid_telemetryFeed (m : TelemetryModule) (history : List Reception) (term : PidTerm) :
    (telemetryFeed m history).currentTelemetry.pid term =
      lastPid term (m.currentTelemetry.pid term) history := by
  induction history generalizing m with
  | nil => rfl
  | cons r history ih =>
    rw [telemetryFeed_cons, ih, pid_telemetryParse]
    rfl

/-! ### What a switch forgets -/

/-- The data without the PID terms and the time of the last valid packet. -/
def TelemetryData.forget (t : TelemetryData) : TelemetryData :=
  { t with pidP := 0, pidI := 0, pidD := 0, lastValidUs := 0 }

/-- The module without the PID terms and what the next valid packet overwrites. -/
def TelemetryModule.forget (m : TelemetryModule) : TelemetryModule where
  currentTelemetry := m.currentTelemetry.forget
  hasTelemetry := false
  hasSequence := m.hasSequence
  lastSequence := if m.hasSequence then m.lastSequence else 0

theorem forget_switchProtocol (m : TelemetryModule) (protocol : TelemetryProtocol) :
    (switchProtocol m protocol).forget = (switchProtocol m.forget protocol).forget := by
  have hsame : m.forget.currentTelemetry.protocol = m.currentTelemetry.protocol := rfl
  by_cases h : m.currentTelemetry.protocol = protocol
  · rw [switchProtocol_of_eq h, switchProtocol_of_eq (hsame.trans h)]
    obtain ⟨data, has, hasSeq, last⟩ := m
    cases hasSeq <;> rfl
  · rw [switchProtocol_of_ne h, switchProtocol_of_ne (hsame.trans_ne h)]
    rfl

theorem forget_parsePage (packet : Packet) (t : ℤ) (data : TelemetryData) :
    (parsePage packet t data).forget = (parsePage packet t data.forget).forget := by
  rcases parsePage_cases packet t with ⟨-, h⟩ | ⟨-, h | h | h | h⟩ <;> rw [h] <;> rfl

theorem forget_parseBody (packet : Packet) (t : ℤ) (m : TelemetryModule) :
    (parseBody packet t m).forget = (parseBody packet t m.forget).forget := by
  obtain ⟨data, has, hasSeq, last⟩ := m
  unfold parseBody
  cases packetProtocol packet with
  | original => cases hasSeq <;> rfl
  | extendedV1 =>
    have hheader : (parseExtendedHeader packet ⟨data, has, hasSeq, last⟩).currentTelemetry.forget =
        (parseExtendedHeader packet
          (TelemetryModule.forget ⟨data, has, hasSeq, last⟩)).currentTelemetry.forget := by
      cases hasSeq <;> rfl
    simp only [parseExtended, TelemetryModule.forget]
    rw [forget_parsePage, hheader, ← forget_parsePage]
    rfl

/-- A valid packet stamps the module that its body leaves, and the stamp is forgotten. -/
theorem forget_telemetryParse_of_valid {packet : Packet} (hv : bayangCheckTelemetry packet = true)
    (m : TelemetryModule) (t : ℤ) :
    (telemetryParse m packet t).2.forget =
      (parseBody packet t (switchProtocol m (packetProtocol packet))).forget := by
  rw [telemetryParse_of_valid hv]
  generalize parseBody packet t (switchProtocol m (packetProtocol packet)) = m'
  rfl

/-- A packet of the module that forgot. -/
theorem forget_telemetryParse (m : TelemetryModule) (packet : Packet) (t : ℤ) :
    (telemetryParse m packet t).2.forget = (telemetryParse m.forget packet t).2.forget := by
  cases hv : bayangCheckTelemetry packet with
  | false =>
    have hself : m.forget.forget = m.forget := by
      obtain ⟨data, has, hasSeq, last⟩ := m
      cases hasSeq <;> rfl
    rw [telemetryParse_of_invalid hv, telemetryParse_of_invalid hv]
    exact hself.symm
  | true =>
    rw [forget_telemetryParse_of_valid hv, forget_telemetryParse_of_valid hv, forget_parseBody,
      forget_switchProtocol, ← forget_parseBody]

theorem forget_telemetryFeed {m₁ m₂ : TelemetryModule} (h : m₁.forget = m₂.forget)
    (history : List Reception) :
    (telemetryFeed m₁ history).forget = (telemetryFeed m₂ history).forget := by
  induction history generalizing m₁ m₂ with
  | nil => exact h
  | cons r history ih =>
    have hstep : (telemetryParse m₁ r.packet r.receivedUs).2.forget =
        (telemetryParse m₂ r.packet r.receivedUs).2.forget := by
      rw [forget_telemetryParse, h, ← forget_telemetryParse]
    exact ih hstep

/-- The first packet of another protocol leaves nothing but the PID terms behind. -/
theorem forget_telemetryParse_of_switch {m₁ m₂ : TelemetryModule} {packet : Packet} (t : ℤ)
    (hv : bayangCheckTelemetry packet = true)
    (h₁ : m₁.currentTelemetry.protocol ≠ packetProtocol packet)
    (h₂ : m₂.currentTelemetry.protocol ≠ packetProtocol packet) :
    (telemetryParse m₁ packet t).2.forget = (telemetryParse m₂ packet t).2.forget := by
  have hswitch : (switchProtocol m₁ (packetProtocol packet)).forget =
      (switchProtocol m₂ (packetProtocol packet)).forget := by
    rw [switchProtocol_of_ne h₁, switchProtocol_of_ne h₂]
    rfl
  rw [forget_telemetryParse_of_valid hv, forget_telemetryParse_of_valid hv, forget_parseBody,
    hswitch, ← forget_parseBody]

/-! ### The snapshot -/

/-- After a valid packet the module has telemetry, of the packet's receive time. -/
theorem stamp_telemetryFeed (m : TelemetryModule) (history : List Reception) {r : Reception}
    (hv : bayangCheckTelemetry r.packet = true) :
    (telemetryFeed m (history ++ [r])).hasTelemetry = true ∧
      (telemetryFeed m (history ++ [r])).currentTelemetry.lastValidUs = r.receivedUs := by
  rw [telemetryFeed_concat, telemetryParse_of_valid hv]
  exact ⟨rfl, rfl⟩

/-- Data that agree outside the PID terms agree in every field when the terms agree. -/
theorem data_eq_iff {t₁ t₂ : TelemetryData} (h : t₁.forget = t₂.forget)
    (hstamp : t₁.lastValidUs = t₂.lastValidUs) : t₁ = t₂ ↔ ∀ term, t₁.pid term = t₂.pid term := by
  have hrestore : ∀ t : TelemetryData, t = { t.forget with
      pidP := t.pid .p, pidI := t.pid .i, pidD := t.pid .d, lastValidUs := t.lastValidUs } :=
    fun _ => rfl
  refine ⟨fun heq term => by rw [heq], fun hpid => ?_⟩
  rw [hrestore t₁, hrestore t₂, h, hstamp, hpid, hpid, hpid]

theorem snapshot_eq_iff {m₁ m₂ : TelemetryModule} (h₁ : m₁.hasTelemetry = true)
    (h₂ : m₂.hasTelemetry = true) (now : ℤ) :
    telemetryGetSnapshot m₁ now = telemetryGetSnapshot m₂ now ↔
      m₁.currentTelemetry = m₂.currentTelemetry := by
  unfold telemetryGetSnapshot
  rw [h₁, h₂]
  constructor
  · intro h
    exact congrArg TelemetrySnapshot.data h
  · intro h
    rw [h]

/-- The two histories left the PID terms alike, or the packets since give them. -/
def PidSettled (h₁ h₂ since : List Reception) : Prop :=
  ∀ term, (∃ r ∈ since, carriesPid term r.packet = true) ∨
    lastPid term 0 h₁ = lastPid term 0 h₂

/-- **When a protocol switch leaves nothing stale.** After two histories that end in one protocol
and the same valid packets of the other protocol, the snapshots are equal exactly when the PID terms
are settled. -/
theorem snapshot_after_switch_eq_iff {h₁ h₂ since : List Reception} {protocol : TelemetryProtocol}
    (hp₁ : (telemetryFeed telemetryInit h₁).currentTelemetry.protocol = protocol)
    (hp₂ : (telemetryFeed telemetryInit h₂).currentTelemetry.protocol = protocol)
    (hne : since ≠ [])
    (hsince : ∀ r ∈ since, bayangCheckTelemetry r.packet = true ∧ packetProtocol r.packet ≠ protocol)
    (now : ℤ) :
    telemetryGetSnapshot (telemetryFeed telemetryInit (h₁ ++ since)) now =
        telemetryGetSnapshot (telemetryFeed telemetryInit (h₂ ++ since)) now ↔
      PidSettled h₁ h₂ since := by
  obtain ⟨earlier, last, hsplit⟩ : ∃ earlier last, since = earlier ++ [last] :=
    (List.eq_nil_or_concat' since).resolve_left hne
  have hlast : bayangCheckTelemetry last.packet = true := (hsince last (by simp [hsplit])).1
  obtain ⟨hhas₁, hlast₁⟩ :=
    hsplit ▸ stamp_telemetryFeed (telemetryFeed telemetryInit h₁) earlier hlast
  obtain ⟨hhas₂, hlast₂⟩ :=
    hsplit ▸ stamp_telemetryFeed (telemetryFeed telemetryInit h₂) earlier hlast
  have hforget : (telemetryFeed (telemetryFeed telemetryInit h₁) since).forget =
      (telemetryFeed (telemetryFeed telemetryInit h₂) since).forget := by
    obtain ⟨r, rest, rfl⟩ := List.exists_cons_of_ne_nil hne
    obtain ⟨hv, hother⟩ := hsince r List.mem_cons_self
    exact forget_telemetryFeed (forget_telemetryParse_of_switch r.receivedUs hv
      (hp₁.trans_ne hother.symm) (hp₂.trans_ne hother.symm)) rest
  rw [telemetryFeed_append, telemetryFeed_append, snapshot_eq_iff hhas₁ hhas₂,
    data_eq_iff (congrArg TelemetryModule.currentTelemetry hforget) (hlast₁.trans hlast₂.symm)]
  refine forall_congr' fun term => ?_
  have hstart : telemetryInit.currentTelemetry.pid term = 0 := by cases term <;> rfl
  rw [pid_telemetryFeed, pid_telemetryFeed, pid_telemetryFeed, pid_telemetryFeed, hstart,
    lastPid_eq_iff]

/-- An original packet with the P term 5. -/
def originalPidP : Packet := #v[0x85, 0, 0, 0, 0, 0, 0, 0, 0x00, 5, 0, 0, 0, 0, 0x8A]

/-- An original packet with the I term 0. -/
def originalPidI : Packet := #v[0x85, 0, 0, 0, 0, 0, 0, 0, 0x40, 0, 0, 0, 0, 0, 0xC5]

/-- An extended packet with a control page. -/
def extendedControl : Packet := #v[0x86, 0, 0, 0, 0, 0, 0, 0, 0, 0, 0, 0, 0, 0, 0x86]

/-- An original packet with another term than the one before the extended packets settles
nothing. -/
theorem snapshot_after_switch_eq_iff_pidP :
    telemetryGetSnapshot (telemetryFeed telemetryInit
        ([⟨originalPidP, 10⟩, ⟨extendedControl, 20⟩] ++ [⟨originalPidI, 30⟩])) 40 =
      telemetryGetSnapshot (telemetryFeed telemetryInit
        ([⟨extendedControl, 20⟩] ++ [⟨originalPidI, 30⟩])) 40 ↔
    PidSettled [⟨originalPidP, 10⟩, ⟨extendedControl, 20⟩] [⟨extendedControl, 20⟩]
      [⟨originalPidI, 30⟩] :=
  snapshot_after_switch_eq_iff (show _ = TelemetryProtocol.extendedV1 by decide) (by decide)
    (by simp) (by decide) 40

/-- The P term of before the switch is in a snapshot after it. -/
theorem stale_pid_after_switch :
    ¬ ∀ (h₁ h₂ since : List Reception) (protocol : TelemetryProtocol),
      (telemetryFeed telemetryInit h₁).currentTelemetry.protocol = protocol →
      (telemetryFeed telemetryInit h₂).currentTelemetry.protocol = protocol →
      since ≠ [] →
      (∀ r ∈ since, bayangCheckTelemetry r.packet = true ∧ packetProtocol r.packet ≠ protocol) →
      ∀ now, telemetryGetSnapshot (telemetryFeed telemetryInit (h₁ ++ since)) now =
        telemetryGetSnapshot (telemetryFeed telemetryInit (h₂ ++ since)) now := by
  intro h
  have heq := h [⟨originalPidP, 10⟩, ⟨extendedControl, 20⟩] [⟨extendedControl, 20⟩]
    [⟨originalPidI, 30⟩] .extendedV1 (by decide) (by decide) (by simp) (by decide) 40
  have hpid := congrArg (fun s => s.data.pidP) heq
  revert hpid
  decide

end SilverwareTx
