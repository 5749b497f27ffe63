import Mathlib.Data.List.Infix
import Mathlib.Tactic

/-!
# The serial ports that the viewer tries (`likely_ports` and `serial_candidates` in
`tools/ground_station/ground_station.py`)

Ports are tried in the order of `serialCandidates`: the requested one first, then the detected ones
that look like an adapter, best guess first, none twice.
-/

namespace SilverwareTx.GroundStation

/-- An entry of `list_ports.comports()`. -/
structure PortInfo where
  device : String
  description : String
  hwid : String

/-- `token in text` -/
def Mentions (text token : String) : Prop := token.toList <:+: text.toList

instance (text token : String) : Decidable (Mentions text token) :=
  inferInstanceAs (Decidable (_ <:+: _))

namespace PortInfo

/-- Whether the device is named as USB adapters are. -/
def usbStyle (port : PortInfo) : Bool :=
  ["ttyusb", "ttyacm", "cu.usb", "com"].any fun token => Mentions port.device.toLower token

/-- Whether the description or the hardware id is that of an adapter. -/
def knownAdapter (port : PortInfo) : Bool :=
  Mentions port.description.toLower "esp32" ||
    ["10c4:", "1a86:"].any fun token => Mentions port.hwid.toLower token

/-- The first part of `score`. -/
def rank (port : PortInfo) : ℕ :=
  if port.knownAdapter then 0 else if port.usbStyle then 1 else 2

/-- Whether `score` puts a port no later than another. -/
def scoreLe (port other : PortInfo) : Bool :=
  decide (port.rank < other.rank) ||
    (decide (port.rank = other.rank) && decide (port.device ≤ other.device))

end PortInfo

/-- `likely_ports`: known adapters first, then devices named as USB adapters are. -/
def likelyPorts (comports : List PortInfo) : List PortInfo :=
  comports.mergeSort PortInfo.scoreLe

/-- A requested port that Python takes for true. -/
def given (requestedPort : Option String) : Option String := requestedPort.filter (· ≠ "")

/-- `list(dict.fromkeys(items))`: the first of each kind. -/
def fromKeys : List String → List String
  | [] => []
  | item :: items => item :: (fromKeys items).filter (· ≠ item)

/-- `serial_candidates`: the requested port, then the detected ones. -/
def serialCandidates (requestedPort : Option String) (detectedPorts : List PortInfo) :
    List String :=
  let devices := detectedPorts.filterMap fun port =>
    if port.device ≠ "" ∧ (port.usbStyle || port.knownAdapter) then some port.device else none
  fromKeys ((given requestedPort).toList ++ devices)

section Candidates

variable {items : List String} {device : String}

theorem mem_fromKeys : device ∈ fromKeys items ↔ device ∈ items := by
  induction items with
  | nil => rfl
  | cons item items ih =>
    rw [fromKeys, List.mem_cons, List.mem_cons, List.mem_filter, ih, decide_eq_true_iff]
    constructor
    · exact Or.imp_right And.left
    · rintro (h | h)
      · exact .inl h
      · exact or_iff_not_imp_left.2 fun hne => ⟨h, hne⟩

theorem nodup_fromKeys (items : List String) : (fromKeys items).Nodup := by
  induction items with
  | nil => exact List.nodup_nil
  | cons item items ih =>
    refine List.nodup_cons.2 ⟨fun h => ?_, ih.filter _⟩
    simpa using (List.mem_filter.1 h).2

variable {requestedPort : Option String} {comports : List PortInfo}

theorem nodup_serialCandidates :
    (serialCandidates requestedPort (likelyPorts comports)).Nodup := nodup_fromKeys _

/-- A port that is tried was asked for, or was detected and looks like an adapter. -/
theorem mem_serialCandidates (h : device ∈ serialCandidates requestedPort (likelyPorts comports)) :
    given requestedPort = some device ∨
      ∃ port ∈ comports, port.device = device ∧ device ≠ "" ∧
        (port.usbStyle || port.knownAdapter) = true := by
  rcases List.mem_append.1 (mem_fromKeys.1 h) with h | h
  · exact .inl (Option.mem_toList.1 h)
  · right
    obtain ⟨port, hport, heq⟩ := List.mem_filterMap.1 h
    split_ifs at heq with hlooks
    cases heq
    exact ⟨port, List.mem_mergeSort.1 hport, rfl, hlooks⟩

/-- The port that was asked for comes first. -/
theorem head_serialCandidates (hgiven : given requestedPort = some device) :
    (serialCandidates requestedPort (likelyPorts comports)).head? = some device := by
  rw [serialCandidates, hgiven]
  rfl

end Candidates

end SilverwareTx.GroundStation
