import SilverwareTx.Lib.SequenceGaps
import SilverwareTx.Link.TelemetryAgreement
import SilverwareTx.Telemetry.ExtendedPages

/-!
# Counting lost telemetry packets

The flight controller numbers its extended packets and sends the number modulo 16. Both receivers
count the skipped numbers from that nibble. `losses_of_run`: over a run of deliveries the ground
station counts every gap modulo 16 and the transmitter the same in 32 bits, so both are exact as
long as fewer than 16 packets are missing at a time (`sequence_losses_exact`).
-/

namespace SilverwareTx

open GroundStation SequenceGaps

/-- A delivered extended packet with its number. -/
structure Delivery where
  number : ℕ
  reception : Reception
  /-- The receive time on the ground station's clock. -/
  receivedAt : ℚ
  valid : bayangCheckTelemetry reception.packet = true
  extended : reception.packet.byte 0 = 0x86
  sequence : (reception.packet.byte 1).toNat % 16 = number % 16

/-- What the receivers get. -/
def receptions (run : List Delivery) : List (Reception × ℚ) :=
  run.map fun d => (d.reception, d.receivedAt)

/-- The numbers between the first and the last delivery that were not delivered. -/
def missingPackets (numbers : List ℕ) : ℕ :=
  ((Finset.Ico (numbers.headD 0) (numbers.getLastD 0)).filter (· ∉ numbers)).card

/-- Between two deliveries fewer than 16 packets are missing. -/
def ShortGaps (numbers : List ℕ) : Prop := numbers.IsChain fun a b => b - a - 1 < 16

instance (numbers : List ℕ) : Decidable (ShortGaps numbers) :=
  inferInstanceAs (Decidable (List.IsChain _ numbers))

/-! ### The ground station -/

/-- The object has received packet `number` last. -/
structure Received (s : FcTelemetry) (number : ℕ) : Prop where
  protocol : s.protocol = .extendedV1
  hasFcSequence : s.hasFcSequence = true
  lastFcSequence : s.lastFcSequence = number % 16

/-- The view says which packet was received last. -/
theorem Received.of_view {s : FcTelemetry} {number : ℕ}
    (hprotocol : s.view.protocol = some .extendedV1)
    (hlast : s.view.lastSequence = some (number % 16)) : Received s number := by
  simp only [FcTelemetry.view] at hprotocol hlast
  split_ifs at hlast with hhas
  refine ⟨?_, hhas, Option.some.inj hlast⟩
  cases hcase : s.protocol with
  | never => simp [hcase] at hprotocol
  | original => simp [hcase] at hprotocol
  | extendedV1 => rfl

section Delivery

variable (d : Delivery) (s : FcTelemetry)

/-- The object after a delivery. -/
def deliver : FcTelemetry := (s.update d.reception.packet.toList d.receivedAt).2

theorem received_deliver : Received (deliver d s) d.number := by
  have hview : (deliver d s).view = FcView.receive d.reception.packet s.view :=
    (FcTelemetry.update_of_valid d.valid s d.receivedAt).2
  obtain ⟨hprotocol, hlast⟩ := FcView.receive_extended (v := s.view) d.extended
  apply Received.of_view
  · rw [hview, hprotocol]
  · rw [hview, hlast, d.sequence]

/-- The losses that a delivery adds. -/
theorem losses_deliver : (deliver d s).telemetryPacketLosses =
    (FcTelemetry.updateHeader (d.reception.packet.byte 1).toNat
      (s.switchProtocol .extendedV1)).telemetryPacketLosses := by
  have hproto : packetProtocol d.reception.packet = .extendedV1 := if_pos d.extended
  rw [deliver, FcTelemetry.update_eq d.valid, hproto]
  exact (FcTelemetry.updateExtended_spec _ _ _).2.1

variable {d s}

/-- After packet `last` a delivery adds its gap modulo 16. -/
theorem Received.losses_deliver {last : ℕ} (h : Received s last) (hlt : last < d.number) :
    (deliver d s).telemetryPacketLosses =
      s.telemetryPacketLosses + (d.number - last - 1) % 16 := by
  have hswitch : s.switchProtocol .extendedV1 = s := if_neg (not_not.2 h.protocol.symm)
  have hsequence := d.sequence
  rw [SilverwareTx.losses_deliver, hswitch]
  simp only [FcTelemetry.updateHeader, h.hasFcSequence, h.lastFcSequence, if_true,
    FcTelemetry.and_0x0F]
  omega

/-- The first packet of a source is not counted. -/
theorem losses_deliver_first : (deliver d {}).telemetryPacketLosses = 0 := by
  rw [losses_deliver]
  rfl

end Delivery

/-! ### A run -/

/-- The ground station counts every gap modulo 16. -/
theorem losses_feed {s : FcTelemetry} {last : ℕ} (h : Received s last) (run : List Delivery)
    (hrun : (last :: run.map Delivery.number).Pairwise (· < ·)) :
    (FcTelemetry.feed s (run.map fun d => (d.reception.packet, d.receivedAt))).telemetryPacketLosses =
      s.telemetryPacketLosses + counted 16 last (run.map Delivery.number) := by
  induction run generalizing s last with
  | nil => rfl
  | cons d run ih =>
    obtain ⟨hlast, htail⟩ := List.pairwise_cons.1 hrun
    have hstep := h.losses_deliver (hlast d.number List.mem_cons_self)
    have hfeed : FcTelemetry.feed s ((d :: run).map fun d => (d.reception.packet, d.receivedAt)) =
        FcTelemetry.feed (deliver d s) (run.map fun d => (d.reception.packet, d.receivedAt)) := rfl
    rw [hfeed, ih (received_deliver d s) htail, hstep, List.map_cons, counted, Nat.add_assoc]

/-- The losses that the ground station counts in a run. -/
def countedLosses : List ℕ → ℕ
  | [] => 0
  | first :: numbers => counted 16 first numbers

theorem losses_groundStationAfter (run : List Delivery)
    (hrun : (run.map Delivery.number).Pairwise (· < ·)) :
    (groundStationAfter (receptions run)).telemetryPacketLosses =
      countedLosses (run.map Delivery.number) := by
  cases run with
  | nil => rfl
  | cons d run =>
    have hfeed : groundStationAfter (receptions (d :: run)) =
        FcTelemetry.feed (deliver d {}) (run.map fun d => (d.reception.packet, d.receivedAt)) := by
      rw [groundStationAfter, receptions, List.map_map]
      rfl
    rw [hfeed, losses_feed (received_deliver d {}) run hrun, losses_deliver_first, Nat.zero_add]
    rfl

/-- The transmitter counts the same in 32 bits. -/
theorem losses_transmitterAfter (run : List Delivery) :
    (transmitterAfter (receptions run)).currentTelemetry.telemetryPacketsLost =
      BitVec.ofNat 32 (groundStationAfter (receptions run)).telemetryPacketLosses :=
  congrArg FcView.telemetryPacketLosses (view_transmitterAfter (receptions run))

/-- The count is short by a multiple of 16, and exact when the gaps are short. -/
theorem missingPackets_spec {numbers : List ℕ} (h : numbers.Pairwise (· < ·)) :
    (∃ k, missingPackets numbers = countedLosses numbers + 16 * k) ∧
      (ShortGaps numbers → countedLosses numbers = missingPackets numbers) := by
  cases numbers with
  | nil => exact ⟨⟨0, rfl⟩, fun _ => rfl⟩
  | cons first numbers =>
    have hcard : missingPackets (first :: numbers) = missing first numbers := by
      rw [missing_eq_card h, missingPackets, List.headD_cons, List.getLastD_cons]
    rw [hcard]
    exact ⟨missing_eq_counted_add 16 first numbers, counted_eq_missing⟩

/-- **Loss counting is exact below 16**: over a run of deliveries both receivers count the missing
packets, the transmitter in 32 bits, when fewer than 16 are missing at a time; whatever is missing,
neither counts more, and each is short by a multiple of 16. -/
theorem sequence_losses_exact (run : List Delivery)
    (hrun : (run.map Delivery.number).Pairwise (· < ·)) :
    let fw := (transmitterAfter (receptions run)).currentTelemetry.telemetryPacketsLost
    let gs := (groundStationAfter (receptions run)).telemetryPacketLosses
    let lost := missingPackets (run.map Delivery.number)
    (ShortGaps (run.map Delivery.number) → fw = BitVec.ofNat 32 lost ∧ gs = lost) ∧
      (fw.toNat ≤ lost ∧ 16 ∣ lost - fw.toNat) ∧ gs ≤ lost ∧ 16 ∣ lost - gs := by
  intro fw gs lost
  have hgs : gs = countedLosses (run.map Delivery.number) := losses_groundStationAfter run hrun
  have hfw : fw = BitVec.ofNat 32 gs := losses_transmitterAfter run
  obtain ⟨⟨k, hk⟩, hexact⟩ := missingPackets_spec hrun
  have hlost : lost = gs + 16 * k := by rw [hgs]; exact hk
  have hmod : fw.toNat = gs % 2 ^ 32 := by rw [hfw, BitVec.toNat_ofNat]
  refine ⟨?_, ⟨by omega, by omega⟩, by omega, by omega⟩
  intro hshort
  have hequal : gs = lost := hgs.trans (hexact hshort)
  exact ⟨by rw [hfw, hequal], hequal⟩

/-- Packet `number` of a controller that sends D1 pages only. -/
def sampleDelivery (number : ℕ) : Delivery where
  number := number
  reception :=
    ⟨extendedPacket (.counters ⟨0, 0, 0⟩) false false (BitVec.ofNat 4 number), 5000 * number⟩
  receivedAt := number
  valid := check_extendedPacket _ _ _ _
  extended := byte_zero_extendedPacket _ _ _ _
  sequence := by
    obtain ⟨-, -, -, hsequence⟩ := statusHeader_spec 3 false false (BitVec.ofNat 4 number)
    have hnibble := congrArg BitVec.toNat hsequence
    rw [toNat_sequence, BitVec.toNat_setWidth, BitVec.toNat_ofNat] at hnibble
    rw [byte_one_extendedPacket]
    refine hnibble.trans ?_
    omega

/-- Packets 15, 16, 18 and 19 are missing. -/
theorem sequence_losses_exact_sample :
    (groundStationAfter (receptions ([14, 17, 20].map sampleDelivery))).telemetryPacketLosses = 4 :=
  ((sequence_losses_exact ([14, 17, 20].map sampleDelivery) (by decide)).1 (by decide)).2.trans
    (by decide)

end SilverwareTx
