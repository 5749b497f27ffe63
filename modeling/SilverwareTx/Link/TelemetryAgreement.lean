import SilverwareTx.GroundStation.FcTelemetry

/-!
# The two FC telemetry decoders agree

The transmitter (`telemetry_parse`) and the ground station (`FcTelemetry.update`) decode the same
packets with code of their own. Both refine `FcView`, so after any history they say the same.
-/

namespace SilverwareTx

open GroundStation

/-- The transmitter's module after a history, from `telemetry_init`. -/
def transmitterAfter (history : List (Reception × ℚ)) : TelemetryModule :=
  telemetryFeed telemetryInit (history.map Prod.fst)

/-- The ground station's object after the same history, from a fresh one. The second time of an
entry is the receive time on the ground station's clock. -/
def groundStationAfter (history : List (Reception × ℚ)) : FcTelemetry :=
  FcTelemetry.feed {} (history.map fun r => (r.1.packet, r.2))

theorem freshUntilSeen_transmitterAfter (history : List (Reception × ℚ)) :
    (transmitterAfter history).FreshUntilSeen := by
  unfold transmitterAfter telemetryFeed
  induction history.map Prod.fst using List.reverseRecOn with
  | nil => exact freshUntilSeen_telemetryInit
  | append_singleton l r ih =>
    rw [List.foldl_append]
    exact freshUntilSeen_telemetryParse ih r.packet r.receivedUs

theorem view_transmitterAfter (history : List (Reception × ℚ)) :
    (transmitterAfter history).view = (groundStationAfter history).view := by
  rw [transmitterAfter, view_telemetryFeed freshUntilSeen_telemetryInit, groundStationAfter,
    FcTelemetry.view_feed, List.map_map, List.map_map]
  rfl

/-- **The FC telemetry decoders agree.** After any history, the transmitter accepts the next packet
exactly when the ground station does; a rejected packet changes neither; and after an accepted one
the two say the same in every field of the view. -/
theorem telemetry_decoders_agree (history : List (Reception × ℚ)) (next : Reception) (time : ℚ) :
    let fw := telemetryParse (transmitterAfter history) next.packet next.receivedUs
    let gs := (groundStationAfter history).update next.packet.toList time
    (fw.1 = true ↔ gs.1 = .ok ()) ∧
      (fw.1 = false → fw.2 = transmitterAfter history ∧ gs.2 = groundStationAfter history) ∧
      (fw.1 = true → fw.2.view = gs.2.view) := by
  intro fw gs
  cases h : bayangCheckTelemetry next.packet with
  | false =>
    have hfw : fw = (false, transmitterAfter history) := telemetryParse_of_invalid h
    obtain ⟨e, hgs⟩ : ∃ e, gs = (.error e, groundStationAfter history) :=
      FcTelemetry.update_of_invalid h _ time
    rw [hfw, hgs]
    exact ⟨by simp, fun _ => ⟨rfl, rfl⟩, by simp⟩
  | true =>
    have hfw : fw.1 = true := by rw [telemetryParse_fst, h]
    have hview : fw.2.view = FcView.receive next.packet (transmitterAfter history).view :=
      view_telemetryParse (freshUntilSeen_transmitterAfter history) next.receivedUs h
    obtain ⟨hgs, hgsview⟩ := FcTelemetry.update_of_valid h (groundStationAfter history) time
    refine ⟨iff_of_true hfw hgs, fun hfalse => ?_, fun _ => ?_⟩
    · rw [hfw] at hfalse
      exact Bool.noConfusion hfalse
    · rw [hview, view_transmitterAfter, hgsview]

end SilverwareTx
