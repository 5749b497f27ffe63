import SilverwareTx.GroundStation.TelemetryModel
import SilverwareTx.Lib.Edges

/-!
# The health events of the links (`FlightEventTracker.health` in
`tools/ground_station/ground_station.py`)

`health` compares the receive times of the model with the clock, here exact rationals, and logs what
changed since its last call. The tracker remembers nothing of a link before the first call and its
last state afterwards, so after the first call the events of a link are the edges of its liveness
(`linkEvents_healthRun`).
`health_story_iff` says when they tell the story `acquired`, `lost`, `recovered`, `lost`, … .
-/

namespace SilverwareTx.GroundStation

/-- The keys of `health` in `FlightEventTracker.previous`. -/
inductive HealthKey
  | bridgeLive
  | localLive
  | fcLive
  deriving DecidableEq

/-- The text of it. -/
def HealthKey.name : HealthKey → String
  | .bridgeLive => "bridge_live"
  | .localLive => "local_live"
  | .fcLive => "fc_live"

/-- What has become of a link. -/
inductive HealthKind
  | acquired
  | lost
  | recovered
  deriving DecidableEq

/-- The text of it. -/
def HealthKind.name : HealthKind → String
  | .acquired => "acquired"
  | .lost => "lost"
  | .recovered => "recovered"

/-- A call of `recorder.event`, with `{}` for its details. -/
structure HealthEvent where
  key : HealthKey
  kind : HealthKind
  deriving DecidableEq

namespace HealthEvent

/-- The type of an event. -/
def eventType (event : HealthEvent) : String := event.key.name ++ "_" ++ event.kind.name

/-- The severity of an event: a lost link is a warning. -/
def severity (event : HealthEvent) : String :=
  match event.kind with
  | .lost => "warning"
  | _ => "info"

/-- `event_type.replace("_", " ")` -/
def message (event : HealthEvent) : String :=
  event.eventType.map fun c => if c = '_' then ' ' else c

end HealthEvent

/-- Whether the last receive time is at most `bound` ago. -/
def liveWithin (lastAt : Option ℚ) (bound now : ℚ) : Bool :=
  match lastAt with
  | none => false
  | some t => decide (now - t ≤ bound)

/-- `bridge_live`: an accepted frame in the last half second. -/
def TelemetryModel.bridgeLive (model : TelemetryModel) (now : ℚ) : Bool :=
  liveWithin model.lastAnyAt (1 / 2) now

/-- `local_live`: a local state in the last quarter of a second. -/
def TelemetryModel.localLive (model : TelemetryModel) (now : ℚ) : Bool :=
  liveWithin model.lastType2At (1 / 4) now

/-- `fc_live`: an accepted packet of the flight controller in the last half second. -/
def TelemetryModel.fcLive (model : TelemetryModel) (now : ℚ) : Bool :=
  liveWithin model.lastType1At (1 / 2) now

/-- The dictionary `states` of `health`. -/
def healthStates (model : TelemetryModel) (now : ℚ) : HealthKey → Bool
  | .bridgeLive => model.bridgeLive now
  | .localLive => model.localLive now
  | .fcLive => model.fcLive now

/-- The part of `class FlightEventTracker` that `health` reads: its entries in `previous`. -/
structure FlightEventTracker where
  previous : HealthKey → Option Bool := fun _ => none

namespace FlightEventTracker

/-- One turn of the loop of `health`. -/
def noteHealth (self : FlightEventTracker) (key : HealthKey) (live : Bool) :
    List HealthEvent × FlightEventTracker :=
  let old := self.previous key
  let self := { self with previous := Function.update self.previous key (some live) }
  match old with
  | none => (if live then [⟨key, .acquired⟩] else [], self)
  | some old =>
    if old = live then ([], self)
    else ([⟨key, if live then .recovered else .lost⟩], self)

/-- The loop over `states.items()`. -/
def healthLoop (self : FlightEventTracker) (states : HealthKey → Bool) :
    List HealthKey → List HealthEvent × FlightEventTracker
  | [] => ([], self)
  | key :: keys =>
    let noted := self.noteHealth key (states key)
    let rest := noted.2.healthLoop states keys
    (noted.1 ++ rest.1, rest.2)

/-- `FlightEventTracker.health`: each link is looked at. -/
def health (self : FlightEventTracker) (model : TelemetryModel) (now : ℚ) :
    List HealthEvent × FlightEventTracker :=
  self.healthLoop (healthStates model now) [.bridgeLive, .localLive, .fcLive]

/-- The events of a sequence of calls. -/
def healthRun (self : FlightEventTracker) : List (TelemetryModel × ℚ) → List HealthEvent
  | [] => []
  | call :: calls =>
    let first := self.health call.1 call.2
    first.1 ++ first.2.healthRun calls

/-- The tracker after a sequence of calls. -/
def healthAfter (self : FlightEventTracker) (calls : List (TelemetryModel × ℚ)) :
    FlightEventTracker :=
  calls.foldl (fun self call => (self.health call.1 call.2).2) self

end FlightEventTracker

/-- The events of a link, in order. -/
def linkEvents (key : HealthKey) (events : List HealthEvent) : List HealthKind :=
  (events.filter fun event => event.key = key).map HealthEvent.kind

/-- The states of a link at the calls. -/
def liveSignal (key : HealthKey) (calls : List (TelemetryModel × ℚ)) : List Bool :=
  calls.map fun call => healthStates call.1 call.2 key

/-! ### The events of one link -/

open FlightEventTracker Edges

variable {key : HealthKey}

theorem linkEvents_append (events events' : List HealthEvent) :
    linkEvents key (events ++ events') = linkEvents key events ++ linkEvents key events' := by
  simp [linkEvents]

/-- What an edge of the liveness is logged as. -/
def edgeKind (live : Bool) : HealthKind := if live then .recovered else .lost

/-- What a call logs of a link, by what the tracker remembers of it. -/
def noticed (old : Option Bool) (live : Bool) : List HealthKind :=
  match old with
  | none => if live then [.acquired] else []
  | some old => (edges old [live]).map edgeKind

theorem noteHealth_self (self : FlightEventTracker) (live : Bool) :
    linkEvents key (self.noteHealth key live).1 = noticed (self.previous key) live ∧
      (self.noteHealth key live).2.previous key = some live := by
  unfold noteHealth noticed
  cases self.previous key with
  | none => cases live <;> simp [linkEvents]
  | some old => cases old <;> cases live <;> simp [linkEvents, edges, edgeKind]

theorem noteHealth_other (self : FlightEventTracker) {other : HealthKey} (h : other ≠ key)
    (live : Bool) :
    linkEvents key (self.noteHealth other live).1 = [] ∧
      (self.noteHealth other live).2.previous key = self.previous key := by
  unfold noteHealth
  cases self.previous other with
  | none => cases live <;> simp [linkEvents, h, h.symm]
  | some old => cases old <;> cases live <;> simp [linkEvents, h, h.symm]

/-- A call notices every link once. -/
theorem health_link (key : HealthKey) (self : FlightEventTracker) (model : TelemetryModel)
    (now : ℚ) :
    linkEvents key (self.health model now).1 =
        noticed (self.previous key) (healthStates model now key) ∧
      (self.health model now).2.previous key = some (healthStates model now key) := by
  -- the loop looks at each key once, so only its own turn touches a link
  have hloop : ∀ (keys : List HealthKey) (self : FlightEventTracker), keys.Nodup →
      linkEvents key (self.healthLoop (healthStates model now) keys).1 =
          (if key ∈ keys then noticed (self.previous key) (healthStates model now key) else []) ∧
        (self.healthLoop (healthStates model now) keys).2.previous key =
          (if key ∈ keys then some (healthStates model now key) else self.previous key) := by
    intro keys
    induction keys with
    | nil => exact fun self _ => ⟨rfl, rfl⟩
    | cons first keys ih =>
      intro self hnodup
      rw [List.nodup_cons] at hnodup
      obtain ⟨hevents, hprevious⟩ :=
        ih (self.noteHealth first (healthStates model now first)).2 hnodup.2
      rw [healthLoop]
      simp only [linkEvents_append, hevents, hprevious]
      by_cases hkey : first = key
      · subst hkey
        obtain ⟨hself, hafter⟩ := noteHealth_self self (healthStates model now first)
        rw [if_neg hnodup.1, if_neg hnodup.1, if_pos List.mem_cons_self,
          if_pos List.mem_cons_self, List.append_nil]
        exact ⟨hself, hafter⟩
      · obtain ⟨hother, hkept⟩ := noteHealth_other self hkey (healthStates model now first)
        rw [hother, hkept, List.nil_append]
        simp [Ne.symm hkey]
  have hall : key ∈ [HealthKey.bridgeLive, .localLive, .fcLive] := by cases key <;> decide
  have h := hloop [.bridgeLive, .localLive, .fcLive] self (by decide)
  rw [if_pos hall, if_pos hall] at h
  exact h

/-- After the first call the events of a link are the edges of its liveness. -/
theorem linkEvents_healthRun_of_some {self : FlightEventTracker} {b : Bool}
    (h : self.previous key = some b) (calls : List (TelemetryModel × ℚ)) :
    linkEvents key (self.healthRun calls) = (edges b (liveSignal key calls)).map edgeKind := by
  induction calls generalizing self b with
  | nil => rfl
  | cons call calls ih =>
    obtain ⟨hevents, hprevious⟩ := health_link key self call.1 call.2
    have hsplit : edges b (liveSignal key (call :: calls)) =
        edges b [healthStates call.1 call.2 key] ++
          edges (healthStates call.1 call.2 key) (liveSignal key calls) := by
      rw [liveSignal, List.map_cons, ← liveSignal]
      by_cases hb : healthStates call.1 call.2 key = b
      · rw [hb, edges_cons_self, edges_cons_self]
        rfl
      · rw [edges_cons_of_ne hb, edges_cons_of_ne hb]
        rfl
    rw [healthRun, linkEvents_append, hevents, ih hprevious, hsplit, List.map_append, h, noticed]

/-- The events of a link in a run of a new tracker. -/
theorem linkEvents_healthRun (call : TelemetryModel × ℚ) (calls : List (TelemetryModel × ℚ)) :
    linkEvents key (({} : FlightEventTracker).healthRun (call :: calls)) =
      (if healthStates call.1 call.2 key then [.acquired] else []) ++
        (edges (healthStates call.1 call.2 key) (liveSignal key calls)).map edgeKind := by
  obtain ⟨hevents, hprevious⟩ := health_link key {} call.1 call.2
  rw [healthRun, linkEvents_append, hevents, linkEvents_healthRun_of_some hprevious]
  rfl

/-! ### The story of a link -/

/-- `acquired`, `lost`, `recovered`, `lost`, `recovered`, … -/
def story (i : ℕ) : HealthKind :=
  if i = 0 then .acquired else if i % 2 = 1 then .lost else .recovered

/-- The events of a link in a run of a new tracker tell the story, from its beginning. -/
structure TellsStory (key : HealthKey) (calls : List (TelemetryModel × ℚ)) : Prop where
  isPrefix : ∀ (i : ℕ) (kind : HealthKind),
    (linkEvents key (({} : FlightEventTracker).healthRun calls))[i]? = some kind → kind = story i
  /-- The first call that finds the link live logs that it was acquired. -/
  acquiredFirst : ∀ before call after, calls = before ++ call :: after →
    (∀ c ∈ before, healthStates c.1 c.2 key = false) → healthStates call.1 call.2 key = true →
      linkEvents key ((({} : FlightEventTracker).healthAfter before).health call.1 call.2).1 =
        [.acquired]
  lostBefore : ∀ i : ℕ,
    (linkEvents key (({} : FlightEventTracker).healthRun calls))[i]? = some HealthKind.recovered →
      ∃ j < i,
        (linkEvents key (({} : FlightEventTracker).healthRun calls))[j]? = some HealthKind.lost

/-- Events that are a prefix of the story have a loss before every recovery. -/
theorem lost_before_recovered {kinds : List HealthKind}
    (h : ∀ (i : ℕ) (kind : HealthKind), kinds[i]? = some kind → kind = story i) {i : ℕ}
    (hi : kinds[i]? = some HealthKind.recovered) :
    ∃ j < i, kinds[j]? = some HealthKind.lost := by
  have heven : i ≠ 0 ∧ i % 2 ≠ 1 := by
    have hstory := h i _ hi
    unfold story at hstory
    split_ifs at hstory with hzero hodd
    exact ⟨hzero, hodd⟩
  obtain ⟨hlt, -⟩ := List.getElem?_eq_some_iff.1 hi
  have hj : kinds[i - 1]? = some (kinds[i - 1]) := List.getElem?_eq_getElem (by omega)
  refine ⟨i - 1, by omega, hj.trans ?_⟩
  rw [h _ _ hj, story, if_neg (by omega), if_pos (by omega)]

/-- A link that is live at the first call. -/
theorem story_of_live {call : TelemetryModel × ℚ} (hlive : healthStates call.1 call.2 key = true)
    (calls : List (TelemetryModel × ℚ)) (i : ℕ) (kind : HealthKind)
    (h : (linkEvents key (({} : FlightEventTracker).healthRun (call :: calls)))[i]? = some kind) :
    kind = story i := by
  rw [linkEvents_healthRun, hlive, if_pos rfl, List.singleton_append] at h
  cases i with
  | zero => exact (Option.some.inj h).symm
  | succ i =>
    rw [List.getElem?_cons_succ, List.getElem?_map, Option.map_eq_some_iff] at h
    obtain ⟨v, hv, rfl⟩ := h
    rw [getElem?_edges hv, story, if_neg (Nat.succ_ne_zero i)]
    rcases Nat.mod_two_eq_zero_or_one i with hi | hi
    · simp [edgeKind, Nat.add_mod, hi]
    · simp [edgeKind, Nat.add_mod, hi]

/-- A link that is live at no call has no events. -/
theorem linkEvents_of_never_live {calls : List (TelemetryModel × ℚ)}
    (h : ∀ call ∈ calls, healthStates call.1 call.2 key = false) :
    linkEvents key (({} : FlightEventTracker).healthRun calls) = [] := by
  cases calls with
  | nil => rfl
  | cons call calls =>
    have hrest : edges false (liveSignal key calls) = [] := by
      rw [edges_eq_nil_iff, liveSignal, List.mem_map]
      rintro ⟨c, hc, hlive⟩
      cases (h c (List.mem_cons_of_mem _ hc)).symm.trans hlive
    rw [linkEvents_healthRun, h call List.mem_cons_self, hrest]
    rfl

/-- **The health events of a link tell the story exactly** when the first call finds the link live,
or no call does. -/
theorem health_story_iff (key : HealthKey) (calls : List (TelemetryModel × ℚ)) :
    TellsStory key calls ↔
      (∀ call ∈ calls.head?, healthStates call.1 call.2 key = true) ∨
        ∀ call ∈ calls, healthStates call.1 call.2 key = false := by
  constructor
  · intro h
    cases calls with
    | nil => exact .inr fun call hcall => absurd hcall List.not_mem_nil
    | cons call calls =>
      cases hlive : healthStates call.1 call.2 key with
      | true =>
        left
        intro c hc
        obtain rfl : call = c := Option.some.inj hc
        exact hlive
      | false =>
        -- the first edge of the signal would be logged as a recovery
        right
        by_contra hsome
        push Not at hsome
        obtain ⟨c, hc, hclive⟩ := hsome
        rw [ne_eq, Bool.not_eq_false] at hclive
        have hmem : c ∈ calls := by
          rcases List.mem_cons.1 hc with rfl | hmem
          · cases hlive.symm.trans hclive
          · exact hmem
        have hne : edges false (liveSignal key calls) ≠ [] := fun hnil =>
          edges_eq_nil_iff.1 hnil (List.mem_map.2 ⟨c, hmem, hclive⟩)
        obtain ⟨v, rest, hedges⟩ := List.exists_cons_of_ne_nil hne
        have hv : v = true := by
          have hfirst : (edges false (liveSignal key calls))[0]? = some v := by rw [hedges]; rfl
          simpa using getElem?_edges hfirst
        have hfirst := h.isPrefix 0 .recovered (by
          rw [linkEvents_healthRun, hlive, hedges, hv]
          rfl)
        cases hfirst
  · intro h
    have htells : ∀ (i : ℕ) (kind : HealthKind),
        (linkEvents key (({} : FlightEventTracker).healthRun calls))[i]? = some kind →
          kind = story i := by
      intro i kind hkind
      rcases h with hfirst | hnever
      · cases calls with
        | nil => cases hkind
        | cons call calls => exact story_of_live (hfirst call rfl) calls i kind hkind
      · rw [linkEvents_of_never_live hnever] at hkind
        cases hkind
    refine ⟨htells, ?_, fun i hi => lost_before_recovered htells hi⟩
    rintro before call after rfl hbefore hlive
    -- a call before the first live one would be the first call, or a live one that there is not
    have hnil : before = [] := by
      cases before with
      | nil => rfl
      | cons c before =>
        have hdead := hbefore c List.mem_cons_self
        rcases h with hfirst | hnever
        · cases hdead.symm.trans (hfirst c rfl)
        · cases (hnever call (by simp)).symm.trans hlive
    subst hnil
    rw [(health_link _ _ call.1 call.2).1, hlive]
    rfl

/-- `run_viewer` calls `health` before any data has come, and its first data then recovers the
bridge. -/
theorem health_recovered_first :
    linkEvents .bridgeLive (({} : FlightEventTracker).healthRun
        [({}, 0), ({ lastAnyAt := some 1 }, 1)]) = [.recovered] ∧
      ¬TellsStory .bridgeLive [({}, 0), ({ lastAnyAt := some 1 }, 1)] := by
  have hevents : linkEvents .bridgeLive (({} : FlightEventTracker).healthRun
      [({}, 0), ({ lastAnyAt := some 1 }, 1)]) = [.recovered] := by
    rw [linkEvents_healthRun]
    norm_num [healthStates, TelemetryModel.bridgeLive, liveWithin, liveSignal, edges, edgeKind]
  refine ⟨hevents, fun h => ?_⟩
  cases h.isPrefix 0 .recovered (by rw [hevents]; rfl)

end SilverwareTx.GroundStation
