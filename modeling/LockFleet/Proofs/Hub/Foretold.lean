import LockFleet.Proofs.Hub.Fleet

/-!
# Where a device ends

The fields of a device after any messages, without the messages before the last that set them: each
report sets some fields, and the last report that sets a field decides.

* `Report.measures?`, `Report.lock?`, … — what a report says about a field;
* `reports`, `Device.beats`, `Device.returns` — the reports of a device and the times of its
  heartbeats, of all and of those that found it offline;
* `Device.last_wins` — the last message that sets a field decides;
* `Foretold`, `Device.foretold` — all fields.
-/

namespace LockFleet

/-! ### What a report says -/

namespace Report

/-- A measurement of a heartbeat, if the device has made it. -/
def measures? {α : Type} (part : Metrics → Option α) : Report → Option α
  | heartbeat h => part h.metrics
  | _ => none

/-- The free slots of a status snapshot. -/
def freeSlots? : Report → Option UInt32
  | status r => some r.freeSlots
  | _ => none

/-- The state of the lock that a report tells. -/
def lock? : Report → Option LockState
  | status r => some r.lock
  | event e =>
    match e.kind with
    | .unlocked => some .unlocked
    | .locked => some .locked
    | _ => none
  | _ => none

/-- The availability that a report tells. -/
def availability? : Report → Option Availability
  | status r => some r.availability
  | event e =>
    match e.kind with
    | .error => some .fault
    | .alarm => some .fault
    | _ => none
  | _ => none

/-- Whether the device can be reached, as a report tells.  A heartbeat tells it by arriving. -/
def reachability? : Report → Option Reachability
  | heartbeat _ => some .online
  | status r => some r.reachability
  | _ => none

end Report

/-- The reports of a device among the messages that arrive. -/
def reports (number : String) (as : List Arrival) : List Report :=
  as.filterMap (Arrival.report? number)

namespace Device

/-- The time of a message, if it is a heartbeat of the device. -/
def beats (d : Device) (a : Arrival) : List Moment :=
  match a.report? d.number with
  | some (.heartbeat _) => [a.clock 0]
  | _ => []

/-- The time of a message, if it is a heartbeat that finds the device offline. -/
def returns (d : Device) (a : Arrival) : List Moment := if d.isOnline then [] else d.beats a

/-! ### The last message decides -/

variable {β γ : Type}

/-- **The last message that sets a field decides**, and without one the field is as it was. -/
theorem last_wins {field : Device → β} {sets : Device → Arrival → List γ} {wrap : γ → β}
    (h : ∀ d a, field (d.take a) = ((sets d a).getLast?.map wrap).getD (field d)) (d : Device)
    (as : List Arrival) : field (Run.after take d as) =
      ((Run.gather take sets d as).getLast?.map wrap).getD (field d) := by
  induction as using List.reverseRecOn with
  | nil => rfl
  | append_singleton as a ih =>
    rw [Run.after_snoc, h, ih, Run.gather_snoc, List.getLast?_append]
    cases (sets (Run.after take d as) a).getLast? with
    | none => rfl
    | some v => rfl

/-- What the reports of a device say one after another. -/
theorem gather_reports (tells : Report → Option γ) (d : Device) (as : List Arrival) :
    Run.gather take (fun d a => ((a.report? d.number).bind tells).toList) d as =
      (reports d.number as).filterMap tells := by
  induction as using List.reverseRecOn with
  | nil => rfl
  | append_singleton as a ih =>
    have hnumber : (Run.after take d as).number = d.number := after_same take_number d as
    rw [Run.gather_snoc, ih, hnumber, reports, reports, List.filterMap_append,
      List.filterMap_append]
    refine congrArg (_ ++ ·) ?_
    rw [List.filterMap_cons, List.filterMap_nil]
    cases a.report? d.number with
    | none => rfl
    | some r =>
      rw [Option.bind_some, List.filterMap_cons, List.filterMap_nil]
      cases tells r <;> rfl

/-- The last report that sets a field decides. -/
theorem last_report (field : Device → β) {tells : Report → Option γ} (wrap : γ → β)
    (h : ∀ d clock r, field (hear d clock r) = ((tells r).map wrap).getD (field d)) (d : Device)
    (as : List Arrival) : field (Run.after take d as) =
      (((reports d.number as).filterMap tells).getLast?.map wrap).getD (field d) := by
  rw [← gather_reports]
  refine last_wins (fun d a => ?_) d as
  rw [take]
  cases a.report? d.number with
  | none => rfl
  | some r =>
    rw [Option.bind_some]
    show field (d.hear a.clock r) = _
    rw [h]
    cases tells r <;> rfl

/-- The last report that sets a field decides, for a field that the reports tell as it is. -/
theorem last_told {field : Device → β} {tells : Report → Option β}
    (h : ∀ d clock r, field (hear d clock r) = (tells r).getD (field d)) (d : Device)
    (as : List Arrival) : field (Run.after take d as) =
      ((reports d.number as).filterMap tells).getLast?.getD (field d) := by
  have hreport : ∀ d clock r,
      field (hear d clock r) = ((tells r).map fun v => v).getD (field d) := by
    intro d clock r
    rw [Option.map_id']
    exact h d clock r
  have hlast := last_report field (fun v => v) hreport d as
  rwa [Option.map_id'] at hlast

theorem getD_map_some (o o' : Option γ) : (o.map some).getD o' = (o <|> o') := by
  cases o <;> rfl

/-- The last measurement that is there counts. -/
theorem last_measurement {part : Metrics → Option γ}
    (h : ∀ new old : Metrics, part (new.orElse old) = (part new <|> part old)) (d : Device)
    (as : List Arrival) : part (Run.after take d as).metrics =
      (((reports d.number as).filterMap (Report.measures? part)).getLast? <|> part d.metrics) := by
  rw [← getD_map_some]
  have hreport : ∀ (d : Device) clock r, part (d.hear clock r).metrics =
      ((Report.measures? part r).map some).getD (part d.metrics) := by
    intro d clock r
    cases r with
    | heartbeat b => exact (h b.metrics d.metrics).trans (getD_map_some _ _).symm
    | event e =>
      rw [hear]
      split <;> rfl
    | status r => rfl
    | ack a => rfl
  exact last_report (fun d => part d.metrics) some hreport d as

/-! ### All fields -/

/-- Where a device ends after messages. -/
structure Foretold (d : Device) (as : List Arrival) (d' : Device) : Prop where
  id : d'.id = d.id
  number : d'.number = d.number
  /-- The last signal strength among the heartbeats, and so on. -/
  signal : d'.metrics.signal =
    (((reports d.number as).filterMap (Report.measures? Metrics.signal)).getLast? <|>
      d.metrics.signal)
  battery : d'.metrics.battery =
    (((reports d.number as).filterMap (Report.measures? Metrics.battery)).getLast? <|>
      d.metrics.battery)
  temperature : d'.metrics.temperature =
    (((reports d.number as).filterMap (Report.measures? Metrics.temperature)).getLast? <|>
      d.metrics.temperature)
  humidity : d'.metrics.humidity =
    (((reports d.number as).filterMap (Report.measures? Metrics.humidity)).getLast? <|>
      d.metrics.humidity)
  firmware : d'.metrics.firmware =
    (((reports d.number as).filterMap (Report.measures? Metrics.firmware)).getLast? <|>
      d.metrics.firmware)
  freeSlots : d'.freeSlots =
    ((reports d.number as).filterMap Report.freeSlots?).getLast?.getD d.freeSlots
  lock : d'.lock = ((reports d.number as).filterMap Report.lock?).getLast?.getD d.lock
  availability : d'.availability =
    ((reports d.number as).filterMap Report.availability?).getLast?.getD d.availability
  reachability : d'.reachability =
    ((reports d.number as).filterMap Report.reachability?).getLast?.getD d.reachability
  /-- The time of the last heartbeat. -/
  lastHeartbeat : d'.lastHeartbeat =
    ((Run.gather take beats d as).getLast? <|> d.lastHeartbeat)
  /-- The time of the last heartbeat that found the device offline. -/
  lastOnline : d'.lastOnline = ((Run.gather take returns d as).getLast? <|> d.lastOnline)
  lastOffline : d'.lastOffline = d.lastOffline

theorem hear_freeSlots (d : Device) (clock : Nat → Moment) (r : Report) :
    (d.hear clock r).freeSlots = r.freeSlots?.getD d.freeSlots := by
  cases r with
  | event e =>
    rw [hear]
    split <;> rfl
  | _ => rfl

theorem hear_lock (d : Device) (clock : Nat → Moment) (r : Report) :
    (d.hear clock r).lock = r.lock?.getD d.lock := by
  cases r with
  | event e =>
    rw [hear, Report.lock?]
    cases e.kind <;> rfl
  | _ => rfl

theorem hear_availability (d : Device) (clock : Nat → Moment) (r : Report) :
    (d.hear clock r).availability = r.availability?.getD d.availability := by
  cases r with
  | event e =>
    rw [hear, Report.availability?]
    cases e.kind <;> rfl
  | _ => rfl

theorem hear_reachability (d : Device) (clock : Nat → Moment) (r : Report) :
    (d.hear clock r).reachability = r.reachability?.getD d.reachability := by
  cases r with
  | event e =>
    rw [hear]
    split <;> rfl
  | _ => rfl

theorem take_lastHeartbeat (d : Device) (a : Arrival) :
    (d.take a).lastHeartbeat = ((d.beats a).getLast?.map some).getD d.lastHeartbeat := by
  rw [take, beats]
  cases a.report? d.number with
  | none => rfl
  | some r =>
    cases r with
    | event e =>
      show (d.hear a.clock (.event e)).lastHeartbeat = _
      rw [hear]
      split <;> rfl
    | _ => rfl

theorem take_lastOnline (d : Device) (a : Arrival) :
    (d.take a).lastOnline = ((d.returns a).getLast?.map some).getD d.lastOnline := by
  rw [take, returns, beats]
  cases a.report? d.number with
  | none =>
    rw [ite_self]
    rfl
  | some r =>
    cases r with
    | heartbeat b =>
      show (if d.isOnline then d.lastOnline else some (a.clock 0)) = _
      cases d.isOnline <;> rfl
    | event e =>
      show (d.hear a.clock (.event e)).lastOnline = _
      rw [hear, ite_self]
      split <;> rfl
    | status b =>
      rw [ite_self]
      rfl
    | ack b =>
      rw [ite_self]
      rfl

/-- **Where a device ends**, field by field. -/
theorem foretold (d : Device) (as : List Arrival) : d.Foretold as (Run.after take d as) where
  id := after_same take_id d as
  number := after_same take_number d as
  signal := last_measurement (fun _ _ => rfl) d as
  battery := last_measurement (fun _ _ => rfl) d as
  temperature := last_measurement (fun _ _ => rfl) d as
  humidity := last_measurement (fun _ _ => rfl) d as
  firmware := last_measurement (fun _ _ => rfl) d as
  freeSlots := last_told hear_freeSlots d as
  lock := last_told hear_lock d as
  availability := last_told hear_availability d as
  reachability := last_told hear_reachability d as
  lastHeartbeat := by
    rw [← getD_map_some]
    exact last_wins take_lastHeartbeat d as
  lastOnline := by
    rw [← getD_map_some]
    exact last_wins take_lastOnline d as
  lastOffline := after_same (fun d a => (take_keeps d a).2.2) d as

end Device

end LockFleet
