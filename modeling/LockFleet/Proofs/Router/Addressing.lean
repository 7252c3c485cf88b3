import LockFleet.Command.Basic
import LockFleet.Proofs.Broker.Capacity
import LockFleet.Proofs.Hub.Listening
import LockFleet.Proofs.Report.RoundTrip

/-!
# Filters, topics and what is read from them

A filter is compared with a topic level by level, a report is decoded from the second and the last
level of its topic, and both have to agree with the texts from which topics are made.

* `Topic.eq_ofDevice_of_levels`, `Topic.getLast?_levels_ofDevice` — the levels of a device's topics;
* `Listening.report_of_selects`, `Listening.selects_report` — which topics the filters for reports
  select;
* `Listening.not_selects_ofDevice` — they select no topic with another last level;
* `Message.Decodes`, `Message.decodes` — what becomes of a report on such a topic;
* `Registry.Call.Reserves`, `Inbound.only_play` — a router keeps to its filters in every run;
* `Listening.Addressed`, `Listening.topics_agree` — how all of this fits together.
-/

namespace LockFleet

/-! ### Levels -/

namespace Topic

/-- Levels that hold no slash and make up the text of a topic are all of its levels. -/
theorem eq_ofDevice_of_levels {topic device last : String}
    (h : levels topic = ["device", device, last]) :
    '/' ∉ device.toList ∧ topic = ofDevice device last := by
  have hsplit : splitLevels topic.toList = ["device".toList, device.toList, last.toList] := by
    have hmap := congrArg (List.map String.toList) h
    rw [levels, List.map_map] at hmap
    simpa [Function.comp_def] using hmap
  have hmem : device.toList ∈ splitLevels topic.toList := by
    rw [hsplit]
    exact List.mem_cons_of_mem _ List.mem_cons_self
  refine ⟨not_mem_of_mem_splitLevels hmem, String.toList_inj.1 ?_⟩
  rw [toList_ofDevice, ← intercalate_splitLevels topic.toList, hsplit,
    List.intercalate_cons_cons, List.intercalate_cons_cons, List.intercalate_singleton,
    List.append_assoc, List.append_assoc]
  rfl

/-- Whatever a device is called, its topics end in their last level. -/
theorem getLast?_levels_ofDevice (device : String) {last : String} (h : '/' ∉ last.toList) :
    (levels (ofDevice device last)).getLast? = some last := by
  have htext : (ofDevice device last).toList =
      ("device".toList ++ '/' :: device.toList) ++ '/' :: last.toList := by
    rw [toList_ofDevice, List.append_assoc, List.cons_append]
  rw [levels, htext, List.getLast?_map, getLast?_splitLevels h, Option.map_some,
    String.ofList_toList]

end Topic

/-! ### Filters for reports -/

theorem ReportKind.slash_not_mem_name (kind : ReportKind) : '/' ∉ kind.name.toList := by
  cases kind <;> decide

theorem ReportKind.mem_all (kind : ReportKind) : kind ∈ all := by
  cases kind <;> decide

theorem ReportKind.name_injective {kind kind' : ReportKind} (h : kind.name = kind'.name) :
    kind = kind' :=
  Option.some.inj ((ofName?_name kind).symm.trans ((congrArg ofName? h).trans (ofName?_name kind')))

namespace Listening

theorem mem_patterns (kind : ReportKind) : Topic.everyDevice kind.name ∈ patterns :=
  List.mem_map_of_mem kind.mem_all

/-- A filter for reports selects nothing but the topics of reports of its kind. -/
theorem report_of_selects {kind : ReportKind} {topic : String}
    (h : Topic.selects (Topic.everyDevice kind.name) topic = true) :
    ∃ device : String, '/' ∉ device.toList ∧ topic = Topic.report device kind.name := by
  obtain ⟨device, hlevels⟩ := levels_of_selects h
  exact ⟨device, Topic.eq_ofDevice_of_levels hlevels⟩

/-- The filter of a kind selects the reports of the kind from a device whose number is one level. -/
theorem selects_report {device : String} (h : '/' ∉ device.toList) (kind : ReportKind) :
    Topic.selects (Topic.everyDevice kind.name) (Topic.report device kind.name) = true := by
  rw [Topic.selects, levels_everyDevice, Topic.report,
    Topic.levels_ofDevice h kind.slash_not_mem_name]
  have hname : kind.name ≠ "#" := by
    cases kind <;> decide
  simp [Topic.levelsSelect, hname]

theorem selects_report_iff {device p : String} (h : '/' ∉ device.toList) (kind : ReportKind)
    (hp : p ∈ patterns) : Topic.selects p (Topic.report device kind.name) = true ↔
      p = Topic.everyDevice kind.name := by
  constructor
  · exact fun hselects => eq_of_selects hp (mem_patterns kind) hselects (selects_report h kind)
  · rintro rfl
    exact selects_report h kind

/-- No filter for reports selects a topic that ends in the name of no kind. -/
theorem not_selects_ofDevice {device last p : String} (hslash : '/' ∉ last.toList)
    (hlast : ∀ kind : ReportKind, kind.name ≠ last) (hp : p ∈ patterns) :
    Topic.selects p (Topic.ofDevice device last) = false := by
  obtain ⟨kind, -, rfl⟩ := List.mem_map.1 hp
  rw [Bool.eq_false_iff]
  intro h
  obtain ⟨device', hlevels⟩ := levels_of_selects h
  have hend := Topic.getLast?_levels_ofDevice device hslash
  rw [hlevels] at hend
  exact hlast kind (Option.some.inj hend)

theorem not_selects_command (kind : CommandKind) (device : String) {p : String}
    (hp : p ∈ patterns) : Topic.selects p (kind.topic device) = false := by
  have hcommand : Topic.selects p (Topic.command device) = false :=
    not_selects_ofDevice (by decide) (fun k => by cases k <;> decide) hp
  cases kind with
  | config => exact not_selects_ofDevice (by decide) (fun k => by cases k <;> decide) hp
  | _ => exact hcommand

end Listening

/-! ### Reports on selected topics -/

/-- A body that is decoded as of a kind is of the kind. -/
theorem Report.kind_of_decode {kind : ReportKind} {body : Bytes} {r : Report}
    (h : Report.decode kind body = .ok r) : r.kind = kind := by
  rw [decode] at h
  cases hparse : Json.parse (Report.read kind) body with
  | error fault =>
    rw [hparse] at h
    cases h
  | ok r' =>
    rw [hparse] at h
    obtain rfl : r' = r := Except.ok.inj h
    obtain ⟨rest, hread⟩ := Json.of_parse hparse
    cases kind <;> (obtain ⟨b, mid, -, hbody⟩ := Json.of_bind hread; cases hbody; rfl)

/-- A body that is not decoded is refused as a body of the kind. -/
theorem Report.eq_body_of_decode {kind : ReportKind} {body : Bytes} {e : DecodeError}
    (h : Report.decode kind body = .error e) : ∃ fault, e = .body kind fault := by
  rw [decode] at h
  cases hparse : Json.parse (Report.read kind) body with
  | error fault =>
    rw [hparse] at h
    exact ⟨fault, (Except.error.inj h).symm⟩
  | ok r =>
    rw [hparse] at h
    cases h

/-- What becomes of a report of a kind: without a device its topic is refused, and otherwise the
device is the one of the topic, and only the body can be refused. -/
structure Message.Decodes (kind : ReportKind) (device topic : String) (body : Bytes) : Prop where
  unnamed : device = "" → decode topic body = .error (.topic topic)
  named : device ≠ "" →
    (∃ r : Report, decode topic body = .ok ⟨device, r⟩ ∧ r.kind = kind) ∨
      ∃ fault, decode topic body = .error (.body kind fault)

/-- On the topic of a device nothing but the body decides. -/
theorem Message.decode_report (kind : ReportKind) {device : String} (hdevice : device ≠ "")
    (h : '/' ∉ device.toList) (body : Bytes) :
    decode (Topic.report device kind.name) body =
      (Report.decode kind body).map fun r => ⟨device, r⟩ := by
  have haddress : Topic.Address.ofTopic? (Topic.report device kind.name) =
      some ⟨device, kind.name⟩ := Topic.Address.ofTopic?_ofDevice hdevice h kind.slash_not_mem_name
  rw [decode, haddress]
  dsimp only
  rw [ReportKind.ofName?_name]

theorem Message.decodes (kind : ReportKind) {device : String} (h : '/' ∉ device.toList)
    (body : Bytes) : Decodes kind device (Topic.report device kind.name) body := by
  refine ⟨fun hempty => ?_, fun hdevice => ?_⟩
  · have haddress : Topic.Address.ofTopic? (Topic.report device kind.name) = none := by
      rw [Topic.Address.ofTopic?, Topic.report, Topic.levels_ofDevice h kind.slash_not_mem_name]
      exact if_pos hempty
    rw [decode, haddress]
  · rw [decode_report kind hdevice h]
    cases hbody : Report.decode kind body with
    | ok r => exact Or.inl ⟨r, rfl, Report.kind_of_decode hbody⟩
    | error e =>
      obtain ⟨fault, rfl⟩ := Report.eq_body_of_decode hbody
      exact Or.inr ⟨fault, rfl⟩

/-- A message that is routed and decoded names its device and its kind in its topic. -/
theorem Message.topic_of_decode {topic p : String} {body : Bytes} {m : Message}
    (hp : p ∈ Listening.patterns) (hselects : Topic.selects p topic = true)
    (hm : decode topic body = .ok m) : m.device ≠ "" ∧ '/' ∉ m.device.toList ∧
      topic = Topic.report m.device m.report.kind.name := by
  obtain ⟨kind, -, rfl⟩ := List.mem_map.1 hp
  obtain ⟨device, hslash, rfl⟩ := Listening.report_of_selects hselects
  have hdecodes := decodes kind hslash body
  by_cases hdevice : device = ""
  · cases hm.symm.trans (hdecodes.unnamed hdevice)
  · rcases hdecodes.named hdevice with ⟨r, hr, hkind⟩ | ⟨fault, hfault⟩
    · cases hm.symm.trans hr
      exact ⟨hdevice, hslash, by rw [hkind]⟩
    · cases hm.symm.trans hfault

/-! ### A router and its filters -/

variable {H L : Type} {router : H}

open Registry (Call)

/-- A step sets a handler behind no filter but those for reports. -/
def BrokerRequest.Reserves (router : H) (q : BrokerRequest H) : Prop :=
  ∀ p e, q = .register p e → e.handler = router → p ∈ Listening.patterns

namespace Registry.Call

/-- The handlers that a call sets. -/
def registrations : Call H → List (String × H)
  | subscribe p handler => [(p, handler)]
  | subscribeAll list => list
  | _ => []

/-- A call sets a handler behind no filter but those for reports. -/
def Reserves (router : H) (c : Call H) : Prop :=
  ∀ e ∈ c.registrations, e.2 = router → e.1 ∈ Listening.patterns

/-- The start of a router is such a call. -/
theorem reserves_start (router : H) :
    (subscribeAll (Listening.patterns.map fun p => (p, router))).Reserves router := by
  intro e he _
  obtain ⟨p, hp, rfl⟩ := List.mem_map.1 he
  exact hp

theorem within_reserves (quality : Quality) {c : Call H} (h : c.Reserves router) :
    (c.operation quality).Within (BrokerRequest.Reserves router) := by
  cases c with
  | subscribe p handler =>
    refine .bind ((subscribe_within quality p handler).mono ?_) fun _ => True.intro
    rintro q (rfl | rfl) p' e ⟨⟩ hrouter
    exact h _ List.mem_cons_self hrouter
  | subscribeAll list =>
    refine .bind ((subscribeAll_within quality list).mono ?_) fun _ => True.intro
    rintro q (⟨e', he', rfl⟩ | ⟨p', -, rfl⟩) p e ⟨⟩ hrouter
    exact h e' he' hrouter
  | unsubscribe filters =>
    refine .bind ((unsubscribe_within filters).mono ?_) fun _ => True.intro
    rintro q (⟨p', -, rfl⟩ | rfl) p e ⟨⟩
  | disconnect => exact ⟨nofun, fun _ => ⟨nofun, fun _ => ⟨nofun, fun _ => True.intro⟩⟩⟩
  | replay =>
    refine .bind (replay_within.mono ?_) fun _ => True.intro
    rintro q (rfl | ⟨p', quality, rfl⟩) p e ⟨⟩

end Registry.Call

open Listening (Only)

section Runs

variable [Link L] {b : Broker H} {l : L} {es : List (Inbound.Event H)}

/-- Such a step keeps the handler to the filters for reports. -/
theorem BrokerRequest.Reserves.only_serve {q : BrokerRequest H} (h : q.Reserves router)
    (hb : Only router b.registry) : Only router (q.serve (b, l)).2.1.registry := by
  cases q with
  | register p entry =>
    intro p' e hfind hrouter
    change (b.registry.insert p entry).find? p' = some e at hfind
    by_cases hp : p' = p
    · rw [hp, Table.find?_insert_self] at hfind
      obtain rfl := Option.some.inj hfind
      exact hp ▸ h p entry rfl hrouter
    · rw [Table.find?_insert_of_ne _ _ hp] at hfind
      exact hb p' e hfind hrouter
  | prune filters =>
    intro p e hfind
    exact hb p e ((Table.find?_keep_eq_some_iff _ _ _ _).1 hfind).1
  | clear => exact nofun
  | subscribe p quality => exact hb
  | unsubscribe p => exact hb
  | snapshot => exact hb
  | disconnect => exact hb
  | markDisconnected => exact hb

/-- A handler is kept to the filters for reports by the registry and by all that is still to come
of the calls in progress. -/
structure Shared.Keeps (router : H) (s : Shared H L) : Prop where
  only : Only router s.broker.registry
  calls : ∀ x ∈ s.calls, x.rest.Within (BrokerRequest.Reserves router)

theorem Shared.Keeps.move {s : Shared H L} {m : Move H} (h : s.Keeps router)
    (hm : ∀ c, m = .begin c → c.Reserves router) : (s.move m).Keeps router := by
  rcases s.move_cases m with ⟨c, rfl, hmove⟩ | ⟨k, c, q, next, hk, hmove⟩ | hmove
  · rw [hmove]
    refine ⟨h.only, fun x hx => ?_⟩
    rcases List.mem_append.1 hx with hx | hx
    · exact h.calls x hx
    · rw [List.mem_singleton.1 hx]
      exact Call.within_reserves _ (hm c rfl)
  · rw [hmove]
    obtain ⟨hq, hnext⟩ := h.calls _ (List.mem_of_getElem? hk)
    refine ⟨hq.only_serve h.only, fun x hx => ?_⟩
    rcases Shared.mem_advance hx with rfl | hx
    · exact hnext _
    · exact h.calls x hx
  · rw [hmove]
    exact h

namespace Inbound

/-- Messages and ends of handlers leave the registry and the calls alone. -/
theorem keeps_step {s : Inbound H L} {e : Event H} (h : s.shared.Keeps router)
    (he : ∀ c, e = .move (.begin c) → c.Reserves router) : (s.step e).shared.Keeps router := by
  cases e with
  | move m => exact h.move fun c hc => he c (congrArg Event.move hc)
  | deliver topic payload =>
    rw [step, deliver_eq]
    exact ⟨h.only, h.calls⟩
  | conclude k how =>
    rw [step, conclude]
    split
    · exact ⟨h.only, h.calls⟩
    · exact h

/-- **A router stands behind no filter but those for reports**, in every run in which nobody sets it
behind another one. -/
theorem only_play (hb : Only router b.registry)
    (hcalls : ∀ c, .move (.begin c) ∈ es → c.Reserves router) :
    Only router (play b l es).shared.broker.registry := by
  have hkeeps : (play b l es).shared.Keeps router := by
    induction es using List.reverseRecOn with
    | nil => exact ⟨hb, nofun⟩
    | append_singleton es e ih =>
      rw [play_snoc]
      refine keeps_step (ih fun c hc => hcalls c (List.mem_append_left _ hc)) fun c hc => ?_
      exact hcalls c (hc ▸ List.mem_append_right es (List.mem_singleton_self e))
  exact hkeeps.only

end Inbound

/-! ### All together -/

namespace Listening

/-- How messages are routed over a connection. -/
structure Routed [DecidableEq H] (router : H) (s : Inbound H L) : Prop where
  /-- A message starts the router at most once. -/
  once : ∀ topic, (s.shared.broker.accept topic).1.count router ≤ 1
  /-- A command to any device whatsoever does not start it. -/
  unrouted : ∀ (kind : CommandKind) device,
    router ∉ (s.shared.broker.accept (kind.topic device)).1

variable (H L) in
/-- How filters, topics, decoding and routing fit together. -/
structure Addressed [DecidableEq H] : Prop where
  /-- At most one of the filters for reports selects a topic. -/
  apart : ∀ topic, (patterns.filter fun p => Topic.selects p topic).length ≤ 1
  /-- A filter selects nothing but the topics of reports of its kind, from a device whose number is
  one level and possibly empty.  What arrives there is decoded as of this device and kind. -/
  spelled : ∀ (kind : ReportKind) topic, Topic.selects (Topic.everyDevice kind.name) topic = true →
    ∃ device : String, '/' ∉ device.toList ∧ topic = Topic.report device kind.name ∧
      ∀ body, Message.Decodes kind device topic body
  /-- The topic of a report from such a device is selected by the filter of its kind and by no
  other. -/
  selected : ∀ device : String, '/' ∉ device.toList → ∀ kind : ReportKind, ∀ p ∈ patterns,
    Topic.selects p (Topic.report device kind.name) = true ↔ p = Topic.everyDevice kind.name
  /-- A command to any device whatsoever is on a topic that no filter for reports selects. -/
  commands : ∀ (kind : CommandKind) device, ∀ p ∈ patterns,
    Topic.selects p (kind.topic device) = false
  /-- A router that nobody sets behind another filter is started at most once by a message, and
  never by a command. -/
  routed : ∀ (router : H) (b : Broker H) (l : L) (es : List (Inbound.Event H)),
    Only router b.registry → (∀ c, .move (.begin c) ∈ es → c.Reserves router) →
      Routed router (Inbound.play b l es)

theorem length_filter_selects (topic : String) :
    (patterns.filter fun p => Topic.selects p topic).length ≤ 1 := by
  have hdistinct : patterns.Nodup := by decide
  match hps : patterns.filter fun p => Topic.selects p topic with
  | [] => exact Nat.zero_le 1
  | [_] => exact Nat.le_refl 1
  | p :: p' :: rest =>
    obtain ⟨hp, hselects⟩ := List.mem_filter.1 (hps ▸ List.mem_cons_self)
    obtain ⟨hp', hselects'⟩ := List.mem_filter.1
      (hps ▸ List.mem_cons_of_mem _ List.mem_cons_self : p' ∈ patterns.filter _)
    have hnodup := hps ▸ hdistinct.filter _
    exact absurd (eq_of_selects hp hp' hselects hselects' ▸ List.mem_cons_self)
      (List.nodup_cons.1 hnodup).1

omit [Link L] in
/-- A router that stands behind no other filter is started by reports only. -/
theorem Only.selects_of_mem (h : Only router b.registry) {topic : String}
    (hmem : router ∈ (b.accept topic).1) : ∃ p ∈ patterns, Topic.selects p topic = true := by
  obtain ⟨⟨p, e⟩, hentry, hrouter⟩ := List.mem_map.1 (List.mem_of_mem_take hmem)
  obtain ⟨hentry, hselects⟩ := List.mem_filter.1 hentry
  exact ⟨p, h p e ((Table.mem_entries_iff _ _ _).1 hentry) hrouter, hselects⟩

omit [Link L] in
theorem Only.routed [DecidableEq H] {s : Inbound H L} (h : Only router s.shared.broker.registry) :
    Routed router s where
  once topic := Nat.le_trans ((List.take_sublist _ _).count_le router) (h.count_matching topic)
  unrouted kind device hmem := by
    obtain ⟨p, hp, hselects⟩ := h.selects_of_mem hmem
    rw [not_selects_command kind device hp] at hselects
    cases hselects

/-- **Filters, topics and decoding agree**, so that a message is routed at most once and a command
is never routed. -/
theorem topics_agree [DecidableEq H] : Addressed H L where
  apart := length_filter_selects
  spelled kind topic hselects := by
    obtain ⟨device, hslash, rfl⟩ := report_of_selects hselects
    exact ⟨device, hslash, rfl, Message.decodes kind hslash⟩
  selected device hslash kind p hp := selects_report_iff hslash kind hp
  commands kind device p hp := not_selects_command kind device hp
  routed _ _ _ _ hb hcalls := (Inbound.only_play hb hcalls).routed

end Listening

end Runs

/-! ### A run -/

namespace Listening

/-- A connection for four handlers at once. -/
def wide : Broker String := ⟨.standard, Table.empty, true, 4⟩

/-- A router starts, and while it subscribes another handler is set behind all topics; then an
acknowledgement arrives. -/
def startedBetween : List (Inbound.Event String) :=
  [.move (.begin (.subscribeAll (patterns.map fun p => (p, "router")))),
    .move (.begin (.subscribe "#" "log"))] ++
  List.replicate 8 (.move (.step 0)) ++ [.move (.step 1), .deliver "device/a/ack" [1]]

theorem topics_agree_startedBetween :
    Only "router" wide.registry ∧
      (∀ c, .move (.begin c) ∈ startedBetween → c.Reserves "router") ∧
      Routed "router" (Inbound.play wide RecordingLink.empty startedBetween) ∧
      (Inbound.play wide RecordingLink.empty startedBetween).started.map Started.handler =
        ["router", "log"] := by
  have hcalls : ∀ c, .move (.begin c) ∈ startedBetween → c.Reserves "router" := by
    intro c hc
    obtain rfl | rfl : c = .subscribeAll (patterns.map fun p => (p, "router")) ∨
        c = .subscribe "#" "log" := by
      simpa [startedBetween] using hc
    · exact Call.reserves_start "router"
    · intro e he hrouter
      rw [List.mem_singleton.1 he] at hrouter
      exact absurd hrouter (by decide)
  exact ⟨nofun, hcalls, topics_agree.routed _ _ _ _ nofun hcalls, by decide +kernel⟩

end Listening

end LockFleet
