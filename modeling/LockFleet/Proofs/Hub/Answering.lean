import LockFleet.Proofs.Command.Answering
import LockFleet.Proofs.Hub.Matching

/-!
# Commands that are answered

The report of an acknowledgement goes over the filters, the dispatch, the decoding and the desk to
the one sender that waits with the identifier it carries.  Whatever such a report contains, and
whether or not anybody waits for it, no device and no entry of the history is touched.

* `Broker.HasPermit`, `Hub.Listens.filter_accept` — a report begins one dispatch;
* `Working.dispatch?_step`, `Working.IsBrief` — the dispatch of an acknowledgement waits for its
  first poll, and that is its last one;
* `Working.attend_ack` — an acknowledgement gets to the desk;
* `Working.Answering`, `Working.commands_answered` — every run.
-/

namespace LockFleet

/-! ### Permits -/

section Permits

variable {H : Type} [DecidableEq H] {router : H} {b : Broker H} {topic : String}

/-- There is a permit for a handler of a topic besides those that the other handlers of the topic
may take. -/
def Broker.HasPermit (b : Broker H) (handler : H) (topic : String) : Prop :=
  ((b.matching topic).filter (· ≠ handler)).length < b.free

/-- Where nobody else listens, any free permit will do. -/
theorem Broker.hasPermit_iff (h : ∀ handler ∈ b.matching topic, handler = router) :
    b.HasPermit router topic ↔ 0 < b.free := by
  have hnone : (b.matching topic).filter (· ≠ router) = [] :=
    List.filter_eq_nil_iff.2 fun handler hmem => by simp [h handler hmem]
  rw [HasPermit, hnone, List.length_nil]

theorem Broker.HasPermit.mem_accept (h : b.HasPermit router topic)
    (hmem : router ∈ b.matching topic) : router ∈ (b.accept topic).1 := by
  show router ∈ (b.matching topic).take b.free
  by_contra hnot
  -- Otherwise the permits have gone to others, and there are more permits than others.
  have hothers : ((b.matching topic).take b.free).filter (· ≠ router) =
      (b.matching topic).take b.free :=
    List.filter_eq_self.2 fun handler hhandler =>
      decide_eq_true fun heq : handler = router => hnot (heq ▸ hhandler)
  have hle := ((List.take_sublist b.free (b.matching topic)).filter (· ≠ router)).length_le
  rw [hothers, List.length_take] at hle
  have hfree : ((b.matching topic).filter (· ≠ router)).length < b.free := h
  have hall : (b.matching topic).length ≤ b.free := by omega
  rw [List.take_of_length_le hall] at hnot
  exact hnot hmem

/-- **A report starts the router once**, if there is a permit. -/
theorem Hub.Listens.filter_accept (h : Listens router b) {device : String}
    (hslash : '/' ∉ device.toList) (kind : ReportKind)
    (hpermit : b.HasPermit router (Topic.report device kind.name)) :
    (b.accept (Topic.report device kind.name)).1.filter (· = router) = [router] := by
  have hmem := hpermit.mem_accept ((h.mem_matching _).2
    (List.any_eq_true.2 ⟨_, Listening.mem_patterns kind, Listening.selects_report hslash kind⟩))
  have hcount : (b.accept (Topic.report device kind.name)).1.count router = 1 :=
    Nat.le_antisymm (Nat.le_trans ((List.take_sublist _ _).count_le router) (h.count_matching _))
      (List.count_pos_iff.2 hmem)
  rw [List.filter_eq, hcount]
  rfl

end Permits

/-! ### Topics -/

/-- On the topic of an acknowledgement nothing but acknowledgements is decoded. -/
theorem Message.ack_of_decode {device p : String} {payload : Bytes} {m : Message}
    (hp : p ∈ Listening.patterns)
    (hselects : Topic.selects p (Topic.report device ReportKind.ack.name) = true)
    (hm : decode (Topic.report device ReportKind.ack.name) payload = .ok m) :
    ∃ a, m.report = .ack a := by
  obtain ⟨-, -, htopic⟩ := topic_of_decode hp hselects hm
  have hlast := Topic.getLast?_levels_ofDevice device ReportKind.ack.slash_not_mem_name
  have hlast' := Topic.getLast?_levels_ofDevice m.device m.report.kind.slash_not_mem_name
  change Topic.report device ReportKind.ack.name = Topic.ofDevice m.device m.report.kind.name
    at htopic
  rw [← htopic] at hlast'
  have hkind := ReportKind.name_injective (Option.some.inj (hlast.symm.trans hlast'))
  cases hr : m.report with
  | ack a => exact ⟨a, rfl⟩
  | heartbeat b =>
    rw [hr] at hkind
    cases hkind
  | status b =>
    rw [hr] at hkind
    cases hkind
  | event b =>
    rw [hr] at hkind
    cases hkind

namespace Hub.Working

variable {H S : Type} {s : Equipment H S} {x : Working H S} {e : Event H S} {wall : Moment}
  {k n : Nat} {d : ReportDispatch} {topic : String} {payload : Bytes} {a : Ack}

/-! ### Dispatches of acknowledgements -/

/-- A dispatch that has not begun or has ended already. -/
def IsBrief (topic : String) (payload : Bytes) (d : ReportDispatch) : Prop :=
  d = .fresh topic payload ∨ ∃ outcome, d = .ended outcome

/-- The poll of a dispatch of an acknowledgement ends it and leaves the store alone. -/
theorem IsBrief.polled (hd : IsBrief topic payload d)
    (hack : ∀ m, Message.decode topic payload = .ok m → ∃ a, m.report = .ack a) :
    IsBrief topic payload (x.polled s wall k d).1 ∧
      (x.polled s wall k d).2.store = x.bench.store := by
  rcases hd with rfl | ⟨outcome, rfl⟩
  · cases hm : Message.decode topic payload with
    | error fault =>
      rw [Working.polled, Dispatch.poll, Dispatch.begin, hm]
      exact ⟨Or.inr ⟨_, rfl⟩, rfl⟩
    | ok m =>
      obtain ⟨device, r⟩ := m
      obtain ⟨a, rfl⟩ := hack _ hm
      rw [polled_ack hm]
      split
      · exact ⟨Or.inr ⟨_, rfl⟩, rfl⟩
      · exact ⟨Or.inr ⟨_, rfl⟩, rfl⟩
  · exact ⟨Or.inr ⟨outcome, rfl⟩, rfl⟩

variable [DecidableEq H]

/-- A dispatch stays as it is until it is polled. -/
theorem dispatch?_step (h : x.dispatch? n = some d) (he : ∀ wall k, e ≠ .attend n wall k) :
    (x.step s e).dispatch? n = some d := by
  cases e with
  | desk e => exact h
  | elsewhere broker store token => exact h
  | deliver topic payload =>
    obtain ⟨r, hr, -⟩ := Option.map_eq_some_iff.1 h
    show ((x.errands ++ _)[n]?).map Errand.dispatch = some d
    rw [List.getElem?_append_left (List.getElem?_eq_some_iff.1 hr).1]
    exact h
  | attend m wall k =>
    have hm : m ≠ n := by
      rintro rfl
      exact he wall k rfl
    rw [step]
    split
    · show ((x.errands.set m _)[n]?).map Errand.dispatch = some d
      rw [List.getElem?_set_ne hm]
      exact h
    · exact h

theorem dispatch?_play {es : List (Event H S)} (h : x.dispatch? n = some d)
    (hes : ∀ wall k, .attend n wall k ∉ es) : (play s x es).dispatch? n = some d := by
  induction es using List.reverseRecOn with
  | nil => exact h
  | append_singleton es e ih =>
    rw [play_snoc]
    refine dispatch?_step (ih fun wall k hmem => hes wall k (List.mem_append_left _ hmem)) ?_
    rintro wall k rfl
    exact hes wall k (List.mem_append_right es List.mem_cons_self)

/-- A dispatch of an acknowledgement remains brief, whatever happens. -/
theorem isBrief_play (h : x.dispatch? n = some d) (hd : IsBrief topic payload d)
    (hack : ∀ m, Message.decode topic payload = .ok m → ∃ a, m.report = .ack a)
    (es : List (Event H S)) :
    ∃ d', (play s x es).dispatch? n = some d' ∧ IsBrief topic payload d' := by
  induction es using List.reverseRecOn with
  | nil => exact ⟨d, h, hd⟩
  | append_singleton es e ih =>
    obtain ⟨d', h', hd'⟩ := ih
    rw [play_snoc]
    by_cases he : ∃ wall k, e = .attend n wall k
    · obtain ⟨wall, k, rfl⟩ := he
      exact ⟨_, (step_attend h' wall k).2, (hd'.polled hack).1⟩
    · exact ⟨d', dispatch?_step h' fun wall k hek => he ⟨wall, k, hek⟩, hd'⟩

/-- **An acknowledgement gets from its dispatch to the desk**, unless the hub has been stopped. -/
theorem attend_ack {device : String} (hd : x.dispatch? n = some (.fresh topic payload))
    (hm : Message.decode topic payload = .ok ⟨device, .ack a⟩)
    (hrouter : x.token.isCancelled (x.exchange s).cancelled = false) (wall : Moment) (k : Nat) :
    (x.step s (.attend n wall k)).bench =
      { x.bench with past := x.bench.past ++ [.acknowledge a] } := by
  rw [(step_attend hd wall k).1, polled_ack hm, hrouter]
  rfl

/-- The dispatches that begin with the report of an acknowledgement never change the store. -/
theorem store_attend_ack (honly : Listening.Only s.router x.broker.registry) {device : String}
    {y : Working H S}
    (hy : y = x.step s (.deliver (Topic.report device ReportKind.ack.name) payload))
    (hold : x.errands.length ≤ n) (hnew : n < y.errands.length) (es : List (Event H S))
    (wall : Moment) (k : Nat) :
    ((play s y es).step s (.attend n wall k)).bench.store = (play s y es).bench.store := by
  obtain ⟨r, hr⟩ : ∃ r, y.errands[n]? = some r := ⟨_, List.getElem?_eq_getElem hnew⟩
  have hmem : r ∈ ((x.broker.accept (Topic.report device ReportKind.ack.name)).1.filter
      (· = s.router)).map fun _ =>
        ⟨.fresh (Topic.report device ReportKind.ack.name) payload, true⟩ := by
    subst hy
    exact List.mem_of_getElem? ((List.getElem?_append_right hold).symm.trans hr)
  obtain ⟨router, hrouter, rfl⟩ := List.mem_map.1 hmem
  obtain ⟨hstarted, hself⟩ := List.mem_filter.1 hrouter
  obtain rfl := of_decide_eq_true hself
  obtain ⟨p, hp, hselects⟩ := honly.selects_of_mem hstarted
  have hack := fun m (hm : Message.decode _ payload = .ok m) => Message.ack_of_decode hp hselects hm
  have hdispatch : y.dispatch? n =
      some (.fresh (Topic.report device ReportKind.ack.name) payload) := by
    rw [dispatch?, hr]
    rfl
  obtain ⟨d, hd, hbrief⟩ := isBrief_play (s := s) hdispatch (Or.inl rfl) hack es
  rw [(step_attend hd wall k).1]
  exact (hbrief.polled hack).2

/-- The report of a device begins one dispatch, if there is a permit. -/
theorem deliver_report (h : Listens s.router x.broker) {device : String}
    (hslash : '/' ∉ device.toList) (kind : ReportKind)
    (hpermit : x.broker.HasPermit s.router (Topic.report device kind.name)) (payload : Bytes) :
    let y := x.step s (.deliver (Topic.report device kind.name) payload)
    y.dispatch? x.errands.length = some (.fresh (Topic.report device kind.name) payload) ∧
      y.errands.length = x.errands.length + 1 := by
  have herrands : (x.step s (.deliver (Topic.report device kind.name) payload)).errands =
      x.errands ++ [⟨.fresh (Topic.report device kind.name) payload, true⟩] := by
    rw [step, deliver]
    dsimp only
    rw [h.filter_accept hslash kind hpermit]
    rfl
  refine ⟨?_, ?_⟩
  · rw [dispatch?, herrands, List.getElem?_concat_length]
    rfl
  · rw [herrands, List.length_append, List.length_singleton]

/-! ### From the topic to the sender -/

open Exchange (PublishedAt Returns SparesOthers Taken Waits)

/-- What becomes of the acknowledgements that are reported to a hub. -/
structure Answering (s : Equipment H S) (x : Working H S) : Prop where
  /-- Any free permit will do where nobody but the router listens. -/
  permitted : ∀ topic, (∀ handler ∈ x.broker.matching topic, handler = s.router) →
    (x.broker.HasPermit s.router topic ↔ 0 < x.broker.free)
  /-- The report of an acknowledgement does nothing but to begin one dispatch, if there is a permit,
  and this dispatch waits until it is polled. -/
  begun : ∀ (device : String) payload, '/' ∉ device.toList →
    x.broker.HasPermit s.router (Topic.report device ReportKind.ack.name) →
    let topic := Topic.report device ReportKind.ack.name
    let y := x.step s (.deliver topic payload)
    y.bench = x.bench ∧ y.errands.length = x.errands.length + 1 ∧
      ∀ es, (∀ wall k, .attend x.errands.length wall k ∉ es) →
        (play s y es).dispatch? x.errands.length = some (.fresh topic payload)
  /-- The dispatch hands the acknowledgement over to the sender that waits and whose envelope
  carries its identifier, unless the hub has been stopped. -/
  handed : ∀ n topic payload device (a : Ack) i c r wall k,
    x.dispatch? n = some (.fresh topic payload) →
    Message.decode topic payload = .ok ⟨device, .ack a⟩ →
    x.token.isCancelled (x.exchange s).cancelled = false →
    Waits s.desk x.bench.past i c r → (x.exchange s).Carries i a.command →
    let y := x.step s (.attend n wall k)
    y.bench = { x.bench with past := x.bench.past ++ [.acknowledge a] } ∧
      Taken s.desk y.bench.past x.bench.past i r a ∧
      (y.exchange s).stage? i = (x.exchange s).stage? i ∧
      SparesOthers s.desk x.bench.past y.bench.past i r
  /-- The sender returns it at its next poll, if its envelope has been published and its token is
  not cancelled. -/
  returned : ∀ pre i c r a draws wall, Taken s.desk x.bench.past pre i r a →
    (x.exchange s).registration? i = some r → (x.exchange s).call? i = some c →
    c.token.isCancelled (x.exchange s).cancelled = false →
    (∃ t, PublishedAt (x.exchange s) i t) →
    let y := x.step s (.desk (.poll i draws wall))
    Returns s.desk x.bench.past y.bench.past i r (Reply.ofAck a)
  /-- All of it at once: a device reports an acknowledgement with the identifier in the envelope of
  the command that it has been sent, the report is handled, and the sender is polled. -/
  answered : ∀ i c r (a : Ack) body draws wall wall' k, Waits s.desk x.bench.past i c r →
    (∃ t, PublishedAt (x.exchange s) i t) → (x.exchange s).Carries i a.command →
    c.device ≠ "" → '/' ∉ c.device.toList →
    (body = Json.inOrder a.members ∨ body = Json.sorted a.members) →
    x.broker.HasPermit s.router (Topic.report c.device ReportKind.ack.name) →
    x.token.isCancelled (x.exchange s).cancelled = false →
    let y := play s x [.deliver (Topic.report c.device ReportKind.ack.name) body,
      .attend x.errands.length wall k, .desk (.poll i draws wall')]
    (x.exchange s).desk.isPending a.command = true ∧
      Returns s.desk x.bench.past y.bench.past i r ⟨a.command, a.success, a.message⟩ ∧
      y.bench.store = x.bench.store
  /-- The store stays as it is when any report of an acknowledgement is delivered, and whenever a
  dispatch that begins with it is polled. -/
  unchanged : ∀ device payload,
    let y := x.step s (.deliver (Topic.report device ReportKind.ack.name) payload)
    y.bench.store = x.bench.store ∧
      ∀ n, x.errands.length ≤ n → n < y.errands.length → ∀ es wall k,
        ((play s y es).step s (.attend n wall k)).bench.store = (play s y es).bench.store

/-- A sender is answered by the device to which it has sent its command. -/
theorem answered_at_once (hlistens : Listens s.router x.broker)
    (hfresh : Run.Along Exchange.step Exchange.FreshAt (Exchange.start s.desk) x.bench.past)
    {i : Nat} {c : SendCall} {r : Registration} {body : Bytes}
    (hw : Waits s.desk x.bench.past i c r) (hpublished : ∃ t, PublishedAt (x.exchange s) i t)
    (hid : a.command = r.id) (hdevice : c.device ≠ "") (hslash : '/' ∉ c.device.toList)
    (hbody : body = Json.inOrder a.members ∨ body = Json.sorted a.members)
    (hpermit : x.broker.HasPermit s.router (Topic.report c.device ReportKind.ack.name))
    (hrouter : x.token.isCancelled (x.exchange s).cancelled = false) (draws : Nat → String)
    (wall wall' : Moment) (k : Nat) :
    let y := play s x [.deliver (Topic.report c.device ReportKind.ack.name) body,
      .attend x.errands.length wall k, .desk (.poll i draws wall')]
    Returns s.desk x.bench.past y.bench.past i r (Reply.ofAck a) ∧
      y.bench.store = x.bench.store := by
  have hdispatch := (deliver_report hlistens hslash .ack hpermit body).1
  have hattended := attend_ack hdispatch (Message.decode_ack hdevice hslash hbody) hrouter wall k
  have hbench : (play s x [.deliver (Topic.report c.device ReportKind.ack.name) body,
      .attend x.errands.length wall k, .desk (.poll i draws wall')]).bench =
      { x.bench with past := x.bench.past ++ [.acknowledge a] ++ [.poll i draws wall'] } := by
    show Bench.mk _ _ = _
    rw [hattended]
    rfl
  intro y
  rw [show y.bench = _ from hbench]
  exact ⟨hw.returns hfresh hid hpublished draws wall', rfl⟩

variable {L : Type} [Link L] {quality : Quality} {b₀ b : Broker H} {l₀ l : L} {store : S}
  {token : Token} {es : List (Event H S)}

/-- **Commands are answered**, in every run of a hub that has been started. -/
theorem commands_answered (hstart : Registry.run (listen quality s.router) b₀ l₀ = (.ok (), b, l))
    (hnew : ∀ e ∈ b₀.registry.entries, e.2.handler ≠ s.router)
    (h : Run.Along (step s) (Expected s (Listens s.router)) (idle b store token) es) :
    Answering s (play s (idle b store token) es) := by
  have hb := listens hstart hnew
  have hsound := sound (fun _ hlistens => hlistens.only) hb.only h
  have hlistens : Listens s.router (play s (idle b store token) es).broker :=
    kept (fun _ _ heq hlistens => ⟨heq ▸ hlistens.heard, heq ▸ hlistens.only⟩) hb h
  generalize play s (idle b store token) es = x at hsound hlistens
  have hfresh := hsound.fresh
  refine ⟨fun topic hothers => Broker.hasPermit_iff hothers, ?_, ?_, ?_, ?_, ?_⟩
  · intro device payload hslash hpermit topic y
    obtain ⟨hdispatch, hlength⟩ := deliver_report hlistens hslash .ack hpermit payload
    exact ⟨rfl, hlength, fun es hes => dispatch?_play hdispatch hes⟩
  · intro n topic payload device a i c r wall k hd hm hrouter hw hcarries y
    have hid := (Exchange.carries_iff hw.held).1 hcarries
    have hbench : y.bench = { x.bench with past := x.bench.past ++ [.acknowledge a] } :=
      attend_ack hd hm hrouter wall k
    refine ⟨hbench, ?_, ?_, ?_⟩
    · rw [hbench]
      exact hw.taken hfresh hid
    · rw [exchange, hbench, Exchange.play_snoc]
      rfl
    · rw [hbench]
      exact hw.acknowledge hfresh hid
  · intro pre i c r a draws wall ht hr hc hlive hpublished y
    exact ht.returns hfresh hr hc hlive hpublished draws wall
  · intro i c r a body draws wall wall' k hw hpublished hcarries hdevice hslash hbody hpermit
      hrouter y
    have hid := (Exchange.carries_iff hw.held).1 hcarries
    obtain ⟨p, hp, -⟩ := Desk.hasEntry_iff.1 (hw.hasEntry hfresh)
    refine ⟨Desk.isPending_iff.2 ⟨p, hid ▸ hp⟩, ?_⟩
    exact answered_at_once hlistens hfresh hw hpublished hid hdevice hslash hbody hpermit hrouter
      draws wall wall' k
  · intro device payload y
    exact ⟨rfl, fun n hold hnew es wall k => store_attend_ack hlistens.only rfl hold hnew es wall k⟩

/-! ### Two commands -/

theorem expected_twoCommands :
    Run.Along (step equipment) (Expected equipment (Listens equipment.router)) hubOfTwo
      twoCommands := by
  have hprefix : twoCommands <+: strangerAck :=
    (List.prefix_append twoCommands _).trans (List.prefix_append misdirected _)
  exact ((promised_strangerAck _).of_isPrefix hprefix).mono fun _ _ he => he.expected

/-- The sender of the first command waits. -/
theorem waits_twoCommands : Waits equipment.desk (play equipment hubOfTwo twoCommands).bench.past 0
    ⟨⟨[1]⟩, "lock-1", .unlock, .empty⟩ ⟨"a", 0⟩ where
  call := rfl
  held := rfl
  live := rfl
  unswept := by
    rintro ⟨pre, ⟨post, hpost⟩, -⟩
    have hmem : Exchange.Event.sweep ∈ (play equipment hubOfTwo twoCommands).bench.past :=
      hpost ▸ List.mem_append_right pre List.mem_cons_self
    simp [play, twoCommands, Run.after, step, hubOfTwo, idle] at hmem
  unanswered pre a ht := by
    obtain ⟨post, hpost⟩ := ht.occurs
    have hmem : Exchange.Event.acknowledge a ∈ (play equipment hubOfTwo twoCommands).bench.past :=
      hpost ▸ List.mem_append_right pre List.mem_cons_self
    simp [play, twoCommands, Run.after, step, hubOfTwo, idle] at hmem

/-- The first device answers its command: the sender returns the reply, and the entry of the second
command stays. -/
theorem commands_answered_twoCommands :
    Registry.run (listen .atLeastOnce equipment.router) watched RecordingLink.empty =
        (.ok (), started.2.1, started.2.2) ∧
      (∀ e ∈ watched.registry.entries, e.2.handler ≠ equipment.router) ∧
      Run.Along (step equipment) (Expected equipment (Listens equipment.router)) hubOfTwo
        twoCommands ∧
      Answering equipment (play equipment hubOfTwo twoCommands) ∧
      Returns equipment.desk (play equipment hubOfTwo twoCommands).bench.past
        (play equipment (play equipment hubOfTwo twoCommands)
          [.deliver (Topic.report "lock-1" ReportKind.ack.name) (Json.sorted opened.members),
            .attend 0 .epoch 0, .desk (.poll 0 (fun _ => "c") .epoch)]).bench.past
        0 ⟨"a", 0⟩ ⟨"a", true, "opened"⟩ := by
  have hstart : Registry.run (listen .atLeastOnce equipment.router) watched RecordingLink.empty =
      (.ok (), started.2.1, started.2.2) := rfl
  have hnew : ∀ e ∈ watched.registry.entries, e.2.handler ≠ equipment.router := by
    decide
  have hanswering := commands_answered hstart hnew expected_twoCommands
  have hpublished : ∃ t,
      PublishedAt ((play equipment hubOfTwo twoCommands).exchange equipment) 0 t :=
    ⟨0, 0, _, _, _, rfl, rfl, rfl, rfl, rfl⟩
  have hcarries :
      ((play equipment hubOfTwo twoCommands).exchange equipment).Carries 0 opened.command :=
    (Exchange.carries_iff waits_twoCommands.held).2 rfl
  have hpermit : (play equipment hubOfTwo twoCommands).broker.HasPermit equipment.router
      (Topic.report "lock-1" ReportKind.ack.name) := by
    show (1 : Nat) < 4
    decide
  exact ⟨hstart, hnew, expected_twoCommands, hanswering,
    (hanswering.answered 0 _ _ opened _ _ .epoch _ 0 waits_twoCommands hpublished hcarries
      (by decide) (by decide) (Or.inr rfl) hpermit rfl).2.1⟩

end Hub.Working

end LockFleet
