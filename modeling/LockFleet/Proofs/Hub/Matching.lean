import LockFleet.Proofs.Command.Independence
import LockFleet.Proofs.Command.Outcome
import LockFleet.Proofs.Hub.Refinement
import LockFleet.Proofs.Hub.Working

/-!
# Which acknowledgement answers a sender

A sender returns an acknowledgement that some device has reported and that carries the identifier of
its command.  The device is not looked at: a report means the same whoever makes it, and what does
not carry the identifier means nothing to the sender.

* `Message.decode_ack` — an acknowledgement is decoded as it was;
* `Working.polled_report` — the dispatch of an acknowledgement does not depend on the device;
* `Working.Matched`, `Working.acks_matched` — every run;
* `Working.not_own_device` — another device can answer a command.
-/

namespace LockFleet

/-- An acknowledgement that a device writes is decoded as it was, with its keys in either order. -/
theorem Message.decode_ack {device : String} (hdevice : device ≠ "") (hslash : '/' ∉ device.toList)
    {a : Ack} {body : Bytes}
    (hbody : body = Json.inOrder a.members ∨ body = Json.sorted a.members) :
    decode (Topic.report device ReportKind.ack.name) body = .ok ⟨device, .ack a⟩ := by
  have hdepth : (Report.ack a).depth ≤ Json.levelLimit := by
    show 1 ≤ Json.levelLimit
    decide
  have hreads := Report.reads_members (r := .ack a) True.intro hdepth
  have hdecode : Report.decode .ack body = .ok (.ack a) := by
    rcases hbody with rfl | rfl
    · exact Report.decode_of_reads (r := .ack a) hreads.1
    · exact Report.decode_of_reads (r := .ack a) hreads.2
  rw [decode_report .ack hdevice hslash, hdecode]
  rfl

namespace Hub.Working

variable {H S : Type} {s : Equipment H S} {x : Working H S} {wall : Moment} {k : Nat}

/-- The dispatch of an acknowledgement does the same whichever device has reported it. -/
theorem polled_report {d e : String} (hd : d ≠ "") (hds : '/' ∉ d.toList) (he : e ≠ "")
    (hes : '/' ∉ e.toList) (payload : Bytes) :
    x.polled s wall k (.fresh (Topic.report e ReportKind.ack.name) payload) =
      x.polled s wall k (.fresh (Topic.report d ReportKind.ack.name) payload) := by
  have hdecode := Message.decode_report .ack hd hds payload
  have hdecode' := Message.decode_report .ack he hes payload
  cases hbody : Report.decode .ack payload with
  | error fault =>
    rw [hbody] at hdecode hdecode'
    rw [polled, polled, Dispatch.poll, Dispatch.poll, Dispatch.begin, Dispatch.begin, hdecode,
      hdecode']
    rfl
  | ok r =>
    rw [hbody] at hdecode hdecode'
    cases r with
    | ack a => rw [polled_ack hdecode, polled_ack hdecode']
    | heartbeat b => cases Report.kind_of_decode hbody
    | status b => cases Report.kind_of_decode hbody
    | event b => cases Report.kind_of_decode hbody

variable [DecidableEq H]

/-- Which acknowledgements answer the senders of a hub. -/
structure Matched (s : Equipment H S) (es : List (Event H S)) (x : Working H S) : Prop where
  /-- A sender returns an acknowledgement that has been reported by some device and that carries the
  identifier of the one envelope that the sender has published. -/
  returned : ∀ i draws wall reply,
    Exchange.EndsWith s.desk x.bench.past i draws wall (.ok reply) →
    ∃ a c id timestamp, reply = Reply.ofAck a ∧ a.command = id ∧ Reported es a ∧
      (x.exchange s).call? i = some c ∧
      ∀ q, (i, q) ∈ (x.exchange s).posted ↔ q = c.publishing id timestamp
  /-- It makes no difference which device reports an acknowledgement. -/
  anyDevice : ∀ d e : String, d ≠ "" → '/' ∉ d.toList → e ≠ "" → '/' ∉ e.toList →
    ∀ payload wall k, x.polled s wall k (.fresh (Topic.report e ReportKind.ack.name) payload) =
      x.polled s wall k (.fresh (Topic.report d ReportKind.ack.name) payload)
  /-- An acknowledgement that is handed over and does not carry the identifier of a sender makes no
  difference to it: whatever happens at the desk afterwards, the sender stands where it would stand
  without it. -/
  foreign : ∀ n topic payload device a wall k i (post : List Exchange.Event),
    x.dispatch? n = some (.fresh topic payload) →
    Message.decode topic payload = .ok ⟨device, .ack a⟩ →
    (∀ r, (x.exchange s).registration? i = some r → a.command ≠ r.id) →
    let handled := (x.step s (.attend n wall k)).bench.past
    Run.Along Exchange.step Exchange.FreshAt (Exchange.start s.desk) (x.bench.past ++ post) →
    Run.Along Exchange.step Exchange.FreshAt (Exchange.start s.desk) (handled ++ post) →
    (Exchange.play s.desk (handled ++ post)).stage? i =
      (Exchange.play s.desk (x.bench.past ++ post)).stage? i

variable {es : List (Event H S)} {broker : Broker H} {store : S} {token : Token}

/-- **An acknowledgement is matched by the identifier that it carries**, and by nothing else. -/
theorem acks_matched (hbroker : Listening.Only s.router broker.registry)
    (h : Run.Along (step s) (Promised s fun b => Listening.Only s.router b.registry)
      (idle broker store token) es) :
    Matched s es (play s (idle broker store token) es) := by
  have hsound := sound (fun _ honly => honly) hbroker (h.mono fun _ _ he => he.expected)
  have hgiven : ∀ a, Given es a → Reported es a := fun a hgiven =>
    hgiven.resolve_right fun ha => h.of_mem (fun _ _ he => he.reports a) ha rfl
  generalize play s (idle broker store token) es = x at hsound
  refine ⟨fun i draws wall reply hends => ?_, ?_, ?_⟩
  · obtain ⟨pre, r, a, c, timestamp, ht, -, hreply, -, hc, hq⟩ := hends.reply hsound.fresh
    refine ⟨a, c, r.id, timestamp, hreply, ht.command, hgiven a (hsound.given a ?_), hc, hq⟩
    obtain ⟨post, hpost⟩ := ht.occurs
    rw [hpost]
    exact List.mem_append_right pre List.mem_cons_self
  · intro d e hd hds he hes payload wall k
    exact polled_report hd hds he hes payload
  · intro n topic payload device a wall k i post hd hdecode hforeign handled hwithout hwith
    have hpolled : handled = x.bench.past ∨ handled = x.bench.past ++ [.acknowledge a] := by
      show (x.step s (.attend n wall k)).bench.past = _ ∨
        (x.step s (.attend n wall k)).bench.past = _
      rw [(step_attend hd wall k).1, polled_ack hdecode]
      split
      · exact Or.inl rfl
      · exact Or.inr rfl
    rcases hpolled with hsame | hmore
    · rw [hsame]
    · rw [hmore] at hwith ⊢
      exact (Exchange.unaffected hwith hwithout hforeign).stage

/-! ### Another device answers -/

/-- What a hub with the usual timing works with. -/
def equipment : Equipment String Store :=
  ⟨routing.router, routing.timing, DeskClock.standard, fun q s => s.serve q⟩

/-- A hub that has just been started, with two devices. -/
def hubOfTwo : Working String Store :=
  idle started.2.1 ((Store.empty.insert (.fresh 1 "lock-1")).insert (.fresh 2 "lock-2"))
    (Token.root 0)

/-- The acknowledgement of a command. -/
def opened : Ack := ⟨"a", true, "opened", 0⟩

/-- Two devices are sent a command each, and the first command has been published. -/
def twoCommands : List (Event String Store) :=
  [.desk (.begin ⟨⟨[1]⟩, "lock-1", .unlock, .empty⟩),
    .desk (.begin ⟨⟨[2]⟩, "lock-2", .lock, .empty⟩), .desk (.poll 0 (fun _ => "a") .epoch),
    .desk (.poll 1 (fun _ => "b") .epoch), .desk (.jobEnds 0 (.finished (.ok ())))]

/-- The second device reports that it has carried out the command of the first. -/
def misdirected : List (Event String Store) := twoCommands ++
  [.deliver (Topic.report "lock-2" ReportKind.ack.name) (Json.inOrder opened.members)]

/-- The report is handled. -/
def strangerAck : List (Event String Store) := misdirected ++ [.attend 0 .epoch 0]

theorem only_hubOfTwo : Listening.Only equipment.router hubOfTwo.broker.registry := by
  have hstart : started = (.ok (), started.2.1, started.2.2) := rfl
  have hnew : ∀ e ∈ watched.registry.entries, e.2.handler ≠ routing.router := by
    decide
  exact (listens hstart hnew).only

theorem promised_strangerAck (keeps : Broker String → Prop) :
    Run.Along (step equipment) (Promised equipment keeps) hubOfTwo strangerAck := by
  refine ⟨⟨nofun, True.intro⟩, ⟨nofun, True.intro⟩, ⟨nofun, fun i r hr => ?_⟩,
    ⟨nofun, fun i r hr => ?_⟩, ⟨nofun, True.intro⟩, True.intro, True.intro, True.intro⟩
  · match i with
    | 0 | 1 | _ + 2 => cases hr
  · match i with
    | 0 =>
      cases hr
      decide
    | 1 | _ + 2 => cases hr

theorem past_strangerAck : (play equipment hubOfTwo strangerAck).bench.past =
    [.begin ⟨⟨[1]⟩, "lock-1", .unlock, .empty⟩, .begin ⟨⟨[2]⟩, "lock-2", .lock, .empty⟩,
      .poll 0 (fun _ => "a") .epoch, .poll 1 (fun _ => "b") .epoch,
      .jobEnds 0 (.finished (.ok ())), .acknowledge opened] := by
  have hdispatch : (play equipment hubOfTwo misdirected).dispatch? 0 = some (.fresh
      (Topic.report "lock-2" ReportKind.ack.name) (Json.inOrder opened.members)) := rfl
  have hdecode : Message.decode (Topic.report "lock-2" ReportKind.ack.name)
      (Json.inOrder opened.members) = .ok ⟨"lock-2", .ack opened⟩ :=
    Message.decode_ack (by decide) (by decide) (Or.inl rfl)
  rw [strangerAck, play_snoc, (step_attend hdispatch .epoch 0).1, polled_ack hdecode]
  rfl

theorem ends_strangerAck : Exchange.EndsWith equipment.desk
    (play equipment hubOfTwo strangerAck).bench.past 0 (fun _ => "c") .epoch
    (.ok (Reply.ofAck opened)) := by
  rw [past_strangerAck]
  exact ⟨⟨_, rfl, nofun⟩, rfl⟩

theorem acks_matched_strangerAck :
    Listening.Only equipment.router hubOfTwo.broker.registry ∧
      Run.Along (step equipment)
        (Promised equipment fun b => Listening.Only equipment.router b.registry) hubOfTwo
        strangerAck ∧
      Matched equipment strangerAck (play equipment hubOfTwo strangerAck) ∧
      Exchange.EndsWith equipment.desk (play equipment hubOfTwo strangerAck).bench.past 0
        (fun _ => "c") .epoch (.ok ⟨"a", true, "opened"⟩) :=
  ⟨only_hubOfTwo, promised_strangerAck _, acks_matched only_hubOfTwo (promised_strangerAck _),
    ends_strangerAck⟩

/-- A command can be answered by another device than the one it was sent to. -/
theorem not_own_device : ¬ ∀ es : List (Event String Store),
    Run.Along (step equipment)
      (Promised equipment fun b => Listening.Only equipment.router b.registry) hubOfTwo es →
    ∀ i draws wall reply c,
      Exchange.EndsWith equipment.desk (play equipment hubOfTwo es).bench.past i draws wall
        (.ok reply) →
      ((play equipment hubOfTwo es).exchange equipment).call? i = some c →
      ∃ payload a, .deliver (Topic.report c.device ReportKind.ack.name) payload ∈ es ∧
        Message.decode (Topic.report c.device ReportKind.ack.name) payload =
          .ok ⟨c.device, .ack a⟩ ∧ reply = Reply.ofAck a := by
  intro h
  have hcall : ((play equipment hubOfTwo strangerAck).exchange equipment).call? 0 =
      some ⟨⟨[1]⟩, "lock-1", .unlock, .empty⟩ := by
    rw [exchange, past_strangerAck]
    rfl
  obtain ⟨payload, a, hmem, -⟩ :=
    h strangerAck (promised_strangerAck _) 0 _ _ _ _ ends_strangerAck hcall
  have htopic : Topic.report "lock-1" ReportKind.ack.name ≠
      Topic.report "lock-2" ReportKind.ack.name := by
    decide
  simp [strangerAck, misdirected, twoCommands, htopic] at hmem

end Hub.Working

end LockFleet
