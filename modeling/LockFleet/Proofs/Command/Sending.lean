import LockFleet.Broker.RecordingLink
import LockFleet.Proofs.Command.Wire
import LockFleet.Proofs.Json.Records

/-!
# What a command puts on the wire

However its publishing, its cancellation and its end fall together, a command causes one message at
most.  The message goes to the topic of the device and carries the identifier, the kind and the
arguments of the command, and nothing has to be known about the identifiers of other commands.

* `Envelope.parse_encode` — an envelope is read back as it was;
* `Envelope.id_of_parse`, `Envelope.id_of_encode` — and always with its identifier;
* `IsCommand` — the message of a command;
* `Wire.SenderWired`, `Wire.UnawaitedWired` — what the two ways to send a command put on the wire;
* `Wire.commands_wired` — every run.
-/

namespace LockFleet

open Rehearsal (Effect Activity Outcome)

/-! ### Envelopes -/

section Envelopes

open Json (Fields Reads Value colon comma givenBy_member member openObject reads_pieces writeText)

theorem CommandKind.findEntry?_name (k : CommandKind) :
    Json.findEntry? k.name choices = some k := by
  cases k <;> decide

/-- How many levels are nested in the text of an envelope. -/
def Envelope.depth (e : Envelope) : Nat := (Json.Value.object e.members).depth

/-- **An envelope is read back as it was.** -/
theorem Envelope.parse_encode {e : Envelope} (hexact : e.arguments.toValue.Exact)
    (hdepth : e.depth ≤ Json.levelLimit) : Json.parse Envelope.read e.encode = .ok e := by
  have hmembers : e.members = [member "command_id" (.text e.id),
      member "command" (.text e.kind.name), member "params" e.arguments.toValue,
      member "timestamp" (Json.ofInt64 e.timestamp)].flatten := rfl
  have hmem : ("params", e.arguments.toValue) ∈ e.members := by simp [Envelope.members]
  have harguments : Reads (Arguments.read 126) e.arguments.toValue.write e.arguments :=
    (Json.reads_object hexact (Nat.le_trans (Json.depth_le_depthOfEntries hmem)
      (Nat.le_of_succ_le_succ hdepth))).map Arguments.mk
  refine Json.parse_of_reads ?_
  rw [Envelope.encode, hmembers]
  exact (reads_pieces (.cons (givenBy_member (Json.reads_text 126 e.id)) <|
    .cons (givenBy_member (Json.reads_choice e.kind.findEntry?_name 126)) <|
    .cons (givenBy_member harguments) <|
    .cons (givenBy_member (Json.reads_int64 126 e.timestamp)) .nil) (by decide)).2

/-- The members of an envelope in order of their keys. -/
theorem Envelope.sortEntries_members (e : Envelope) : Json.sortEntries e.members =
    [("command", .text e.kind.name), ("command_id", .text e.id),
      ("params", e.arguments.toValue), ("timestamp", Json.ofInt64 e.timestamp)] := by
  have hid : "command" < "command_id" := by decide
  have hparams : ¬ "params" < "command" ∧ ¬ "params" < "command_id" := by decide
  have htimestamp : ¬ "timestamp" < "command" ∧ ¬ "timestamp" < "command_id" ∧
      ¬ "timestamp" < "params" := by decide
  simp [Json.sortEntries, members, Json.insertEntry, hid, hparams, htimestamp]

/-- The octets of an envelope up to its identifier. -/
theorem Envelope.encode_eq (e : Envelope) : ∃ tail, e.encode = openObject ::
    (writeText "command" ++ colon :: ((Value.text e.kind.name).write ++ comma ::
      (writeText "command_id" ++ colon :: ((Value.text e.id).write ++ comma :: tail)))) := by
  have hobject := Json.object_write (Json.sortEntries e.members) []
  have hencode : e.encode = (Value.object (Json.sortEntries e.members)).write := rfl
  rw [List.append_nil, ← hencode, e.sortEntries_members] at hobject
  rw [hobject]
  simp only [List.map_cons, Json.separated_cons, Json.writeMember, List.flatMap_cons,
    List.append_assoc, List.cons_append]
  exact ⟨_, rfl⟩

/-- **An envelope is read back with its identifier**, if it is read back at all. -/
theorem Envelope.id_of_parse {e env : Envelope} (h : Json.parse Envelope.read e.encode = .ok env) :
    env.id = e.id := by
  obtain ⟨tail, hwritten⟩ := e.encode_eq
  obtain ⟨rest, hread⟩ := Json.of_parse h
  rw [hwritten] at hread
  have hrecord : Json.record _ _ _ (126 + 1) (openObject :: _) = .ok (env, rest) := hread
  obtain ⟨fuel, row, mid, vs, hrow, hcomplete, rfl⟩ := Json.of_record hrecord
  have hkind := Json.reads_choice e.kind.findEntry?_name 126 _ (Json.delimited_comma
    (writeText "command_id" ++ colon :: ((Value.text e.id).write ++ comma :: tail)))
  have hid : row.1 = some e.id := by
    cases fuel with
    | zero => cases hrow
    | succ fuel =>
      rw [Fields.readMembers, Json.bind_apply (Json.nextKey_first "command")] at hrow
      obtain ⟨after, mid', hone, hothers⟩ := Json.of_bind hrow
      obtain ⟨hnone, hsecond⟩ := Fields.of_readMember_ne (by decide) hone
      obtain ⟨-, rfl⟩ := Fields.of_readMember_self (by rfl) rfl hkind hsecond
      exact Fields.first_of_readMembers (Json.nextKey_next "command_id")
        (Json.reads_text 126 e.id) (Json.delimited_comma _) hnone hothers
  obtain ⟨x, others⟩ := row
  obtain rfl : x = some e.id := hid
  exact Fields.complete_keeps hcomplete

/-- Envelopes of the same octets carry the same identifier. -/
theorem Envelope.id_of_encode {e env : Envelope} (h : e.encode = env.encode) : e.id = env.id := by
  obtain ⟨tail, hwritten⟩ := e.encode_eq
  obtain ⟨tail', hwritten'⟩ := env.encode_eq
  rw [hwritten, hwritten'] at h
  have hkinds := List.append_cancel_left (List.tail_eq_of_cons_eq h)
  have hkind := Json.reads_choice e.kind.findEntry?_name 126 _ (Json.delimited_comma
    (writeText "command_id" ++ colon :: ((Value.text e.id).write ++ comma :: tail)))
  have hkind' := Json.reads_choice env.kind.findEntry?_name 126 _ (Json.delimited_comma
    (writeText "command_id" ++ colon :: ((Value.text env.id).write ++ comma :: tail')))
  rw [List.tail_eq_of_cons_eq hkinds, hkind'] at hkind
  have hids := List.append_cancel_left
    (List.tail_eq_of_cons_eq (Prod.mk.inj (Except.ok.inj hkind)).2)
  have hid := Json.reads_text 126 e.id _ (Json.delimited_comma tail)
  rw [← List.tail_eq_of_cons_eq hids,
    Json.reads_text 126 env.id _ (Json.delimited_comma tail')] at hid
  exact (Prod.mk.inj (Except.ok.inj hid)).1.symm

end Envelopes

/-- The message of a command.  It can be read back if no argument has a fraction and if no more
levels are nested in it than a text may open. -/
structure IsCommand (settings : Settings) (device : String) (kind : CommandKind)
    (arguments : Arguments) (id : String) (m : Outgoing) : Prop where
  topic : m.topic = kind.topic device
  quality : m.quality = settings.quality
  retain : m.retain = false
  envelope : ∃ timestamp, m.payload = (Envelope.mk id kind arguments timestamp).encode ∧
    (arguments.toValue.Exact → (Envelope.mk id kind arguments timestamp).depth ≤ Json.levelLimit →
      Json.parse Envelope.read m.payload = .ok ⟨id, kind, arguments, timestamp⟩)

theorem isCommand_outgoing (settings : Settings) (device : String) (kind : CommandKind)
    (arguments : Arguments) (id : String) (timestamp : Int64) :
    IsCommand settings device kind arguments id (PublishRequest.outgoing
      ⟨kind.topic device, false, (Envelope.mk id kind arguments timestamp).encode⟩
      settings.quality) :=
  ⟨rfl, rfl, rfl, timestamp, rfl, fun hexact hdepth => Envelope.parse_encode hexact hdepth⟩

namespace Wire

variable {L : Type} {timing : DeskClock} {settings : Settings} {l : L} {w : Wire L}

/-! ### Senders -/

/-- What a sender puts on the wire in a run. -/
structure SenderWired [Link L] (timing : DeskClock) (settings : Settings) (l : L)
    (es : List (Event L)) (i : Nat) : Prop where
  /-- It makes one request at most, and so causes one message at most. -/
  once : ((play timing settings l es).requestsOf (.sender i)).length ≤ 1
  /-- It causes none if the link has rejected its publishing. -/
  rejected : ∀ m e, (m, .error e) ∈ (play timing settings l es).requestsOf (.sender i) →
    (play timing settings l es).messagesOf (.sender i) = []
  /-- It causes none if its token was cancelled before its first poll. -/
  cancelled : ∀ pre c, pre <+: es → (play timing settings l es).exchange.call? i = some c →
    (play timing settings l pre).exchange.call? i = none ∨
      (play timing settings l pre).exchange.stage? i = some .fresh →
    c.token.isCancelled (play timing settings l pre).exchange.cancelled = true →
    (play timing settings l es).messagesOf (.sender i) = []
  /-- It has caused exactly one if it has ended with a reply, a timeout or its expiry. -/
  awaited : ∀ pre result, pre <+: es →
    (play timing settings l pre).exchange.stage? i = some (.ended result) → IsAwaited result →
    ∃ m, (play timing settings l es).messagesOf (.sender i) = [m]
  /-- The message is that of the command, with the identifier that the sender has registered and
  that its result carries. -/
  carried : ∀ m ∈ (play timing settings l es).messagesOf (.sender i), ∃ c id,
    (play timing settings l es).exchange.call? i = some c ∧
    IsCommand settings c.device c.kind c.arguments id m ∧
    (∃ pre r, pre <+: es ∧
      (play timing settings l pre).exchange.registration? i = some r ∧ r.id = id) ∧
    ∀ pre, pre <+: es →
      (∀ r, (play timing settings l pre).exchange.registration? i = some r → r.id = id) ∧
      ∀ result, (play timing settings l pre).exchange.stage? i = some (.ended result) →
        ∀ id', resultId? result = some id' → id' = id

/-- What has been requested for a sender: nothing, or what its job has requested. -/
theorem Sound.requestsOf_sender (h : Sound settings w) (i : Nat) :
    w.requestsOf (.sender i) = [] ∨ ∃ (n : Nat) (j : PublishJob) (r : Requested),
      w.exchange.jobs[n]? = some j ∧ j.owner = i ∧
        w.requestsOf (.sender i) = [(j.request.outgoing settings.quality, r)] := by
  by_cases hposted : ∃ q, (i, q) ∈ w.exchange.posted
  · obtain ⟨q, hq⟩ := hposted
    obtain ⟨j, hj, heq⟩ := List.mem_map.1 hq
    obtain ⟨n, hn⟩ := List.mem_iff_getElem?.1 hj
    obtain ⟨rfl, -⟩ := Prod.mk.inj heq
    rcases (h.job n j hn).cases with ⟨hnone, -⟩ | ⟨r, -, hone⟩
    · exact Or.inl hnone
    · exact Or.inr ⟨n, j, r, hn, rfl, hone⟩
  · exact Or.inl (h.idle i fun q hq => hposted ⟨q, hq⟩)

/-- A request that was rejected leaves no message, and one that was not leaves one. -/
theorem messagesOf_of_requestsOf {who : Caller} {m : Outgoing} {r : Requested}
    (h : w.requestsOf who = [(m, r)]) :
    (∀ e, r = .error e → w.messagesOf who = []) ∧ (r = .ok () → w.messagesOf who = [m]) ∧
      ∀ m' ∈ w.messagesOf who, m' = m := by
  rw [messagesOf, h]
  cases r <;> simp

/-- The messages of a sender are those of the envelope that it has given to a job. -/
theorem Sound.posted_of_mem (h : Sound settings w) {i : Nat} {m : Outgoing}
    (hm : m ∈ w.messagesOf (.sender i)) : ∃ q, (i, q) ∈ w.exchange.posted ∧
      m = q.outgoing settings.quality := by
  rcases h.requestsOf_sender i with hnone | ⟨n, j, r, hj, rfl, hone⟩
  · rw [messagesOf, hnone] at hm
    cases hm
  · exact ⟨j.request, List.mem_of_getElem? (Exchange.posted_getElem? hj),
      (messagesOf_of_requestsOf hone).2.2 m hm⟩

/-- An envelope that has been published is a message. -/
theorem Sound.messagesOf_of_publishedAt (h : Sound settings w) {i t : Nat}
    (hpublished : w.exchange.PublishedAt i t) : ∃ m, w.messagesOf (.sender i) = [m] := by
  obtain ⟨n, j, c, k, hj, rfl, -, hout, hok⟩ := hpublished
  cases k with
  | brokenOff reason => cases hok
  | finished r =>
    obtain rfl : r = .ok () := hok
    have hdone := h.jobEnd n j _ t hj hout
    rcases (h.job n j hj).cases with ⟨-, hnot⟩ | ⟨r, hleft, hone⟩
    · exact absurd hdone (hnot _)
    · rw [hleft] at hdone
      cases hdone
      exact ⟨_, (messagesOf_of_requestsOf hone).2.1 rfl⟩

/-- **What a sender puts on the wire.** -/
theorem sender_wired [Link L] (timing : DeskClock) (settings : Settings) (l : L)
    (es : List (Event L)) (i : Nat) : SenderWired timing settings l es i where
  once := by
    rcases (sound timing settings l es).requestsOf_sender i with h | ⟨n, j, r, -, -, h⟩ <;> simp [h]
  rejected m e hm := by
    rcases (sound timing settings l es).requestsOf_sender i with h | ⟨n, j, r, -, -, h⟩
    · rw [h] at hm
      cases hm
    · rw [h, List.mem_singleton] at hm
      exact (messagesOf_of_requestsOf h).1 e (Prod.mk.inj hm).2.symm
  cancelled pre c hpre hc hnew hcancelled := by
    have hnone : ∀ q, (i, q) ∉ (play timing settings l es).exchange.posted := fun q => by
      rw [exchange_play] at hc hnew hcancelled ⊢
      exact Exchange.not_posted_of_cancelled (trace_isPrefix hpre) hc hnew hcancelled
    rw [messagesOf, (sound timing settings l es).idle i hnone]
    rfl
  awaited pre result hpre hs hresult := by
    rw [exchange_play] at hs
    obtain ⟨t, ht⟩ := Exchange.published_of_ended hs hresult
    have hnow := ht.of_isPrefix (trace_isPrefix hpre)
    rw [← exchange_play] at hnow
    exact (sound timing settings l es).messagesOf_of_publishedAt hnow
  carried m hm := by
    obtain ⟨q, hq, rfl⟩ := (sound timing settings l es).posted_of_mem hm
    rw [exchange_play] at hq
    obtain ⟨c, id, timestamp, hc, rfl, hbears, xs, r, hxs, hr, hid⟩ := Exchange.posted_bears hq
    obtain ⟨pre, hpre, rfl⟩ := exists_trace_eq hxs
    refine ⟨c, id, exchange_play es ▸ hc, isCommand_outgoing settings _ _ _ id timestamp,
      ⟨pre, r, hpre, exchange_play pre ▸ hr, hid⟩, fun pre hpre => ?_⟩
    rw [exchange_play]
    exact ⟨fun r => hbears.held _ r (trace_isPrefix hpre),
      fun result => hbears.result _ result (trace_isPrefix hpre)⟩

/-! ### Commands that nobody waits for -/

/-- What a command that nobody waits for puts on the wire in a run. -/
structure UnawaitedWired [Link L] (timing : DeskClock) (settings : Settings) (l : L)
    (es : List (Event L)) (k : Nat) : Prop where
  /-- It makes one request at most, and so causes one message at most. -/
  once : ((play timing settings l es).requestsOf (.unawaited k)).length ≤ 1
  /-- It causes none if the link has rejected its publishing. -/
  rejected : ∀ m e, (m, .error e) ∈ (play timing settings l es).requestsOf (.unawaited k) →
    (play timing settings l es).messagesOf (.unawaited k) = []
  /-- It has caused exactly one if it has returned its identifier. -/
  returned : ∀ pre id, pre <+: es → (play timing settings l pre).returned? k = some (.ok id) →
    ∃ m, (play timing settings l es).messagesOf (.unawaited k) = [m]
  /-- The message is that of the command, with the identifier that the call returns. -/
  carried : ∀ m ∈ (play timing settings l es).messagesOf (.unawaited k), ∃ c id,
    (play timing settings l es).calls[k]? = some c ∧
    IsCommand settings c.device c.kind c.arguments id m ∧
    ∀ pre id', pre <+: es → (play timing settings l pre).returned? k = some (.ok id') → id' = id

/-- What has been requested for a command that nobody waits for. -/
theorem Sound.requestsOf_unawaited (h : Sound settings w) (k : Nat) :
    w.requestsOf (.unawaited k) = [] ∨ ∃ c id timestamp r, w.calls[k]? = some c ∧
      w.callProgram k c = .done (sentOff id r) ∧ w.requestsOf (.unawaited k) =
        [((c.publishing id timestamp).outgoing settings.quality, r)] := by
  cases hc : w.calls[k]? with
  | none => exact Or.inl (h.noCall k (List.getElem?_eq_none_iff.1 hc)).2
  | some c =>
    rcases (h.call k c hc).cases with ⟨hnone, -⟩ | ⟨id, timestamp, r, hdone, hone⟩
    · exact Or.inl hnone
    · exact Or.inr ⟨c, id, timestamp, r, rfl, hdone, hone⟩

/-- A call that has returned stays as it is. -/
theorem callProgram_step [Link L] {k : Nat} {c : Unawaited} {o : Outcome}
    (hc : w.calls[k]? = some c) (h : w.callProgram k c = .done o) (e : Event L) :
    (w.step e).calls[k]? = some c ∧ (w.step e).callProgram k c = .done o := by
  cases e with
  | exchange e => exact ⟨hc, h⟩
  | breakOff n reason => exact ⟨hc, h⟩
  | drop k' => exact ⟨hc, h⟩
  | others l => exact ⟨hc, h⟩
  | send c' => exact ⟨(List.getElem?_append_left (List.getElem?_eq_some_iff.1 hc).1).trans hc, h⟩
  | turn t drawn wall =>
    show (w.proceed t drawn wall).calls[k]? = some c ∧
      (w.proceed t drawn wall).callProgram k c = .done o
    rw [proceed]
    split
    · next e next hprogram =>
      split
      · next a l requests _ =>
        refine ⟨hc, ?_⟩
        have hne : WireTask.call k ≠ t := by
          rintro rfl
          obtain ⟨c', hc', hleft⟩ := program?_call_eq_some hprogram
          cases hc.symm.trans hc'
          cases h.symm.trans hleft
        rw [callProgram, progress_answered_of_ne hne]
        exact h
      · exact ⟨hc, h⟩
    · exact ⟨hc, h⟩

theorem callProgram_play [Link L] {es pre : List (Event L)} {k : Nat} {id : String}
    (hpre : pre <+: es) (h : (play timing settings l pre).returned? k = some (.ok id)) :
    ∃ c, (play timing settings l es).calls[k]? = some c ∧
      (play timing settings l es).callProgram k c = .done (.sentOff (.ok id)) := by
  obtain ⟨post, rfl⟩ := hpre
  induction post using List.reverseRecOn with
  | nil =>
    rw [List.append_nil]
    rw [returned?] at h
    split at h
    · next r hprogram =>
      cases h
      exact program?_call_eq_some hprogram
    · cases h
  | append_singleton post e ih =>
    obtain ⟨c, hc, hdone⟩ := ih
    rw [← List.append_assoc, play_snoc]
    exact ⟨c, callProgram_step hc hdone e⟩

/-- **What a command that nobody waits for puts on the wire.** -/
theorem unawaited_wired [Link L] (timing : DeskClock) (settings : Settings) (l : L)
    (es : List (Event L)) (k : Nat) : UnawaitedWired timing settings l es k where
  once := by
    rcases (sound timing settings l es).requestsOf_unawaited k with
      h | ⟨c, id, timestamp, r, -, -, h⟩ <;> simp [h]
  rejected m e hm := by
    rcases (sound timing settings l es).requestsOf_unawaited k with
      h | ⟨c, id, timestamp, r, -, -, h⟩
    · rw [h] at hm
      cases hm
    · rw [h, List.mem_singleton] at hm
      exact (messagesOf_of_requestsOf h).1 e (Prod.mk.inj hm).2.symm
  returned pre id hpre h := by
    obtain ⟨c, hc, hdone⟩ := callProgram_play hpre h
    rcases ((sound timing settings l es).call k c hc).cases with
      ⟨-, hnot⟩ | ⟨id', timestamp, r, hleft, hone⟩
    · exact absurd hdone (hnot _)
    · rw [hleft] at hdone
      cases r with
      | error e => cases hdone
      | ok u => exact ⟨_, (messagesOf_of_requestsOf hone).2.1 rfl⟩
  carried m hm := by
    rcases (sound timing settings l es).requestsOf_unawaited k with
      h | ⟨c, id, timestamp, r, hc, hleft, h⟩
    · rw [messagesOf, h] at hm
      cases hm
    · obtain rfl := (messagesOf_of_requestsOf h).2.2 m hm
      refine ⟨c, id, hc, isCommand_outgoing settings _ _ _ id timestamp, fun pre id' hpre h' => ?_⟩
      obtain ⟨c', hc', hdone⟩ := callProgram_play hpre h'
      cases hc.symm.trans hc'
      rw [hleft] at hdone
      cases r with
      | error e => cases hdone
      | ok u =>
        cases hdone
        rfl

/-- **What commands put on the wire**, in every run and however they are sent. -/
theorem commands_wired [Link L] (timing : DeskClock) (settings : Settings) (l : L)
    (es : List (Event L)) : (∀ i, SenderWired timing settings l es i) ∧
      ∀ k, UnawaitedWired timing settings l es k :=
  ⟨sender_wired timing settings l es, unawaited_wired timing settings l es⟩

/-- A sender publishes, is answered and returns its reply, while a command is sent that nobody waits
for and whose caller drops it before it is published. -/
def answeredAndDropped : List (Event RecordingLink) :=
  [.exchange (.begin ⟨⟨[1]⟩, "lock-1", .unlock, .empty⟩), .send ⟨"lock-2", .config, .empty⟩,
    .exchange (.poll 0 (fun _ => "a") .epoch), .turn (.job 0) "" .epoch,
    .turn (.call 0) "b" .epoch, .turn (.job 0) "" .epoch, .drop 0, .turn (.call 0) "" .epoch,
    .turn (.job 0) "" .epoch, .exchange (.acknowledge ⟨"a", true, "opened", 0⟩),
    .exchange (.poll 0 (fun _ => "c") .epoch)]

example : ((play .standard .standard .empty answeredAndDropped).exchange.stage? 0,
    ((play .standard .standard .empty answeredAndDropped).messagesOf (.sender 0)).length,
    ((play .standard .standard .empty answeredAndDropped).messagesOf (.unawaited 0)).length) =
    (some (.ended (.ok ⟨"a", true, "opened"⟩)), 1, 0) := by rfl

end Wire

end LockFleet
