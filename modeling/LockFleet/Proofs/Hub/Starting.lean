import LockFleet.Broker.RecordingLink
import LockFleet.Proofs.Hub.Matching
import LockFleet.Proofs.Hub.Service
import LockFleet.Rehearsal.Stage

/-!
# Starting a hub

A start asks for all subscriptions to reports, whatever becomes of each.  If one of them fails, all
are taken back, and the connection is left as it was found; it does not matter whether the link
agrees to that.  Nothing that a failed start leaves behind ever gets to the store or is requested
again.

* `Registry.keep_setAll` — filters that are registered and removed again;
* `Hub.listen_ok`, `Hub.listen_error` — the requests of a start, and what they leave;
* `Service.start` — a start, from the connection on;
* `Service.AllOrNothing`, `Service.start_all_or_nothing` — what becomes of a start.
-/

namespace LockFleet

variable {H L S : Type}

/-! ### Tables -/

theorem filter_setEntry {κ α : Type} [DecidableEq κ] {test : κ → Bool} {key : κ}
    (h : test key = false) (v : α) (entries : List (κ × α)) :
    (setEntry key v entries).filter (fun e => test e.1) = entries.filter fun e => test e.1 := by
  induction entries with
  | nil => simp [setEntry, h]
  | cons e rest ih =>
    rw [setEntry]
    split
    · next hkey => simp [hkey, h]
    · rw [List.filter_cons, List.filter_cons, ih]

theorem Table.keep_insert {κ α : Type} [DecidableEq κ] (test : κ → Bool) {key : κ}
    (h : test key = false) (t : Table κ α) (v : α) :
    (t.insert key v).keep (fun k _ => test k) = t.keep fun k _ => test k := by
  rw [Table.keep, Table.keep, Table.mk.injEq]
  exact filter_setEntry h v t.entries

theorem Table.keep_of_all {κ α : Type} (test : κ → Bool) (t : Table κ α)
    (h : ∀ k ∈ t.keys, test k = true) : (t.keep fun k _ => test k) = t := by
  obtain ⟨entries, distinct⟩ := t
  rw [Table.keep, Table.mk.injEq]
  exact List.filter_eq_self.2 fun e he => h e.1 (List.mem_map_of_mem he)

namespace Registry

/-- **Filters that are set and then removed** leave the registry as it was without them. -/
theorem keep_setAll {t : Table String (Subscription H)} (entry : Subscription H)
    {filters : List String} (h : ∀ p ∈ filters, t.contains p = false) :
    (setAll t entry filters).keep (fun k _ => k ∉ filters) = t := by
  have hset : ∀ ps, (∀ p ∈ ps, p ∈ filters) →
      (setAll t entry ps).keep (fun k _ => k ∉ filters) = t.keep fun k _ => k ∉ filters := by
    intro ps
    induction ps using List.reverseRecOn with
    | nil => exact fun _ => rfl
    | append_singleton ps p ih =>
      intro hps
      have hp : decide (p ∉ filters) = false :=
        decide_eq_false fun hnot => hnot (hps p (List.mem_append_right _ (List.mem_singleton_self p)))
      rw [setAll, List.foldl_append]
      exact (Table.keep_insert (fun k => decide (k ∉ filters)) hp _ entry).trans
        (ih fun q hq => hps q (List.mem_append_left _ hq))
  rw [hset filters fun p hp => hp]
  refine Table.keep_of_all (fun k => decide (k ∉ filters)) t fun k hk => ?_
  refine decide_eq_true fun hmem => ?_
  rw [t.mem_keys_iff, h k hmem] at hk
  cases hk

end Registry

namespace Hub

open Registry (Issued IsFirstFailure isFirstFailure run)

variable [Link L] {quality : Quality} {router : H} {b b' : Broker H} {l l' : L}
  {e : TransportError}

/-! ### Subscriptions -/

theorem listen_eq (quality : Quality) (router : H) :
    listen quality router = (Listening.start quality router).bind fun
      | .ok _ => .done (.ok ())
      | .error e => Listening.stop.bind fun _ => .done (.error e) :=
  rfl

/-- All filters are registered, and all subscriptions are requested. -/
theorem listening_start (quality : Quality) (router : H) (b : Broker H) (l : L) :
    (run (Listening.start quality router) b l).2.1 =
        { b with registry := Registry.setAll b.registry ⟨quality, router⟩ Listening.patterns } ∧
      (Registry.issued (Listening.start quality router) b l).map Issued.request =
        Listening.patterns.map (.subscribe · quality) ∧
      (run (Listening.start quality router) b l).1 = Registry.firstFailure
        ((Registry.issued (Listening.start quality router) b l).map Issued.outcome) := by
  obtain ⟨-, hissued, hresult⟩ := Registry.subscribeAll_spec quality
    (Listening.patterns.map fun p => (p, router)) b _ l rfl
  refine ⟨Registry.registry_of_subscribeAll quality router Listening.patterns b l, ?_, hresult⟩
  rw [List.map_map] at hissued
  exact Registry.map_request hissued

/-- All subscriptions are asked to end, and all filters are removed. -/
theorem listening_stop (b : Broker H) (l : L) :
    (run (Listening.stop (H := H)) b l).2.1 =
        { b with registry := b.registry.keep fun k _ => k ∉ Listening.patterns } ∧
      (Registry.issued (Listening.stop (H := H)) b l).map Issued.request =
        Listening.patterns.map .unsubscribe := by
  obtain ⟨hbroker, hissued, -⟩ := Registry.unsubscribe_spec Listening.patterns b l
  exact ⟨hbroker, Registry.map_request hissued⟩

/-- A start whose subscriptions succeed does nothing else. -/
theorem listen_ok (h : run (Listening.start quality router) b l = (.ok (), b', l')) :
    run (listen quality router) b l = (.ok (), b', l') ∧
      Registry.issued (listen quality router) b l =
        Registry.issued (Listening.start quality router) b l := by
  rw [listen_eq, Registry.run_bind, Registry.issued_bind, h]
  exact ⟨rfl, List.append_nil _⟩

/-- A start of which a subscription fails takes all of them back. -/
theorem listen_error (h : run (Listening.start quality router) b l = (.error e, b', l')) :
    run (listen quality router) b l = (.error e, (run (Listening.stop (H := H)) b' l').2) ∧
      Registry.issued (listen quality router) b l =
        Registry.issued (Listening.start quality router) b l ++
          Registry.issued (Listening.stop (H := H)) b' l' := by
  rw [listen_eq, Registry.run_bind, Registry.issued_bind, h]
  exact ⟨Registry.run_map _ _ _ _, congrArg _ (Registry.issued_map _ _ _ _)⟩

/-! ### Starts -/

namespace Service

/-- The periodic tasks of a hub, before their first poll. -/
def routinesOf (desk : DeskTiming) (watchdog : Option WatchdogTiming) (token : Token)
    (number : Nat) : List Routine :=
  ⟨token.child number, .sweep, .fresh desk.cleanupInterval⟩ :: watchdog.toList.map fun timing =>
    ⟨token.child (number + 1), .scan timing.offlineAfter, .fresh timing.checkInterval⟩

/-- A start over a connection, with the result and with the hub, or what is left of it.  New tokens
get the numbers from `number` on. -/
def start (s : Equipment H S) (watchdog : Option WatchdogTiming) (number : Nat) (b : Broker H)
    (l : L) (bench : Bench S) : Requested × Service H L S :=
  let token := Token.root number
  let operation := listen b.settings.quality s.router
  let (r, broker, link) := run operation b l
  let hub : Service H L S :=
    { working := ⟨broker, bench, token.child (number + 1), []⟩
      link
      calls := []
      issued := Registry.issued operation b l
      token
      routines := []
      tasks := []
      closing := .unasked }
  match r with
  | .error e => (.error e, hub.happen (.cancel token))
  | .ok _ =>
    let routines := routinesOf s.desk.toDeskTiming watchdog token (number + 2)
    (.ok (), { hub with routines, tasks := List.range routines.length })

/-- What a failed start leaves behind over a connection. -/
structure LeavesNothing [DecidableEq H] (s : Equipment H S) (b : Broker H) (x : Service H L S) :
    Prop where
  /-- After the requests for subscriptions come the requests to end them. -/
  retracts : (x.issued.drop Listening.patterns.length).map Issued.request =
    Listening.patterns.map .unsubscribe
  /-- The connection is as it was before, its registry included. -/
  broker : x.working.broker = b
  /-- There is no sweep and no watchdog. -/
  routines : x.routines = []
  /-- Whatever happens, the hub does not get to the store. -/
  untouched : ∀ es, Run.Along (step s) (fun x e => e.LeavesStore x) x es →
    (play s x es).working.bench.store = x.working.bench.store
  /-- Nobody asks for a filter for reports again, unless it is registered by a caller. -/
  unasked : ∀ p ∈ Listening.patterns, ∀ es,
    Run.Along (step s) (fun x e => ¬ e.Registers p x) x es →
      ∀ i ∈ Run.gather (step s) issues x es, ∀ quality, i.request ≠ .subscribe p quality

/-- What becomes of a start over a connection, with its result and with the hub. -/
structure AllOrNothing [DecidableEq H] (s : Equipment H S) (b : Broker H)
    (started : Requested × Service H L S) : Prop where
  /-- First all subscriptions are requested, in order and past any failure. -/
  requests : (started.2.issued.take Listening.patterns.length).map Issued.request =
    Listening.patterns.map (.subscribe · b.settings.quality)
  /-- The result is the first failure among these requests. -/
  result : IsFirstFailure ((started.2.issued.take Listening.patterns.length).map Issued.outcome)
    started.1
  /-- Without a failure nothing else is requested, and the filters for reports are registered in
  addition to what there was. -/
  succeeds : started.1 = .ok () → started.2.issued.length = Listening.patterns.length ∧
    ∀ p, started.2.working.broker.registry.find? p =
      if p ∈ Listening.patterns then some ⟨b.settings.quality, s.router⟩ else b.registry.find? p
  fails : ∀ e, started.1 = .error e → LeavesNothing s b started.2

variable [DecidableEq H] {s : Equipment H S} {watchdog : Option WatchdogTiming} {number : Nat}
  {bench : Bench S}

/-- A connection without hub: what is left of a failed start. -/
theorem leavesNothing {x : Service H L S} (hrouter : x.working.token.isCancelled
      (x.working.exchange s).cancelled = true) (herrands : x.working.errands = [])
    (hcalls : x.calls = []) (hroutines : x.routines = []) (hclosing : x.closing = .unasked)
    (hretracts : (x.issued.drop Listening.patterns.length).map Issued.request =
      Listening.patterns.map .unsubscribe)
    (hbroker : x.working.broker = b)
    (hfree : ∀ p ∈ Listening.patterns, b.registry.contains p = false) : LeavesNothing s b x where
  retracts := hretracts
  broker := hbroker
  routines := hroutines
  untouched es hes := by
    refine store_play ⟨hrouter, ?_⟩ ?_ hes
    · rw [Working.Under, herrands]
      intro a ha
      cases ha
    · rw [AtRest, hroutines]
      intro r hr
      cases hr
  unasked p hp es hes i hi quality hrequest := by
    have habsent : Shared.Absent p 0 x.shared := by
      refine ⟨?_, fun k c _ hc => ?_⟩
      · show x.working.broker.registry.contains p = false
        rw [hbroker, hfree p hp]
      · rw [show x.shared.calls = [] from hcalls] at hc
        cases hc
    have hquiet : x.PartsQuietly := by
      intro k hk
      rw [hclosing] at hk
      cases hk
    obtain ⟨pre, e, hpre, hi⟩ := Run.mem_gather hi
    have hpre' := ((Run.along_snoc pre e).1 (hes.of_isPrefix hpre)).1
    obtain ⟨k, hk, -⟩ := asked_before (absent_play habsent hquiet hpre')
      (partsQuietly_play hquiet s pre) hi hrequest
    exact Nat.not_lt_zero k hk

omit [DecidableEq H] in
theorem start_ok (h : run (Listening.start b.settings.quality s.router) b l = (.ok (), b', l')) :
    start s watchdog number b l bench = (.ok (),
      { working := ⟨b', bench, (Token.root number).child (number + 1), []⟩
        link := l'
        calls := []
        issued := Registry.issued (Listening.start b.settings.quality s.router) b l
        token := Token.root number
        routines := routinesOf s.desk.toDeskTiming watchdog (Token.root number) (number + 2)
        tasks := List.range
          (routinesOf s.desk.toDeskTiming watchdog (Token.root number) (number + 2)).length
        closing := .unasked }) := by
  rw [start]
  dsimp only
  rw [(listen_ok h).1, (listen_ok h).2]

omit [DecidableEq H] in
theorem start_error (h : run (Listening.start b.settings.quality s.router) b l =
      (.error e, b', l')) :
    start s watchdog number b l bench = (.error e,
      { working := ⟨(run (Listening.stop (H := H)) b' l').2.1,
          { bench with past := bench.past ++ [.cancel (Token.root number)] },
          (Token.root number).child (number + 1), []⟩
        link := (run (Listening.stop (H := H)) b' l').2.2
        calls := []
        issued := Registry.issued (Listening.start b.settings.quality s.router) b l ++
          Registry.issued (Listening.stop (H := H)) b' l'
        token := Token.root number
        routines := []
        tasks := []
        closing := .unasked }) := by
  rw [start]
  dsimp only
  rw [(listen_error h).1, (listen_error h).2]
  rfl

omit [DecidableEq H] in
/-- The subscriptions of a start that succeeds have succeeded. -/
theorem listening_of_start (h : (start s watchdog number b l bench).1 = .ok ()) :
    ∃ b' l', run (Listening.start b.settings.quality s.router) b l = (.ok (), b', l') := by
  obtain ⟨⟨r, b', l'⟩, hstart⟩ : ∃ ran, run (Listening.start b.settings.quality s.router) b l = ran :=
    ⟨_, rfl⟩
  cases r with
  | ok u => exact ⟨b', l', hstart⟩
  | error e =>
    rw [start_error hstart] at h
    cases h

/-- **A start gives all or nothing.** -/
theorem start_all_or_nothing (hfree : ∀ p ∈ Listening.patterns, b.registry.contains p = false) :
    AllOrNothing s b (start s watchdog number b l bench) := by
  obtain ⟨hbroker, hrequests, hresult⟩ := listening_start b.settings.quality s.router b l
  have hfirst := isFirstFailure ((Registry.issued
    (Listening.start b.settings.quality s.router) b l).map Issued.outcome)
  have hlength := congrArg List.length hrequests
  rw [List.length_map, List.length_map] at hlength
  rw [← hresult] at hfirst
  obtain ⟨⟨r, b', l'⟩, hstart⟩ : ∃ ran, run (Listening.start b.settings.quality s.router) b l = ran :=
    ⟨_, rfl⟩
  rw [hstart] at hfirst hbroker
  change b' = _ at hbroker
  cases r with
  | ok u =>
    rw [start_ok hstart]
    refine ⟨?_, ?_, fun _ => ⟨hlength, fun p => ?_⟩, nofun⟩
    · rw [List.take_of_length_le (Nat.le_of_eq hlength)]
      exact hrequests
    · rw [List.take_of_length_le (Nat.le_of_eq hlength)]
      exact hfirst
    · show b'.registry.find? p = _
      rw [hbroker]
      exact Registry.find?_setAll b.registry _ Listening.patterns p
  | error e =>
    obtain ⟨hstopped, hends⟩ := listening_stop b' l'
    rw [start_error hstart]
    refine ⟨?_, ?_, nofun, fun _ _ => leavesNothing ?_ rfl rfl rfl rfl ?_ ?_ hfree⟩
    · rw [List.take_left' hlength]
      exact hrequests
    · rw [List.take_left' hlength]
      exact hfirst
    · -- the token of the router is below that of the hub, which has been cancelled
      show ((Token.root number).child (number + 1)).isCancelled
        (Exchange.play s.desk (bench.past ++ [.cancel (Token.root number)])).cancelled = true
      rw [Exchange.play, Run.after_snoc]
      exact (Token.isCancelled_cancel (t := Token.root number) (n := number) rfl _).2
        (Or.inl (List.mem_cons_of_mem _ (List.mem_singleton_self number)))
    · rw [List.drop_left' hlength]
      exact hends
    · show (run (Listening.stop (H := H)) b' l').2.1 = b
      rw [hstopped, hbroker, Registry.keep_setAll _ hfree]

/-- A link that refuses two of the subscriptions and every request to end one. -/
def refusing : RecordingLink :=
  { RecordingLink.empty with
    failing := ["device/+/ack", "device/+/status"]
    failUnsubscribe := true }

theorem start_all_or_nothing_refusing :
    (∀ p ∈ Listening.patterns, watched.registry.contains p = false) ∧
      AllOrNothing Working.equipment watched
        (start Working.equipment (some .standard) 0 watched refusing ⟨[], Store.empty⟩) ∧
      (start Working.equipment (some .standard) 0 watched refusing ⟨[], Store.empty⟩).1 =
        .error (.subscribe "device/+/status" RecordingLink.injected) := by
  have hfree : ∀ p ∈ Listening.patterns, watched.registry.contains p = false := by decide
  exact ⟨hfree, start_all_or_nothing hfree, by decide⟩

end Service

end Hub

/-! ### The start of a rehearsal -/

namespace Rehearsal

/-- The periodic task among tasks, by its token and its chore. -/
def Running.routine? (r : Running) : Option (Token × Chore) :=
  match r.task with
  | .periodic token chore _ => some (token, chore)
  | _ => none

namespace World

theorem startChores_routines (w : World) (token : Token) (settings : HubSettings) :
    (w.startChores token settings).2.tasks.filterMap Running.routine? =
      w.tasks.filterMap Running.routine? ++
        (Hub.Service.routinesOf settings.desk settings.watchdog token w.nextToken).map
          fun r => (r.token, r.chore) := by
  obtain ⟨desk, router, watchdog⟩ := settings
  cases watchdog with
  | none => exact List.filterMap_append
  | some timing =>
    show ((w.tasks ++ [_]) ++ [_]).filterMap Running.routine? = _
    rw [List.append_assoc]
    exact List.filterMap_append

theorem startChores_connection (w : World) (token : Token) (settings : HubSettings) :
    (w.startChores token settings).2.broker = w.broker ∧
      (w.startChores token settings).2.link = w.link := by
  obtain ⟨desk, router, watchdog⟩ := settings
  cases watchdog <;> exact ⟨rfl, rfl⟩

/-- **A rehearsal starts its hub in this way**: with the same result, over the same connection, and
with the same periodic tasks. -/
theorem startHub_eq (w : World) (settings : HubSettings) {s : Hub.Equipment Handler S}
    (hrouter : s.router = .router) (hdesk : s.desk.toDeskTiming = settings.desk)
    (bench : Hub.Bench S) {started : Requested × Hub.Service Handler RecordingLink S}
    (hstarted : started =
      Hub.Service.start s settings.watchdog w.nextToken w.broker w.link bench) :
    (w.startHub settings).1 = started.1 ∧
      (w.startHub settings).2.broker = started.2.working.broker ∧
      (w.startHub settings).2.link = started.2.link ∧
      (w.startHub settings).2.tasks.filterMap Running.routine? =
        w.tasks.filterMap Running.routine? ++ started.2.routines.map fun r => (r.token, r.chore) := by
  subst hstarted
  rw [startHub, Hub.Service.start, hrouter, hdesk]
  dsimp only [freshToken, childToken, operate, quality]
  generalize Registry.run (Hub.listen w.broker.settings.quality .router) w.broker w.link = ran
  obtain ⟨r, b, l⟩ := ran
  cases r with
  | error e => exact ⟨rfl, rfl, rfl, (List.append_nil _).symm⟩
  | ok u =>
    exact ⟨rfl, (startChores_connection _ _ settings).1, (startChores_connection _ _ settings).2,
      startChores_routines _ _ settings⟩

end World

end Rehearsal

end LockFleet
