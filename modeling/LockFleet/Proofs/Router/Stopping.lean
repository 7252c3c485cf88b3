import LockFleet.Broker.RecordingLink
import LockFleet.Proofs.Router.Relay

/-!
# Stopping a router

A dispatch runs under the token that was current when it began.  A start replaces this token and
leaves the old one alone, so that a stop abandons the dispatches that have begun since the last
start, and no others.  What begins after a stop is abandoned at once, until the next start.

* `Relay.IsTracked`, `Relay.isTracked` — under which token each dispatch runs;
* `Relay.Abandoned`, `Relay.abandoned` — a dispatch whose token has been cancelled;
* `Relay.Began.abandoned_iff`, `Relay.given_up` — dispatches before and after a stop;
* `Relay.Stops`, `Relay.stop_abandons` — what a stop abandons.
-/

namespace LockFleet

/-! ### Polls -/

namespace Dispatch

variable {σ W : Type} {v : View} {timing : RouterClock} {current token : Token}
  {begins : Message → σ} {turn : Step σ W} {alarm : Alarm} {handler : σ} {d : Dispatch σ} {w : W}

/-- A dispatch whose token has been cancelled ends without its handler. -/
theorem poll_cancelled (h : v.isCancelled token = true) :
    poll v timing current begins turn (.running token alarm handler) w =
      (.ended .cancelled, w) := by
  show proceed v turn token alarm handler w = _
  rw [proceed, h, if_pos rfl]

/-- A dispatch that begins under a cancelled token ends without a handler, if it can be decoded. -/
theorem poll_fresh_cancelled {topic : String} {payload : Bytes} {m : Message}
    (hm : Message.decode topic payload = .ok m) (h : v.isCancelled current = true) :
    poll v timing current begins turn (.fresh topic payload) w = (.ended .cancelled, w) := by
  show begin v timing current begins turn topic payload w = _
  rw [begin, hm]
  show proceed v turn current _ _ w = _
  rw [proceed, h, if_pos rfl]

/-- A dispatch whose token has not been cancelled is not given up. -/
theorem poll_not_cancelled (h : v.isCancelled token = false) :
    (poll v timing current begins turn (.running token alarm handler) w).1 ≠ .ended .cancelled := by
  show (proceed v turn token alarm handler w).1 ≠ _
  rw [proceed, h, if_neg Bool.false_ne_true]
  split
  · next result w' _ =>
    cases result with
    | ok u => exact fun h => by cases h
    | error e => exact fun h => by cases h
  · split
    · exact fun h => by cases h
    · exact fun h => by cases h

/-- A handler that goes on does so under its token. -/
theorem token_of_proceed {token' : Token} {alarm' : Alarm} {handler' : σ}
    (h : (proceed v turn token alarm handler w).1 = .running token' alarm' handler') :
    token' = token := by
  rw [proceed] at h
  split at h
  · cases h
  · split at h
    · cases h
    · split at h
      · cases h
      · cases h
        rfl

/-- A dispatch that runs after a poll ran before it under the same token, or has begun under the
current one. -/
theorem token_of_poll
    (h : (poll v timing current begins turn d w).1 = .running token alarm handler) :
    (∃ alarm' handler', d = .running token alarm' handler') ∨
      ∃ topic payload, d = .fresh topic payload ∧ token = current := by
  cases d with
  | fresh topic payload =>
    right
    have hbegin : (begin v timing current begins turn topic payload w).1 =
      .running token alarm handler := h
    rw [begin] at hbegin
    split at hbegin
    · cases hbegin
    · exact ⟨topic, payload, rfl, token_of_proceed hbegin⟩
  | running token' alarm' handler' =>
    left
    have htoken : token = token' := token_of_proceed h
    exact ⟨alarm', handler', by rw [htoken]⟩
  | ended outcome => cases h

end Dispatch

namespace Relay

variable {H L σ W : Type} [DecidableEq H] [Link L] {r : Setup H σ W} {x x₀ : Relay H L σ W}
  {e : Event H L W} {es : List (Event H L W)} {i : Nat} {token : Token} {alarm : Alarm}
  {handler : σ}

/-! ### Tokens of dispatches -/

/-- A dispatch that was not there before a step is fresh after it. -/
theorem dispatch?_new {d : Dispatch σ} (h : x.dispatch? i = none)
    (h' : (x.step r e).dispatch? i = some d) : ∃ topic payload, d = .fresh topic payload := by
  have hlen : x.errands.length ≤ i := List.getElem?_eq_none_iff.1 (Option.map_eq_none_iff.1 h)
  have hnone : x.dispatch? i = some d → ∃ topic payload, d = .fresh topic payload := by
    intro hsome
    rw [h] at hsome
    cases hsome
  cases e with
  | route topic payload =>
    have hget : (x.errands ++ [⟨.fresh topic payload, false⟩])[i]?.map Errand.dispatch = some d :=
      h'
    rw [List.getElem?_append_right hlen] at hget
    obtain ⟨a, ha, rfl⟩ := Option.map_eq_some_iff.1 hget
    obtain rfl := List.mem_singleton.1 (List.mem_of_getElem? ha)
    exact ⟨topic, payload, rfl⟩
  | deliver topic payload =>
    have hget : (x.errands ++ ((x.broker.accept topic).1.filter (· = r.router)).map
      fun _ => ⟨.fresh topic payload, true⟩)[i]?.map Errand.dispatch = some d := h'
    rw [List.getElem?_append_right hlen] at hget
    obtain ⟨a, ha, rfl⟩ := Option.map_eq_some_iff.1 hget
    obtain ⟨_, -, rfl⟩ := List.mem_map.1 (List.mem_of_getElem? ha)
    exact ⟨topic, payload, rfl⟩
  | poll j wall =>
    rw [step] at h'
    split at h'
    · next a ha =>
      have hget : (x.errands.set j _)[i]?.map Errand.dispatch = some d := h'
      rw [List.getElem?_eq_none_iff.2 (by rw [List.length_set]; exact hlen)] at hget
      cases hget
    · exact hnone h'
  | _ => exact hnone h'

/-- A dispatch that runs after a step ran before it under the same token, or it has begun in this
step under the token of the router. -/
theorem running_of_step
    (h : (x.step r e).dispatch? i = some (.running token alarm handler)) :
    (∃ alarm' handler', x.dispatch? i = some (.running token alarm' handler')) ∨
      ∃ wall topic payload, e = .poll i wall ∧ x.dispatch? i = some (.fresh topic payload) ∧
        token = x.token := by
  cases hd : x.dispatch? i with
  | none =>
    obtain ⟨topic, payload, hfresh⟩ := dispatch?_new hd h
    cases hfresh
  | some d =>
    by_cases he : ∃ wall, e = .poll i wall
    · obtain ⟨wall, rfl⟩ := he
      rw [(dispatch?_poll hd wall).1] at h
      rcases Dispatch.token_of_poll (Option.some.inj h) with
        ⟨alarm', handler', rfl⟩ | ⟨topic, payload, rfl, htoken⟩
      · exact Or.inl ⟨alarm', handler', rfl⟩
      · exact Or.inr ⟨wall, topic, payload, rfl, rfl, htoken⟩
    · rw [dispatch?_step hd fun wall hw => he ⟨wall, hw⟩] at h
      exact Or.inl ⟨alarm, handler, h⟩

/-- Where the dispatch of a number that runs under a token has begun, and what has become of the
token of the router since then. -/
structure Began (r : Setup H σ W) (x₀ : Relay H L σ W) (es : List (Event H L W)) (i : Nat)
    (token : Token) (pre mid : List (Event H L W)) : Prop where
  polled : ∃ wall, es = pre ++ .poll i wall :: mid
  fresh : ∃ topic payload, (play r x₀ pre).dispatch? i = some (.fresh topic payload)
  /-- Without a start the token is still that of the router. -/
  current : (∀ e ∈ mid, e.isStart = false) → (play r x₀ es).token = token
  /-- The token of a later start is not above it. -/
  replaced : (∃ e ∈ mid, e.isStart = true) →
    ∀ n, (play r x₀ es).token.path.head? = some n → n ∉ token.path

/-- The tokens of a relay after a run. -/
structure IsTracked (r : Setup H σ W) (x₀ : Relay H L σ W) (es : List (Event H L W)) : Prop where
  named : ∃ n, (play r x₀ es).token.path.head? = some n
  known : (play r x₀ es).Knows (play r x₀ es).token
  running : ∀ i token alarm handler,
    (play r x₀ es).dispatch? i = some (.running token alarm handler) →
      (play r x₀ es).Knows token ∧ ∃ pre mid, Began r x₀ es i token pre mid

theorem isTracked_fresh (r : Setup H σ W) (broker : Broker H) (link : L) (world : W) :
    IsTracked r (Relay.fresh broker link world) [] := by
  refine ⟨⟨0, rfl⟩, fun n hn => ?_, fun i token alarm handler h => ?_⟩
  · obtain rfl := List.mem_singleton.1 hn
    exact Nat.zero_lt_one
  · cases h

/-- A start puts a token in place that no dispatch runs under, or below. -/
theorem Began.snoc {pre mid : List (Event H L W)} (h : Began r x₀ es i token pre mid)
    (hknown : (play r x₀ es).Knows token) (e : Event H L W) :
    Began r x₀ (es ++ [e]) i token pre (mid ++ [e]) := by
  obtain ⟨⟨wall, hes⟩, hfresh, hcurrent, hreplaced⟩ := h
  refine ⟨⟨wall, ?_⟩, hfresh, fun hno => ?_, fun hsome n hn hmem => ?_⟩
  · rw [hes, List.append_assoc, List.cons_append]
  · have he : e.isStart = false := hno e (List.mem_append_right _ (List.mem_singleton_self e))
    rw [play_snoc, token_step he]
    exact hcurrent fun e' he' => hno e' (List.mem_append_left _ he')
  · cases hstart : e.isStart with
    | true =>
      cases e with
      | start parent =>
        rw [play_snoc] at hn
        -- The new token has a number that has not been given out before.
        obtain rfl : (play r x₀ es).nextToken = n := Option.some.inj hn
        exact Nat.lt_irrefl _ (hknown _ hmem)
      | _ => cases hstart
    | false =>
      rw [play_snoc, token_step hstart] at hn
      refine hreplaced ?_ n hn hmem
      obtain ⟨e', he', hstart'⟩ := hsome
      rcases List.mem_append.1 he' with he' | he'
      · exact ⟨e', he', hstart'⟩
      · obtain rfl := List.mem_singleton.1 he'
        rw [hstart] at hstart'
        cases hstart'

theorem IsTracked.snoc (h : IsTracked r x₀ es) {e : Event H L W} (he : (play r x₀ es).WellMade e) :
    IsTracked r x₀ (es ++ [e]) := by
  obtain ⟨hnamed, hknown, hrunning⟩ := h
  refine ⟨?_, ?_, fun i token alarm handler hi => ?_⟩
  · cases e with
    | start parent =>
      rw [play_snoc]
      exact ⟨(play r x₀ es).nextToken, rfl⟩
    | _ =>
      rw [play_snoc, token_step rfl]
      exact hnamed
  · cases e with
    | start parent =>
      rw [play_snoc]
      intro n hn
      show n < (play r x₀ es).nextToken + 1
      rcases List.mem_cons.1 hn with rfl | hn
      · exact Nat.lt_succ_self _
      · exact Nat.lt_succ_of_lt (he n hn)
    | _ =>
      rw [play_snoc, token_step rfl]
      exact hknown.step _
  · rw [play_snoc] at hi
    rcases running_of_step hi with
      ⟨alarm', handler', hbefore⟩ | ⟨wall, topic, payload, rfl, hfresh, rfl⟩
    · obtain ⟨hk, pre, mid, hbegan⟩ := hrunning i token alarm' handler' hbefore
      refine ⟨?_, pre, mid ++ [e], hbegan.snoc hk e⟩
      rw [play_snoc]
      exact hk.step e
    · refine ⟨?_, es, [], ⟨wall, rfl⟩, ⟨topic, payload, hfresh⟩, fun _ => ?_, fun hsome => ?_⟩
      · rw [play_snoc]
        exact hknown.step _
      · rw [play_snoc, token_step rfl]
      · obtain ⟨e', he', -⟩ := hsome
        cases he'

/-- **Every dispatch that runs has begun under the token that was current then.** -/
theorem isTracked {broker : Broker H} {link : L} {world : W}
    (h : Run.Along (step r) WellMade (Relay.fresh broker link world) es) :
    IsTracked r (Relay.fresh broker link world) es := by
  induction es using List.reverseRecOn with
  | nil => exact isTracked_fresh r broker link world
  | append_singleton es e ih =>
    obtain ⟨hes, he⟩ := (Run.along_snoc es e).1 h
    exact (ih hes).snoc he

/-! ### Abandoned dispatches -/

/-- A dispatch that ends at its next poll, whenever this is, without a step of its handler. -/
structure Abandoned (r : Setup H σ W) (x : Relay H L σ W) (i : Nat) : Prop where
  /-- It stays as it is until it ends. -/
  rests : ∀ post, (play r x post).dispatch? i = x.dispatch? i ∨
    (play r x post).dispatch? i = some (.ended .cancelled)
  /-- It ends cancelled at a poll, and what handlers work on is not touched. -/
  ends : ∀ post wall, (play r x (post ++ [.poll i wall])).dispatch? i = some (.ended .cancelled) ∧
    (play r x (post ++ [.poll i wall])).world = (play r x post).world

/-- A dispatch whose token has been cancelled is abandoned. -/
theorem abandoned (h : x.dispatch? i = some (.running token alarm handler))
    (ht : token.isCancelled x.cancelled = true) : Abandoned r x i := by
  have hpoll : ∀ post wall, ((play r x post).dispatch? i = some (.running token alarm handler) ∨
      (play r x post).dispatch? i = some (.ended .cancelled)) →
      (play r x (post ++ [.poll i wall])).dispatch? i = some (.ended .cancelled) ∧
        (play r x (post ++ [.poll i wall])).world = (play r x post).world := by
    intro post wall hpost
    have hcancelled : ((play r x post).view wall).isCancelled token = true :=
      isCancelled_play post ht
    rw [play_snoc]
    rcases hpost with hrun | hend
    · rw [(dispatch?_poll hrun wall).1, (dispatch?_poll hrun wall).2,
        Dispatch.poll_cancelled hcancelled]
      exact ⟨rfl, rfl⟩
    · rw [(dispatch?_poll hend wall).1, (dispatch?_poll hend wall).2]
      exact ⟨rfl, rfl⟩
  have hrests : ∀ post, (play r x post).dispatch? i = some (.running token alarm handler) ∨
      (play r x post).dispatch? i = some (.ended .cancelled) := by
    intro post
    induction post using List.reverseRecOn with
    | nil => exact Or.inl h
    | append_singleton post e ih =>
      by_cases he : ∃ wall, e = .poll i wall
      · obtain ⟨wall, rfl⟩ := he
        exact Or.inr (hpoll post wall ih).1
      · have hother : ∀ wall, e ≠ .poll i wall := fun wall hw => he ⟨wall, hw⟩
        rw [play_snoc]
        exact ih.imp (fun hd => dispatch?_step hd hother) fun hd => dispatch?_step hd hother
  refine ⟨fun post => ?_, fun post wall => hpoll post wall (hrests post)⟩
  rw [h]
  exact hrests post

/-- A dispatch is abandoned only if its token has been cancelled. -/
theorem isCancelled_of_abandoned (h : x.dispatch? i = some (.running token alarm handler))
    (ha : Abandoned r x i) : token.isCancelled x.cancelled = true := by
  cases ht : token.isCancelled x.cancelled with
  | true => rfl
  | false =>
    have hend := (ha.ends [] .epoch).1
    have hview : (x.view .epoch).isCancelled token = false := ht
    rw [List.nil_append, show play r x [.poll i .epoch] = x.step r (.poll i .epoch) from rfl,
      (dispatch?_poll h .epoch).1] at hend
    exact absurd (Option.some.inj hend) (Dispatch.poll_not_cancelled hview)

/-- The token of the router stays as it is without a start. -/
theorem token_play {post : List (Event H L W)} (h : ∀ e ∈ post, e.isStart = false) :
    (play r x post).token = x.token := by
  induction post using List.reverseRecOn with
  | nil => rfl
  | append_singleton post e ih =>
    rw [play_snoc, token_step (h e (List.mem_append_right _ (List.mem_singleton_self e)))]
    exact ih fun e' he' => h e' (List.mem_append_left _ he')

/-- A report that can be decoded is given up while the router has a cancelled token. -/
theorem given_up {post : List (Event H L W)} {topic : String} {payload : Bytes} {m : Message}
    (ht : x.token.isCancelled x.cancelled = true) (hpost : ∀ e ∈ post, e.isStart = false)
    (hfresh : (play r x post).dispatch? i = some (.fresh topic payload))
    (hm : Message.decode topic payload = .ok m) (wall : Moment) :
    (play r x (post ++ [.poll i wall])).dispatch? i = some (.ended .cancelled) ∧
      (play r x (post ++ [.poll i wall])).world = (play r x post).world := by
  have hcancelled : ((play r x post).view wall).isCancelled (play r x post).token = true := by
    rw [token_play hpost]
    exact isCancelled_play post ht
  rw [play_snoc, (dispatch?_poll hfresh wall).1, (dispatch?_poll hfresh wall).2,
    Dispatch.poll_fresh_cancelled hm hcancelled]
  exact ⟨rfl, rfl⟩

/-- A stop cancels the token of the router and all tokens below it. -/
theorem isCancelled_stop {n : Nat} (hn : (play r x₀ es).token.path.head? = some n) (t : Token) :
    t.isCancelled (play r x₀ (es ++ [.stop])).cancelled = true ↔
      n ∈ t.path ∨ t.isCancelled (play r x₀ es).cancelled = true := by
  rw [play_snoc]
  exact Token.isCancelled_cancel hn _

/-- A dispatch in flight is abandoned by a stop if there has been no start since it began, or if its
token had been cancelled before. -/
theorem Began.abandoned_iff {pre mid : List (Event H L W)} (h : Began r x₀ es i token pre mid)
    {n : Nat} (hn : (play r x₀ es).token.path.head? = some n)
    (hi : (play r x₀ es).dispatch? i = some (.running token alarm handler)) :
    Abandoned r (play r x₀ (es ++ [.stop])) i ↔
      (∀ e ∈ mid, e.isStart = false) ∨ token.isCancelled (play r x₀ es).cancelled = true := by
  have hi' : (play r x₀ (es ++ [.stop])).dispatch? i = some (.running token alarm handler) := by
    rw [play_snoc]
    exact dispatch?_step hi fun wall hw => by cases hw
  constructor
  · intro ha
    rcases (isCancelled_stop hn token).1 (isCancelled_of_abandoned hi' ha) with hmem | hbefore
    · left
      intro e he
      cases hstart : e.isStart with
      | false => rfl
      | true => exact absurd hmem (h.replaced ⟨e, he, hstart⟩ n hn)
    · exact Or.inr hbefore
  · intro hor
    refine abandoned hi' ((isCancelled_stop hn token).2 ?_)
    rcases hor with hno | hbefore
    · left
      rw [← h.current hno]
      exact List.mem_of_mem_head? hn
    · exact Or.inr hbefore

/-- What a stop after a run abandons, and what it does not. -/
structure Stops (r : Setup H σ W) (x₀ : Relay H L σ W) (es : List (Event H L W)) : Prop where
  /-- A dispatch in flight is abandoned if it has begun since the last start, or if its token had
  been cancelled before; all others go on. -/
  inFlight : ∀ i token alarm handler,
    (play r x₀ es).dispatch? i = some (.running token alarm handler) →
      ∃ pre wall mid, es = pre ++ .poll i wall :: mid ∧
        (∃ topic payload, (play r x₀ pre).dispatch? i = some (.fresh topic payload)) ∧
        (Abandoned r (play r x₀ (es ++ [.stop])) i ↔
          (∀ e ∈ mid, e.isStart = false) ∨ token.isCancelled (play r x₀ es).cancelled = true)
  /-- Until the next start no handler is begun: a report that can be decoded is given up. -/
  later : ∀ post i topic payload m wall, (∀ e ∈ post, e.isStart = false) →
    (play r x₀ (es ++ .stop :: post)).dispatch? i = some (.fresh topic payload) →
    Message.decode topic payload = .ok m →
      (play r x₀ (es ++ .stop :: (post ++ [.poll i wall]))).dispatch? i =
          some (.ended .cancelled) ∧
        (play r x₀ (es ++ .stop :: (post ++ [.poll i wall]))).world =
          (play r x₀ (es ++ .stop :: post)).world

/-- **What a stop abandons**: the dispatches that have begun since the last start, and those that
begin before the next one. -/
theorem stop_abandons {broker : Broker H} {link : L} {world : W}
    (h : Run.Along (step r) WellMade (Relay.fresh broker link world) es) :
    Stops r (Relay.fresh broker link world) es := by
  obtain ⟨⟨n, hn⟩, -, hrunning⟩ := isTracked h
  refine ⟨fun i token alarm handler hi => ?_,
    fun post i topic payload m wall hpost hfresh hm => ?_⟩
  · obtain ⟨-, pre, mid, hbegan⟩ := hrunning i token alarm handler hi
    obtain ⟨wall, hes⟩ := hbegan.polled
    exact ⟨pre, wall, mid, hes, hbegan.fresh, hbegan.abandoned_iff hn hi⟩
  · have hplay : ∀ post, play r (Relay.fresh broker link world) (es ++ .stop :: post) =
        play r (play r (Relay.fresh broker link world) (es ++ [.stop])) post := by
      intro post
      rw [← play_append, List.append_assoc, List.singleton_append]
    have htoken : (play r (Relay.fresh broker link world) (es ++ [.stop])).token =
        (play r (Relay.fresh broker link world) es).token := by
      rw [play_snoc, token_step rfl]
    rw [hplay post] at hfresh ⊢
    rw [hplay (post ++ _)]
    refine given_up ?_ hpost hfresh hm wall
    rw [htoken]
    exact (isCancelled_stop hn _).2 (Or.inl (List.mem_of_mem_head? hn))

/-- A router whose handlers never end; what they work on counts their steps. -/
def stalled : Setup String Unit Nat :=
  ⟨"router", .atLeastOnce, RouterClock.standard, fun _ => (), fun _ steps => (.inl (), steps + 1)⟩

def unstarted : Relay String RecordingLink Unit Nat :=
  Relay.fresh ⟨Settings.standard, Table.empty, true, 4⟩ RecordingLink.empty 0

/-- The router is started again while a heartbeat is being handled. -/
def twoStarts : List (Event String RecordingLink Nat) :=
  [.mint, .start (Token.root 1), .route "device/lock-1/heartbeat" [0x7B, 0x7D], .poll 0 .epoch,
    .start (Token.root 1)]

theorem twoStarts_wellMade : Run.Along (step stalled) WellMade unstarted twoStarts := by
  refine ⟨trivial, fun n hn => ?_, trivial, trivial, fun n hn => ?_, trivial⟩
  all_goals
    obtain rfl := List.mem_singleton.1 hn
    decide

theorem stop_abandons_twoStarts :
    Run.Along (step stalled) WellMade unstarted twoStarts ∧ Stops stalled unstarted twoStarts :=
  ⟨twoStarts_wellMade, stop_abandons twoStarts_wellMade⟩

/-- **A stop does not abandon every dispatch in flight**: the handler of the heartbeat goes on. -/
theorem not_all_abandoned :
    ¬ ∀ (es : List (Event String RecordingLink Nat)) (i : Nat) (token : Token) (alarm : Alarm),
      Run.Along (step stalled) WellMade unstarted es →
      (play stalled unstarted es).dispatch? i = some (.running token alarm ()) →
        Abandoned stalled (play stalled unstarted (es ++ [.stop])) i := by
  intro h
  have hends := ((h twoStarts 0 _ _ twoStarts_wellMade rfl).ends [] .epoch).2
  have hsteps : (play stalled (play stalled unstarted (twoStarts ++ [.stop]))
      ([] ++ [.poll 0 .epoch])).world = 2 := rfl
  rw [hsteps] at hends
  revert hends
  decide +kernel

end Relay

end LockFleet
