import LockFleet.Proofs.Device.Intake
import LockFleet.Proofs.Program
import Mathlib.Logic.Function.Basic

/-!
# Devices on their own

Calls for any number of devices are under way at one store, and their requests are served in any
order.  A call asks for its own device only, and a request for one device neither sees nor touches
another.  So the record and the history of a device, and all that is answered to the calls for it,
are what they would be without the calls for others.

As at an intake, requests are served one at a time.  Here the calls are numbered for each device, so
that those for others can be left out of a run without renumbering the rest, and whoever takes a
device offline is answered whether it did.

* `Store.Writes`, `Store.serve_of_key` — a request by key looks at one device and writes to it;
* `Handling.Minds`, `Task.minds_reply` — a call asks for one device only;
* `Traffic.Event`, `Traffic.step`, `Traffic.play` — calls under way, each at its place among those
  for the same device;
* `Traffic.Shares` — two runs are the same as far as one device is concerned;
* `Traffic.devices_independent` — what happens to others makes no difference to a device.
-/

namespace LockFleet

/-! ### Requests by key -/

namespace Store

variable {s s' : Store} {id k : Int64} {n : String}

/-- The number of the device of a key. -/
def number? (s : Store) (id : Int64) : Option String := (s.device? id).map Device.number

/-- What a request does to the store that writes at most to the device of one of some keys. -/
inductive Writes (keys : Int64 → Prop) : (Store → Store) → Prop where
  | nothing : Writes keys fun s => s
  | change (id : Int64) (hid : keys id) (c : Change)
      (hc : ∀ d, (c.apply d).number = d.number) : Writes keys (·.change id c)
  | record (e : Entry) (he : keys e.device) : Writes keys (·.record e)

/-- The request is answered, and written to the store, in one way whenever the device of a key is
the same. -/
def Looks (s : Store) (id : Int64) (q : StoreRequest) : Prop :=
  ∃ (a : Except StoreError q.Answer) (f : Store → Store), Writes (· = id) f ∧
    ∀ s' : Store, s'.device? id = s.device? id → s'.serve q = (a, f s')

theorem Writes.mono {keys keys' : Int64 → Prop} {f : Store → Store} (h : Writes keys f)
    (hkeys : ∀ id, keys id → keys' id) : Writes keys' f := by
  cases h with
  | nothing => exact .nothing
  | change id hid c hc => exact .change id (hkeys id hid) c hc
  | record e he => exact .record e (hkeys _ he)

/-- A write that is refused only if there is no device. -/
theorem looks_of_modify {q : StoreRequest} {a : q.Answer} {c : Change}
    (hc : ∀ d, (c.apply d).number = d.number)
    (hgrant : ∀ s : Store, s.devices.contains id = true → s.serve q = (.ok a, s.change id c))
    (hrefuse : ∀ s : Store, s.devices.contains id = false →
      s.serve q = (.error (.notFound id), s)) : s.Looks id q := by
  have hcontains : ∀ s' : Store, s'.device? id = s.device? id →
      s'.devices.contains id = s.devices.contains id := fun s' h => congrArg Option.isSome h
  have hchange : Writes (· = id) (·.change id c) :=
    @Writes.change (· = id) id rfl c hc
  cases hid : s.devices.contains id with
  | true => exact ⟨_, _, hchange, fun s' h => hgrant s' ((hcontains s' h).trans hid)⟩
  | false => exact ⟨_, _, .nothing, fun s' h => hrefuse s' ((hcontains s' h).trans hid)⟩

/-- A conditional write. -/
theorem looks_of_modifyIf {q : StoreRequest} {test : Device → Bool} {a b : q.Answer} {c : Change}
    (hc : ∀ d, (c.apply d).number = d.number)
    (hgrant : ∀ (s : Store) (d : Device), s.device? id = some d →
      s.serve q = if test d then (.ok a, s.change id c) else (.ok b, s))
    (hrefuse : ∀ s : Store, s.device? id = none → s.serve q = (.error (.notFound id), s)) :
    s.Looks id q := by
  cases hd : s.device? id with
  | none => exact ⟨_, _, .nothing, fun s' h => hrefuse s' (h.trans hd)⟩
  | some d =>
    have hserve : ∀ s' : Store, s'.device? id = s.device? id →
        s'.serve q = if test d then (.ok a, s'.change id c) else (.ok b, s') :=
      fun s' h => hgrant s' d (h.trans hd)
    have hchange : Writes (· = id) (·.change id c) :=
      @Writes.change (· = id) id rfl c hc
    cases htest : test d with
    | true =>
      rw [htest] at hserve
      exact ⟨_, _, hchange, hserve⟩
    | false =>
      rw [htest] at hserve
      exact ⟨_, _, .nothing, hserve⟩

/-- **A request by key looks at one device and writes to it at most.** -/
theorem serve_of_key {q : StoreRequest} (h : q.device? = some id) (s : Store) : s.Looks id q := by
  cases q with
  | find number => cases h
  | stale before => cases h
  | record e => exact ⟨.ok (), _, .record e (Option.some.inj h), fun s' _ => rfl⟩
  | update k u =>
    cases h
    exact looks_of_modify (fun d => rfl) (fun s => settled_modify) fun s => settled_modify_missing
  | setLock k l =>
    cases h
    exact looks_of_modify (fun d => rfl) (fun s => settled_modify) fun s => settled_modify_missing
  | setAvailability k a =>
    cases h
    exact looks_of_modify (fun d => rfl) (fun s => settled_modify) fun s => settled_modify_missing
  | markOnline k time =>
    cases h
    exact looks_of_modifyIf (fun d => rfl) (fun s d => settled_modifyIf _ _) fun s =>
      settled_modifyIf_missing
  | markOffline k time cutoff =>
    cases h
    exact looks_of_modifyIf (fun d => rfl) (fun s d => settled_modifyIf _ _) fun s =>
      settled_modifyIf_missing

/-! ### Stores that agree on a device -/

/-- Two stores that agree on the device of a number, whatever they hold of others.  What numbers the
devices have is fixed. -/
structure AgreesOn (owner : Int64 → Option String) (n : String) (s s' : Store) : Prop where
  owner_eq : s.number? = owner
  owner_eq' : s'.number? = owner
  found : s'.find? n = s.find? n
  device : ∀ k, owner k = some n → s'.device? k = s.device? k
  entries : ∀ k, owner k = some n → s'.entriesOf k = s.entriesOf k

/-- A change of other fields leaves the numbers of devices. -/
theorem number?_change {c : Change} (hc : ∀ d, (c.apply d).number = d.number) :
    (s.change id c).number? = s.number? := by
  funext k
  rw [number?, number?, device?_change]
  split
  · next h =>
    rw [h, Option.map_map]
    exact congrArg (fun g => (s.device? id).map g) (funext hc)
  · rfl

/-- What is found under a number changes with the device found. -/
theorem find?_change {c : Change} (hc : ∀ d, (c.apply d).number = d.number) (n : String) :
    (s.change id c).find? n = (s.find? n).map fun d => if d.id = id then c.apply d else d := by
  rw [find?, find?, values_change, List.find?_map]
  congr 2
  funext d
  show decide ((if d.id = id then c.apply d else d).number = n) = decide (d.number = n)
  split
  · rw [hc]
  · rfl

theorem number?_of_find? {d : Device} (h : s.find? n = some d) : s.number? d.id = some n := by
  rw [number?, device?_of_find? h, Option.map_some, (find?_eq_some h).2]

theorem Writes.number? {keys : Int64 → Prop} {f : Store → Store} (h : Writes keys f)
    (s : Store) : (f s).number? = s.number? := by
  cases h with
  | nothing => rfl
  | change id hid c hc => exact number?_change hc
  | record e => rfl

namespace AgreesOn

variable {owner : Int64 → Option String} {keys : Int64 → Prop} {f : Store → Store}

theorem refl (h : s.number? = owner) (n : String) : AgreesOn owner n s s :=
  ⟨h, h, rfl, fun _ _ => rfl, fun _ _ => rfl⟩

/-- A write to other devices goes unnoticed. -/
theorem writes_other (h : AgreesOn owner n s s') (hf : Writes keys f)
    (hkeys : ∀ k, owner k = some n → ¬ keys k) : AgreesOn owner n (f s) s' where
  owner_eq := (hf.number? s).trans h.owner_eq
  owner_eq' := h.owner_eq'
  found := by
    cases hf with
    | nothing => exact h.found
    | record e => exact h.found
    | change id hid c hc =>
      rw [find?_change hc, h.found]
      cases hd : s.find? n with
      | none => rfl
      | some d =>
        have hne : d.id ≠ id := by
          rintro rfl
          exact hkeys d.id (h.owner_eq ▸ number?_of_find? hd) hid
        rw [Option.map_some, if_neg hne]
  device k hk := by
    rw [h.device k hk]
    cases hf with
    | nothing => rfl
    | record e => rfl
    | change id hid c hc =>
      have hne : k ≠ id := fun heq => hkeys k hk (heq ▸ hid)
      rw [device?_change, if_neg hne]
  entries k hk := by
    rw [h.entries k hk]
    cases hf with
    | nothing => rfl
    | change id hid c hc => rfl
    | record e he =>
      have hne : ¬ e.device = k := fun heq => hkeys k hk (heq ▸ he)
      show _ = (s.history ++ [e]).filter fun e => e.device = k
      rw [List.filter_append, List.filter_cons_of_neg (by simpa using hne), List.filter_nil,
        List.append_nil]
      rfl

/-- The same write on both sides keeps two stores in agreement. -/
theorem writes (h : AgreesOn owner n s s') (hf : Writes keys f) :
    AgreesOn owner n (f s) (f s') where
  owner_eq := (hf.number? s).trans h.owner_eq
  owner_eq' := (hf.number? s').trans h.owner_eq'
  found := by
    cases hf with
    | nothing => exact h.found
    | record e => exact h.found
    | change id hid c hc => rw [find?_change hc, find?_change hc, h.found]
  device k hk := by
    cases hf with
    | nothing => exact h.device k hk
    | record e => exact h.device k hk
    | change id hid c hc =>
      rw [device?_change, device?_change]
      split
      · next heq => rw [← heq, h.device k hk]
      · exact h.device k hk
  entries k hk := by
    cases hf with
    | nothing => exact h.entries k hk
    | change id hid c hc => exact h.entries k hk
    | record e he =>
      have hsame : s'.entriesOf k = s.entriesOf k := h.entries k hk
      show (s'.history ++ [e]).filter _ = (s.history ++ [e]).filter _
      rw [List.filter_append, List.filter_append]
      exact congrArg (· ++ _) hsame

end AgreesOn

end Store

/-! ### Calls for one device -/

/-- The number of the device that a task is for. -/
def Task.device : Task → String
  | report m => m.device
  | offline number _ => number

/-- What is answered to a call: if it takes a device offline, whether it did. -/
def Task.reply : Task → Reconcile (Except HandlerError (Option Bool))
  | report m => (do Reconciler.handle m; return none : Handling (Option Bool)).run
  | offline number cutoff =>
    (do return some (← Reconciler.takeOffline number cutoff) : Handling (Option Bool)).run

namespace ReconcileRequest

/-- The request looks a number up, or is about a device with this number. -/
def IsAbout (owner : Int64 → Option String) (n : String) : ReconcileRequest → Prop
  | .store q => q = .find n ∨ ∃ id, q.device? = some id ∧ owner id = some n
  | _ => True

/-- A device that is found has the number. -/
def Finds (owner : Int64 → Option String) (n : String) : (q : ReconcileRequest) → q.Answer → Prop
  | .store (.find _), .ok (some d) => owner d.id = some n
  | _, _ => True

variable {owner : Int64 → Option String} {n : String}

theorem finds_of_key {q : StoreRequest} {id : Int64} (h : q.device? = some id)
    (a : Except StoreError q.Answer) : Finds owner n (.store q) a := by
  cases q with
  | find number => cases h
  | _ => trivial

theorem finds_error (q : StoreRequest) (e : StoreError) :
    Finds owner n (.store q) (.error e : Except StoreError q.Answer) := by
  cases q <;> trivial

/-- A request about one device is answered, and written to the store, in one way wherever this
device is the same. -/
theorem IsAbout.answer_eq {q : ReconcileRequest} (h : q.IsAbout owner n) {s : Store}
    (howner : s.number? = owner) (time : Moment) (taken : Bool) :
    ∃ (a : q.Answer) (f : Store → Store), Store.Writes (fun k => owner k = some n) f ∧
      q.Finds owner n a ∧ ∀ s', s.AgreesOn owner n s' → s'.answer time taken q = (a, f s') := by
  cases q with
  | clock => exact ⟨time, _, .nothing, trivial, fun _ _ => rfl⟩
  | ack a => exact ⟨taken, _, .nothing, trivial, fun _ _ => rfl⟩
  | store q =>
    rcases h with rfl | ⟨id, hkey, hid⟩
    · refine ⟨.ok (s.find? n), _, .nothing, ?_, fun s' h => ?_⟩
      · cases hd : s.find? n with
        | none => trivial
        | some d => exact howner ▸ Store.number?_of_find? hd
      · show (Except.ok (s'.find? n), s') = _
        rw [h.found]
        rfl
    · obtain ⟨a, f, hf, hserve⟩ := Store.serve_of_key hkey s
      refine ⟨a, f, hf.mono fun k hk => ?_, finds_of_key hkey a, fun s' h => ?_⟩
      · rw [hk, hid]
      · exact hserve s' (h.device id hid)

end ReconcileRequest

/-- A program asks for one device only. -/
def Reconcile.Minds {α : Type} (owner : Int64 → Option String) (n : String) (p : Reconcile α) :
    Prop :=
  p.Relies (ReconcileRequest.IsAbout owner n) (ReconcileRequest.Finds owner n) fun _ => True

/-- A program that may fail asks for one device only, and its result satisfies a condition. -/
def Handling.Minds {α : Type} (owner : Int64 → Option String) (n : String) (m : Handling α)
    (R : α → Prop) : Prop :=
  m.run.Relies (ReconcileRequest.IsAbout owner n) (ReconcileRequest.Finds owner n) fun r =>
    ∀ a, r = .ok a → R a

namespace Handling.Minds

open Reconciler

variable {α β : Type} {owner : Int64 → Option String} {n : String} {m : Handling α}
  {f : α → Handling β} {R : α → Prop} {S : β → Prop} {id : Int64}

/-- The result may be anything. -/
theorem forget (h : Handling.Minds owner n m R) : Reconcile.Minds owner n m.run :=
  Program.Relies.imp h fun _ _ => trivial

theorem pure {a : α} (h : R a) : Handling.Minds owner n (Pure.pure a) R := fun b hb => by
  cases hb
  exact h

theorem throw (e : HandlerError) : Handling.Minds owner n (throw e : Handling α) R :=
  fun b hb => by cases hb

theorem bind (hm : Handling.Minds owner n m R) (hf : ∀ a, R a → Handling.Minds owner n (f a) S) :
    Handling.Minds owner n (m >>= f) S := by
  refine Program.Relies.bind hm fun r hr => ?_
  cases r with
  | ok a => exact hf a (hr a rfl)
  | error e => exact fun b hb => by cases hb

/-- A request by the key of the device. -/
theorem ask {q : StoreRequest} (hq : q.device? = some id) (hid : owner id = some n) :
    Handling.Minds owner n (ask q) fun _ => True :=
  ⟨Or.inr ⟨id, hq, hid⟩, fun _ _ _ _ => trivial⟩

theorem now : Handling.Minds owner n now fun _ => True := ⟨trivial, fun _ _ _ _ => trivial⟩

theorem handOver (a : Ack) : Handling.Minds owner n (handOver a) fun _ => True :=
  ⟨trivial, fun _ _ _ _ => trivial⟩

theorem device : Handling.Minds owner n (device n) fun d => owner d.id = some n := by
  have hlookUp : Handling.Minds owner n (lookUp n) fun found =>
      ∀ d, found = some d → owner d.id = some n := by
    refine ⟨Or.inl rfl, fun r hr found hfound d hd => ?_⟩
    match r with
    | .error e => cases hfound
    | .ok (some d') =>
      cases hfound
      cases hd
      exact hr
    | .ok none =>
      cases hfound
      cases hd
  refine hlookUp.bind fun found hfound => ?_
  cases found with
  | none => exact throw _
  | some d => exact pure (hfound d rfl)

theorem recordNow (hid : owner id = some n) (kind : EntryKind) (content : Option String) :
    Handling.Minds owner n (recordNow id kind content) fun _ => True :=
  now.bind fun _ _ => ask rfl hid

theorem applyEvent (hid : owner id = some n) (kind : EventKind) :
    Handling.Minds owner n (applyEvent id kind) fun _ => True := by
  cases kind with
  | other name => exact pure trivial
  | unlocked => exact ask rfl hid
  | locked => exact ask rfl hid
  | error => exact ask rfl hid
  | alarm => exact ask rfl hid

/-- The handler of a report asks for the device of the report. -/
theorem handle (m : Message) : Handling.Minds owner m.device (handle m) fun _ => True := by
  obtain ⟨n, r⟩ := m
  cases r with
  | ack a => exact (handOver a).bind fun _ _ => pure trivial
  | status r => exact device.bind fun d hd => ask rfl hd
  | event e =>
    exact device.bind fun d hd => (applyEvent hd e.kind).bind fun _ _ => recordNow hd _ _
  | heartbeat h =>
    refine device.bind fun d hd => now.bind fun time _ => (ask rfl hd).bind fun _ _ =>
      (ask rfl hd).bind fun isSwitched _ => ?_
    cases isSwitched with
    | true => exact recordNow hd _ _
    | false => exact pure trivial

theorem takeOffline (n : String) (cutoff : Option Moment) :
    Handling.Minds owner n (takeOffline n cutoff) fun _ => True := by
  refine device.bind fun d hd => now.bind fun time _ => (ask rfl hd).bind fun isSwitched _ => ?_
  cases isSwitched with
  | true => exact (recordNow hd _ _).bind fun _ _ => pure trivial
  | false => exact pure trivial

end Handling.Minds

theorem Task.minds_reply (owner : Int64 → Option String) (t : Task) :
    t.reply.Minds owner t.device := by
  cases t with
  | report m =>
    have hreply : Handling.Minds owner m.device (do Reconciler.handle m; return none)
        fun _ : Option Bool => True := (Handling.Minds.handle m).bind fun _ _ => .pure trivial
    exact hreply.forget
  | offline n cutoff =>
    have hreply : Handling.Minds owner n (do return some (← Reconciler.takeOffline n cutoff))
        fun _ => True := (Handling.Minds.takeOffline n cutoff).bind fun _ _ => .pure trivial
    exact hreply.forget

/-! ### Calls under way -/

/-- A store and, for each device, what is left of the calls for it, in the order in which they
came. -/
structure Traffic where
  store : Store
  calls : String → List (Reconcile (Except HandlerError (Option Bool)))

namespace Traffic

/-- What can happen.  A call is known by its device and by its place among the calls for it. -/
inductive Event where
  | call (t : Task)
  /-- The next request of a call is served: by the store, by the clock with this time, or by the
  desk with this answer. -/
  | serve (device : String) (call : Nat) (time : Moment) (taken : Bool)
  /-- The next request of a call fails, if it is one to the store. -/
  | fail (device : String) (call : Nat) (e : StoreError)

/-- The number of the device that an event is about. -/
def Event.device : Event → String
  | .call t => t.device
  | .serve n _ _ _ => n
  | .fail n _ _ => n

/-- The store before any call. -/
def start (s : Store) : Traffic := ⟨s, fun _ => []⟩

/-- Puts a call for a device at what is left of it. -/
def advance (x : Traffic) (n : String) (i : Nat) (s : Store)
    (p : Reconcile (Except HandlerError (Option Bool))) : Traffic :=
  ⟨s, Function.update x.calls n ((x.calls n).set i p)⟩

/-- What comes of an event.  Calls that are not there, or have ended, are not served. -/
def step (x : Traffic) : Event → Traffic
  | .call t => { x with calls := Function.update x.calls t.device (x.calls t.device ++ [t.reply]) }
  | .serve n i time taken =>
    match (x.calls n)[i]? with
    | some (.call q next) =>
      let (a, s) := x.store.answer time taken q
      x.advance n i s (next a)
    | _ => x
  | .fail n i e =>
    match (x.calls n)[i]? with
    | some (.call (.store _) next) => x.advance n i x.store (next (.error e))
    | _ => x

/-- What there is after a list of events. -/
def play (s : Store) (es : List Event) : Traffic := Run.after step (start s) es

/-- Every call asks for its own device. -/
def Minding (owner : Int64 → Option String) (x : Traffic) : Prop :=
  ∀ n, ∀ p ∈ x.calls n, p.Minds owner n

/-- What an event does: it writes to its own device and goes on with a call for it, in one way
wherever the calls for this device and its record are the same. -/
structure Local (owner : Int64 → Option String) (x : Traffic) (e : Event) (f : Store → Store)
    (l : List (Reconcile (Except HandlerError (Option Bool)))) : Prop where
  writes : Store.Writes (fun k => owner k = some e.device) f
  minds : ∀ p ∈ l, p.Minds owner e.device
  step : ∀ y : Traffic, y.calls e.device = x.calls e.device →
    x.store.AgreesOn owner e.device y.store →
    y.step e = ⟨f y.store, Function.update y.calls e.device l⟩

variable {owner : Int64 → Option String} {x y : Traffic} {e : Event} {n : String}
  {f : Store → Store} {l : List (Reconcile (Except HandlerError (Option Bool)))}

theorem Local.nothing (hx : x.Minding owner)
    (h : ∀ y : Traffic, y.calls e.device = x.calls e.device → y.step e = y) :
    x.Local owner e (fun s => s) (x.calls e.device) where
  writes := .nothing
  minds := hx e.device
  step y hy _ := by rw [h y hy, ← hy, Function.update_eq_self]

theorem mem_set_minds {i : Nat} {p p' : Reconcile (Except HandlerError (Option Bool))}
    (hx : x.Minding owner) (hp' : p'.Minds owner n) (hp : p ∈ (x.calls n).set i p') :
    p.Minds owner n := by
  rcases List.mem_or_eq_of_mem_set hp with hp | rfl
  · exact hx n p hp
  · exact hp'

/-- **What an event does, it does to its own device**, and it depends on nothing else. -/
theorem exists_local (hx : x.Minding owner) (howner : x.store.number? = owner) (e : Event) :
    ∃ f l, x.Local owner e f l := by
  cases e with
  | call t =>
    refine ⟨fun s => s, x.calls t.device ++ [t.reply], .nothing, fun p hp => ?_, fun y hy _ => ?_⟩
    · rcases List.mem_append.1 hp with hp | hp
      · exact hx t.device p hp
      · obtain rfl := List.mem_singleton.1 hp
        exact t.minds_reply owner
    · have hcalls : y.calls t.device = x.calls t.device := hy
      rw [step, hcalls]
      rfl
  | serve n i time taken =>
    have hlane : ∀ y : Traffic, y.calls (Event.serve n i time taken).device =
        x.calls (Event.serve n i time taken).device → y.calls n = x.calls n := fun y hy => hy
    cases hp : (x.calls n)[i]? with
    | none => exact ⟨_, _, .nothing hx fun y hy => by rw [step, hlane y hy, hp]⟩
    | some p =>
      cases p with
      | done r => exact ⟨_, _, .nothing hx fun y hy => by rw [step, hlane y hy, hp]⟩
      | call q next =>
        obtain ⟨habout, hnext⟩ := hx n _ (List.mem_of_getElem? hp)
        obtain ⟨a, f, hf, hfinds, hanswer⟩ := habout.answer_eq howner time taken
        refine ⟨f, (x.calls n).set i (next a), hf, fun p hp => ?_, fun y hy hstore => ?_⟩
        · exact mem_set_minds hx (hnext a hfinds) hp
        · rw [step, hlane y hy, hp]
          show (let (a, s) := y.store.answer time taken q; y.advance n i s (next a)) = _
          rw [hanswer _ hstore]
          show y.advance n i (f y.store) (next a) = _
          rw [advance, hlane y hy]
          rfl
  | fail n i e =>
    have hlane : ∀ y : Traffic, y.calls (Event.fail n i e).device =
        x.calls (Event.fail n i e).device → y.calls n = x.calls n := fun y hy => hy
    cases hp : (x.calls n)[i]? with
    | none => exact ⟨_, _, .nothing hx fun y hy => by rw [step, hlane y hy, hp]⟩
    | some p =>
      cases p with
      | done r => exact ⟨_, _, .nothing hx fun y hy => by rw [step, hlane y hy, hp]⟩
      | call q next =>
        cases q with
        | clock => exact ⟨_, _, .nothing hx fun y hy => by rw [step, hlane y hy, hp]⟩
        | ack a => exact ⟨_, _, .nothing hx fun y hy => by rw [step, hlane y hy, hp]⟩
        | store q =>
          obtain ⟨-, hnext⟩ := hx n _ (List.mem_of_getElem? hp)
          refine ⟨fun s => s, (x.calls n).set i (next (.error e)), .nothing, fun p hp => ?_,
            fun y hy _ => ?_⟩
          · exact mem_set_minds hx (hnext _ (ReconcileRequest.finds_error q e)) hp
          · rw [step, hlane y hy, hp]
            show y.advance n i y.store _ = _
            rw [advance, hlane y hy]
            rfl

/-- What an event makes of the traffic in which it happens. -/
theorem Local.step_self (h : x.Local owner e f l) (howner : x.store.number? = owner) :
    x.step e = ⟨f x.store, Function.update x.calls e.device l⟩ :=
  h.step x rfl (.refl howner _)

/-- The numbers of devices stay, and so do calls that ask for their own device only. -/
theorem Local.minding (h : x.Local owner e f l) (hx : x.Minding owner)
    (howner : x.store.number? = owner) :
    (x.step e).Minding owner ∧ (x.step e).store.number? = owner := by
  rw [h.step_self howner]
  refine ⟨fun n p hp => ?_, (h.writes.number? x.store).trans howner⟩
  by_cases hn : n = e.device
  · subst hn
    exact h.minds p (Function.update_self e.device l x.calls ▸ hp)
  · exact hx n p (Function.update_of_ne hn l x.calls ▸ hp)

/-! ### Runs -/

theorem minding (s : Store) (es : List Event) :
    (play s es).Minding s.number? ∧ (play s es).store.number? = s.number? := by
  induction es using List.reverseRecOn with
  | nil => exact ⟨fun n p hp => absurd hp List.not_mem_nil, rfl⟩
  | append_singleton es e ih =>
    obtain ⟨f, l, h⟩ := exists_local ih.1 ih.2 e
    rw [play, Run.after_snoc]
    exact h.minding ih.1 ih.2

/-- Two runs are the same as far as the device of a number is concerned. -/
structure Shares (owner : Int64 → Option String) (n : String) (x y : Traffic) : Prop where
  calls : y.calls n = x.calls n
  store : x.store.AgreesOn owner n y.store

/-- An event for another device goes unnoticed. -/
theorem Shares.step_other (h : Shares owner n x y) (hx : x.Minding owner) (he : e.device ≠ n) :
    Shares owner n (x.step e) y := by
  obtain ⟨f, l, hlocal⟩ := exists_local hx h.store.owner_eq e
  rw [hlocal.step_self h.store.owner_eq]
  refine ⟨?_, h.store.writes_other hlocal.writes fun k hk hk' => ?_⟩
  · rw [h.calls]
    exact (Function.update_of_ne (Ne.symm he) l x.calls).symm
  · exact he (Option.some.inj (hk'.symm.trans hk))

/-- An event for the device does the same on both sides. -/
theorem Shares.step_own (h : Shares owner n x y) (hx : x.Minding owner) (he : e.device = n) :
    Shares owner n (x.step e) (y.step e) := by
  subst he
  obtain ⟨f, l, hlocal⟩ := exists_local hx h.store.owner_eq e
  rw [hlocal.step_self h.store.owner_eq, hlocal.step y h.calls h.store]
  refine ⟨?_, h.store.writes hlocal.writes⟩
  show Function.update y.calls e.device l e.device = Function.update x.calls e.device l e.device
  rw [Function.update_self, Function.update_self]

/-- The events for the device of a number. -/
def only (n : String) (es : List Event) : List Event := es.filter fun e => e.device = n

theorem shares_only (s : Store) (n : String) (es : List Event) :
    Shares s.number? n (play s es) (play s (only n es)) := by
  induction es using List.reverseRecOn with
  | nil => exact ⟨rfl, .refl rfl n⟩
  | append_singleton es e ih =>
    have hsnoc : only n (es ++ [e]) = only n es ++ only n [e] := List.filter_append ..
    rw [hsnoc, play, play, Run.after_snoc]
    by_cases he : e.device = n
    · have hone : only n [e] = [e] := List.filter_cons_of_pos (decide_eq_true he)
      rw [hone, Run.after_snoc]
      exact ih.step_own (minding s es).1 he
    · have hnone : only n [e] = [] := List.filter_cons_of_neg (by simpa using he)
      rw [hnone, List.append_nil]
      exact ih.step_other (minding s es).1 he

/-- What there is to see of a device after two runs from one store: its record, its history, and
what is left of the calls for it, or what they have been answered. -/
structure Alike (s : Store) (n : String) (x y : Traffic) : Prop where
  calls : y.calls n = x.calls n
  record : ∀ k d, s.device? k = some d → d.number = n → y.store.device? k = x.store.device? k
  entries : ∀ k d, s.device? k = some d → d.number = n → y.store.entriesOf k = x.store.entriesOf k

theorem Shares.alike {s : Store} (h : Shares s.number? n x y) : Alike s n x y := by
  have howner : ∀ k d, s.device? k = some d → d.number = n → s.number? k = some n := by
    intro k d hd hn
    rw [Store.number?, hd, Option.map_some, hn]
  exact ⟨h.calls, fun k d hd hn => h.store.device k (howner k d hd hn),
    fun k d hd hn => h.store.entries k (howner k d hd hn)⟩

theorem alike_of_only {s : Store} {es es' : List Event} (h : only n es' = only n es) :
    Alike s n (play s es) (play s es') := by
  have hes := (shares_only s n es).alike
  have hes' := (shares_only s n es').alike
  rw [h] at hes'
  exact ⟨hes'.calls.symm.trans hes.calls,
    fun k d hd hn => (hes'.record k d hd hn).symm.trans (hes.record k d hd hn),
    fun k d hd hn => (hes'.entries k d hd hn).symm.trans (hes.entries k d hd hn)⟩

/-- How the devices of a store fare in a run. -/
structure Independent (s : Store) (es : List Event) : Prop where
  /-- Each of them ends up as if nothing had happened but what is for it. -/
  alone : ∀ n, Alike s n (play s es) (play s (only n es))
  /-- It does so in every run in which the same happens to it in the same order, whatever happens to
  others before, after and in between. -/
  commute : ∀ es' n, only n es' = only n es → Alike s n (play s es) (play s es')

/-- **Devices are independent.**  What happens to others, be they known or unknown, and whether
their requests are granted, refused or fail, makes no difference to a device. -/
theorem devices_independent (s : Store) (es : List Event) : Independent s es where
  alone n := (shares_only s n es).alike
  commute _ _ := alike_of_only

/-- A heartbeat of one device, another one that cannot be taken offline, and a report of a device
that is not there. -/
def crossing : List Event :=
  [.call (.report ⟨"lock-1", .heartbeat ⟨0, .none⟩⟩), .call (.offline "lock-2" none),
    .call (.report ⟨"lock-3", .heartbeat ⟨0, .none⟩⟩), .serve "lock-3" 0 .epoch true,
    .serve "lock-2" 0 .epoch true, .serve "lock-1" 0 .epoch true, .serve "lock-2" 0 .epoch true,
    .serve "lock-1" 0 .epoch true, .fail "lock-2" 0 (.notFound 2), .serve "lock-1" 0 .epoch true,
    .serve "lock-1" 0 .epoch true, .serve "lock-1" 0 .epoch true, .serve "lock-1" 0 .epoch true]

/-- The answers to the calls for a device that have ended. -/
def answers (x : Traffic) (n : String) : List (Except HandlerError (Option Bool)) :=
  (x.calls n).filterMap fun
    | .done r => some r
    | .call _ _ => none

theorem devices_independent_crossing :
    let s := (Store.empty.insert (.fresh 1 "lock-1")).insert (.fresh 2 "lock-2")
    (play s crossing).store.entriesOf 1 = [.bySystem 1 .online none .epoch] ∧
      (play s (only "lock-1" crossing)).store.entriesOf 1 = (play s crossing).store.entriesOf 1 ∧
      (play s crossing).answers "lock-1" = [.ok none] ∧
      (play s crossing).answers "lock-2" = [.error (.store (.notFound 2))] ∧
      (play s crossing).answers "lock-3" = [.error (.unknownDevice "lock-3")] := by
  intro s
  have halone := ((devices_independent s crossing).alone "lock-1").entries 1 (.fresh 1 "lock-1")
    (by decide +kernel) rfl
  exact ⟨by decide +kernel, halone, by decide +kernel, by decide +kernel, by decide +kernel⟩

end Traffic

end LockFleet
