import LockFleet.Proofs.Device.Accounts

/-!
# What an unfinished handler leaves behind

A handler changes its device by one request and records the change by a later one.  Nothing is taken
back when a request fails or when the handler is cut off: what had been done until then stays.  So
a change may stand without its entry, but no entry stands without its change.

* `Standing`, `Store.Agrees` — what the history of a device tells about;
* `Task.change?`, `Task.settle` — what a task changes about its device;
* `Intake.LeftBehind` — what a handler that has not succeeded leaves behind;
* `Position.Trail` — what has been done when a handler stands at a position;
* `Intake.Unfinished.leftBehind` — every handler, with any request failing or being its last.
-/

namespace LockFleet

/-! ### Standings -/

/-- The fields of a device that change with an entry in its history. -/
structure Standing where
  reachability : Reachability
  lock : LockState
  availability : Availability
  lastOnline : Option Moment
  lastOffline : Option Moment
  deriving DecidableEq

def Device.standing (d : Device) : Standing :=
  ⟨d.reachability, d.lock, d.availability, d.lastOnline, d.lastOffline⟩

namespace Store

def standing? (s : Store) (k : Int64) : Option Standing := (s.device? k).map Device.standing

/-- Whether two stores agree about the standing of every device. -/
def Agrees (s x : Store) : Prop := ∀ k, x.standing? k = s.standing? k

variable {s x : Store} {id : Int64} {c : Change}

theorem standing?_change (s : Store) (id k : Int64) (c : Change) :
    (s.change id c).standing? k =
      if k = id then (s.device? id).map fun d => (c.apply d).standing else s.standing? k := by
  rw [standing?, device?_change]
  split
  · exact Option.map_map _ _ _
  · rfl

theorem Agrees.refl (s : Store) : s.Agrees s := fun _ => rfl

/-- A change of other fields leaves all standings. -/
theorem Agrees.change_other (hc : ∀ d, (c.apply d).standing = d.standing) (id : Int64) :
    s.Agrees (s.change id c) := by
  intro k
  rw [standing?_change]
  split
  · next hk =>
    rw [hk, standing?]
    exact congrArg (fun g => (s.device? id).map g) (funext hc)
  · rfl

/-- Stores that agree still agree after the same switch. -/
theorem Agrees.change (h : s.Agrees x) (id : Int64)
    (hc : ∀ d d' : Device, d.standing = d'.standing →
      (c.apply d).standing = (c.apply d').standing) :
    (s.change id c).Agrees (x.change id c) := by
  intro k
  rw [standing?_change, standing?_change]
  split
  · have hid := h id
    rw [standing?, standing?] at hid
    cases hx : x.device? id with
    | none =>
      rw [hx, Option.map_none, eq_comm, Option.map_eq_none_iff] at hid
      rw [hid]
    | some d =>
      rw [hx, Option.map_some, eq_comm, Option.map_eq_some_iff] at hid
      obtain ⟨d', hd', hstanding⟩ := hid
      rw [hd', Option.map_some, Option.map_some, hc d d' hstanding.symm]
  · exact h k

/-- Stores that agree still do so when a device goes online in both. -/
theorem Agrees.goOnline (h : s.Agrees x) (id : Int64) (time : Moment) :
    (s.change id (Store.goOnline time)).Agrees (x.change id (Store.goOnline time)) := by
  refine h.change id fun d d' hd => ?_
  exact congrArg
    (fun st : Standing => { st with reachability := .online, lastOnline := some time }) hd

end Store

/-! ### What a task changes -/

/-- What an event changes about its device. -/
def EventKind.change? : EventKind → Option Store.Change
  | .unlocked => some (Store.setLock .unlocked)
  | .locked => some (Store.setLock .locked)
  | .error => some (Store.setAvailability .fault)
  | .alarm => some (Store.setAvailability .fault)
  | .other _ => none

namespace Task

/-- What a task changes about the standing of its device at a moment. -/
def change? (time : Moment) (d : Device) : Task → Option Store.Change
  | .report ⟨_, .heartbeat _⟩ => if d.isOnline then none else some (Store.goOnline time)
  | .report ⟨_, .status r⟩ => some (Store.applyUpdate (Update.ofStatus r))
  | .report ⟨_, .event e⟩ => e.kind.change?
  | .report ⟨_, .ack _⟩ => none
  | .offline _ cutoff => if Store.mayGoOffline cutoff d then some (Store.goOffline time) else none

/-- The store with the change of a task made. -/
def settle (t : Task) (time : Moment) (d : Device) (s : Store) : Store :=
  match t.change? time d with
  | some c => s.change d.id c
  | none => s

/-- An entry of a type is due: it is that of a change of the task, or that of an event by its own
name, which changes nothing. -/
def IsDue (t : Task) (time : Moment) (d : Device) (kind : EntryKind) : Prop :=
  (∃ name, kind = .event name) ∨ ∃ c, t.change? time d = some c

/-- The device that a task finds. -/
def Finds (t : Task) (s : Store) (d : Device) : Prop :=
  ∃ number, t.number? = some number ∧ s.find? number = some d

variable {t : Task} {s : Store} {d : Device}

theorem Finds.device? (h : t.Finds s d) : s.device? d.id = some d := by
  obtain ⟨number, -, hd⟩ := h
  exact Store.device?_of_find? hd

theorem settle_of_change? {time : Moment} {c : Store.Change} (h : t.change? time d = some c) :
    t.settle time d s = s.change d.id c := by
  rw [settle, h]

theorem settle_of_no_change {time : Moment} (h : t.change? time d = none) :
    t.settle time d s = s := by
  rw [settle, h]

end Task

/-- What a handler that has not succeeded has made of a store. -/
inductive Intake.LeftBehind (s : Store) (c : Call) (x : Store) : Prop where
  /-- No device stands otherwise than before. -/
  | untouched (agrees : s.Agrees x) (history : x.history = s.history)
  /-- The change of the task has been made and has not been recorded. -/
  | changed {d : Device} {time : Moment} {change : Store.Change} (finds : c.task.Finds s d)
      (change? : c.task.change? time d = some change) (agrees : (s.change d.id change).Agrees x)
      (history : x.history = s.history)
  /-- All has been done, and the handler was cut off before it could say so. -/
  | recorded {d : Device} {time time' : Moment} {kind : EntryKind} {content : Option String}
      (cutOff : c.rest = none) (finds : c.task.Finds s d) (due : c.task.IsDue time d kind)
      (agrees : (c.task.settle time d s).Agrees x) (leaves : c.task.Leaves kind content)
      (history : x.history = s.history ++ [Entry.bySystem d.id kind content time'])

/-! ### What has been done at a position -/

namespace Position

/-- The change of a task has been made, if it makes one, and has not been recorded. -/
def Settles (t : Task) (s x : Store) (d : Device) (time : Moment) : Prop :=
  t.Finds s d ∧ (t.settle time d s).Agrees x ∧ x.history = s.history

/-- An entry for a device is to be recorded next. -/
def Owes (t : Task) (s x : Store) (id : Int64) (kind : EntryKind) : Prop :=
  ∃ d time, d.id = id ∧ Settles t s x d time ∧ t.IsDue time d kind

/-- The change of a task has been made and recorded. -/
def Records (t : Task) (s x : Store) : Prop :=
  ∃ d time kind content time', t.Finds s d ∧ t.IsDue time d kind ∧
    (t.settle time d s).Agrees x ∧ t.Leaves kind content ∧
    x.history = s.history ++ [Entry.bySystem d.id kind content time']

/-- No standing has changed, or the change of a task has been made. -/
def Stops (t : Task) (s x : Store) : Prop :=
  (s.Agrees x ∧ x.history = s.history) ∨ ∃ d time, Settles t s x d time

/-- What a handler of a task has made of a store when it stands at a position. -/
def Trail (t : Task) (s x : Store) : Position → Prop
  | heartbeatStored id _ =>
    (∃ d, d.id = id ∧ t.Finds s d) ∧ s.Agrees x ∧ x.history = s.history
  | unstamped id kind _ => Owes t s x id kind
  | unrecorded e => Owes t s x e.device e.kind
  | ended (.ok _) => Stops t s x ∨ Records t s x
  | ended (.error _) => Stops t s x
  | p => x = s ∧ ∀ id, p.device? = some id → ∃ d, d.id = id ∧ t.Finds s d

variable {t : Task} {s x y : Store} {p p' : Position} {d : Device}

theorem trail_found (hd : t.Finds s d) : (found d.id t).Trail t s s := by
  cases t with
  | offline number cutoff =>
    refine ⟨rfl, fun id hid => ?_⟩
    cases hid
    exact ⟨d, rfl, hd⟩
  | report m =>
    obtain ⟨number, r⟩ := m
    cases r with
    | ack a => exact Or.inl (Or.inl ⟨.refl s, rfl⟩)
    | _ =>
      refine ⟨rfl, fun id hid => ?_⟩
      cases hid
      exact ⟨d, rfl, hd⟩

/-- A handler that has not ended well has stopped somewhere on its way. -/
theorem Trail.stops (h : p.Trail t s x) (hp : p.isDone = false) : Stops t s x := by
  cases p with
  | heartbeatStored id m => exact Or.inl h.2
  | unstamped id kind content =>
    obtain ⟨d, time, -, hsettles, -⟩ := h
    exact Or.inr ⟨d, time, hsettles⟩
  | unrecorded e =>
    obtain ⟨d, time, -, hsettles, -⟩ := h
    exact Or.inr ⟨d, time, hsettles⟩
  | ended r =>
    cases r with
    | ok u => cases hp
    | error e => exact h
  | _ =>
    obtain ⟨rfl, -⟩ := h
    exact Or.inl ⟨.refl x, rfl⟩

/-- A change that a task makes at once. -/
theorem settles_change {time : Moment} {c : Store.Change} (hd : t.Finds s d)
    (hc : t.change? time d = some c) : Settles t s (s.change d.id c) d time := by
  refine ⟨hd, ?_, rfl⟩
  rw [Task.settle_of_change? hc]
  exact .refl _

theorem owes_change {time : Moment} {c : Store.Change} (hd : t.Finds s d)
    (hc : t.change? time d = some c) (kind : EntryKind) :
    Owes t s (s.change d.id c) d.id kind :=
  ⟨d, time, rfl, settles_change hd hc, Or.inr ⟨c, hc⟩⟩

/-- The change that an event makes. -/
theorem owes_event {number : String} {e : EventReport} {c : Store.Change} (hd : t.Finds s d)
    (ht : t = .report ⟨number, .event e⟩) (hc : e.kind.change? = some c) (kind : EntryKind) :
    Owes t s (s.change d.id c) d.id kind := by
  have hchange : t.change? .epoch d = some c := by
    rw [ht]
    exact hc
  exact owes_change hd hchange kind

/-- **What a handler has done when its next request has been served.** -/
theorem Serves.trail {time : Moment} {taken : Bool} {q : ReconcileRequest} {f : Option Int64}
    {c : Call} (h : Serves x time taken p q p' y f) (hp : c.Stands x p)
    (htrail : p.Trail c.task s x) : p'.Trail c.task s y := by
  cases h with
  | handsOver number a =>
    obtain ⟨rfl, -⟩ := htrail
    exact Or.inl (Or.inl ⟨.refl x, rfl⟩)
  | unknown ht hnone =>
    obtain ⟨rfl, -⟩ := htrail
    exact Or.inl ⟨.refl x, rfl⟩
  | finds ht hd =>
    obtain ⟨rfl, -⟩ := htrail
    obtain ⟨rfl, -⟩ := hp.fits
    exact trail_found ⟨_, ht, hd⟩
  | timesHeartbeat id h => exact htrail
  | storesHeartbeat id h m =>
    obtain ⟨rfl, hfound⟩ := htrail
    exact ⟨hfound id rfl, .change_other (fun _ => rfl) id, rfl⟩
  | @goesOnline id d m hd hoff =>
    obtain ⟨⟨d', rfl, hfinds⟩, hagrees, hhistory⟩ := htrail
    obtain ⟨⟨number, h, htask⟩, -⟩ := hp.fits
    -- The device has been written to since it was found, but not its standing.
    have hstanding : d.standing = d'.standing := by
      have hid := hagrees d'.id
      rw [Store.standing?, Store.standing?, hd, hfinds.device?] at hid
      exact Option.some.inj hid
    have hoff' : d'.isOnline = false := by
      rw [Device.isOnline, ← show d.reachability = d'.reachability from
        congrArg Standing.reachability hstanding]
      exact hoff
    have hchange : c.task.change? m d' = some (Store.goOnline m) := by
      rw [htask]
      show (if d'.isOnline then none else some (Store.goOnline m)) = _
      rw [hoff', if_neg Bool.false_ne_true]
    refine ⟨d', m, rfl, ⟨hfinds, ?_, hhistory⟩, Or.inr ⟨_, hchange⟩⟩
    rw [Task.settle_of_change? hchange]
    exact hagrees.goOnline d'.id m
  | staysOnline => exact Or.inl (Or.inl htrail.2)
  | overwrites id r =>
    obtain ⟨rfl, hfound⟩ := htrail
    obtain ⟨d, rfl, hfinds⟩ := hfound id rfl
    obtain ⟨⟨number, htask⟩, -⟩ := hp.fits
    have hchange : c.task.change? .epoch d = some (Store.applyUpdate (Update.ofStatus r)) := by
      rw [htask]
      rfl
    exact Or.inl (Or.inr ⟨d, .epoch, settles_change hfinds hchange⟩)
  | unlocks id content =>
    obtain ⟨rfl, hfound⟩ := htrail
    obtain ⟨d, rfl, hfinds⟩ := hfound id rfl
    obtain ⟨⟨number, e, htask, hkind, -⟩, -⟩ := hp.fits
    exact owes_event hfinds htask (by rw [← hkind]; rfl) _
  | locks id content =>
    obtain ⟨rfl, hfound⟩ := htrail
    obtain ⟨d, rfl, hfinds⟩ := hfound id rfl
    obtain ⟨⟨number, e, htask, hkind, -⟩, -⟩ := hp.fits
    exact owes_event hfinds htask (by rw [← hkind]; rfl) _
  | breaks id content hbreak =>
    obtain ⟨rfl, hfound⟩ := htrail
    obtain ⟨d, rfl, hfinds⟩ := hfound id rfl
    obtain ⟨⟨number, e, htask, hkind, -⟩, -⟩ := hp.fits
    have hchange : e.kind.change? = some (Store.setAvailability .fault) := by
      rw [← hkind]
      rcases hbreak with rfl | rfl <;> rfl
    exact owes_event hfinds htask hchange _
  | notes id name content =>
    obtain ⟨rfl, hfound⟩ := htrail
    obtain ⟨d, rfl, hfinds⟩ := hfound id rfl
    obtain ⟨⟨number, e, htask, hkind, -⟩, -⟩ := hp.fits
    have hchange : c.task.change? .epoch d = none := by
      rw [htask]
      show e.kind.change? = _
      rw [← hkind]
      rfl
    refine ⟨d, .epoch, rfl, ⟨hfinds, ?_, rfl⟩, Or.inl ⟨name, rfl⟩⟩
    rw [Task.settle_of_no_change hchange]
    exact .refl x
  | timesSilence id cutoff => exact htrail
  | @goesOffline id d m cutoff hd hmay =>
    obtain ⟨rfl, hfound⟩ := htrail
    obtain ⟨d', rfl, hfinds⟩ := hfound id rfl
    obtain ⟨⟨number, htask⟩, -⟩ := hp.fits
    obtain rfl : d' = d := Option.some.inj (hfinds.device?.symm.trans hd)
    have hchange : c.task.change? m d' = some (Store.goOffline m) := by
      rw [htask]
      show (if Store.mayGoOffline cutoff d' then some (Store.goOffline m) else none) = _
      rw [hmay, if_pos rfl]
    exact owes_change hfinds hchange _
  | staysAsItIs m cutoff =>
    obtain ⟨rfl, -⟩ := htrail
    exact Or.inl (Or.inl ⟨.refl x, rfl⟩)
  | stamps id kind content => exact htrail
  | records e =>
    obtain ⟨id, kind, content, time', rfl, hleaves, -⟩ := hp.fits
    obtain ⟨d, time, hid, ⟨hfinds, hagrees, hhistory⟩, hdue⟩ := htrail
    have hhistory' : (x.record (Entry.bySystem id kind content time')).history =
        s.history ++ [Entry.bySystem d.id kind content time'] := by
      show x.history ++ [_] = _
      rw [hhistory, show d.id = id from hid]
    exact Or.inr ⟨d, time, kind, content, time', hfinds, hdue, hagrees, hleaves, hhistory'⟩
  | refused hdevice hmissing =>
    rw [hp.known _ hdevice] at hmissing
    cases hmissing

/-- What has been done at a position may be all that is ever done. -/
theorem Trail.remains (h : p.Trail t s x) : Stops t s x ∨ Records t s x := by
  cases hdone : p.isDone with
  | false => exact Or.inl (h.stops hdone)
  | true =>
    cases p with
    | ended r =>
      cases r with
      | ok u => exact h
      | error e => exact Or.inl h
    | _ => cases hdone

end Position

/-! ### One handler at work -/

/-- What a handler has made of a store, standing somewhere on its way or cut off. -/
def Call.IsTraced (s x : Store) (c : Call) : Prop :=
  (c.rest = none ∧ (Position.Stops c.task s x ∨ Position.Records c.task s x)) ∨
    ∃ p, c.Stands x p ∧ p.Trail c.task s x

namespace Intake

variable {s : Store} {t : Task} {x : Intake} {es : List Event} {c : Call}

/-- Whether an event is about a handler that has been called before. -/
def Event.isAbout (i : Nat) : Event → Bool
  | .serve j _ _ => j = i
  | .fail j _ => j = i
  | .cutOff j => j = i
  | _ => false

/-- A single handler at work for a task, traced since it was called. -/
def IsAlone (s : Store) (t : Task) (x : Intake) : Prop :=
  ∃ c, x.calls = [c] ∧ c.task = t ∧ c.IsTraced s x.store

theorem isAlone_call (s : Store) (t : Task) : IsAlone s t ((start s).step (.call t)) := by
  refine ⟨⟨t, none, some t.program⟩, rfl, rfl,
    Or.inr ⟨.start t, Call.stands_start _ t, rfl, fun id hid => ?_⟩⟩
  cases hid

/-- A step keeps the trace of a single handler. -/
theorem IsAlone.step (h : IsAlone s t x) {e : Event} (he : e.isAbout 0 = true) :
    IsAlone s t (x.step e) := by
  obtain ⟨c, hcalls, htask, htraced⟩ := h
  have hc : x.calls[0]? = some c := by rw [hcalls, List.getElem?_cons_zero]
  have hset : ∀ c' : Call, x.calls.set 0 c' = [c'] := by
    intro c'
    rw [hcalls, List.set_cons_zero]
  have hsame : ∀ y : Intake, y = x → IsAlone s t y := by
    rintro y rfl
    exact ⟨c, hcalls, htask, htraced⟩
  cases e with
  | call t => cases he
  | insert d => cases he
  | cutOff i =>
    obtain rfl : i = 0 := of_decide_eq_true he
    have hmodify : (x.step (.cutOff 0)).calls = [{ c with rest := none }] := by
      show x.calls.modify 0 _ = _
      rw [hcalls, List.modify_zero_cons]
    refine ⟨{ c with rest := none }, hmodify, htask, Or.inl ⟨rfl, ?_⟩⟩
    rcases htraced with ⟨-, h⟩ | ⟨p, -, htrail⟩
    · exact h
    · exact htrail.remains
  | serve i time taken =>
    obtain rfl : i = 0 := of_decide_eq_true he
    rcases htraced with ⟨hrest, -⟩ | ⟨p, hp, htrail⟩
    · exact hsame _ ((step_of_cutOff hc hrest).1 time taken)
    · rcases step_serve hc hp.rest time taken with hstep | ⟨q, p', y, f, -, -, hserves, hstep⟩
      · exact hsame _ hstep
      · have htrail' : p'.Trail c.task s y := hserves.trail hp htrail
        rw [hstep, hset]
        exact ⟨_, rfl, htask, Or.inr ⟨p', hp.served hserves, htrail'⟩⟩
  | fail i e =>
    obtain rfl : i = 0 := of_decide_eq_true he
    rcases htraced with ⟨hrest, -⟩ | ⟨p, hp, htrail⟩
    · exact hsame _ ((step_of_cutOff hc hrest).2 e)
    · rcases step_fail hc hp.rest e with hstep | ⟨q, hreq, hstep⟩
      · exact hsame _ hstep
      · have hrun : c.isRunning = true := by
          obtain ⟨next, hcall⟩ := Call.rest_of_request? hreq
          rw [Call.isRunning, hcall]
        have hnot : p.isDone = false := by
          rw [← Call.hasSucceeded_of_rest hp.rest]
          exact Call.hasSucceeded_of_isRunning hrun
        rw [hstep, hset]
        exact ⟨_, rfl, htask, Or.inr ⟨_, Call.stands_ended _ _ _ _, htrail.stops hnot⟩⟩

theorem isAlone (s : Store) (t : Task) (hes : ∀ e ∈ es, e.isAbout 0 = true) :
    IsAlone s t (play s (.call t :: es)) := by
  induction es using List.reverseRecOn with
  | nil => exact isAlone_call s t
  | append_singleton es e ih =>
    rw [← List.cons_append, play_snoc]
    have hpre := ih fun e he => hes e (List.mem_append_left _ he)
    exact hpre.step (hes e (List.mem_append_right _ (List.mem_singleton_self e)))

/-- A handler that has stopped on its way leaves a change without its entry at most. -/
theorem LeftBehind.of_stops {x : Store} (h : Position.Stops c.task s x) : LeftBehind s c x := by
  rcases h with ⟨hagrees, hhistory⟩ | ⟨d, time, hfinds, hagrees, hhistory⟩
  · exact .untouched hagrees hhistory
  · cases hchange : c.task.change? time d with
    | none =>
      rw [Task.settle_of_no_change hchange] at hagrees
      exact .untouched hagrees hhistory
    | some change =>
      rw [Task.settle_of_change? hchange] at hagrees
      exact .changed hfinds hchange hagrees hhistory

/-- A single handler has been called for a task, whatever has happened to it since then, and it has
not succeeded. -/
structure Unfinished (s : Store) (t : Task) (es : List Event) (c : Call) : Prop where
  alone : ∀ e ∈ es, e.isAbout 0 = true
  call : (play s (.call t :: es)).calls[0]? = some c
  failed : c.hasSucceeded = false

/-- **What a handler that has not succeeded leaves behind**, whichever of its requests failed and
wherever it was cut off: nothing, its change without the entry, or all if it was cut off last. -/
theorem Unfinished.leftBehind (h : Unfinished s t es c) :
    c.task = t ∧ LeftBehind s c (play s (.call t :: es)).store := by
  obtain ⟨c', hcalls, htask, htraced⟩ := isAlone s t h.alone
  have hc := h.call
  rw [hcalls, List.getElem?_cons_zero] at hc
  obtain rfl : c' = c := Option.some.inj hc
  refine ⟨htask, ?_⟩
  rcases htraced with ⟨hrest, hstops | hrecords⟩ | ⟨p, hp, htrail⟩
  · exact .of_stops hstops
  · obtain ⟨d, time, kind, content, time', hfinds, hdue, hagrees, hleaves, hhistory⟩ := hrecords
    exact .recorded hrest hfinds hdue hagrees hleaves hhistory
  · refine .of_stops (htrail.stops ?_)
    rw [← Call.hasSucceeded_of_rest hp.rest]
    exact h.failed

end Intake

end LockFleet
