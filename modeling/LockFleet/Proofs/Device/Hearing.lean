import LockFleet.Device.Watchdog
import LockFleet.Proofs.Device.Accounts
import LockFleet.Proofs.Program

/-!
# Devices that have been heard of

A device has been heard of since a moment if it has sent a heartbeat at or after it.  A request
spares such devices if it takes none of them offline and writes no earlier heartbeat.  Handlers for
heartbeats and events make no other requests, nor does the watchdog with an earlier cutoff.

* `Device.IsSpared` — what a device that has been heard of keeps;
* `ReconcileRequest.Spares`, `Store.answer_spares` — one request;
* `Watchdog.Stage` — what a scan may still request;
* `Call.Guards`, `Call.Guards.served` — what the handler of a heartbeat has seen to.
-/

namespace LockFleet

/-! ### Moments and devices -/

theorem Moment.not_lt_trans {a b c : Moment} (hab : ¬ a < b) (hbc : ¬ b < c) : ¬ a < c := by
  rw [Moment.lt_def] at hab hbc ⊢
  omega

namespace Device

/-- A device has sent a heartbeat at or after a moment. -/
def IsHeard (c : Moment) (d : Device) : Prop := d.isSilentSince c = false

variable {b c : Moment} {d d' d'' : Device}

theorem isHeard_of_lastHeartbeat {m : Moment} (hd : d.lastHeartbeat = some m) (hm : ¬ m < c) :
    d.IsHeard c := by
  rw [IsHeard, isSilentSince, hd]
  exact decide_eq_false hm

/-- A device that has been heard of since a moment has been heard of since an earlier one. -/
theorem IsHeard.of_earlier (h : d.IsHeard c) (hb : ¬ c < b) : d.IsHeard b := by
  rw [IsHeard, isSilentSince] at h
  cases hd : d.lastHeartbeat with
  | none =>
    rw [hd] at h
    cases h
  | some m =>
    rw [hd] at h
    exact isHeard_of_lastHeartbeat hd (Moment.not_lt_trans (of_decide_eq_false h) hb)

/-- No cutoff up to a moment takes a device offline that has been heard of since. -/
theorem IsHeard.mayGoOffline (h : d.IsHeard c) (hb : ¬ c < b) :
    Store.mayGoOffline (some b) d = false := by
  show (d.isOnline && d.isSilentSince b) = false
  rw [h.of_earlier hb, Bool.and_false]

/-- A device keeps its number, and it stays heard of and online if it has been heard of. -/
structure IsSpared (c : Moment) (d d' : Device) : Prop where
  number : d'.number = d.number
  heard : d.IsHeard c → d'.IsHeard c
  online : d.IsHeard c → d.isOnline = true → d'.isOnline = true

theorem IsSpared.refl (c : Moment) (d : Device) : d.IsSpared c d :=
  ⟨rfl, fun h => h, fun _ h => h⟩

theorem IsSpared.trans (h : d.IsSpared c d') (h' : d'.IsSpared c d'') : d.IsSpared c d'' :=
  ⟨h'.number.trans h.number, fun hd => h'.heard (h.heard hd),
    fun hd hon => h'.online (h.heard hd) (h.online hd hon)⟩

end Device

/-! ### Single requests -/

/-- A request that takes no device offline that has been heard of, and writes no earlier
heartbeat. -/
def ReconcileRequest.Spares (c : Moment) : ReconcileRequest → Prop
  | .store (.update _ u) => u.reachability = none ∧ ∀ m, u.lastHeartbeat = some m → ¬ m < c
  | .store (.markOffline _ _ cutoff) => ∃ b, cutoff = some b ∧ ¬ c < b
  | _ => True

/-- Whether a request looks for devices that have been silent since a moment later than another. -/
def ReconcileRequest.isAhead (c : Moment) : ReconcileRequest → Bool
  | .store (.stale b) => c < b
  | _ => false

/-- Whether a request writes a heartbeat that is earlier than a moment. -/
def ReconcileRequest.isBelated (c : Moment) : ReconcileRequest → Bool
  | .store (.update _ u) => u.lastHeartbeat.any fun m => m < c
  | _ => false

/-- Every device is spared on the way from one store to another. -/
def Store.Spares (c : Moment) (s s' : Store) : Prop :=
  ∀ k d, s.device? k = some d → ∃ d', s'.device? k = some d' ∧ d.IsSpared c d'

namespace Store

variable {c : Moment} {s s' s'' : Store} {id : Int64} {change : Change}

theorem Spares.refl (c : Moment) (s : Store) : s.Spares c s :=
  fun _ d hd => ⟨d, hd, .refl c d⟩

theorem Spares.trans (h : s.Spares c s') (h' : s'.Spares c s'') : s.Spares c s'' := by
  intro k d hd
  obtain ⟨d', hd', hspared⟩ := h k d hd
  obtain ⟨d'', hd'', hspared'⟩ := h' k d' hd'
  exact ⟨d'', hd'', hspared.trans hspared'⟩

/-- Devices that are spared stay in the store. -/
theorem Spares.contains (h : s.Spares c s') {k : Int64} (hk : s.devices.contains k = true) :
    s'.devices.contains k = true := by
  obtain ⟨d, hd⟩ := Option.isSome_iff_exists.1 (show (s.device? k).isSome = true from hk)
  obtain ⟨d', hd', -⟩ := h k d hd
  show (s'.device? k).isSome = true
  rw [hd']
  rfl

/-- A change that spares its device spares all. -/
theorem spares_change (h : ∀ d, s.device? id = some d → d.IsSpared c (change.apply d)) :
    s.Spares c (s.change id change) := by
  intro k d hd
  rw [device?_change]
  by_cases hk : k = id
  · rw [hk] at hd
    rw [if_pos hk, hd]
    exact ⟨change.apply d, rfl, h d hd⟩
  · rw [if_neg hk]
    exact ⟨d, hd, .refl c d⟩

theorem spares_modify (h : ∀ d : Device, d.IsSpared c (change.apply d)) (s : Store) (id : Int64) :
    s.Spares c (s.settled ((s.modify id change).map ((), ·))).2 := by
  cases hid : s.devices.contains id with
  | true =>
    rw [settled_modify hid]
    exact spares_change fun d _ => h d
  | false =>
    rw [settled_modify_missing hid]
    exact .refl c s

theorem spares_modifyIf {test : Device → Bool}
    (h : ∀ d : Device, test d = true → d.IsSpared c (change.apply d)) (s : Store) (id : Int64) :
    s.Spares c (s.settled (s.modifyIf id test change)).2 := by
  cases hd : s.device? id with
  | none =>
    rw [settled_modifyIf_missing hd]
    exact .refl c s
  | some d =>
    rw [settled_modifyIf test change hd]
    cases htest : test d with
    | false =>
      rw [if_neg Bool.false_ne_true]
      exact .refl c s
    | true =>
      rw [if_pos rfl]
      refine spares_change fun d' hd' => ?_
      obtain rfl : d = d' := Option.some.inj (hd.symm.trans hd')
      exact h d htest

/-- **A sparing request spares every device.** -/
theorem answer_spares {q : ReconcileRequest} (hq : q.Spares c) (s : Store) (time : Moment)
    (taken : Bool) : s.Spares c (s.answer time taken q).2 := by
  cases q with
  | clock => exact .refl c s
  | ack a => exact .refl c s
  | store q =>
    cases q with
    | find number => exact .refl c s
    | stale before => exact .refl c s
    | record e => exact .refl c s
    | update id u =>
      refine spares_modify (fun d => ⟨rfl, fun hd => ?_, fun _ hon => ?_⟩) s id
      · show (d.apply u).IsHeard c
        cases hu : u.lastHeartbeat with
        | none =>
          rw [Device.IsHeard, Device.isSilentSince, Device.apply, hu]
          exact hd
        | some m =>
          refine Device.isHeard_of_lastHeartbeat (m := m) ?_ (hq.2 m hu)
          show (u.lastHeartbeat <|> d.lastHeartbeat) = some m
          rw [hu]
          rfl
      · show (d.apply u).isOnline = true
        rw [Device.isOnline, Device.apply, hq.1]
        exact hon
    | setLock id l => exact spares_modify (fun d => ⟨rfl, fun hd => hd, fun _ hon => hon⟩) s id
    | setAvailability id a =>
      exact spares_modify (fun d => ⟨rfl, fun hd => hd, fun _ hon => hon⟩) s id
    | markOnline id m =>
      exact spares_modifyIf (fun d _ => ⟨rfl, fun hd => hd, fun _ _ => rfl⟩) s id
    | markOffline id m cutoff =>
      obtain ⟨b, rfl, hb⟩ := hq
      -- The device that goes offline is one that has not been heard of.
      refine spares_modifyIf (fun d hmay => ⟨rfl, fun hd => hd, fun hd _ => ?_⟩) s id
      rw [hd.mayGoOffline hb] at hmay
      cases hmay

end Store

/-! ### Scans -/

namespace Watchdog

open Reconciler

variable {b c : Moment}

theorem takeOffline_within (hb : ¬ c < b) (number : String) :
    (takeOffline number (some b)).run.Within (ReconcileRequest.Spares c) := by
  refine ⟨trivial, fun r => ?_⟩
  match r with
  | .error e => trivial
  | .ok none => trivial
  | .ok (some d) =>
    refine ⟨trivial, fun time => ⟨⟨b, rfl, hb⟩, fun r => ?_⟩⟩
    match r with
    | .error e => trivial
    | .ok false => trivial
    | .ok true =>
      refine ⟨trivial, fun time => ⟨trivial, fun r => ?_⟩⟩
      match r with
      | .error e => trivial
      | .ok () => trivial

/-- Taking devices offline one after another spares those that have been heard of. -/
theorem takeAll_within (hb : ¬ c < b) (ds : List Device) :
    (takeAll b ds).Within (ReconcileRequest.Spares c) := by
  induction ds with
  | nil => trivial
  | cons d ds ih =>
    refine (takeOffline_within hb d.number).bind fun r => ih.bind fun n => ?_
    match r with
    | .error e => trivial
    | .ok false => trivial
    | .ok true => trivial

/-- A scan that knows its cutoff. -/
def scanFrom (b : Moment) : Reconcile (Except HandlerError Nat) :=
  (do let devices ← stale b; ExceptT.lift (takeAll b devices) : Handling Nat).run

/-- Where a scan with a cutoff up to a moment stands. -/
inductive Stage (c : Moment) : Reconcile (Except HandlerError Nat) → Prop where
  | starts (offlineAfter : Span) : Stage c (check offlineAfter).run
  | asks (b : Moment) : Stage c (scanFrom b)
  | takes {r : Reconcile (Except HandlerError Nat)} (h : r.Within (ReconcileRequest.Spares c)) :
      Stage c r

variable {q : ReconcileRequest} {rest : q.Answer → Reconcile (Except HandlerError Nat)}

/-- A scan makes sparing requests only. -/
theorem Stage.spares (h : Stage c (.call q rest)) : q.Spares c := by
  generalize hr : Program.call q rest = r at h
  cases h with
  | starts =>
    cases hr
    trivial
  | asks =>
    cases hr
    trivial
  | takes h =>
    subst hr
    exact h.1

/-- A scan goes on to its next stage if it does not look for devices with a later cutoff. -/
theorem Stage.next (h : Stage c (.call q rest)) (hq : q.isAhead c = false)
    (a : q.Answer) : Stage c (rest a) := by
  generalize hr : Program.call q rest = r at h
  cases h with
  | starts offlineAfter =>
    cases hr
    exact .asks (cutoff a offlineAfter)
  | asks b =>
    cases hr
    match a with
    | .error e => exact .takes trivial
    | .ok ds =>
      refine .takes ?_
      exact (takeAll_within (of_decide_eq_false hq) ds).bind fun _ => trivial
  | takes h =>
    subst hr
    exact .takes (h.2 a)

/-- A scan goes on to its next stage if a request of it fails. -/
theorem Stage.failed {q : StoreRequest}
    {rest : Except StoreError q.Answer → Reconcile (Except HandlerError Nat)}
    (h : Stage c (.call (.store q) rest)) (e : StoreError) : Stage c (rest (.error e)) := by
  generalize hr : (Program.call (.store q) rest : Reconcile _) = r at h
  cases h with
  | starts => cases hr
  | asks =>
    cases hr
    exact .takes trivial
  | takes h =>
    subst hr
    exact .takes (h.2 (.error e))

end Watchdog

/-! ### Handlers -/

/-- Whether a task spares devices that have been heard of since a moment: it reports no status, and
it takes no device offline but with a cutoff up to this moment. -/
def Task.isSparing (c : Moment) : Task → Bool
  | report ⟨_, .status _⟩ => false
  | report _ => true
  | offline _ none => false
  | offline _ (some b) => ¬ c < b

def Task.isHeartbeat : Task → Bool
  | report ⟨_, .heartbeat _⟩ => true
  | _ => false

namespace Position

/-- Whether the handler of a heartbeat has written it. -/
def hasStored : Position → Bool
  | heartbeatStored _ _ => true
  | unstamped _ _ _ => true
  | unrecorded _ => true
  | ended (.ok _) => true
  | _ => false

/-- Whether the handler of a heartbeat has seen to it that the device is online. -/
def hasMarked : Position → Bool
  | unstamped _ _ _ => true
  | unrecorded _ => true
  | ended (.ok _) => true
  | _ => false

end Position

/-- A device has been heard of when a heartbeat has been written for it. -/
theorem Store.isHeard_change {s : Store} {id : Int64} (hid : s.devices.contains id = true)
    {c m : Moment} (hm : ¬ m < c) (h : Heartbeat) :
    ∃ d, (s.change id (applyUpdate (Update.ofHeartbeatAt h m))).device? id = some d ∧
      d.IsHeard c := by
  obtain ⟨d, hd⟩ := Option.isSome_iff_exists.1 (show (s.device? id).isSome = true from hid)
  refine ⟨d.apply (Update.ofHeartbeatAt h m), ?_, Device.isHeard_of_lastHeartbeat rfl hm⟩
  rw [device?_change, if_pos rfl, hd]
  rfl

namespace Call

/-- What the handler of a heartbeat has seen to when it stands at a position. -/
structure Guards (c : Moment) (s : Store) (call : Call) (p : Position) : Prop where
  /-- The device that has been found is in the store under the number of the task. -/
  number : ∀ k, call.found = some k → ∃ d, s.device? k = some d ∧
    call.task.number? = some d.number
  /-- Once the heartbeat has been written, its device has been heard of; once it has been marked
  as online, it is online. -/
  heard : call.task.isHeartbeat = true → p.hasStored = true → ∃ k d, call.found = some k ∧
    s.device? k = some d ∧ d.IsHeard c ∧ (p.hasMarked = true → d.isOnline = true)

variable {c : Moment} {s s' : Store} {time : Moment} {taken : Bool} {call : Call}
  {p p' : Position} {q : ReconcileRequest} {f : Option Int64}

/-- A handler of a sparing task makes sparing requests, unless it writes a belated heartbeat. -/
theorem Stands.spares (hp : call.Stands s p) (h : p.Serves s time taken q p' s' f)
    (ht : call.task.isSparing c = true) (hq : q.isBelated c = false) : q.Spares c := by
  have hoffline : ∀ n cutoff, call.task = .offline n cutoff → ∃ b, cutoff = some b ∧ ¬ c < b := by
    intro n cutoff htask
    rw [htask] at ht
    cases cutoff with
    | none => cases ht
    | some b => exact ⟨b, rfl, of_decide_eq_true ht⟩
  cases h with
  | storesHeartbeat id h m =>
    refine ⟨rfl, fun m' hm => ?_⟩
    obtain rfl : m = m' := Option.some.inj hm
    exact of_decide_eq_false hq
  | overwrites =>
    obtain ⟨⟨n, htask⟩, -⟩ := hp.fits
    rw [htask] at ht
    cases ht
  | goesOffline m cutoff =>
    obtain ⟨⟨n, htask⟩, -⟩ := hp.fits
    exact hoffline n cutoff htask
  | staysAsItIs m cutoff =>
    obtain ⟨⟨n, htask⟩, -⟩ := hp.fits
    exact hoffline n cutoff htask
  | refused hdevice hmissing =>
    rw [hp.known _ hdevice] at hmissing
    cases hmissing
  | _ => trivial

/-- What has been seen to lasts as long as all devices are spared. -/
theorem Guards.mono (h : call.Guards c s p) (hs : s.Spares c s') : call.Guards c s' p := by
  refine ⟨fun k hk => ?_, fun htask hstored => ?_⟩
  · obtain ⟨d, hd, hnumber⟩ := h.number k hk
    obtain ⟨d', hd', hspared⟩ := hs k d hd
    exact ⟨d', hd', by rw [hspared.number, hnumber]⟩
  · obtain ⟨k, d, hk, hd, hheard, hmarked⟩ := h.heard htask hstored
    obtain ⟨d', hd', hspared⟩ := hs k d hd
    exact ⟨k, d', hk, hd', hspared.heard hheard, fun hm => hspared.online hheard (hmarked hm)⟩

/-- A handler that goes on to see to nothing new. -/
theorem Guards.of_le (h : call.Guards c s p)
    (hstored : call.task.isHeartbeat = true → p'.hasStored = true → p.hasStored = true)
    (hmarked : call.task.isHeartbeat = true → p'.hasMarked = true → p.hasMarked = true) :
    (⟨call.task, call.found, some p'.program⟩ : Call).Guards c s p' := by
  refine ⟨h.number, fun htask hp' => ?_⟩
  obtain ⟨k, d, hk, hd, hheard, hon⟩ := h.heard htask (hstored htask hp')
  exact ⟨k, d, hk, hd, hheard, fun hm => hon (hmarked htask hm)⟩

/-- A handler that has just found its device has written nothing yet. -/
theorem hasStored_found {t : Task} (ht : t.isHeartbeat = true) (id : Int64) :
    (Position.found id t).hasStored = false := by
  cases t with
  | offline number cutoff => cases ht
  | report m =>
    obtain ⟨number, r⟩ := m
    cases r with
    | heartbeat h => rfl
    | _ => cases ht

/-- **What a handler has seen to when its next request has been served.** -/
theorem Guards.served (h : call.Guards c s p) (hp : call.Stands s p)
    (hserves : p.Serves s time taken q p' s' f) (hq : q.isBelated c = false)
    (hs : s.Spares c s') :
    (⟨call.task, f <|> call.found, some p'.program⟩ : Call).Guards c s' p' := by
  have hmono : call.Guards c s' p := h.mono hs
  -- Only the handlers of heartbeats have anything to see to.
  have hother : call.task.isHeartbeat = false →
      (⟨call.task, call.found, some p'.program⟩ : Call).Guards c s' p' := by
    intro htask
    refine hmono.of_le (fun ht => ?_) fun ht => ?_
    all_goals
      rw [htask] at ht
      cases ht
  cases hserves with
  | handsOver number a =>
    obtain ⟨htask, -⟩ := hp.fits
    exact hother (by rw [← htask]; rfl)
  | unknown => exact hmono.of_le (fun _ hp' => by cases hp') fun _ hp' => by cases hp'
  | @finds t number d ht hd =>
    obtain ⟨rfl, -⟩ := hp.fits
    refine ⟨fun k hk => ?_, fun htask hstored => ?_⟩
    · obtain rfl : d.id = k := Option.some.inj hk
      have hnumber : d.number = number := (Store.find?_eq_some hd).2
      refine ⟨d, Store.device?_of_find? hd, ?_⟩
      rw [hnumber]
      exact ht
    · rw [hasStored_found htask] at hstored
      cases hstored
  | timesHeartbeat => exact hmono.of_le (fun _ hp' => by cases hp') fun _ hp' => by cases hp'
  | storesHeartbeat id report m hid =>
    obtain ⟨-, hfound⟩ := hp.fits
    refine ⟨hmono.number, fun _ _ => ?_⟩
    obtain ⟨d, hd, hheard⟩ := Store.isHeard_change hid (of_decide_eq_false hq) report
    exact ⟨id, d, hfound, hd, hheard, fun hmarked => by cases hmarked⟩
  | @goesOnline id d m hd hoff =>
    obtain ⟨-, hfound⟩ := hp.fits
    refine ⟨hmono.number, fun htask _ => ?_⟩
    obtain ⟨k, d', hk, hd', hheard, -⟩ := h.heard htask rfl
    obtain rfl : k = id := Option.some.inj (hk.symm.trans hfound)
    obtain rfl : d' = d := Option.some.inj (hd'.symm.trans hd)
    refine ⟨k, (Store.goOnline m).apply d', hfound, ?_, hheard, fun _ => rfl⟩
    rw [Store.device?_change, if_pos rfl, hd]
    rfl
  | @staysOnline id d m hd hon =>
    refine ⟨hmono.number, fun htask _ => ?_⟩
    obtain ⟨-, hfound⟩ := hp.fits
    obtain ⟨k, d', hk, hd', hheard, -⟩ := h.heard htask rfl
    obtain rfl : k = id := Option.some.inj (hk.symm.trans hfound)
    obtain rfl : d' = d := Option.some.inj (hd'.symm.trans hd)
    exact ⟨k, d', hfound, hd', hheard, fun _ => hon⟩
  | overwrites =>
    obtain ⟨⟨n, htask⟩, -⟩ := hp.fits
    exact hother (by rw [htask]; rfl)
  | unlocks =>
    obtain ⟨⟨n, e, htask, -⟩, -⟩ := hp.fits
    exact hother (by rw [htask]; rfl)
  | locks =>
    obtain ⟨⟨n, e, htask, -⟩, -⟩ := hp.fits
    exact hother (by rw [htask]; rfl)
  | breaks =>
    obtain ⟨⟨n, e, htask, -⟩, -⟩ := hp.fits
    exact hother (by rw [htask]; rfl)
  | notes =>
    obtain ⟨⟨n, e, htask, -⟩, -⟩ := hp.fits
    exact hother (by rw [htask]; rfl)
  | timesSilence =>
    obtain ⟨⟨n, htask⟩, -⟩ := hp.fits
    exact hother (by rw [htask]; rfl)
  | goesOffline =>
    obtain ⟨⟨n, htask⟩, -⟩ := hp.fits
    exact hother (by rw [htask]; rfl)
  | staysAsItIs =>
    obtain ⟨⟨n, htask⟩, -⟩ := hp.fits
    exact hother (by rw [htask]; rfl)
  | stamps => exact hmono.of_le (fun _ _ => rfl) fun _ _ => rfl
  | records => exact hmono.of_le (fun _ _ => rfl) fun _ _ => rfl
  | refused hdevice hmissing =>
    rw [hp.known _ hdevice] at hmissing
    cases hmissing

/-- A heartbeat that is written for a device is heard. -/
theorem Stands.hears {k : Int64} {u : Update} {m : Moment} (hp : call.Stands s p)
    (h : p.Serves s time taken (.store (.update k u)) p' s' f) (hu : u.lastHeartbeat = some m)
    (hm : ¬ m < c) : ∃ d, s'.device? k = some d ∧ d.IsHeard c := by
  cases h with
  | storesHeartbeat _ report m' hid =>
    obtain rfl : m' = m := Option.some.inj hu
    exact Store.isHeard_change hid hm report
  | overwrites => cases hu
  | refused hdevice hmissing =>
    rw [hp.known _ hdevice] at hmissing
    cases hmissing

/-- A handler of a sparing task that has been cut off or has seen to what it has come past. -/
def IsGuarded (c : Moment) (s : Store) (call : Call) : Prop :=
  call.task.isSparing c = true ∧ (call.rest = none ∨ ∃ p, call.Stands s p ∧ call.Guards c s p)

theorem IsGuarded.mono (h : call.IsGuarded c s) (hs : s.Spares c s') : call.IsGuarded c s' := by
  obtain ⟨htask, hrest | ⟨p, hp, hguards⟩⟩ := h
  · exact ⟨htask, Or.inl hrest⟩
  · exact ⟨htask, Or.inr ⟨p, hp.mono fun _ hid => hs.contains hid, hguards.mono hs⟩⟩

end Call

end LockFleet
