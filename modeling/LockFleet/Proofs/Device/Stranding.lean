import LockFleet.Proofs.Device.Aftermath

/-!
# Changes without entries

Between the request that changes a device and the one that records the change a store may fail.  So
every change that is to be recorded may be left without its entry, whichever task it belongs to.

* `Intake.Reaches` — a single handler can be brought to a position;
* `Intake.Reaches.unstamped` — every handler that makes a change comes to where it is recorded;
* `Intake.change_stranded` — the store fails there;
* `Intake.Leftovers`, `Intake.unfinished_leaves` — all that may be left, and what is left by some
  failure.
-/

namespace LockFleet

/-- A lookup that finds a device leads to the position of its task. -/
theorem Position.Serves.eq_found {s s' : Store} {t : Task} {time : Moment} {taken : Bool}
    {p' : Position} {number : String} {d : Device} {f : Option Int64}
    (h : Serves s time taken (start t) (.store (.find number)) p' s' f)
    (hd : s.find? number = some d) : p' = found d.id t := by
  cases h with
  | unknown ht hnone =>
    rw [hd] at hnone
    cases hnone
  | finds ht hd' =>
    obtain rfl := Option.some.inj (hd'.symm.trans hd)
    rfl
  | refused hp => cases hp

namespace Intake

variable {s : Store} {t : Task}

/-- A single handler can be brought to a position, with the store left as it is then. -/
def Reaches (s : Store) (t : Task) (x : Store) (p : Position) : Prop :=
  ∃ es found, (∀ e ∈ es, e.isAbout 0 = true) ∧
    play s (.call t :: es) = ⟨x, [⟨t, found, some p.program⟩]⟩

theorem reaches_start (s : Store) (t : Task) : Reaches s t s (.start t) :=
  ⟨[], none, fun _ he => absurd he List.not_mem_nil, rfl⟩

variable {x x' : Store} {p p' : Position} {d : Device}

/-- A handler goes on from a position when its request is answered. -/
theorem Reaches.serve {q : ReconcileRequest}
    {next : q.Answer → Reconcile (Except HandlerError Unit)} {a : q.Answer}
    (h : Reaches s t x p) (time : Moment) (hprog : p.program = .call q next)
    (hanswer : x.answer time true q = (a, x')) (hnext : next a = p'.program) :
    Reaches s t x' p' := by
  obtain ⟨es, found, hes, hplay⟩ := h
  refine ⟨es ++ [.serve 0 time true], q.found? a <|> found, fun e he => ?_, ?_⟩
  · rcases List.mem_append.1 he with he | he
    · exact hes e he
    · rw [List.mem_singleton.1 he]
      rfl
  · have hstep : (play s (.call t :: es)).step (.serve 0 time true) =
        (play s (.call t :: es)).serve 0 ⟨t, found, some p.program⟩ time true := by
      rw [step, hplay]
      rfl
    rw [← List.cons_append, play_snoc, hstep, serve_of_call (congrArg some hprog), hplay, hanswer,
      hnext]
    rfl

/-- A handler that looks for a device finds it. -/
theorem Reaches.found (hd : t.Finds s d) : Reaches s t s (.found d.id t) := by
  obtain ⟨number, ht, hd⟩ := hd
  have hanswer : s.answer .epoch true (.store (.find number)) = (.ok (some d), s) := by
    show (Except.ok (s.find? number), s) = _
    rw [hd]
    rfl
  obtain ⟨next, hprog⟩ :
      ∃ next, (Position.start t).program = .call (.store (.find number)) next := by
    cases t with
    | offline n cutoff =>
      cases ht
      exact ⟨_, rfl⟩
    | report m =>
      obtain ⟨n, r⟩ := m
      cases r <;> cases ht <;> exact ⟨_, rfl⟩
  have hfollows : Position.Follows s .epoch true (.start t) _ next := Position.serves hprog
  obtain ⟨p', hserves, hnext⟩ := hfollows
  rw [hserves.eq_found hd, hanswer] at hnext
  exact (reaches_start s t).serve .epoch hprog hanswer hnext

/-- A handler comes to where its change has been made and its entry is to be recorded. -/
theorem Reaches.unstamped {time : Moment} {change : Store.Change} {kind : EntryKind}
    {content : Option String} (hd : t.Finds s d) (hchange : t.change? time d = some change)
    (hleaves : t.Leaves kind content) :
    ∃ x, Reaches s t x (.unstamped d.id kind content) ∧ (s.change d.id change).Agrees x ∧
      x.history = s.history := by
  have hdevice := hd.device?
  have hid : s.devices.contains d.id = true := by
    show (s.device? d.id).isSome = true
    rw [hdevice]
    rfl
  have hfound := Reaches.found hd
  cases t with
  | offline number cutoff =>
    obtain ⟨rfl, rfl⟩ := hleaves
    have htimed : Reaches s (.offline number cutoff) s (.silenceTimed d.id time cutoff) :=
      hfound.serve time rfl rfl rfl
    have hmark := Store.settled_modifyIf (Store.mayGoOffline cutoff) (Store.goOffline time) hdevice
    cases hmay : Store.mayGoOffline cutoff d with
    | false =>
      rw [Task.change?, hmay, if_neg Bool.false_ne_true] at hchange
      cases hchange
    | true =>
      rw [Task.change?, hmay, if_pos rfl] at hchange
      obtain rfl := Option.some.inj hchange
      rw [hmay, if_pos rfl] at hmark
      exact ⟨_, htimed.serve time rfl hmark rfl, .refl _, rfl⟩
  | report m =>
    obtain ⟨number, r⟩ := m
    cases r with
    | status r => exact hleaves.elim
    | ack a => exact hleaves.elim
    | heartbeat h =>
      obtain ⟨rfl, rfl⟩ := hleaves
      have htimed : Reaches s (.report ⟨number, .heartbeat h⟩) s (.heartbeatTimed d.id h time) :=
        hfound.serve time rfl rfl rfl
      have hstored : Reaches s (.report ⟨number, .heartbeat h⟩)
          (s.change d.id (Store.applyUpdate (Update.ofHeartbeatAt h time)))
          (.heartbeatStored d.id time) :=
        htimed.serve time rfl (Store.settled_modify hid) rfl
      have hdevice' : (s.change d.id (Store.applyUpdate (Update.ofHeartbeatAt h time))).device? d.id
          = some (d.apply (Update.ofHeartbeatAt h time)) := by
        rw [Store.device?_change, if_pos rfl, hdevice]
        rfl
      have hmark := Store.settled_modifyIf (fun d => !d.isOnline) (Store.goOnline time) hdevice'
      have hsame : (d.apply (Update.ofHeartbeatAt h time)).isOnline = d.isOnline := rfl
      cases hon : d.isOnline with
      | true =>
        rw [Task.change?, hon, if_pos rfl] at hchange
        cases hchange
      | false =>
        rw [Task.change?, hon, if_neg Bool.false_ne_true] at hchange
        obtain rfl := Option.some.inj hchange
        rw [hsame, hon, Bool.not_false, if_pos rfl] at hmark
        exact ⟨_, hstored.serve time rfl hmark rfl,
          (Store.Agrees.change_other (fun _ => rfl) d.id).goOnline d.id time, rfl⟩
    | event e =>
      obtain ⟨rfl, rfl⟩ := hleaves
      have hkind : Reaches s (.report ⟨number, .event e⟩) s (.eventFound d.id e.kind e.message) :=
        hfound
      have hchange' : e.kind.change? = some change := hchange
      revert hkind hchange'
      cases e.kind with
      | unlocked =>
        rintro hkind ⟨⟩
        exact ⟨_, hkind.serve .epoch rfl (Store.settled_modify hid) rfl, .refl _, rfl⟩
      | locked =>
        rintro hkind ⟨⟩
        exact ⟨_, hkind.serve .epoch rfl (Store.settled_modify hid) rfl, .refl _, rfl⟩
      | error =>
        rintro hkind ⟨⟩
        exact ⟨_, hkind.serve .epoch rfl (Store.settled_modify hid) rfl, .refl _, rfl⟩
      | alarm =>
        rintro hkind ⟨⟩
        exact ⟨_, hkind.serve .epoch rfl (Store.settled_modify hid) rfl, .refl _, rfl⟩
      | other name =>
        rintro - ⟨⟩

/-- **Every change that is to be recorded may be left without its entry**, whatever its task: by a
store that fails when the entry is to be recorded, with any error. -/
theorem change_stranded {time : Moment} {change : Store.Change} {kind : EntryKind}
    {content : Option String} (hd : t.Finds s d) (hchange : t.change? time d = some change)
    (hleaves : t.Leaves kind content) (error : StoreError) :
    ∃ es c, Unfinished s t es c ∧ c.rest = some (.done (.error (.store error))) ∧
      (s.change d.id change).Agrees (play s (.call t :: es)).store ∧
      (play s (.call t :: es)).store.history = s.history := by
  obtain ⟨x, hunstamped, hagrees, hhistory⟩ := Reaches.unstamped hd hchange hleaves
  have hstamped : Reaches s t x (.unrecorded (Entry.bySystem d.id kind content .epoch)) :=
    hunstamped.serve .epoch rfl rfl rfl
  obtain ⟨es, found, hes, hplay⟩ := hstamped
  have hfail : play s (.call t :: (es ++ [.fail 0 error])) =
      ⟨x, [⟨t, found, some (.done (.error (.store error)))⟩]⟩ := by
    rw [← List.cons_append, play_snoc, hplay]
    rfl
  refine ⟨es ++ [.fail 0 error], ⟨t, found, some (.done (.error (.store error)))⟩,
    ⟨fun e he => ?_, ?_, rfl⟩, rfl, ?_⟩
  · rcases List.mem_append.1 he with he | he
    · exact hes e he
    · rw [List.mem_singleton.1 he]
      rfl
  · rw [hfail]
    rfl
  · rw [hfail]
    exact ⟨hagrees, hhistory⟩

/-- What handlers of a task leave behind that do not succeed. -/
structure Leftovers (s : Store) (t : Task) : Prop where
  /-- Nothing, the change of the task without its entry, or all if the handler was cut off last. -/
  leaves : ∀ es c, Unfinished s t es c →
    c.task = t ∧ LeftBehind s c (play s (.call t :: es)).store
  /-- Any change that is to be recorded is left without its entry by some failure of the store. -/
  strands : ∀ d time change kind content error, t.Finds s d → t.change? time d = some change →
    t.Leaves kind content → ∃ es c, Unfinished s t es c ∧
      c.rest = some (.done (.error (.store error))) ∧
      (s.change d.id change).Agrees (play s (.call t :: es)).store ∧
      (play s (.call t :: es)).store.history = s.history

/-- **What handlers leave behind that do not succeed**: no entry without its change, but any change
without its entry. -/
theorem unfinished_leaves (s : Store) (t : Task) : Leftovers s t :=
  ⟨fun _ _ h => h.leftBehind,
    fun _ _ _ _ _ error hd hchange hleaves => change_stranded hd hchange hleaves error⟩

/-- A device is to go offline, and the entry cannot be stored. -/
def unrecordedSwitch : List Event :=
  [.serve 0 .epoch true, .serve 0 .epoch true, .serve 0 .epoch true, .serve 0 .epoch true,
    .fail 0 (.backend "create_log rejected")]

/-- A store with one device, which is online. -/
def onlineStore : Store :=
  Store.empty.insert { Device.fresh 1 "lock-1" with reachability := .online }

theorem unfinished_unrecordedSwitch :
    ∃ c, Unfinished onlineStore (.offline "lock-1" none) unrecordedSwitch c :=
  ⟨_, by decide, rfl, rfl⟩

theorem unfinished_leaves_unrecordedSwitch :
    ∃ c, Unfinished onlineStore (.offline "lock-1" none) unrecordedSwitch c ∧
      LeftBehind onlineStore c
        (play onlineStore (.call (.offline "lock-1" none) :: unrecordedSwitch)).store := by
  obtain ⟨c, hc⟩ := unfinished_unrecordedSwitch
  exact ⟨c, hc, ((unfinished_leaves _ _).leaves _ c hc).2⟩

/-- **A change may stand without its entry**: the device has gone offline, and its history does not
say so. -/
theorem not_all_or_nothing :
    ¬ ∀ (s : Store) (t : Task) (es : List Event) (c : Call), Unfinished s t es c →
      s.Agrees (play s (.call t :: es)).store ∧
        (play s (.call t :: es)).store.history = s.history := by
  intro h
  obtain ⟨c, hc⟩ := unfinished_unrecordedSwitch
  have hagrees := (h onlineStore (.offline "lock-1" none) unrecordedSwitch c hc).1 1
  revert hagrees
  decide +kernel

end Intake

end LockFleet
