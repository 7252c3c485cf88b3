import LockFleet.Device.Schema
import LockFleet.Proofs.Device.Intake
import LockFleet.Proofs.Json.Text

/-!
# The stored types of entries

The type of an entry is stored as a name and is read back from it.  An event that is not one of the
known ones lends its own name to its entry, so that a device chooses the name.  The choice of a name
that stands for a switch makes the entry read as one.

* `EntryKind.read_written` — a stored type is read by its name;
* `EntryKind.ofName_name_event` — the names that an event does not share with a type;
* `Entry.IsReadBack` — what the entry of an event is read back as;
* `Intake.event_entry_readBack` — every entry that an event leaves.
-/

namespace LockFleet

namespace EntryKind

/-- A stored type is read by its name, whatever follows it. -/
theorem read_written (levels : Nat) (name : String) (rest : Bytes) :
    EntryKind.read levels ((Json.Value.text name).write ++ rest) = .ok (ofName name, rest) := by
  have htext : Json.text levels ((Json.Value.text name).write ++ rest) = .ok (name, rest) :=
    Json.text_writeText levels name rest
  simp only [EntryKind.read, bind, StateT.bind, htext]
  rfl

/-- The types that are no events are read back as they were. -/
theorem ofName_name {kind : EntryKind} (h : ∀ name, kind ≠ event name) :
    ofName kind.name = kind := by
  cases kind with
  | event name => exact absurd rfl (h name)
  | online => rfl
  | offline => rfl
  | unlock => rfl
  | lock => rfl
  | error => rfl

/-- An event is read back as it was unless its name is that of another type. -/
theorem ofName_name_event {name : String} (hunlock : name ≠ "unlock") (hlock : name ≠ "lock")
    (herror : name ≠ "error") : ofName (event name).name =
      if name = "online" then online else if name = "offline" then offline else event name := by
  show ofName name = _
  rw [ofName, if_neg hunlock, if_neg hlock, if_neg herror]

end EntryKind

/-- An event that is not known is noted by its own name, which is none of the known ones. -/
theorem EventKind.of_ofName_eq_other {name n : String} (h : ofName name = .other n) :
    n = name ∧ name ≠ "unlock" ∧ name ≠ "lock" ∧ name ≠ "error" := by
  unfold ofName at h
  split at h
  · cases h
  · next hunlock =>
    split at h
    · cases h
    · next hlock =>
      split at h
      · cases h
      · next herror =>
        split at h
        · cases h
        · cases h
          exact ⟨rfl, fun hn => hunlock (Or.inr hn), fun hn => hlock (Or.inr hn), herror⟩

namespace EntryKind

/-- **The type of the entry that an event leaves, read back by the name that the event has.** -/
theorem ofName_name_ofEvent (name : String) :
    ofName (ofEvent (EventKind.ofName name)).name =
      if name = "online" then online else if name = "offline" then offline
      else ofEvent (EventKind.ofName name) := by
  cases hkind : EventKind.ofName name with
  | other n =>
    obtain ⟨rfl, hunlock, hlock, herror⟩ := EventKind.of_ofName_eq_other hkind
    exact ofName_name_event hunlock hlock herror
  | _ =>
    -- The known events have none of the two names.
    have hon : name ≠ "online" := by
      rintro rfl
      have hother : EventKind.ofName "online" = .other "online" := by decide
      rw [hother] at hkind
      cases hkind
    have hoff : name ≠ "offline" := by
      rintro rfl
      have hother : EventKind.ofName "offline" = .other "offline" := by decide
      rw [hother] at hkind
      cases hkind
    rw [if_neg hon, if_neg hoff]
    exact ofName_name fun _ => EntryKind.noConfusion

theorem ofEvent_ne_switch (kind : EventKind) :
    ofEvent kind ≠ online ∧ ofEvent kind ≠ offline := by
  cases kind <;> exact ⟨EntryKind.noConfusion, EntryKind.noConfusion⟩

end EntryKind

/-- What becomes of the type of an entry that an event with a name has left. -/
structure Entry.IsReadBack (name : String) (e : Entry) : Prop where
  kind : e.kind = EntryKind.ofEvent (EventKind.ofName name)
  /-- The type is read from the written entry by its stored name. -/
  read : ∃ v, ("type", v) ∈ e.members ∧ ∀ levels rest,
    EntryKind.read levels (v.write ++ rest) = .ok (EntryKind.ofName e.kind.name, rest)
  /-- It is read back as it was unless the name is that of a switch. -/
  kept : EntryKind.ofName e.kind.name = e.kind ↔ name ≠ "online" ∧ name ≠ "offline"
  online : EntryKind.ofName e.kind.name = .online ↔ name = "online"
  offline : EntryKind.ofName e.kind.name = .offline ↔ name = "offline"

theorem Entry.isReadBack {name : String} {e : Entry}
    (h : e.kind = EntryKind.ofEvent (EventKind.ofName name)) : e.IsReadBack name := by
  obtain ⟨hon, hoff⟩ := EntryKind.ofEvent_ne_switch (EventKind.ofName name)
  have hback := EntryKind.ofName_name_ofEvent name
  rw [← h] at hon hoff hback
  refine ⟨h, ⟨.text e.kind.name, ?_, fun levels rest => ?_⟩, ?_, ?_, ?_⟩
  · rw [Entry.members]
    exact List.mem_cons_of_mem _ List.mem_cons_self
  · exact EntryKind.read_written levels e.kind.name rest
  all_goals
    rw [hback]
    by_cases hname : name = "online"
    · rw [if_pos hname]
      simp [hname, Ne.symm hon]
    · rw [if_neg hname]
      by_cases hname' : name = "offline"
      · rw [if_pos hname']
        simp [hname', Ne.symm hoff]
      · rw [if_neg hname']
        simp [hname, hname', hon, hoff]

/-- A handler that records an entry stands where its task leaves it. -/
theorem Position.Serves.leaves {s s' : Store} {time : Moment} {taken : Bool} {p p' : Position}
    {f : Option Int64} {c : Call} {entry : Entry}
    (h : p.Serves s time taken (.store (.record entry)) p' s' f) (hp : c.Stands s p) :
    ∃ id kind content time, entry = Entry.bySystem id kind content time ∧
      c.task.Leaves kind content := by
  cases h with
  | records =>
    obtain ⟨id, kind, content, time, he, hleaves, -⟩ := hp.fits
    exact ⟨id, kind, content, time, he, hleaves⟩
  | refused hdevice hmissing =>
    rw [hp.known _ hdevice] at hmissing
    cases hmissing

namespace Intake

variable {s : Store} {es : List Event} {c : Call} {entry : Entry}

/-- An entry is recorded by a handler whose task leaves such an entry. -/
theorem leaves_of_request? {i : Nat} (hc : (play s es).calls[i]? = some c)
    (hq : c.request? = some (.store (.record entry))) :
    ∃ id kind content time, entry = Entry.bySystem id kind content time ∧
      c.task.Leaves kind content := by
  rcases placed s es c (List.mem_of_getElem? hc) with hnone | ⟨p, hp⟩
  · rw [Call.request?, hnone] at hq
    cases hq
  · obtain ⟨p', hserves⟩ := hp.request_served hq .epoch true
    exact hserves.leaves hp

/-- **An entry that an event leaves is read back as it was, unless the event has the name of a
switch; then it is read back as this switch.** -/
theorem event_entry_readBack {i : Nat} {number : String} {e : EventReport}
    (hc : (play s es).calls[i]? = some c) (ht : c.task = .report ⟨number, .event e⟩)
    (hq : c.request? = some (.store (.record entry))) (time : Moment) (taken : Bool) :
    (play s (es ++ [.serve i time taken])).store.history =
        (play s es).store.history ++ [entry] ∧
      entry.content = e.message ∧ entry.IsReadBack e.event := by
  obtain ⟨next, hrest⟩ := Call.rest_of_request? hq
  have hstep : (play s es).step (.serve i time taken) = (play s es).serve i c time taken := by
    rw [step, hc]
  obtain ⟨id, kind, content, time', rfl, hleaves⟩ := leaves_of_request? hc hq
  rw [ht] at hleaves
  obtain ⟨hkind, hcontent⟩ := hleaves
  refine ⟨?_, hcontent, Entry.isReadBack hkind⟩
  rw [play_snoc, hstep, serve_of_call hrest]
  rfl

/-- A device tells of an event that it calls online, and the event is recorded. -/
def onlineEvent : List Event :=
  [.call (.report ⟨"lock-1", .event ⟨0, "online", none⟩⟩), .serve 0 .epoch true,
    .serve 0 .epoch true]

theorem event_entry_readBack_onlineEvent :
    ∃ c entry, (play (Store.empty.insert (.fresh 1 "lock-1")) onlineEvent).calls[0]? = some c ∧
      c.task = .report ⟨"lock-1", .event ⟨0, "online", none⟩⟩ ∧
      c.request? = some (.store (.record entry)) ∧ entry.IsReadBack "online" := by
  obtain ⟨c, hc, ht, entry, hq⟩ : ∃ c,
      (play (Store.empty.insert (.fresh 1 "lock-1")) onlineEvent).calls[0]? = some c ∧
      c.task = .report ⟨"lock-1", .event ⟨0, "online", none⟩⟩ ∧
      ∃ entry, c.request? = some (.store (.record entry)) :=
    ⟨_, rfl, rfl, _, rfl⟩
  exact ⟨c, entry, hc, ht, hq, (event_entry_readBack hc ht hq .epoch true).2.2⟩

/-- The event of a device is recorded and reads as a switch that has not been made. -/
theorem online_event_misread :
    (play (Store.empty.insert (.fresh 1 "lock-1"))
        (onlineEvent ++ [.serve 0 .epoch true])).store.history.map
      (fun e => (e.kind, EntryKind.ofName e.kind.name)) = [(.event "online", .online)] ∧
      ¬ ∀ name, EntryKind.ofName (EntryKind.ofEvent (EventKind.ofName name)).name =
        EntryKind.ofEvent (EventKind.ofName name) := by
  refine ⟨by decide +kernel, fun h => ?_⟩
  have honline := h "online"
  revert honline
  decide

end Intake

end LockFleet
