import LockFleet.Hub
import LockFleet.Proofs.Broker.Session
import Mathlib.Data.List.Induction
import Mathlib.Data.List.Nodup

/-!
# Listening to reports

After a hub has been started its router stands behind the four filters for reports, and behind no
other filter.  No topic is selected by two of them, so that no message is routed twice.

* `Registry.registry_of_subscribeAll` — the registry after subscriptions;
* `Hub.Listens`, `Hub.listens` — a connection after a start;
* `Listening.eq_of_selects` — at most one filter selects a topic;
* `Hub.Listens.mem_matching`, `Hub.Listens.count_matching` — how often a message is routed.
-/

namespace LockFleet

variable {H L : Type} [Link L]

/-! ### Subscriptions -/

namespace Registry

variable {quality : Quality} {handler : H} {b : Broker H} {l : L}

/-- A table with one value set for several keys. -/
def setAll (t : Table String (Subscription H)) (entry : Subscription H) (filters : List String) :
    Table String (Subscription H) :=
  filters.foldl (fun t p => t.insert p entry) t

theorem find?_setAll (t : Table String (Subscription H)) (entry : Subscription H)
    (filters : List String) (k : String) :
    (setAll t entry filters).find? k = if k ∈ filters then some entry else t.find? k := by
  induction filters using List.reverseRecOn with
  | nil => rfl
  | append_singleton filters p ih =>
    rw [setAll, List.foldl_append]
    show ((setAll t entry filters).insert p entry).find? k = _
    by_cases hk : k = p
    · rw [hk, Table.find?_insert_self, if_pos (List.mem_append_right _ (List.mem_singleton_self p))]
    · rw [Table.find?_insert_of_ne _ _ hk, ih]
      simp only [List.mem_append, List.mem_singleton, hk, or_false]

/-- Subscriptions register their handler, whatever becomes of the requests. -/
theorem registry_of_subscribeAll (quality : Quality) (handler : H) (filters : List String)
    (b : Broker H) (l : L) :
    ((subscribeAll quality (filters.map fun p => (p, handler))).run BrokerRequest.serve
        (b, l)).2.1 =
      { b with registry := setAll b.registry ⟨quality, handler⟩ filters } := by
  have hset : setAll b.registry ⟨quality, handler⟩ filters =
      setEach quality b.registry (filters.map fun p => (p, handler)) := by
    rw [setEach, List.foldl_map]
    rfl
  rw [hset]
  exact (subscribeAll_spec quality _ b _ l rfl).1

end Registry

namespace Hub

/-- A connection over which a router listens. -/
structure Listens (router : H) (b : Broker H) : Prop where
  /-- The router stands behind the filters for reports. -/
  heard : ∀ p ∈ Listening.patterns, ∃ q, b.registry.find? p = some ⟨q, router⟩
  /-- It stands behind no other filter. -/
  only : ∀ p e, b.registry.find? p = some e → e.handler = router → p ∈ Listening.patterns

variable {quality : Quality} {router : H} {b₀ b : Broker H} {l₀ l : L}

/-- A start that succeeds is one whose subscriptions all succeed. -/
theorem start_of_listen (hstart : Registry.run (listen quality router) b₀ l₀ = (.ok (), b, l)) :
    (Listening.start quality router).run BrokerRequest.serve (b₀, l₀) = (.ok (), b, l) := by
  have hrun : ((Listening.start quality router).bind fun r => _).run BrokerRequest.serve (b₀, l₀) =
      (Except.ok (), b, l) := hstart
  rw [Program.run_bind] at hrun
  generalize (Listening.start quality router).run BrokerRequest.serve (b₀, l₀) = started at hrun ⊢
  obtain ⟨r, x⟩ := started
  cases r with
  | ok u => exact hrun
  | error e =>
    have hstop : ((Listening.stop (H := H)).bind fun _ => .done (Except.error e)).run
        BrokerRequest.serve x = (Except.ok (), b, l) := hrun
    rw [Program.run_bind] at hstop
    cases hstop

/-- **A hub that has been started listens.**  Its router is new: nobody has registered it before. -/
theorem listens (hstart : Registry.run (listen quality router) b₀ l₀ = (.ok (), b, l))
    (hnew : ∀ e ∈ b₀.registry.entries, e.2.handler ≠ router) : Listens router b := by
  have hregistry : b.registry = Registry.setAll b₀.registry ⟨quality, router⟩
      Listening.patterns := by
    have hb := Registry.registry_of_subscribeAll quality router Listening.patterns b₀ l₀
    have hlisten : (Registry.subscribeAll quality (Listening.patterns.map fun p => (p, router))).run
      BrokerRequest.serve (b₀, l₀) = (.ok (), b, l) := start_of_listen hstart
    rw [hlisten] at hb
    exact congrArg Broker.registry hb
  refine ⟨fun p hp => ⟨quality, ?_⟩, fun p e hfind hrouter => ?_⟩
  · rw [hregistry, Registry.find?_setAll, if_pos hp]
  · by_contra hp
    rw [hregistry, Registry.find?_setAll, if_neg hp] at hfind
    exact hnew (p, e) ((b₀.registry.mem_entries_iff p e).2 hfind) hrouter

end Hub

/-! ### Topics -/

namespace Listening

theorem levels_everyDevice (kind : ReportKind) :
    Topic.levels (Topic.everyDevice kind.name) = ["device", "+", kind.name] := by
  cases kind <;> decide

/-- A filter for reports selects topics of three levels. -/
theorem levels_of_selects {kind : ReportKind} {topic : String}
    (h : Topic.selects (Topic.everyDevice kind.name) topic = true) :
    ∃ device, Topic.levels topic = ["device", device, kind.name] := by
  rw [Topic.selects, levels_everyDevice] at h
  have hname : kind.name ≠ "#" ∧ kind.name ≠ "+" := by
    cases kind <;> decide
  match hlevels : Topic.levels topic with
  | [] => simp [hlevels, Topic.levelsSelect] at h
  | [root] => simp [hlevels, Topic.levelsSelect] at h
  | [root, device] => simp [hlevels, Topic.levelsSelect, hname] at h
  | [root, device, last] =>
    have hlast : "device" = root ∧ kind.name = last := by
      simpa [hlevels, Topic.levelsSelect, hname] using h
    exact ⟨device, by rw [hlast.1, hlast.2]⟩
  | root :: device :: last :: extra :: rest => simp [hlevels, Topic.levelsSelect, hname] at h

/-- **At most one filter for reports selects a topic.** -/
theorem eq_of_selects {p p' topic : String} (hp : p ∈ patterns) (hp' : p' ∈ patterns)
    (h : Topic.selects p topic = true) (h' : Topic.selects p' topic = true) : p = p' := by
  obtain ⟨kind, -, rfl⟩ := List.mem_map.1 hp
  obtain ⟨kind', -, rfl⟩ := List.mem_map.1 hp'
  obtain ⟨device, hlevels⟩ := levels_of_selects h
  obtain ⟨device', hlevels'⟩ := levels_of_selects h'
  rw [hlevels] at hlevels'
  simp only [List.cons.injEq, and_true, true_and] at hlevels'
  rw [hlevels'.2]

end Listening

/-! ### Messages -/

/-- At most one entry of a table passes a test that only one key can pass. -/
theorem Table.length_filter_le_one {κ α : Type} {t : Table κ α} {test : κ × α → Bool}
    (h : ∀ e ∈ t.entries, ∀ e' ∈ t.entries, test e = true → test e' = true → e.1 = e'.1) :
    (t.entries.filter test).length ≤ 1 := by
  have hkeys := t.distinct.sublist ((List.filter_sublist (p := test)).map (·.1))
  match hes : t.entries.filter test with
  | [] => exact Nat.zero_le 1
  | [_] => exact Nat.le_refl 1
  | e :: e' :: rest =>
    obtain ⟨he, ht⟩ := List.mem_filter.1 (hes ▸ List.mem_cons_self : e ∈ t.entries.filter test)
    obtain ⟨he', ht'⟩ := List.mem_filter.1
      (hes ▸ List.mem_cons_of_mem _ List.mem_cons_self : e' ∈ t.entries.filter test)
    rw [hes] at hkeys
    have hmem : e.1 ∈ (e' :: rest).map (·.1) := by
      rw [h e he e' he' ht ht']
      exact List.mem_cons_self
    exact absurd hmem (List.nodup_cons.1 hkeys).1

namespace Listening

/-- A handler stands behind no filter but those for reports. -/
def Only (router : H) (t : Table String (Subscription H)) : Prop :=
  ∀ p e, t.find? p = some e → e.handler = router → p ∈ patterns

/-- No message is for such a handler twice. -/
theorem Only.count_matching [DecidableEq H] {router : H} {b : Broker H}
    (h : Only router b.registry) (topic : String) : (b.matching topic).count router ≤ 1 := by
  rw [Broker.matching, List.count, List.countP_map, List.countP_filter,
    List.countP_eq_length_filter]
  refine Table.length_filter_le_one fun e he e' he' ht ht' => ?_
  rw [Bool.and_eq_true] at ht ht'
  have hp := h e.1 e.2 ((b.registry.mem_entries_iff e.1 e.2).1 he) (eq_of_beq ht.1)
  have hp' := h e'.1 e'.2 ((b.registry.mem_entries_iff e'.1 e'.2).1 he') (eq_of_beq ht'.1)
  exact eq_of_selects hp hp' ht.2 ht'.2

end Listening

namespace Hub.Listens

variable {router : H} {b : Broker H}

/-- A message is for the router if it arrives on the topic of a report. -/
theorem mem_matching (h : Listens router b) (topic : String) :
    router ∈ b.matching topic ↔
      (Listening.patterns.any fun p => Topic.selects p topic) = true := by
  rw [Broker.matching, List.mem_map, List.any_eq_true]
  constructor
  · rintro ⟨⟨p, e⟩, hmem, hrouter⟩
    obtain ⟨hmem, hselects⟩ := List.mem_filter.1 hmem
    exact ⟨p, h.only p e ((b.registry.mem_entries_iff p e).1 hmem) hrouter, hselects⟩
  · rintro ⟨p, hp, hselects⟩
    obtain ⟨q, hfind⟩ := h.heard p hp
    exact ⟨(p, ⟨q, router⟩),
      List.mem_filter.2 ⟨(b.registry.mem_entries_iff _ _).2 hfind, hselects⟩, rfl⟩

/-- No message is routed twice. -/
theorem count_matching [DecidableEq H] (h : Listens router b) (topic : String) :
    (b.matching topic).count router ≤ 1 :=
  Listening.Only.count_matching h.only topic

end Hub.Listens

end LockFleet
