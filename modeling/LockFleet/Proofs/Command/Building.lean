import LockFleet.Command.Send
import LockFleet.Proofs.Command.Sending
import LockFleet.Proofs.Text.Order

/-!
# Building arguments

Arguments are built by one call after another.  Whatever the calls were, the arguments are what is
found under each name, and so is the written form of an envelope with them: their names are written
in the order of their octets, and the history of the calls is not seen.

* `Arguments.Step`, `Arguments.build` — the calls that add to arguments;
* `Arguments.lastValue?`, `Arguments.find?_build` — the last value of a name counts;
* `Arguments.build_eq_of_perm` — calls for different names, in any order;
* `Envelope.encode_eq_writeMembers` — the written form of an envelope;
* `Arguments.Canonical`, `Arguments.build_canonical` — all builds.
-/

namespace LockFleet

/-! ### Builds -/

namespace Arguments

/-- A call that adds to arguments. -/
inductive Step where
  | set (key : String) (v : Json.Value)
  | slot (n : UInt32)
  | firmware (url version : String)

/-- What a call writes: values under names. -/
def Step.writes : Step → List (String × Json.Value)
  | set key v => [(key, v)]
  | slot n => [("slot", Json.ofUInt32 n)]
  | firmware url version => [("url", .text url), ("version", .text version)]

/-- What comes of a call. -/
def add (a : Arguments) : Step → Arguments
  | .set key v => a.set key v
  | .slot n => a.slot n
  | .firmware url version => a.firmware url version

/-- The arguments after some calls. -/
def build (a : Arguments) (steps : List Step) : Arguments := Run.after add a steps

/-- The value that was last written under a name. -/
def lastValue? (key : String) (writes : List (String × Json.Value)) : Option Json.Value :=
  (writes.filter (·.1 = key)).getLast?.map (·.2)

/-- What the calls write, one after another. -/
def written (steps : List Step) : List (String × Json.Value) := steps.flatMap Step.writes

variable {a b : Arguments} {steps steps' : List Step}

/-- Arguments are what is found under each name. -/
theorem ext_find? (h : ∀ key, a.find? key = b.find? key) : a = b := by
  have hobject : a.object = b.object := Json.Object.ext_find? h
  cases a
  cases b
  cases hobject
  rfl

theorem find?_set (a : Arguments) (key k : String) (v : Json.Value) :
    (a.set key v).find? k = if key = k then some v else a.find? k :=
  Json.Object.find?_insert a.object key k v

/-- The arguments after one value has been written. -/
def put (a : Arguments) (w : String × Json.Value) : Arguments := a.set w.1 w.2

/-- A build is nothing but what it writes. -/
theorem build_eq (a : Arguments) (steps : List Step) :
    a.build steps = Run.after put a (written steps) := by
  induction steps using List.reverseRecOn with
  | nil => rfl
  | append_singleton steps step ih =>
    have hstep : ∀ a : Arguments, a.add step = Run.after put a step.writes := by
      intro a
      cases step <;> rfl
    rw [build, Run.after_snoc, written, List.flatMap_append, Run.after_append, ← written, ← ih,
      List.flatMap_singleton, ← hstep]
    rfl

/-- **The value that was last written under a name is found there**, or else the one that was there
at the start. -/
theorem find?_put (a : Arguments) (writes : List (String × Json.Value)) (key : String) :
    (Run.after put a writes).find? key = (lastValue? key writes).or (a.find? key) := by
  induction writes using List.reverseRecOn with
  | nil => rfl
  | append_singleton writes w ih =>
    rw [Run.after_snoc, put, find?_set, ih, lastValue?, lastValue?, List.filter_append,
      List.getLast?_append]
    by_cases hkey : w.1 = key
    · simp [hkey]
    · simp [hkey]

theorem find?_build (a : Arguments) (steps : List Step) (key : String) :
    (a.build steps).find? key = (lastValue? key (written steps)).or (a.find? key) := by
  rw [build_eq, find?_put]

/-- Under each of different names there is one value at most. -/
theorem lastValue?_of_perm {ws ws' : List (String × Json.Value)} (h : ws.Perm ws')
    (hnodup : (ws.map Prod.fst).Nodup) (key : String) : lastValue? key ws = lastValue? key ws' := by
  have hfilter := h.filter (fun w => decide (w.1 = key))
  have hnames : ((ws.filter fun w => decide (w.1 = key)).map Prod.fst).Nodup :=
    hnodup.sublist (List.filter_sublist.map _)
  have hkeys : ∀ w ∈ ws.filter fun w => decide (w.1 = key), w.1 = key := by
    intro w hw
    simpa using (List.mem_filter.1 hw).2
  rw [lastValue?, lastValue?]
  generalize ws.filter (fun w => decide (w.1 = key)) = found at *
  match found with
  | [] => rw [List.nil_perm.1 hfilter]
  | [w] => rw [List.singleton_perm.1 hfilter]
  | w :: w' :: rest =>
    have hw := hkeys w List.mem_cons_self
    have hw' := hkeys w' (List.mem_cons_of_mem _ List.mem_cons_self)
    simp [hw, hw'] at hnames

/-- **Calls for different names can be made in any order.** -/
theorem build_eq_of_perm (h : steps.Perm steps') (hnodup : ((written steps).map Prod.fst).Nodup)
    (a : Arguments) : a.build steps = a.build steps' := by
  refine ext_find? fun key => ?_
  have hwritten : (written steps).Perm (written steps') := h.flatMap_right _
  rw [find?_build, find?_build, lastValue?_of_perm hwritten hnodup]

end Arguments

/-! ### Envelopes -/

/-- The written form of an envelope: its arguments are an object in the order of their names. -/
theorem Envelope.encode_eq_writeMembers (e : Envelope) : e.encode = Json.writeMembers
    [("command", Json.writeText e.kind.name), ("command_id", Json.writeText e.id),
      ("params", Json.writeMembers (Json.writeEntries e.arguments.object.entries)),
      ("timestamp", (Json.ofInt64 e.timestamp).write)] := by
  show (Json.Value.object (Json.sortEntries e.members)).write = _
  rw [e.sortEntries_members]
  rfl

namespace Arguments

/-- What a build of arguments comes to. -/
structure Canonical (a : Arguments) (steps : List Step) : Prop where
  /-- Under each name is the value that was last written there, or else the one that was there at
  the start. -/
  found : ∀ key, (a.build steps).find? key = (lastValue? key (written steps)).or (a.find? key)
  isEmpty_iff : (a.build steps).isEmpty = true ↔ ∀ key, (a.build steps).find? key = none
  /-- They are written as an object of just these values, its names in increasing order of their
  octets and none of them twice. -/
  encoded : ∃ entries : List (String × Json.Value),
    (entries.map fun e => Bytes.ofText e.1).Pairwise (· < ·) ∧ (entries.map Prod.fst).Nodup ∧
    (∀ key v, (key, v) ∈ entries ↔ (a.build steps).find? key = some v) ∧
    ∀ id kind timestamp, (Envelope.mk id kind (a.build steps) timestamp).encode =
      Json.writeMembers [("command", Json.writeText kind.name), ("command_id", Json.writeText id),
        ("params", Json.writeMembers (Json.writeEntries entries)),
        ("timestamp", (Json.ofInt64 timestamp).write)]
  /-- Builds that come to the same value under each name are published by the same octets. -/
  published : ∀ (b : Arguments) steps',
    (∀ key, (a.build steps).find? key = (b.build steps').find? key) →
    ∀ token device kind id timestamp,
      (SendCall.mk token device kind (a.build steps)).publishing id timestamp =
        (SendCall.mk token device kind (b.build steps')).publishing id timestamp
  reordered : ∀ steps', steps.Perm steps' → ((written steps).map Prod.fst).Nodup →
    ∀ key, (a.build steps).find? key = (a.build steps').find? key

/-- **Arguments have one written form, however they have been built.** -/
theorem build_canonical (a : Arguments) (steps : List Step) : a.Canonical steps where
  found := a.find?_build steps
  isEmpty_iff := Json.Object.isEmpty_iff
  encoded := by
    have hincreasing := (a.build steps).object.increasing
    refine ⟨(a.build steps).object.entries, ?_, hincreasing.nodup,
      fun key v => hincreasing.mem_iff, fun id kind timestamp => ?_⟩
    · rw [List.pairwise_map]
      exact hincreasing.imp Bytes.ofText_lt
    · exact Envelope.encode_eq_writeMembers ⟨id, kind, a.build steps, timestamp⟩
  published b steps' h token device kind id timestamp := by
    rw [ext_find? h]
  reordered steps' h hnodup key := by
    rw [build_eq_of_perm h hnodup]

end Arguments

end LockFleet
