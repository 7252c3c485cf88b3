import LockFleet.Payload
import LockFleet.Proofs.Json.Records
import LockFleet.Proofs.Topic.Levels
import LockFleet.Report.Decode

/-!
# Written reports, read back

A report that a device writes and publishes on the topic of its kind is decoded as it was, whatever
is left out of it and whatever free-form arguments it carries.  The order of the keys does not
matter.  Numbers with a fraction are left aside, and no more levels may be nested in the text than a
text may open.

* `Topic.levels_ofDevice`, `Topic.Address.ofTopic?_ofDevice` — the device of a topic;
* `Report.IsExact`, `Report.depth` — reports without fractions, and the levels nested in them;
* `Heartbeat.reads_members`, `StatusReport.reads_members`, `EventReport.reads_members`,
  `Ack.reads_members` — the four kinds of body;
* `Message.decode_written` — a report on its topic.
-/

namespace LockFleet

/-! ### Topics -/

namespace Topic

theorem toList_ofDevice (device last : String) : (ofDevice device last).toList =
    "device".toList ++ '/' :: (device.toList ++ '/' :: last.toList) := by
  simp [ofDevice, root]

theorem levels_ofDevice {device last : String} (hslash : '/' ∉ device.toList)
    (hlast : '/' ∉ last.toList) : levels (ofDevice device last) = ["device", device, last] := by
  rw [levels, toList_ofDevice, splitLevels_append (by decide), splitLevels_append hslash,
    splitLevels_of_not_mem hlast]
  simp

/-- The topic of a device names the device, and its last level. -/
theorem Address.ofTopic?_ofDevice {device last : String} (hdevice : device ≠ "")
    (hslash : '/' ∉ device.toList) (hlast : '/' ∉ last.toList) :
    Address.ofTopic? (ofDevice device last) = some ⟨device, last⟩ := by
  rw [Address.ofTopic?, levels_ofDevice hslash hlast]
  exact if_neg hdevice

end Topic

/-! ### Bodies -/

open Json (Reads Fields member memberIf inOrder sorted givenBy_member givenBy_memberIf reads_pieces)

namespace Report

/-- A report without numbers that have a fraction. -/
def IsExact : Report → Prop
  | heartbeat b => b.metrics.temperature = none ∧ b.metrics.humidity = none
  | status _ => True
  | event b => ∀ o, b.data = some o → o.toValue.Exact
  | ack _ => True

/-- How many levels are nested in the text of a report. -/
def depth (r : Report) : Nat := (Json.Value.object r.members).depth

end Report

theorem Heartbeat.reads_members {h : Heartbeat} (htemperature : h.metrics.temperature = none)
    (hhumidity : h.metrics.humidity = none) (levels : Nat) :
    Reads (Heartbeat.read (levels + 1)) (inOrder h.members) h ∧
      Reads (Heartbeat.read (levels + 1)) (sorted h.members) h := by
  obtain ⟨timestamp, signal, battery, temperature, humidity, firmware⟩ := h
  obtain rfl : temperature = none := htemperature
  obtain rfl : humidity = none := hhumidity
  have hint32 : ∀ n : Int32,
      Reads (Json.optional Json.int32 levels) (Json.ofInt32 n).write (some n) :=
    fun n => Json.reads_optional (Json.reads_int32 levels n) (.whole (Json.fits64_int32 n)) nofun
  have htext : ∀ s, Reads (Json.optional Json.text levels) (Json.Value.text s).write (some s) :=
    fun s => Json.reads_optional (Json.reads_text levels s) (.text s) nofun
  have hmembers : Heartbeat.members ⟨timestamp, signal, battery, none, none, firmware⟩ =
      [member "timestamp" (Json.ofInt64 timestamp), memberIf "signal" Json.ofInt32 signal,
        memberIf "battery" Json.ofInt32 battery, memberIf "temperature" Json.Value.ofFloat none,
        memberIf "humidity" Json.Value.ofFloat none,
        memberIf "firmware_version" Json.Value.text firmware].flatten := by
    simp [Heartbeat.members]
  rw [hmembers]
  exact reads_pieces (.cons (givenBy_member (Json.reads_int64 levels timestamp)) <|
    .cons (givenBy_memberIf fun n _ => hint32 n) <|
    .cons (givenBy_memberIf fun n _ => hint32 n) <|
    .cons (givenBy_memberIf nofun) <| .cons (givenBy_memberIf nofun) <|
    .cons (givenBy_memberIf fun s _ => htext s) .nil) (by decide)

theorem Reachability.findEntry?_name (r : Reachability) :
    Json.findEntry? r.name choices = some r := by
  cases r <;> decide

theorem LockState.findEntry?_name (l : LockState) : Json.findEntry? l.name choices = some l := by
  cases l <;> decide

theorem Availability.findEntry?_name (a : Availability) :
    Json.findEntry? a.name choices = some a := by
  cases a <;> decide

theorem StatusReport.reads_members (s : StatusReport) (levels : Nat) :
    Reads (StatusReport.read (levels + 1)) (inOrder s.members) s ∧
      Reads (StatusReport.read (levels + 1)) (sorted s.members) s := by
  have hmembers : s.members = [member "timestamp" (Json.ofInt64 s.timestamp),
      member "online_status" (.text s.reachability.name), member "lock_status" (.text s.lock.name),
      member "status" (.text s.availability.name),
      member "available_slots" (Json.ofUInt32 s.freeSlots)].flatten := rfl
  rw [hmembers]
  exact reads_pieces (.cons (givenBy_member (Json.reads_int64 levels s.timestamp)) <|
    .cons (givenBy_member (Json.reads_choice s.reachability.findEntry?_name levels)) <|
    .cons (givenBy_member (Json.reads_choice s.lock.findEntry?_name levels)) <|
    .cons (givenBy_member (Json.reads_choice s.availability.findEntry?_name levels)) <|
    .cons (givenBy_member (Json.reads_uint32 levels s.freeSlots)) .nil) (by decide)

theorem EventReport.reads_members {e : EventReport} {levels : Nat}
    (hexact : ∀ o, e.data = some o → o.toValue.Exact)
    (hdepth : ∀ o, e.data = some o → o.toValue.depth ≤ levels) :
    Reads (EventReport.read (levels + 1)) (inOrder e.members) e ∧
      Reads (EventReport.read (levels + 1)) (sorted e.members) e := by
  have hmembers : e.members = [member "timestamp" (Json.ofInt64 e.timestamp),
      member "type" (.text e.event), memberIf "data" Json.Object.toValue e.data].flatten := by
    simp [EventReport.members]
  have hdata : ∀ o, e.data = some o →
      Reads (Json.optional Json.object levels) o.toValue.write (some o) := fun o ho =>
    Json.reads_optional (Json.reads_object (hexact o ho) (hdepth o ho)) (hexact o ho) nofun
  rw [hmembers]
  exact reads_pieces (.cons (givenBy_member (Json.reads_int64 levels e.timestamp)) <|
    .cons (givenBy_member (Json.reads_text levels e.event)) <|
    .cons (givenBy_memberIf hdata) .nil) (by decide)

theorem Ack.reads_members (a : Ack) (levels : Nat) :
    Reads (Ack.read (levels + 1)) (inOrder a.members) a ∧
      Reads (Ack.read (levels + 1)) (sorted a.members) a := by
  have hmembers : a.members = [member "command_id" (.text a.command),
      member "success" (.flag a.success), member "message" (.text a.message),
      member "timestamp" (Json.ofInt64 a.timestamp)].flatten := rfl
  rw [hmembers]
  exact reads_pieces (.cons (givenBy_member (Json.reads_text levels a.command)) <|
    .cons (givenBy_member (Json.reads_flag levels a.success)) <|
    .cons (givenBy_member (Json.reads_text levels a.message)) <|
    .cons (givenBy_member (Json.reads_int64 levels a.timestamp)) .nil) (by decide)

/-! ### Reports on their topics -/

namespace Report

/-- A body of any kind is read back in either order of its members. -/
theorem reads_members {r : Report} (hexact : r.IsExact) {levels : Nat}
    (hdepth : r.depth ≤ levels) :
    Reads (Report.read r.kind levels) (inOrder r.members) r ∧
      Reads (Report.read r.kind levels) (sorted r.members) r := by
  obtain ⟨levels, rfl⟩ := Nat.exists_eq_succ_of_ne_zero
    (Nat.ne_zero_of_lt (Nat.lt_of_lt_of_le (Nat.succ_pos _) hdepth))
  cases r with
  | heartbeat b =>
    have hbody := Heartbeat.reads_members hexact.1 hexact.2 levels
    exact ⟨hbody.1.map Report.heartbeat, hbody.2.map Report.heartbeat⟩
  | status b =>
    have hbody := StatusReport.reads_members b levels
    exact ⟨hbody.1.map Report.status, hbody.2.map Report.status⟩
  | event b =>
    have hdata : ∀ o, b.data = some o → o.toValue.depth ≤ levels := by
      intro o ho
      have hmem : ("data", o.toValue) ∈ b.members := by
        simp [EventReport.members, ho, memberIf]
      exact Nat.le_trans (Json.depth_le_depthOfEntries hmem) (Nat.le_of_succ_le_succ hdepth)
    have hbody := EventReport.reads_members hexact hdata
    exact ⟨hbody.1.map Report.event, hbody.2.map Report.event⟩
  | ack b =>
    have hbody := Ack.reads_members b levels
    exact ⟨hbody.1.map Report.ack, hbody.2.map Report.ack⟩

theorem decode_of_reads {r : Report} {body : Bytes}
    (h : Reads (Report.read r.kind Json.levelLimit) body r) : decode r.kind body = .ok r := by
  rw [decode, Json.parse_of_reads h]
  rfl

end Report

/-- **A report that a device publishes is decoded as it was**, with its keys in either order. -/
theorem Message.decode_written {device : String} {r : Report} (hdevice : device ≠ "")
    (hslash : '/' ∉ device.toList) (hexact : r.IsExact) (hdepth : r.depth ≤ Json.levelLimit) :
    decode (Topic.report device r.kind.name) (inOrder r.members) = .ok ⟨device, r⟩ ∧
      decode (Topic.report device r.kind.name)
        (Payload.json (Json.Object.ofEntries r.members).toValue).bytes = .ok ⟨device, r⟩ := by
  have hlast : '/' ∉ r.kind.name.toList := by
    cases r.kind <;> decide
  have htopic : Topic.Address.ofTopic? (Topic.report device r.kind.name) =
      some ⟨device, r.kind.name⟩ := Topic.Address.ofTopic?_ofDevice hdevice hslash hlast
  have hbody : ∀ body, Report.decode r.kind body = .ok r →
      decode (Topic.report device r.kind.name) body = .ok ⟨device, r⟩ := by
    intro body h
    rw [decode, htopic]
    dsimp only
    rw [ReportKind.ofName?_name]
    dsimp only
    rw [h]
    rfl
  have hreads := Report.reads_members hexact hdepth
  exact ⟨hbody _ (Report.decode_of_reads hreads.1), hbody _ (Report.decode_of_reads hreads.2)⟩

/-- An event whose arguments hold both ends of what fits 64 bits and a text with quotation marks. -/
def tamperEvent : Report :=
  .event ⟨Int64.minValue, "alarm", some ⟨[("levels", .list [.int (-9223372036854775808),
      .nat 18446744073709551615, .null]), ("message", .text "d\u00e9j\u00e0 \"vu\"")],
    List.pairwise_pair.2 (by decide)⟩⟩

theorem Message.decode_written_tamperEvent :
    tamperEvent.IsExact ∧ tamperEvent.depth = 3 ∧
      decode "device/lock-1/event" (inOrder tamperEvent.members) = .ok ⟨"lock-1", tamperEvent⟩ := by
  have hexact : tamperEvent.IsExact := by
    rintro o ⟨⟩
    refine .object (List.pairwise_pair.2 (by decide)) fun e he => ?_
    rcases List.mem_pair.1 he with rfl | rfl
    · refine .list fun v hv => ?_
      simp only [List.mem_cons, List.not_mem_nil, or_false] at hv
      rcases hv with rfl | rfl | rfl
      · exact .whole (by decide)
      · exact .whole (by decide)
      · exact .null
    · exact .text _
  have hdepth : tamperEvent.depth = 3 := by decide
  have hdevice : "lock-1" ≠ "" := by decide
  exact ⟨hexact, hdepth, (Message.decode_written hdevice (by decide) hexact
    (by rw [hdepth]; decide)).1⟩

end LockFleet
