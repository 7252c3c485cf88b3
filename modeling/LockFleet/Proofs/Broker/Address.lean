import LockFleet.Broker.Settings
import Mathlib.Data.List.Induction
import Mathlib.Data.Nat.Digits.Defs
import Mathlib.Tactic.ByContra

/-!
# The grammar of addresses

An address is a host, behind a scheme or none, and a port behind the last colon or none.  Which
addresses are read, and as what, is said here by the way in which they are put together from these
parts: what is refused is exactly an address whose last colon no port follows.

* `Endpoint.Body`, `Endpoint.IsNumeral`, `Endpoint.Denotes` — the parts;
* `Endpoint.body_iff`, `Endpoint.of_splitLastColon?`, `Endpoint.port?_eq_some_iff` — each
  step of reading finds its part;
* `Endpoint.parse_host`, `Endpoint.parse_port` — reading what the parts make up;
* `Endpoint.Body.written` — what is written as host, colon and port;
* `Settings.Addressed`, `Settings.addresses_read` — the settings after an address.
-/

namespace LockFleet

namespace Endpoint

/-! ### Parts -/

/-- What an address says behind its scheme: the address without one `mqtt://` in front, or else
without one `tcp://` in front, or else all of it. -/
inductive Body (url : String) : String → Prop where
  | mqtt {r : String} (h : url = "mqtt://" ++ r) : Body url r
  | tcp {r : String} (hmqtt : ∀ r, url ≠ "mqtt://" ++ r) (h : url = "tcp://" ++ r) : Body url r
  | bare (hmqtt : ∀ r, url ≠ "mqtt://" ++ r) (htcp : ∀ r, url ≠ "tcp://" ++ r) : Body url url

/-- The value of decimal digits; the last one counts ones. -/
def decimalValue (digits : List Char) : Nat :=
  Nat.ofDigits 10 (digits.reverse.map fun c => c.toNat - '0'.toNat)

/-- Decimal digits, at least one, and the number that they denote. -/
structure IsNumeral (digits : String) (n : Nat) : Prop where
  nonempty : digits ≠ ""
  decimal : ∀ c ∈ digits.toList, c.isDigit = true
  value : decimalValue digits.toList = n

/-- A number may have a plus sign in front. -/
def Denotes (text : String) (n : Nat) : Prop :=
  IsNumeral text n ∨ ∃ digits, text = "+" ++ digits ∧ IsNumeral digits n

/-! ### Schemes -/

theorem dropWord?_eq_some_iff {w cs r : List Char} : dropWord? w cs = some r ↔ cs = w ++ r := by
  induction w generalizing cs with
  | nil => simp [dropWord?]
  | cons c w ih =>
    cases cs with
    | nil => simp [dropWord?]
    | cons c' cs =>
      by_cases h : c = c'
      · simp [dropWord?, h, ih]
      · simp [dropWord?, h, Ne.symm h]

theorem eq_append_iff {url w r : String} :
    url = w ++ r ↔ dropWord? w.toList url.toList = some r.toList := by
  rw [dropWord?_eq_some_iff, ← String.toList_append, String.toList_inj]

theorem ne_append_iff {url w : String} :
    (∀ r, url ≠ w ++ r) ↔ dropWord? w.toList url.toList = none := by
  constructor
  · intro h
    by_contra hsome
    obtain ⟨r, hr⟩ := Option.ne_none_iff_exists'.1 hsome
    exact h (String.ofList r) (eq_append_iff.2 (by rw [hr, String.toList_ofList]))
  · intro h r heq
    cases h.symm.trans (eq_append_iff.1 heq)

/-- The scheme that is dropped is the one in front. -/
theorem body_iff {url r : String} : Body url r ↔ r.toList = dropScheme url.toList := by
  have hmqtt : "mqtt://".toList = ['m', 'q', 't', 't', ':', '/', '/'] := rfl
  have htcp : "tcp://".toList = ['t', 'c', 'p', ':', '/', '/'] := rfl
  rw [dropScheme, ← hmqtt, ← htcp]
  constructor
  · intro h
    cases h with
    | mqtt h => rw [eq_append_iff.1 h]
    | tcp hno h => rw [ne_append_iff.1 hno, eq_append_iff.1 h]
    | bare hno hno' => rw [ne_append_iff.1 hno, ne_append_iff.1 hno']
  · intro hr
    cases h : dropWord? "mqtt://".toList url.toList with
    | some rest =>
      rw [h] at hr
      exact .mqtt (eq_append_iff.2 (h.trans (congrArg some hr.symm)))
    | none =>
      rw [h] at hr
      cases h' : dropWord? "tcp://".toList url.toList with
      | some rest =>
        rw [h'] at hr
        exact .tcp (ne_append_iff.2 h) (eq_append_iff.2 (h'.trans (congrArg some hr.symm)))
      | none =>
        rw [h'] at hr
        rw [String.toList_inj.1 hr]
        exact .bare (ne_append_iff.2 h) (ne_append_iff.2 h')

theorem exists_body (url : String) : ∃ r, Body url r :=
  ⟨String.ofList (dropScheme url.toList), body_iff.2 String.toList_ofList⟩

/-! ### The last colon -/

theorem splitLastColon?_eq_none_iff {cs : List Char} : splitLastColon? cs = none ↔ ':' ∉ cs := by
  induction cs with
  | nil => simp [splitLastColon?]
  | cons c cs ih =>
    rw [splitLastColon?]
    cases h : splitLastColon? cs with
    | some parts =>
      have hmem : ':' ∈ cs := by
        by_contra hno
        rw [ih.2 hno] at h
        cases h
      simp [hmem]
    | none =>
      have hno : ':' ∉ cs := ih.1 h
      by_cases hc : c = ':' <;> simp [hc, hno, Ne.symm]

theorem splitLastColon?_append (host : List Char) {port : List Char} (h : ':' ∉ port) :
    splitLastColon? (host ++ ':' :: port) = some (host, port) := by
  induction host with
  | nil =>
    rw [List.nil_append, splitLastColon?, splitLastColon?_eq_none_iff.2 h]
    rfl
  | cons c host ih => rw [List.cons_append, splitLastColon?, ih]

/-- What is split off follows the last colon. -/
theorem of_splitLastColon? {cs host port : List Char} (h : splitLastColon? cs = some (host, port)) :
    cs = host ++ ':' :: port ∧ ':' ∉ port := by
  induction cs generalizing host with
  | nil => cases h
  | cons c cs ih =>
    rw [splitLastColon?] at h
    split at h
    · next host' port' hsplit =>
      cases h
      obtain ⟨rfl, hport⟩ := ih hsplit
      exact ⟨rfl, hport⟩
    · next hnone =>
      split at h
      · next hc =>
        cases h
        exact ⟨by rw [hc]; rfl, splitLastColon?_eq_none_iff.1 hnone⟩
      · cases h

/-! ### Ports -/

/-- Reading digits from the front gives their value. -/
theorem foldl_eq_decimalValue (cs : List Char) :
    cs.foldl (fun n c => n * 10 + (c.toNat - 48)) 0 = decimalValue cs := by
  induction cs using List.reverseRecOn with
  | nil => rfl
  | append_singleton cs c ih =>
    rw [List.foldl_append, ih, decimalValue, decimalValue, List.reverse_append, List.map_append,
      List.reverse_singleton, List.map_singleton, List.singleton_append, Nat.ofDigits_cons]
    show _ * 10 + (c.toNat - 48) = (c.toNat - 48) + 10 * _
    omega

theorem digitsValue?_eq_some_iff {text : String} {n : Nat} :
    digitsValue? text.toList = some n ↔ IsNumeral text n := by
  rw [digitsValue?, foldl_eq_decimalValue]
  constructor
  · intro h
    split at h
    · next hall =>
      refine ⟨fun hempty => hall.1 (by rw [hempty]; rfl), List.all_eq_true.1 hall.2, ?_⟩
      exact Option.some.inj h
    · cases h
  · rintro ⟨hnonempty, hdecimal, hvalue⟩
    rw [if_pos ⟨fun hnil => hnonempty (String.toList_inj.1 hnil), List.all_eq_true.2 hdecimal⟩,
      hvalue]

/-- The port of a number, if it is not too large. -/
theorem bind_fits_iff {o : Option Nat} {p : UInt16} :
    (o.bind fun n => if n < UInt16.size then some (UInt16.ofNat n) else none) = some p ↔
      o = some p.toNat := by
  cases o with
  | none => simp
  | some n =>
    rw [Option.bind_some, Option.some.injEq]
    constructor
    · intro h
      split at h
      · next hn =>
        cases h
        exact (UInt16.toNat_ofNat_of_lt' hn).symm
      · cases h
    · rintro rfl
      rw [if_pos p.toNat_lt, UInt16.ofNat_toNat]

/-- **A port is read if and only if a text denotes one**, and then as what it denotes. -/
theorem port?_eq_some_iff {text : String} {p : UInt16} :
    port? text.toList = some p ↔ Denotes text p.toNat := by
  by_cases hplus : ∃ digits, text = "+" ++ digits
  · obtain ⟨digits, rfl⟩ := hplus
    have hlist : ("+" ++ digits).toList = '+' :: digits.toList := by simp
    have hread : port? ("+" ++ digits).toList = some p ↔ IsNumeral digits p.toNat := by
      rw [hlist, ← digitsValue?_eq_some_iff]
      exact bind_fits_iff
    rw [hread]
    constructor
    · intro h
      exact Or.inr ⟨digits, rfl, h⟩
    · rintro (h | ⟨digits', heq, h⟩)
      · -- a plus sign is no digit
        have hdigit := h.decimal '+' (by rw [hlist]; exact List.mem_cons_self)
        cases hdigit
      · obtain rfl : digits' = digits := String.append_right_inj _ |>.1 heq.symm
        exact h
  · have hno : ∀ rest, text.toList = '+' :: rest → False := by
      intro rest hlist
      refine hplus ⟨String.ofList rest, String.toList_inj.1 ?_⟩
      rw [hlist]
      simp
    have hread : port? text.toList = some p ↔ IsNumeral text p.toNat := by
      rw [← digitsValue?_eq_some_iff, port?.eq_2 _ hno]
      exact bind_fits_iff
    rw [hread]
    constructor
    · exact Or.inl
    · rintro (h | ⟨digits, heq, -⟩)
      · exact h
      · exact absurd ⟨digits, heq⟩ hplus

/-! ### Reading -/

section Reading

variable {url r host port : String} {p : UInt16}

theorem parse_eq (h : Body url r) : parse url =
    match splitLastColon? r.toList with
    | none => .ok ⟨r, defaultPort⟩
    | some (host, port) =>
      match port? port with
      | some p => .ok ⟨String.ofList host, p⟩
      | none => .error (.invalidAddress ("Invalid port: " ++ String.ofList port)) := by
  have hlist := body_iff.1 h
  have hr : r = String.ofList (dropScheme url.toList) := by rw [← hlist, String.ofList_toList]
  rw [hlist, hr]
  rfl

/-- Without a colon all of it is the host. -/
theorem parse_host (h : Body url r) (hr : ':' ∉ r.toList) : parse url = .ok ⟨r, 1883⟩ := by
  rw [parse_eq h, splitLastColon?_eq_none_iff.2 hr]
  rfl

/-- What follows the last colon has to denote a port. -/
theorem parse_port (h : Body url (host ++ ":" ++ port)) (hport : ':' ∉ port.toList) :
    parse url =
      match port? port.toList with
      | some p => .ok ⟨host, p⟩
      | none => .error (.invalidAddress ("Invalid port: " ++ port)) := by
  have hlist : (host ++ ":" ++ port).toList = host.toList ++ ':' :: port.toList := by simp
  rw [parse_eq h, hlist, splitLastColon?_append host.toList hport]
  simp only [String.ofList_toList]

/-- A text holds no colon, or it is a host, a colon and what follows the last colon. -/
theorem colon_cases (r : String) : ':' ∉ r.toList ∨
    ∃ host port : String, r = host ++ ":" ++ port ∧ ':' ∉ port.toList := by
  cases hsplit : splitLastColon? r.toList with
  | none => exact Or.inl (splitLastColon?_eq_none_iff.1 hsplit)
  | some parts =>
    obtain ⟨heq, hport⟩ := of_splitLastColon? hsplit
    refine Or.inr ⟨String.ofList parts.1, String.ofList parts.2, String.toList_inj.1 ?_, ?_⟩
    · rw [heq]
      simp
    · rwa [String.toList_ofList]

end Reading

/-! ### Writing -/

theorem denotes_toString (n : Nat) : Denotes (toString n) n := by
  have hlist : (toString n).toList = Nat.toDigits 10 n := Nat.toList_repr
  refine Or.inl ⟨fun hempty => ?_, fun c hc => ?_, ?_⟩
  · rw [hempty] at hlist
    exact Nat.toDigits_ne_nil hlist.symm
  · rw [hlist] at hc
    exact Nat.isDigit_of_mem_toDigits (by omega) (by omega) hc
  · have hfold : Nat.ofDigitChars 10 (Nat.toDigits 10 n) 0 = n :=
      Nat.ofDigitChars_toDigits (by omega) (by omega)
    simp only [Nat.ofDigitChars, Nat.mul_comm 10] at hfold
    rw [hlist, ← foldl_eq_decimalValue]
    exact hfold

theorem not_mem_toString {c : Char} (hc : c.isDigit = false) (n : Nat) :
    c ∉ (toString n).toList := by
  intro hmem
  have hdigit := Nat.isDigit_of_mem_toDigits (by omega) (by omega) (Nat.toList_repr ▸ hmem)
  cases hc.symm.trans hdigit

/-- A host that begins with no scheme does so with a colon and a port behind it as well, for the last
sign of a scheme stands in neither. -/
theorem ne_scheme (scheme : String) {host port : String} (hport : '/' ∉ port.toList)
    (h : ∀ r, host ≠ scheme ++ "/" ++ r) (r : String) :
    host ++ ":" ++ port ≠ scheme ++ "/" ++ r := by
  intro heq
  have hlist : host.toList ++ ':' :: port.toList = (scheme.toList ++ ['/']) ++ r.toList := by
    simpa using congrArg String.toList heq
  rcases List.append_eq_append_iff.1 hlist with ⟨rest, hscheme, hrest⟩ | ⟨rest, hhost, -⟩
  · rcases List.eq_nil_or_concat rest with rfl | ⟨rest, c, rfl⟩
    · refine h "" (String.toList_inj.1 ?_)
      simpa using hscheme.symm
    · rw [List.concat_eq_append, ← List.append_assoc] at hscheme
      obtain rfl : '/' = c := List.singleton_inj.1 (List.append_inj' hscheme rfl).2
      have hmem : '/' ∈ ':' :: port.toList := by
        rw [hrest]
        simp
      exact hport (List.mem_of_ne_of_mem (by decide) hmem)
  · refine h (String.ofList rest) (String.toList_inj.1 ?_)
    rw [hhost]
    simp

namespace Body

variable (host : String) (n : Nat)

/-- What is written behind a scheme is what the address says. -/
theorem written_mqtt :
    Body ("mqtt://" ++ host ++ ":" ++ toString n) (host ++ ":" ++ toString n) :=
  .mqtt (by simp only [String.append_assoc])

theorem written_tcp :
    Body ("tcp://" ++ host ++ ":" ++ toString n) (host ++ ":" ++ toString n) := by
  refine .tcp (fun r heq => ?_) (by simp only [String.append_assoc])
  have hlist := congrArg String.toList heq
  simp at hlist

variable {host}

theorem written (hmqtt : ∀ r, host ≠ "mqtt://" ++ r) (htcp : ∀ r, host ≠ "tcp://" ++ r) :
    Body (host ++ ":" ++ toString n) (host ++ ":" ++ toString n) :=
  have hslash := not_mem_toString (c := '/') rfl n
  .bare (ne_scheme "mqtt:/" hslash hmqtt) (ne_scheme "tcp:/" hslash htcp)

end Body

end Endpoint

/-! ### Settings -/

namespace Settings

open Endpoint

/-- What becomes of settings when an address is given. -/
structure Addressed (s : Settings) : Prop where
  /-- Every address says one thing behind its scheme. -/
  body : ∀ url, ∃! r, Body url r
  /-- Without a colon that is the host. -/
  host : ∀ url r, Body url r → ':' ∉ r.toList →
    s.withAddress url = .ok { s with host := r, port := 1883 }
  /-- A port behind the last colon is read with the host in front of it. -/
  port : ∀ url host port n, Body url (host ++ ":" ++ port) → ':' ∉ port.toList →
    Denotes port n → n ≤ 65535 →
      s.withAddress url = .ok { s with host := host, port := UInt16.ofNat n }
  /-- An address is refused if and only if something else stands there. -/
  refused : ∀ url reason, s.withAddress url = .error (.invalidAddress reason) ↔
    ∃ host port, Body url (host ++ ":" ++ port) ∧ ':' ∉ port.toList ∧
      (¬ ∃ n, Denotes port n ∧ n ≤ 65535) ∧ reason = "Invalid port: " ++ port
  /-- A host and a port are read as they were written, with either scheme. -/
  mqtt : ∀ (host : String) (p : UInt16),
    s.withAddress ("mqtt://" ++ host ++ ":" ++ toString p.toNat) =
      .ok { s with host := host, port := p }
  tcp : ∀ (host : String) (p : UInt16),
    s.withAddress ("tcp://" ++ host ++ ":" ++ toString p.toNat) =
      .ok { s with host := host, port := p }
  /-- Without a scheme they are if the host does not look like one. -/
  bare : ∀ (host : String) (p : UInt16), (∀ r, host ≠ "mqtt://" ++ r) →
    (∀ r, host ≠ "tcp://" ++ r) →
      s.withAddress (host ++ ":" ++ toString p.toNat) = .ok { s with host := host, port := p }

variable {s : Settings} {url host port : String}

/-- A text denotes a port if and only if one is read from it. -/
theorem exists_denotes_iff : (∃ n, Denotes port n ∧ n ≤ 65535) ↔
    ∃ p, port? port.toList = some p := by
  constructor
  · rintro ⟨n, hn, hle⟩
    refine ⟨UInt16.ofNat n, port?_eq_some_iff.2 ?_⟩
    rwa [UInt16.toNat_ofNat_of_lt' (Nat.lt_succ_of_le hle)]
  · rintro ⟨p, hp⟩
    exact ⟨p.toNat, port?_eq_some_iff.1 hp, Nat.le_of_lt_succ p.toNat_lt⟩

theorem withAddress_port {p : UInt16} (h : Body url (host ++ ":" ++ port))
    (hport : ':' ∉ port.toList) (hp : Denotes port p.toNat) :
    s.withAddress url = .ok { s with host := host, port := p } := by
  rw [withAddress, parse_port h hport, port?_eq_some_iff.2 hp]
  rfl

theorem withAddress_toString {p : UInt16} (h : Body url (host ++ ":" ++ toString p.toNat)) :
    s.withAddress url = .ok { s with host := host, port := p } :=
  withAddress_port h (not_mem_toString rfl _) (denotes_toString _)

theorem withAddress_refused (h : Body url (host ++ ":" ++ port)) (hport : ':' ∉ port.toList)
    (hno : ¬ ∃ n, Denotes port n ∧ n ≤ 65535) :
    s.withAddress url = .error (.invalidAddress ("Invalid port: " ++ port)) := by
  have hnone : port? port.toList = none := by
    by_contra hsome
    exact hno (exists_denotes_iff.2 (Option.ne_none_iff_exists'.1 hsome))
  rw [withAddress, parse_port h hport, hnone]
  rfl

theorem withAddress_host {r : String} (h : Body url r) (hr : ':' ∉ r.toList) :
    s.withAddress url = .ok { s with host := r, port := 1883 } := by
  rw [withAddress, parse_host h hr]
  rfl

/-- An address that is refused has no port behind its last colon. -/
theorem of_withAddress_error {reason : String}
    (h : s.withAddress url = .error (.invalidAddress reason)) :
    ∃ host port, Body url (host ++ ":" ++ port) ∧ ':' ∉ port.toList ∧
      (¬ ∃ n, Denotes port n ∧ n ≤ 65535) ∧ reason = "Invalid port: " ++ port := by
  obtain ⟨r, hr⟩ := exists_body url
  rcases colon_cases r with hno | ⟨host, port, rfl, hport⟩
  · cases h.symm.trans (withAddress_host hr hno)
  · by_cases hdenotes : ∃ n, Denotes port n ∧ n ≤ 65535
    · obtain ⟨p, hp⟩ := exists_denotes_iff.1 hdenotes
      cases h.symm.trans (withAddress_port hr hport (port?_eq_some_iff.1 hp))
    · cases h.symm.trans (withAddress_refused hr hport hdenotes)
      exact ⟨host, port, hr, hport, hdenotes, rfl⟩

/-- **Addresses are read by their grammar**, and nothing but host and port is set. -/
theorem addresses_read (s : Settings) : s.Addressed where
  body url := by
    obtain ⟨r, hr⟩ := exists_body url
    refine ⟨r, hr, fun r' hr' => String.toList_inj.1 ?_⟩
    rw [body_iff.1 hr, body_iff.1 hr']
  host _ _ h hr := withAddress_host h hr
  port url host port n h hport hn hle := by
    obtain ⟨p, rfl⟩ : ∃ p : UInt16, n = p.toNat :=
      ⟨UInt16.ofNat n, (UInt16.toNat_ofNat_of_lt' (Nat.lt_succ_of_le hle)).symm⟩
    rw [UInt16.ofNat_toNat]
    exact withAddress_port h hport hn
  refused url reason := by
    constructor
    · exact of_withAddress_error
    · rintro ⟨host, port, h, hport, hno, rfl⟩
      exact withAddress_refused h hport hno
  mqtt host p := withAddress_toString (.written_mqtt host _)
  tcp host p := withAddress_toString (.written_tcp host _)
  bare _ _ hmqtt htcp := withAddress_toString (.written _ hmqtt htcp)

end Settings

end LockFleet
