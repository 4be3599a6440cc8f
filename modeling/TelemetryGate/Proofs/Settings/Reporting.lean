import TelemetryGate.Proofs.Delivery.Creation
import TelemetryGate.Proofs.Session.Program

/-!
# Settings to report with

Settings are looked at twice, by the host and then by the client that is made of them. Where events
are to be reported both find the same fields blank, and the client alone looks at the form of the
url.

* `Url.Postable`             a url that events can be posted to;
* `Url.parse_of_blank`       blanks are no url, whichever blanks they are;
* `ClientConfig.validate_iff`   what the client wants of its settings;
* `Settings.mem_problems`    what the host finds wrong with them;
* `Settings.Aligned`         how the two go together, and what comes of applying the settings;
* `Settings.aligned_of_reports`   they do.
-/

namespace TelemetryGate

/-! ### urls -/

namespace Url

/-- An absolute url over which events can be posted. -/
def Postable (s : String) : Prop := ∃ u, parse s = .ok u ∧ isPosted u.scheme = true

/-- No scheme has a character beyond ASCII. -/
theorem not_scheme_of_beyond {c : Char} (h : 128 ≤ c.toNat) : isSchemeChar c = false := by
  have hne : ∀ d : Char, d.toNat < 128 → c ≠ d := by
    rintro d hd rfl
    omega
  -- letters and digits end before there
  have hend : ∀ d : Char, d.toNat < 128 → ¬ c.val ≤ d.val := fun d hd hle =>
    Nat.not_le.mpr hd (Nat.le_trans h (UInt32.le_iff_toNat_le.mp hle))
  have hupper : c.isUpper = false := decide_eq_false fun hc => hend 'Z' (by decide) hc.2
  have hlower : c.isLower = false :=
    Bool.and_eq_false_iff.mpr (.inr (decide_eq_false (hend 'z' (by decide))))
  have hdigit : c.isDigit = false :=
    Bool.and_eq_false_iff.mpr (.inr (decide_eq_false (hend '9' (by decide))))
  have hplain : c.isAlphanum = false := by
    show (c.isUpper || c.isLower || c.isDigit) = false
    rw [hupper, hlower, hdigit]
    rfl
  simp [isSchemeChar, hplain, hne '+' (by decide), hne '-' (by decide), hne '.' (by decide)]

theorem not_scheme_of_blank {c : Char} (h : Text.isBlank c = true) : isSchemeChar c = false := by
  by_cases hc : c.toNat < 128
  · have hboth := of_lt (b := 128) (P := fun c => !Text.isBlank c || !isSchemeChar c)
      (by decide) hc
    simpa [h] using hboth
  · exact not_scheme_of_beyond (Nat.not_lt.mp hc)

theorem mem_of_mem_clean {s : String} {c : Char} (h : c ∈ clean s) : c ∈ s.toList := by
  have hfront := List.mem_of_mem_filter h
  have hback := (List.dropWhile_suffix _).subset (List.mem_reverse.mp hfront)
  exact (List.dropWhile_suffix _).subset (List.mem_reverse.mp hback)

/-- A url begins with a scheme. The blanks that reading drops are others than those that make a text
blank, but no scheme begins with any of them. -/
theorem parse_of_blank {s : String} (h : Text.isBlankText s = true) :
    parse s = .error .relative := by
  have hscheme : readScheme? (clean s) = none := by
    cases hc : clean s with
    | nil => rfl
    | cons c rest =>
      have hblank := List.all_eq_true.mp h c (mem_of_mem_clean (hc ▸ List.mem_cons_self))
      have hname : (c :: rest).takeWhile isSchemeChar = [] := by
        rw [List.takeWhile_cons, not_scheme_of_blank hblank]
        rfl
      unfold readScheme?
      rw [hname]
  unfold parse
  rw [hscheme]

theorem not_postable_of_blank {s : String} (h : Text.isBlankText s = true) : ¬ Postable s := by
  rintro ⟨u, hu, -⟩
  rw [parse_of_blank h] at hu
  cases hu

end Url

/-! ### what the client wants -/

namespace ClientConfig

variable {c : ClientConfig}

theorem checkUrl_ok {url : String} (h : Url.Postable url) : ∃ u, checkUrl url = .ok u := by
  obtain ⟨u, hu, hp⟩ := h
  refine ⟨u, ?_⟩
  unfold checkUrl
  rw [hu]
  exact if_pos hp

theorem validate_of_key (h : Text.isBlankText c.writeKey = true) :
    c.validate = .error .blankWriteKey := by
  unfold validate
  exact if_pos h

theorem validate_of_id (hkey : Text.isBlankText c.writeKey = false)
    (hid : Text.isBlankText c.diagnosticId = true) : c.validate = .error .blankDiagnosticId := by
  unfold validate
  rw [if_neg (ne_true_of_eq_false hkey), if_pos hid]

theorem validate_of_fields (hkey : Text.isBlankText c.writeKey = false)
    (hid : Text.isBlankText c.diagnosticId = false) :
    c.validate = (checkUrl c.dataplaneUrl).map fun _ => () := by
  unfold validate
  rw [if_neg (ne_true_of_eq_false hkey), if_neg (ne_true_of_eq_false hid)]

/-- Where a key and an id are there, what is wrong is that the url is none, or its scheme. -/
theorem fault_of_fields (hkey : Text.isBlankText c.writeKey = false)
    (hid : Text.isBlankText c.diagnosticId = false) {f : ClientFault}
    (h : c.validate = .error f) :
    (∃ cause, f = .badUrl c.dataplaneUrl cause) ∨ ∃ scheme, f = .badScheme scheme := by
  rw [validate_of_fields hkey hid] at h
  unfold checkUrl at h
  split at h
  · cases h
    exact .inl ⟨_, rfl⟩
  · split at h
    · cases h
    · cases h
      exact .inr ⟨_, rfl⟩

/-- **The settings of a client hold if and only if there are a key, an id and a url to post to.** -/
theorem validate_iff : c.validate = .ok () ↔ Text.isBlankText c.writeKey = false ∧
    Text.isBlankText c.diagnosticId = false ∧ Url.Postable c.dataplaneUrl := by
  constructor
  · intro h
    refine ⟨?_, ?_, c.validate_ok h⟩
    · by_contra hkey
      rw [validate_of_key (eq_true_of_ne_false hkey)] at h
      cases h
    · by_contra hid
      by_cases hkey : Text.isBlankText c.writeKey = true
      · rw [validate_of_key hkey] at h
        cases h
      · rw [validate_of_id (eq_false_of_ne_true hkey) (eq_true_of_ne_false hid)] at h
        cases h
  · rintro ⟨hkey, hid, hurl⟩
    obtain ⟨u, hu⟩ := checkUrl_ok hurl
    rw [validate_of_fields hkey hid, hu]
    rfl

/-- The key is looked at first. -/
theorem validate_blankWriteKey_iff :
    c.validate = .error .blankWriteKey ↔ Text.isBlankText c.writeKey = true := by
  refine ⟨fun h => ?_, validate_of_key⟩
  by_contra hkey
  have hkey := eq_false_of_ne_true hkey
  by_cases hid : Text.isBlankText c.diagnosticId = true
  · rw [validate_of_id hkey hid] at h
    cases h
  · rcases fault_of_fields hkey (eq_false_of_ne_true hid) h with ⟨_, hf⟩ | ⟨_, hf⟩ <;> cases hf

/-- The id is looked at next. -/
theorem validate_blankDiagnosticId_iff : c.validate = .error .blankDiagnosticId ↔
    Text.isBlankText c.writeKey = false ∧ Text.isBlankText c.diagnosticId = true := by
  refine ⟨fun h => ?_, fun ⟨hkey, hid⟩ => validate_of_id hkey hid⟩
  by_cases hkey : Text.isBlankText c.writeKey = true
  · rw [validate_of_key hkey] at h
    cases h
  have hkey := eq_false_of_ne_true hkey
  refine ⟨hkey, ?_⟩
  by_contra hid
  rcases fault_of_fields hkey (eq_false_of_ne_true hid) h with ⟨_, hf⟩ | ⟨_, hf⟩ <;> cases hf

end ClientConfig

/-! ### what the host finds -/

namespace Settings

/-- The values without which nothing is reported. -/
inductive Needed where
  | key
  | url
  | id

namespace Needed

/-- The problem of settings where it is blank. -/
def problem : Needed → Problem
  | key => blankProblem .sink "write_key"
  | url => blankProblem .sink "dataplane_url"
  | id => blankProblem .host "diagnostic_id"

/-- What the client is given for it. -/
def value (c : ClientConfig) : Needed → String
  | key => c.writeKey
  | url => c.dataplaneUrl
  | id => c.diagnosticId

end Needed

variable {s : Settings}

theorem mem_problemIf {cause : Bool} {p q : Problem} :
    p ∈ problemIf cause q ↔ cause = true ∧ p = q := by
  cases cause <;> simp [problemIf]

/-- What is wrong with settings to report with. -/
theorem mem_problems (h : s.reports = true) {p : Problem} : p ∈ s.problems ↔
    (s.bodyCap = 0 ∧ p = zeroProblem .server "request_body_max_size_bytes") ∨
    (s.sink.queueCapacity = 0 ∧ p = zeroProblem .sink "queue_capacity") ∨
    ∃ n : Needed, Text.isBlankText (n.value s.clientConfig) = true ∧ p = n.problem := by
  have hneeded : (∃ n : Needed, Text.isBlankText (n.value s.clientConfig) = true ∧ p = n.problem) ↔
      (Text.isBlankText s.sink.writeKey = true ∧ p = Needed.key.problem) ∨
      (Text.isBlankText s.sink.dataplaneUrl = true ∧ p = Needed.url.problem) ∨
      (Text.isBlankText s.host.diagnosticId = true ∧ p = Needed.id.problem) := by
    constructor
    · rintro ⟨n, hn⟩
      cases n with
      | key => exact .inl hn
      | url => exact .inr (.inl hn)
      | id => exact .inr (.inr hn)
    · rintro (hn | hn | hn)
      · exact ⟨.key, hn⟩
      · exact ⟨.url, hn⟩
      · exact ⟨.id, hn⟩
  rw [hneeded]
  unfold problems
  simp only [List.mem_append, mem_problemIf, h, Bool.true_and, decide_eq_true_eq, or_assoc]
  rfl

/-- The host misses a value if and only if the client is given a blank one. -/
theorem problem_mem (h : s.reports = true) (n : Needed) :
    n.problem ∈ s.problems ↔ Text.isBlankText (n.value s.clientConfig) = true := by
  have hcap : n.problem ≠ zeroProblem .server "request_body_max_size_bytes" := by
    cases n <;> decide
  have hqueue : n.problem ≠ zeroProblem .sink "queue_capacity" := by
    cases n <;> decide
  have hother : ∀ m : Needed, n.problem = m.problem → n = m := by
    intro m
    cases n <;> cases m <;> first | exact fun _ => rfl | exact fun h => absurd h (by decide)
  rw [mem_problems h]
  constructor
  · rintro (⟨-, hp⟩ | ⟨-, hp⟩ | ⟨m, hm, hp⟩)
    · exact absurd hp hcap
    · exact absurd hp hqueue
    · rwa [hother m hp]
  · exact fun hb => .inr (.inr ⟨n, hb, rfl⟩)

/-! ### both together -/

/-- What comes of making a client where the settings are looked at first and it may then fail for
other reasons. -/
def checkedFirst (other : ClientConfig → Option LifecycleError) (c : ClientConfig) :
    Option LifecycleError :=
  match c.validate with
  | .error f => some (.invalidClient f)
  | .ok () => other c

/-- Clients that post are made so: what may fail then is the endpoint. -/
theorem sink_create (capacity : Nat) :
    (Sink.outcomes capacity).create = checkedFirst fun c =>
      match Endpoint.ofDataplane c.dataplaneUrl with
      | .ok _ => none
      | .error f => some (.invalidClient f) := by
  funext c
  unfold Sink.outcomes Sink.create checkedFirst
  dsimp only
  generalize c.validate = verdict
  cases verdict with
  | error f => rfl
  | ok _ =>
    generalize Endpoint.ofDataplane c.dataplaneUrl = made
    cases made <;> rfl

/-- What the host finds wrong with settings to report with, and what the client does. -/
structure Aligned (s : Settings) : Prop where
  /-- the host misses what is blank for the client, -/
  missing : ∀ n : Needed,
    n.problem ∈ s.problems ↔ Text.isBlankText (n.value s.clientConfig) = true
  /-- which says so of the key, and of the id if there is a key -/
  key : Needed.key.problem ∈ s.problems ↔ s.clientConfig.validate = .error .blankWriteKey
  id : Needed.key.problem ∉ s.problems ∧ Needed.id.problem ∈ s.problems ↔
    s.clientConfig.validate = .error .blankDiagnosticId
  /-- what the host misses, the client does not do without -/
  refused : ∀ n : Needed, n.problem ∈ s.problems → ∃ f, s.clientConfig.validate = .error f
  /-- where the host misses nothing, the client wants a url to post to and nothing else -/
  url : (∀ n : Needed, n.problem ∉ s.problems) → ∀ f, s.clientConfig.validate = .error f →
    Text.isBlankText s.clientConfig.dataplaneUrl = false ∧
      ¬ Url.Postable s.clientConfig.dataplaneUrl
  /-- so settings in which the host finds nothing wrong fail to switch reporting on if it is off
  and either their url is not one to post to, or no client is made for other reasons -/
  enabling : s.problems = [] → ∀ (other : ClientConfig → Option LifecycleError) (o : Outcomes),
    o.create = checkedFirst other → ∀ (g : Gate) (e : LifecycleError),
    (g.applySettings s o).answer = .error e ↔ g.manager.live = none ∧
      ((¬ Url.Postable s.clientConfig.dataplaneUrl ∧
          Text.isBlankText s.clientConfig.dataplaneUrl = false ∧
          ∃ f, s.clientConfig.validate = .error f ∧ e = .invalidClient f) ∨
        (Url.Postable s.clientConfig.dataplaneUrl ∧ other s.clientConfig = some e))

/-- Where the host misses nothing, the settings of the client hold if the url is one to post to. -/
theorem validate_of_none_missing (h : s.reports = true)
    (hnone : ∀ n : Needed, n.problem ∉ s.problems) :
    Text.isBlankText s.clientConfig.dataplaneUrl = false ∧
      (s.clientConfig.validate = .ok () ↔ Url.Postable s.clientConfig.dataplaneUrl) := by
  have hpresent (n : Needed) : Text.isBlankText (n.value s.clientConfig) = false :=
    eq_false_of_ne_true (mt (problem_mem h n).mpr (hnone n))
  refine ⟨hpresent .url, ?_⟩
  rw [ClientConfig.validate_iff]
  exact ⟨fun hv => hv.2.2, fun hurl => ⟨hpresent .key, hpresent .id, hurl⟩⟩

theorem applySettings_error_iff (h : s.reports = true) {o : Outcomes} {g : Gate}
    {e : LifecycleError} : (g.applySettings s o).answer = .error e ↔
      g.manager.live = none ∧ o.create s.clientConfig = some e := by
  rw [(Session.applySettings_eq g s o).1, h]
  show (g.manager.enable s.clientConfig o).answer = _ ↔ _
  constructor
  · intro he
    obtain ⟨hcreate, hlive, -⟩ := Manager.enable_of_error he
    exact ⟨hlive, hcreate⟩
  · rintro ⟨hlive, hcreate⟩
    rw [Manager.enable_of_refused hlive hcreate]

/-- **Where events are to be reported, the host misses a value if and only if it is blank for the
client, and then no client is made; of settings that miss none only those are refused that have a
url which is not one to post to.** So settings in which nothing is wrong fail to switch reporting on
for such a url, or for reasons of whoever makes the client. -/
theorem aligned_of_reports (h : s.reports = true) : Aligned s where
  missing := problem_mem h
  key := (problem_mem h .key).trans ClientConfig.validate_blankWriteKey_iff.symm
  id := by
    rw [ClientConfig.validate_blankDiagnosticId_iff, problem_mem h, problem_mem h,
      Bool.not_eq_true]
    rfl
  refused n hn := by
    cases hv : s.clientConfig.validate with
    | error f => exact ⟨f, rfl⟩
    | ok _ =>
      obtain ⟨hkey, hid, hurl⟩ := ClientConfig.validate_iff.mp hv
      have hblank := (problem_mem h n).mp hn
      cases n with
      | key => exact absurd hblank (ne_true_of_eq_false hkey)
      | id => exact absurd hblank (ne_true_of_eq_false hid)
      | url => exact absurd hurl (Url.not_postable_of_blank hblank)
  url hnone f hf := by
    obtain ⟨hblank, hiff⟩ := validate_of_none_missing h hnone
    refine ⟨hblank, fun hurl => ?_⟩
    rw [hiff.mpr hurl] at hf
    cases hf
  enabling hclear other o hcreate g e := by
    obtain ⟨hblank, hiff⟩ := validate_of_none_missing h fun n => hclear ▸ List.not_mem_nil
    rw [applySettings_error_iff h, hcreate]
    refine and_congr_right fun _ => ?_
    unfold checkedFirst
    cases hv : s.clientConfig.validate with
    | ok _ =>
      have hurl := hiff.mp hv
      simp [hurl]
    | error f =>
      have hurl : ¬ Url.Postable s.clientConfig.dataplaneUrl := by
        rw [← hiff, hv]
        simp
      simp [hurl, hblank, eq_comm]

/-- A wide blank is as good as no id; a mail address is no url to post to, and so no client is
made. -/
theorem aligned_mail :
    let mail : Settings :=
      { diagnostics := some true
        sink := { writeKey := "k", dataplaneUrl := "mailto:a@b.example" }
        host := { diagnosticId := "i" } }
    let nobody : Settings := { mail with host := { diagnosticId := "\u3000" } }
    mail.reports = true ∧ Aligned mail ∧ mail.problems = [] ∧
      ((Session.fresh 25).applySettings mail (Sink.outcomes 16)).answer =
        .error (.invalidClient (.badScheme "mailto")) ∧
      nobody.reports = true ∧ Aligned nobody ∧ nobody.problems = [Needed.id.problem] := by
  intro mail nobody
  have hclear : mail.problems = [] := by decide +kernel
  have hfault : mail.clientConfig.validate = .error (.badScheme "mailto") := by decide +kernel
  have hmail : Aligned mail := aligned_of_reports rfl
  obtain ⟨hblank, hurl⟩ := hmail.url (fun n => hclear ▸ List.not_mem_nil) _ hfault
  refine ⟨rfl, hmail, hclear, ?_, rfl, aligned_of_reports rfl, by decide +kernel⟩
  exact (hmail.enabling hclear _ _ (sink_create 16) _ _).mpr
    ⟨rfl, .inl ⟨hurl, hblank, _, hfault, rfl⟩⟩

end Settings

end TelemetryGate
