import TelemetryGate.Proofs.Gate.Verdict
import TelemetryGate.Proofs.Json.Record
import TelemetryGate.Proofs.Members

/-!
# Who sent it

Whatever a client says in the properties of an event, the actor and the kind of client that go with
it are those that the gate knows.

* `Stamps`                        the properties that are stamped;
* `Stamped`                       properties with the stamps, and otherwise as the client says;
* `AgreeBut`                      requests that differ in what is stamped over at most;
* `TrackRequest.sorted_props`     the properties of a request are in order;
* `Gate.handle_forwards`          what a submission that passes makes the client do.
-/

namespace TelemetryGate

/-! ### stamps -/

section
variable {r r' : TrackRequest} {actor name : String} {p p' : Properties}

/-- The property says who sent the event or from what kind of client, or where it came from if the
client says so. -/
def Stamps (r : TrackRequest) (name : String) : Prop :=
  name = "ActualUserID" ∨ name = "ClientType" ∨ (name = "Source" ∧ r.source.getD "" ≠ "")

/-- The properties of a request with the stamps on them. -/
structure Stamped (r : TrackRequest) (actor : String) (p : Properties) : Prop where
  actor : p.find? "ActualUserID" = some (.text actor)
  clientType : p.find? "ClientType" = some (.text r.clientType)
  source : r.source.getD "" ≠ "" → p.find? "Source" = some (.text (r.source.getD ""))
  others : ∀ name, ¬ Stamps r name → p.find? name = (r.props.getD []).find? name

/-- The requests say the same of whatever is forwarded, but for what the stamps go over. -/
structure AgreeBut (r r' : TrackRequest) : Prop where
  clientType : r.clientType = r'.clientType
  source : r.source.getD "" = r'.source.getD ""
  others : ∀ name, ¬ Stamps r name →
    (r.props.getD []).find? name = (r'.props.getD []).find? name

theorem AgreeBut.stamps (h : AgreeBut r r') : Stamps r name ↔ Stamps r' name := by
  rw [Stamps, Stamps, h.source]

/-- What goes under the stamps cannot be told from what is stamped. -/
theorem Stamped.find?_eq (hp : Stamped r actor p) (hp' : Stamped r' actor p')
    (h : AgreeBut r r') (name : String) : p.find? name = p'.find? name := by
  by_cases hs : Stamps r name
  · rcases hs with rfl | rfl | ⟨rfl, hsource⟩
    · rw [hp.actor, hp'.actor]
    · rw [hp.clientType, hp'.clientType, h.clientType]
    · rw [hp.source hsource, hp'.source (h.source ▸ hsource), h.source]
  · rw [hp.others name hs, hp'.others name (mt h.stamps.mpr hs), h.others name hs]

/-- The properties of a request and where it came from. -/
def sourced (r : TrackRequest) : Properties :=
  if r.source.getD "" = "" then r.props.getD []
  else Members.insert "Source" (.text (r.source.getD "")) (r.props.getD [])

theorem forwarded_eq (r : TrackRequest) (actor : String) :
    (Submission.ofRequest r actor).forwarded =
      Members.insert "ClientType" (.text r.clientType)
        (Members.insert "ActualUserID" (.text actor) (sourced r)) := by
  obtain ⟨event, clientType, source, props⟩ := r
  cases source with
  | none => rfl
  | some source => rfl

theorem find?_forwarded (h : name ≠ "ActualUserID") (h' : name ≠ "ClientType") :
    (Submission.ofRequest r actor).forwarded.find? name = (sourced r).find? name := by
  rw [forwarded_eq, Members.find?_insert_of_ne h', Members.find?_insert_of_ne h]

theorem stamped_forwarded (r : TrackRequest) (actor : String) :
    Stamped r actor (Submission.ofRequest r actor).forwarded where
  actor := by
    rw [forwarded_eq, Members.find?_insert_of_ne (by decide), Members.find?_insert_self]
  clientType := by
    rw [forwarded_eq, Members.find?_insert_self]
  source h := by
    rw [find?_forwarded (by decide) (by decide), sourced, if_neg h, Members.find?_insert_self]
  others name h := by
    obtain ⟨hactor, h'⟩ := not_or.mp h
    obtain ⟨hclient, hsource⟩ := not_or.mp h'
    rw [find?_forwarded hactor hclient, sourced]
    by_cases hs : r.source.getD "" = ""
    · rw [if_pos hs]
    · rw [if_neg hs]
      exact Members.find?_insert_of_ne (fun e => hsource ⟨e, hs⟩) ..

theorem sorted_forwarded (h : Members.Sorted (r.props.getD [])) (actor : String) :
    Members.Sorted (Submission.ofRequest r actor).forwarded := by
  rw [forwarded_eq]
  refine Members.Sorted.insert (Members.Sorted.insert ?_ _ _) _ _
  rw [sourced]
  by_cases hs : r.source.getD "" = ""
  · rwa [if_pos hs]
  · rw [if_neg hs]
    exact h.insert _ _

end

/-! ### properties in order -/

namespace TrackRequest
variable {bytes : List UInt8}

def InOrder (r : TrackRequest) : Prop := Members.Sorted (r.props.getD [])

/-- **The properties of a request that was read are in order, however they came.** -/
theorem sorted_props {r : Read TrackRequest bytes} (h : reader bytes = .ok r) :
    InOrder r.value := by
  have hblank : InOrder form.blank := Members.sorted_nil
  refine Json.readRecord_keeps hblank (fun _ _ slot hslot => ?_) h
  simp only [form, List.mem_cons, List.not_mem_nil, or_false] at hslot
  rcases hslot with rfl | rfl | rfl | rfl
  · exact fun s v hv record hr => hr
  · exact fun s v hv record hr => hr
  · exact fun s v hv record hr => hr
  · intro s v hv record hr
    show Members.Sorted (v.value.getD [])
    cases hvalue : v.value with
    | none => exact Members.sorted_nil
    | some props =>
      obtain ⟨t, r', hread, rfl⟩ := Json.readOptional_some hv hvalue
      exact Json.readMap_keeps (fun _ _ ms name _ v _ hms => hms.insert name v.value)
        Members.sorted_nil hread

end TrackRequest

/-! ### what a submission comes to -/

namespace Gate

section
variable {g g' : Gate} {body body' : Body} {bytes bytes' : List UInt8} {actor : String}
  {o o' : Outcomes}

/-- The request, which is a known event of a known kind of client, goes to the live client once,
with the properties. -/
structure Forwards (g : Gate) (o : Outcomes) (r : TrackRequest) (p : Properties)
    (calls : List ClientCall) : Prop where
  event : r.event ∈ Registry.clientEvents
  clientType : r.clientType ∈ Registry.clientTypes
  call : ∃ client, g.manager.live = some client ∧
    calls = [.track client.number r.event p o.track]

theorem forwards_of_success (h : body.Holds bytes)
    (hfit : bytes.length ≤ Word.most ∨ g.cap < Word.most)
    (hok : (g.handle body actor o).answer = .success) :
    ∃ r, TrackRequest.reader bytes = .ok r ∧
      Forwards g o r.value (Submission.ofRequest r.value actor).forwarded
        (g.handle body actor o).calls := by
  rcases ingest_cases h hfit actor o with
    ⟨x, reason, _, _, hi⟩ | ⟨client, r, hl, hr, he, hc, hi, _⟩
  · rw [handle_answer, hi] at hok
    exact absurd (congrArg Response.code hok) (show ¬ (400 : Nat) = 200 by decide)
  · obtain ⟨_, _, hcalls⟩ := submit_of_known hl he hc actor o
    refine ⟨r, hr, he, hc, client, hl, ?_⟩
    rw [handle_calls, hi, hcalls]

/-- **What a submission that passes makes the client do: one event, stamped with who sent it.** The
properties are the same for any other submission of the actor that passes and differs only in what
goes under the stamps. -/
theorem handle_forwards (h : body.Holds bytes)
    (hfit : bytes.length ≤ Word.most ∨ g.cap < Word.most)
    (hok : (g.handle body actor o).answer = .success) :
    ∃ r p, TrackRequest.reader bytes = .ok r ∧ Stamped r.value actor p ∧
      Forwards g o r.value p (g.handle body actor o).calls ∧
      ∀ (g' : Gate) (body' : Body) (bytes' : List UInt8) (o' : Outcomes)
        (r' : Read TrackRequest bytes'), body'.Holds bytes' →
        (bytes'.length ≤ Word.most ∨ g'.cap < Word.most) →
        (g'.handle body' actor o').answer = .success → TrackRequest.reader bytes' = .ok r' →
        AgreeBut r.value r'.value → Forwards g' o' r'.value p (g'.handle body' actor o').calls := by
  obtain ⟨r, hr, hf⟩ := forwards_of_success h hfit hok
  have hp := stamped_forwarded r.value actor
  refine ⟨r, _, hr, hp, hf, fun g' body' bytes' o' r' h' hfit' hok' hr' hagree => ?_⟩
  obtain ⟨r'', hr'', hf'⟩ := forwards_of_success h' hfit' hok'
  obtain rfl : r' = r'' := Except.ok.inj (hr'.symm.trans hr'')
  have hp' := stamped_forwarded r'.value actor
  have hsame := (sorted_forwarded (TrackRequest.sorted_props hr) actor).ext
    (sorted_forwarded (TrackRequest.sorted_props hr') actor) (hp.find?_eq hp' hagree)
  rwa [hsame]

end

/-- A request whose properties say that somebody else sent it. -/
def spoofed : List UInt8 :=
  "[\"user_raise_hand\",\"web\",null,\x7b\"n\":1,\"ActualUserID\":\"u2\"\x7d]".toUTF8.toList

/-- The stamps go over that, and it is the same at another gate, whose client fails. -/
theorem forwards_spoofed : ∃ r p, TrackRequest.reader spoofed = .ok r ∧ Stamped r.value "u1" p ∧
    Forwards (liveGate 100) .good r.value p
      ((liveGate 100).handle (.whole spoofed) "u1" .good).calls ∧
    Forwards (liveGate 99) ⟨fun _ => none, some .queueFull, none⟩ r.value p
      ((liveGate 99).handle (.whole spoofed) "u1"
        ⟨fun _ => none, some .queueFull, none⟩).calls := by
  have hbody := Body.holds_whole spoofed
  have hok : ((liveGate 100).handle (.whole spoofed) "u1" .good).answer = .success := by
    decide +kernel
  obtain ⟨r, p, hr, hp, hf, hsame⟩ := handle_forwards hbody (.inr (by decide)) hok
  refine ⟨r, p, hr, hp, hf, ?_⟩
  exact hsame (liveGate 99) (.whole spoofed) spoofed _ r hbody (.inr (by decide))
    (by decide +kernel) hr ⟨rfl, rfl, fun _ _ => rfl⟩

end Gate

end TelemetryGate
