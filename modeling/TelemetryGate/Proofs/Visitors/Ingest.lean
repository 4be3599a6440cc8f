import TelemetryGate.Proofs.Callers.Order
import TelemetryGate.Proofs.Gate.Verdict
import TelemetryGate.Proofs.Session.Ledger
import TelemetryGate.Proofs.Visitors.Run

/-!
# Submissions while others switch

An ingestion looks at the handle up to three times, each time under the lock, and loads the cap in
between; others switch on and off and store caps meanwhile.  What it answers and what it hands over
follow from what it found each time.

* `Asked`                what a visitor knows while it asks the manager a question;
* `Ending`               what an ingestion answers and hands over, and what it found to do so;
* `Story`                what is so at each place of an ingestion, and `Story.step`;
* `Ingested`             what others may change about an ingestion, and what they may not;
* `Reachable.ingested`   it is so in every interleaving.
-/

namespace TelemetryGate

open Callers (Call Answer Act Question Stage)
open Session (handedBy outgoing)

/-! ### a caller with a question -/

namespace Callers

variable {c : Call} {a b : Stage} {act : Act} {q : Question}

/-- What a caller is about to hand to a client. -/
def Stage.toHand : Stage → List Handed
  | trackHeld client event props => [⟨client.number, event, props⟩]
  | _ => []

theorem Errand.toHand_start (e : Errand) : e.start.toHand = [] := by
  cases e <;> rfl

theorem Question.toHand_seen (q : Question) (found : Option LiveClient) :
    (q.seen found).toHand = handedBy (some (.ask q)) found := by
  cases q <;> cases found <;> rfl

/-- Once the outcome is settled, what is still to be handed over is what the act hands over and what
comes after it. -/
theorem Stage.Next.toHand_eq (next : Stage.Next c a act b) (ha : a.promise c ≠ none) :
    a.toHand = act.handed ++ b.toHand := by
  cases next with
  | begin => exact absurd rfl ha
  | look => exact absurd rfl ha
  | _ => rfl

/-- A question is settled by looking. -/
theorem Stage.Next.look_of_settles (next : Stage.Next c a act b) (hs : a.Serves c)
    (hq : c.request.errand = .ask q) (ha : a.promise c = none) :
    (b.promise c = none ∧ b.toHand = [] ∧ act.handed = []) ∨
      ∃ found, act = .look found ∧ b = q.seen found := by
  have hon : ∀ {config}, c.request.errand ≠ .on config := by
    rw [hq]
    exact (fun e => nomatch e)
  have hoff : c.request.errand ≠ .off := by
    rw [hq]
    exact (fun e => nomatch e)
  cases next with
  | begin => exact .inl ⟨Stage.promise_start, Errand.toHand_start _, rfl⟩
  | read => exact .inl ⟨rfl, rfl, rfl⟩
  | @look q' found =>
    have hq' : c.request.errand = .ask q' := hs
    rw [hq] at hq'
    cases hq'
    exact .inr ⟨found, rfl, rfl⟩
  | _ => first | cases ha; done | exact absurd hs hon | exact absurd hs.1 hon | exact absurd hs hoff

end Callers

namespace Visitors

variable {κ : Type} [DecidableEq κ] {visits : κ → Session.Step} {s t u : State κ} {k : κ}

/-! ### what a visitor knows while it asks -/

/-- While a visitor asks the manager, something is so until it looks; from then on, it was so with
what was found, and all follows from that: the answer, and what is handed over. -/
inductive Asked (visits : κ → Session.Step) (k : κ) (c : Call) (q : Question)
    (base : State κ → Prop) (s : State κ) : Stage → List Handed → Prop
  | unsettled {stage} (h : base s) (hp : stage.promise c = none) (ht : stage.toHand = []) :
    Asked visits k c q base s stage []
  | settled {stage mine todo} (found : Option LiveClient)
    (h : Seen visits k (fun t => base t ∧ t.shared.sink = found) s)
    (hp : stage.promise c = some ((q.run c.outcomes { live := found }).answer, todo))
    (ht : mine ++ stage.toHand = handedBy (some (.ask q)) found) :
    Asked visits k c q base s stage mine

section
variable {c : Call} {q : Question} {base : State κ → Prop} {a b : Stage} {act : Act}
  {mine : List Handed} {answer : Answer} {next : Answer → Script}

theorem Asked.start (h : base s) : Asked visits k c q base s .unborn [] :=
  .unsettled h rfl rfl

theorem Asked.keep (h : Asked visits k c q base s a mine) (hb : base s → base u)
    (st : Step visits s u) : Asked visits k c q base u a mine := by
  cases h with
  | unsettled h hp ht => exact .unsettled (hb h) hp ht
  | settled found h hp ht => exact .settled found (h.keep st) hp ht

theorem Asked.step (h : Asked visits k c q base s a mine) (hb : base s → base u)
    (st : Step visits s u) (hr : Reachable visits s) (hk : s.place k = .inside (.call c next) a)
    (hq : c.request.errand = .ask q) (ready : act.Ready s.shared)
    (hnext : Stage.Next c a act b) : Asked visits k c q base u b (mine ++ act.handed) := by
  have hserves : a.Serves c := by
    have hfits := hr.fits k
    rw [hk] at hfits
    exact hfits.1
  cases h with
  | unsettled h hp ht =>
    rcases hnext.look_of_settles hserves hq hp with ⟨hb', ht', he⟩ | ⟨found, rfl, rfl⟩
    · rw [he]
      exact .unsettled (hb h) hb' ht'
    · obtain ⟨hpromise, _⟩ := q.settles c (m := { live := found }) rfl
      exact .settled found (.now hr hk ⟨h, ready⟩ st) hpromise (q.toHand_seen found)
  | settled found h hp ht =>
    obtain ⟨rest, hb', _⟩ := hnext.promise_kept hp
    refine .settled found (h.keep st) hb' ?_
    rw [List.append_assoc, ← hnext.toHand_eq (by rw [hp]; exact (fun e => nomatch e)), ht]

theorem Asked.returned (h : Asked visits k c q base s (.returned answer) mine) :
    ∃ found, Seen visits k (fun t => base t ∧ t.shared.sink = found) s ∧
      answer = (q.run c.outcomes { live := found }).answer ∧
      mine = handedBy (some (.ask q)) found := by
  cases h with
  | unsettled h hp ht => cases hp
  | settled found h hp ht =>
    rw [show (Stage.returned answer).toHand = [] from rfl, List.append_nil] at ht
    exact ⟨found, h, (Prod.mk.inj (Option.some.inj hp)).1, ht⟩

/-- No more is handed over than follows from some client. -/
theorem Asked.within (h : Asked visits k c q base s a mine) :
    ∃ found, mine <+: handedBy (some (.ask q)) found := by
  cases h with
  | unsettled h hp ht => exact ⟨none, List.nil_prefix⟩
  | settled found h hp ht => exact ⟨found, ht ▸ List.prefix_append ..⟩

end

/-! ### an ingestion -/

theorem handedBy_isEnabled (found : Option LiveClient) :
    handedBy (some (.ask .isEnabled)) found = [] := by
  cases found <;> rfl

theorem Seen.mono {P Q : State κ → Prop} (h : Seen visits k P s) (hpq : ∀ t, P t → Q t) :
    Seen visits k Q s := by
  obtain ⟨t, ht, hp⟩ := h
  exact ⟨t, ht, hpq t hp⟩

/-- The cap was so. -/
def Capped (visits : κ → Session.Step) (k : κ) (cap : Nat) : State κ → Prop :=
  Seen visits k fun t => t.cap = cap

/-- There was a client. -/
def Lit (visits : κ → Session.Step) (k : κ) : State κ → Prop :=
  Seen visits k fun t => ∃ client, t.shared.sink = some client

/-- What an ingestion answers and hands over, and what it found to do so. -/
inductive Ending (visits : κ → Session.Step) (k : κ) (body : Body) (actor : String) (s : State κ) :
    Except Rejection String → List Handed → Prop
  | off (h : Seen visits k (fun t => t.shared.sink = none) s) :
    Ending visits k body actor s (.error .disabled) []
  | unread {cap f} (hc : Capped visits k cap s) (hr : Gate.readRequest cap body = .error f) :
    Ending visits k body actor s (.error (.malformed f)) []
  | faulty {cap r reason} (hc : Capped visits k cap s) (hr : Gate.readRequest cap body = .ok r)
    (hf : r.fault? = some reason) : Ending visits k body actor s (.error reason) []
  | late {cap r} (hc : Capped visits k cap s) (hr : Gate.readRequest cap body = .ok r)
    (h : Seen visits k (fun t => Lit visits k t ∧ t.shared.sink = none) s) :
    Ending visits k body actor s (.ok r.event) []
  | forwarded {cap r} (hc : Capped visits k cap s) (hr : Gate.readRequest cap body = .ok r)
    (n : Nat) :
    Ending visits k body actor s (.ok r.event) [⟨n, (outgoing actor r).1, (outgoing actor r).2⟩]

/-- What is so at each place of an ingestion. -/
inductive Story (visits : κ → Session.Step) (k : κ) (body : Body) (actor : String) (o : Outcomes)
    (s : State κ) : Place → List Handed → Prop
  | outside : Story visits k body actor o s .outside []
  | firstLook {stage mine}
    (h : Asked visits k ⟨.isEnabled, o⟩ .isEnabled (fun _ => True) s stage mine) :
    Story visits k body actor o s
      (.inside (.call ⟨.isEnabled, o⟩ (Script.afterFirstLook body actor o .judged)) stage) mine
  | loading :
    Story visits k body actor o s (.inside (.load (Script.afterLoad body actor o .judged)) .unborn)
      []
  | secondLook {cap r stage mine} (hc : Capped visits k cap s)
    (hr : Gate.readRequest cap body = .ok r)
    (h : Asked visits k ⟨.isEnabled, o⟩ .isEnabled (fun _ => True) s stage mine) :
    Story visits k body actor o s
      (.inside (.call ⟨.isEnabled, o⟩ (Script.afterSecondLook r actor o .judged)) stage) mine
  | thirdLook {cap r stage mine} (hc : Capped visits k cap s)
    (hr : Gate.readRequest cap body = .ok r)
    (h : Asked visits k ⟨.track (outgoing actor r).1 (outgoing actor r).2, o⟩
      (.track (outgoing actor r).1 (outgoing actor r).2) (Lit visits k) s stage mine) :
    Story visits k body actor o s
      (.inside (.call ⟨.track (outgoing actor r).1 (outgoing actor r).2, o⟩
        (Script.afterTrack r .judged)) stage) mine
  | leaving {verdict mine} (h : Ending visits k body actor s verdict mine) :
    Story visits k body actor o s (.inside (.done (.judged verdict)) .unborn) mine
  | gone {verdict mine} (h : Ending visits k body actor s verdict mine) :
    Story visits k body actor o s (.gone (.judged verdict)) mine

section
variable {body : Body} {actor : String} {o : Outcomes} {verdict : Except Rejection String}
  {mine : List Handed} {p p' : Place} {m : Move}

theorem Ending.keep (h : Ending visits k body actor s verdict mine) (st : Step visits s u) :
    Ending visits k body actor u verdict mine := by
  cases h with
  | off h => exact .off (h.keep st)
  | unread hc hr => exact .unread (hc.keep st) hr
  | faulty hc hr hf => exact .faulty (hc.keep st) hr hf
  | late hc hr h => exact .late (hc.keep st) hr (h.keep st)
  | forwarded hc hr n => exact .forwarded (hc.keep st) hr n

/-- What others do leaves it so. -/
theorem Story.keep (h : Story visits k body actor o s p mine) (st : Step visits s u) :
    Story visits k body actor o u p mine := by
  cases h with
  | outside => exact .outside
  | firstLook h => exact .firstLook (h.keep id st)
  | loading => exact .loading
  | secondLook hc hr h => exact .secondLook (hc.keep st) hr (h.keep id st)
  | thirdLook hc hr h => exact .thirdLook (hc.keep st) hr (h.keep (fun hl => hl.keep st) st)
  | leaving h => exact .leaving (h.keep st)
  | gone h => exact .gone (h.keep st)

/-- So does what it does itself. -/
theorem Story.step (h : Story visits k body actor o s p mine) (hr : Reachable visits s)
    (hk : s.place k = p) (st : Step visits s u) (ready : m.Ready s)
    (next : Place.Next (Script.ingest body actor o .judged) p m p') :
    Story visits k body actor o u p' (mine ++ m.handed) := by
  cases h with
  | outside =>
    cases next
    exact .firstLook (.start trivial)
  | firstLook h =>
    cases next with
    | call hnext => exact .firstLook (h.step id st hr hk rfl ready hnext)
    | @back _ _ answer =>
      obtain ⟨found, hseen, rfl, rfl⟩ := h.returned
      rw [handedBy_isEnabled]
      cases found with
      | none => exact .leaving (.off ((hseen.mono fun _ ht => ht.2).keep st))
      | some client => exact .loading
  | loading =>
    cases next with
    | @load _ cap =>
      have hc : Capped visits k cap u := .now hr hk ready st
      show Story _ _ _ _ _ _ (.inside (Script.afterLoad body actor o .judged cap) .unborn) []
      unfold Script.afterLoad
      cases hread : Gate.readRequest cap body with
      | error f => exact .leaving (.unread hc hread)
      | ok r => exact .secondLook hc hread (.start trivial)
  | @secondLook cap r _ _ hc hread h =>
    cases next with
    | call hnext => exact .secondLook (hc.keep st) hread (h.step id st hr hk rfl ready hnext)
    | @back _ _ answer =>
      obtain ⟨found, hseen, rfl, rfl⟩ := h.returned
      rw [handedBy_isEnabled]
      cases found with
      | none => exact .leaving (.off ((hseen.mono fun _ ht => ht.2).keep st))
      | some client =>
        have hlit : Lit visits k u := (hseen.mono fun _ ht => ⟨client, ht.2⟩).keep st
        show Story _ _ _ _ _ _
          (.inside (Script.afterSecondLook r actor o .judged (.enabled true)) .unborn) []
        unfold Script.afterSecondLook
        cases hf : r.fault? with
        | some reason => exact .leaving (.faulty (hc.keep st) hread hf)
        | none => exact .thirdLook (hc.keep st) hread (.start hlit)
  | @thirdLook cap r _ _ hc hread h =>
    cases next with
    | call hnext =>
      exact .thirdLook (hc.keep st) hread (h.step (fun hl => hl.keep st) st hr hk rfl ready hnext)
    | @back _ _ answer =>
      obtain ⟨found, hseen, rfl, rfl⟩ := h.returned
      cases found with
      | none => exact .leaving (.late (hc.keep st) hread (hseen.keep st))
      | some client => exact .leaving (.forwarded (hc.keep st) hread client.number)
  | leaving h =>
    cases next
    rw [show (Move.leave _).handed = [] from rfl, List.append_nil]
    exact .gone (h.keep st)
  | gone h => cases next

theorem Reachable.story (h : Reachable visits s)
    (hop : (visits k).operation = .ingest body actor) :
    Story visits k body actor (visits k).outcomes s (s.place k) (handed k s.past) := by
  induction h with
  | start cap => exact .outside
  | @step s _ hr st ih =>
    cases st with
    | @move j m p ready next =>
      have st : Step visits s (s.after j m p) := .move ready next
      by_cases e : k = j
      · subst e
        rw [State.place_after_self]
        show Story _ _ _ _ _ _ p (handed k (s.past ++ [(k, m)]))
        rw [handed_snoc_self]
        rw [hop] at next
        exact ih.step hr rfl st ready next
      · rw [State.place_after_of_ne s e]
        show Story _ _ _ _ _ _ _ (handed k (s.past ++ [(j, m)]))
        rw [handed_snoc_of_ne (Ne.symm e)]
        exact ih.keep st

/-- Whoever has left was judged. -/
theorem Reachable.ending (h : Reachable visits s)
    (hop : (visits k).operation = .ingest body actor) {reply : Session.Reply}
    (hl : (k, .leave reply) ∈ s.past) :
    ∃ verdict, reply = .judged verdict ∧
      Ending visits k body actor s verdict (handed k s.past) := by
  have hstory := h.story hop
  rw [h.left hl] at hstory
  cases hstory with
  | gone hend => exact ⟨_, rfl, hend⟩

/-- At most one event is handed over, the one that the body says. -/
theorem Story.said (h : Story visits k body actor o s p mine) :
    mine = [] ∨ ∃ cap r n, Gate.readRequest cap body = .ok r ∧
      mine = [⟨n, (outgoing actor r).1, (outgoing actor r).2⟩] := by
  have hending : ∀ {verdict}, Ending visits k body actor s verdict mine →
      mine = [] ∨ ∃ cap r n, Gate.readRequest cap body = .ok r ∧
        mine = [⟨n, (outgoing actor r).1, (outgoing actor r).2⟩] := by
    intro verdict hend
    cases hend with
    | forwarded hc hr n => exact .inr ⟨_, _, n, hr, rfl⟩
    | _ => exact .inl rfl
  cases h with
  | outside => exact .inl rfl
  | firstLook h =>
    obtain ⟨found, hw⟩ := h.within
    rw [handedBy_isEnabled] at hw
    exact .inl (List.prefix_nil.mp hw)
  | loading => exact .inl rfl
  | secondLook hc hr h =>
    obtain ⟨found, hw⟩ := h.within
    rw [handedBy_isEnabled] at hw
    exact .inl (List.prefix_nil.mp hw)
  | thirdLook hc hr h =>
    obtain ⟨found, hw⟩ := h.within
    cases found with
    | none => exact .inl (List.prefix_nil.mp hw)
    | some client =>
      rcases List.prefix_cons_iff.mp hw with hw | ⟨rest, rfl, hrest⟩
      · exact .inl hw
      · rw [List.prefix_nil.mp hrest]
        exact .inr ⟨_, _, client.number, hr, rfl⟩
  | leaving h => exact hending h
  | gone h => exact hending h

/-! ### what others may change -/

/-- Nothing is said against the body but what reading it under a cap says. -/
def ReadUnder (cap : Nat) (body : Body) (verdict : Except Rejection String) : Prop :=
  ∀ f, verdict = .error (.malformed f) ↔ Gate.readRequest cap body = .error f

theorem ReadUnder.of_ok {cap : Nat} {r : TrackRequest} (hr : Gate.readRequest cap body = .ok r)
    (hv : ∀ f, verdict ≠ .error (.malformed f)) : ReadUnder cap body verdict := by
  intro f
  rw [hr]
  exact iff_of_false (hv f) (fun e => nomatch e)

theorem ReadUnder.tooLarge_iff {cap : Nat} {bytes : List UInt8} (h : ReadUnder cap body verdict)
    (hb : body.Holds bytes) (hfit : bytes.length ≤ Word.most ∨ cap < Word.most) :
    verdict = .error (.malformed .tooLarge) ↔ cap < bytes.length :=
  (h .tooLarge).trans (Gate.readRequest_tooLarge_iff hb hfit)

/-- What others may change about the ingestion of a body for an actor: whether it is refused because
reporting is off, under which cap the body is read, and whether a client still hears of it. -/
structure Ingested (visits : κ → Session.Step) (s : State κ) (k : κ) (body : Body)
    (actor : String) : Prop where
  once : (handed k s.past).length ≤ 1
  said : ∀ h ∈ handed k s.past, ∃ cap r, Gate.readRequest cap body = .ok r ∧
    (h.event, h.props) = outgoing actor r
  judged : ∀ reply, (k, .leave reply) ∈ s.past → ∃ verdict, reply = .judged verdict
  rejected : ∀ reason, (k, .leave (.judged (.error reason))) ∈ s.past → handed k s.past = []
  /-- a client hears of it, or a client was taken in the meantime -/
  accepted : ∀ event, (k, .leave (.judged (.ok event))) ∈ s.past →
    (∃ n props, handed k s.past = [⟨n, event, props⟩]) ∨
    handed k s.past = [] ∧ ∃ before j client after,
      s.past = before ++ (j, .call (.take (some client))) :: after ∧ UnderWay k before ∧
        (visits j).operation.switchesOff = true
  /-- there was no client at some time -/
  disabled : (k, .leave (.judged (.error .disabled))) ∈ s.past →
    ∃ t, During visits k s t ∧ t.shared.sink = none
  /-- one cap decides, which was so at some time -/
  size : ∀ verdict, (k, .leave (.judged verdict)) ∈ s.past → verdict ≠ .error .disabled →
    ∃ t, During visits k s t ∧ ReadUnder t.cap body verdict ∧
      ∀ bytes, body.Holds bytes → bytes.length ≤ Word.most ∨ t.cap < Word.most →
        (verdict = .error (.malformed .tooLarge) ↔ t.cap < bytes.length)

/-- If there was a client and then none, a client was taken during the visit. -/
theorem Seen.taken (h : Seen visits k (fun t => Lit visits k t ∧ t.shared.sink = none) s) :
    ∃ before j client after, s.past = before ++ (j, .call (.take (some client))) :: after ∧
      UnderWay k before ∧ (visits j).operation.switchesOff = true := by
  obtain ⟨t, ht, ⟨t₀, ht₀, client, hsome⟩, hnone⟩ := h
  obtain ⟨before, j, taken, after, hpast, hle, hoff⟩ := Run.taken ht₀.reachable ht₀.run hsome hnone
  obtain ⟨more, hmore⟩ := Run.past ht.run
  have hbegun : (k, .enter) ∈ before := hle.subset ht₀.underWay.1
  refine ⟨before, j, taken, after ++ more, ?_, ⟨hbegun, fun reply hl => ?_⟩, hoff⟩
  · rw [← hmore, hpast, List.append_assoc]
    rfl
  · refine ht.underWay.2 reply ?_
    rw [hpast]
    exact List.mem_append_left _ hl

theorem Ending.readUnder (h : Ending visits k body actor s verdict mine)
    (hv : verdict ≠ .error .disabled) :
    ∃ cap, Capped visits k cap s ∧ ReadUnder cap body verdict := by
  cases h with
  | off h => exact absurd rfl hv
  | @unread cap f hc hr =>
    refine ⟨cap, hc, fun f' => ?_⟩
    rw [hr]
    exact ⟨fun e => by cases e; rfl, fun e => by cases e; rfl⟩
  | @faulty cap r reason hc hr hf =>
    have hne := (TrackRequest.fault?_ne hf).2
    exact ⟨cap, hc, .of_ok hr fun f e => hne f (Except.error.inj e)⟩
  | @late cap r hc hr h => exact ⟨cap, hc, .of_ok hr (fun f e => nomatch e)⟩
  | @forwarded cap r hc hr n => exact ⟨cap, hc, .of_ok hr (fun f e => nomatch e)⟩

end

/-- **However others switch on and off and store caps meanwhile, an ingestion hands over one event
at most, and which one does not depend on them.** -/
theorem Reachable.ingested {body : Body} {actor : String} (h : Reachable visits s)
    (hop : (visits k).operation = .ingest body actor) :
    Ingested visits s k body actor ∧
      ∀ {ι : Type} [DecidableEq ι] {others : ι → Session.Step} {t : State ι} {i : ι},
        Reachable others t → (others i).operation = .ingest body actor →
        ∀ x ∈ handed k s.past, ∀ y ∈ handed i t.past, x.event = y.event ∧ x.props = y.props := by
  have hsaid := (h.story hop).said
  have hend (verdict : Except Rejection String) (hl : (k, .leave (.judged verdict)) ∈ s.past) :
      Ending visits k body actor s verdict (handed k s.past) := by
    obtain ⟨verdict', e, hending⟩ := h.ending hop hl
    cases e
    exact hending
  refine ⟨?_, ?_⟩
  · constructor
    · rcases hsaid with e | ⟨cap, r, n, _, e⟩
      · rw [e]
        exact Nat.zero_le 1
      · rw [e]
        exact Nat.le_refl 1
    · intro x hx
      rcases hsaid with e | ⟨cap, r, n, hr, e⟩
      · rw [e] at hx
        cases hx
      · rw [e] at hx
        rw [List.mem_singleton.mp hx]
        exact ⟨cap, r, hr, rfl⟩
    · intro reply hl
      obtain ⟨verdict, e, _⟩ := h.ending hop hl
      exact ⟨verdict, e⟩
    · intro reason hl
      generalize handed k s.past = mine at hend ⊢
      cases hend _ hl with
      | off h => rfl
      | unread hc hr => rfl
      | faulty hc hr hf => rfl
    · intro event hl
      have hending := hend _ hl
      generalize handed k s.past = mine at hending ⊢
      cases hending with
      | late hc hr hseen => exact .inr ⟨rfl, hseen.taken⟩
      | forwarded hc hr n => exact .inl ⟨n, _, rfl⟩
    · intro hl
      have hending := hend _ hl
      generalize handed k s.past = mine at hending
      cases hending with
      | off hseen => exact hseen
      | faulty hc hr hf => exact absurd rfl (TrackRequest.fault?_ne hf).1
    · intro verdict hl hv
      obtain ⟨cap, ⟨t, ht, rfl⟩, hread⟩ := (hend _ hl).readUnder hv
      exact ⟨t, ht, hread, fun bytes hb hfit => hread.tooLarge_iff hb hfit⟩
  · intro ι _ others t i ht hi x hx y hy
    rcases hsaid with e | ⟨cap, r, n, hr, e⟩
    · rw [e] at hx
      cases hx
    · rcases (ht.story hi).said with e' | ⟨cap', r', n', hr', e'⟩
      · rw [e'] at hy
        cases hy
      · rw [e] at hx
        rw [e'] at hy
        rw [List.mem_singleton.mp hx, List.mem_singleton.mp hy, Gate.readRequest_unique hr hr']
        exact ⟨rfl, rfl⟩

/-! ### a client that is taken too soon -/

/-- One visitor switches on, the last one off, and the other submits. -/
def threeVisitors : Nat → Session.Step
  | 0 => ⟨.manage (.enable {}), ⟨fun _ => none, none, none⟩⟩
  | 1 => ⟨.ingest (.whole Gate.raiseHand) "u1", ⟨fun _ => none, none, none⟩⟩
  | _ => ⟨.manage .disable, ⟨fun _ => none, none, none⟩⟩

theorem Reachable.moveFrom (h : Reachable visits s) (k : κ) {a p : Place} {m : Move}
    (hk : s.place k = a)
    (next : Place.Next (script (visits k).operation (visits k).outcomes) a m p)
    (ready : m.Ready s) : Reachable visits (s.after k m p) :=
  h.move k (hk ▸ next) ready

theorem read_raiseHand : ∃ r, Gate.readRequest 25 (.whole Gate.raiseHand) = .ok r ∧
    r.fault? = none := by
  have h : (Gate.readRequest 25 (.whole Gate.raiseHand)).toOption.any (·.fault?.isNone) = true := by
    decide +kernel
  cases hr : Gate.readRequest 25 (.whole Gate.raiseHand) with
  | error f => rw [hr] at h; cases h
  | ok r => rw [hr] at h; exact ⟨r, rfl, Option.isNone_iff_eq_none.mp h⟩

/-- The client is taken between the second look and the third. -/
def threePast (event : String) : List (Nat × Move) :=
  [(0, .enter), (0, .call .begin), (0, .call .lock), (0, .call .startRead), (0, .call (.look none)),
    (0, .call .endRead), (0, .call (.startCreate {})), (0, .call (.endCreate (.ok ⟨1, {}⟩))),
    (0, .call .startWrite), (0, .call (.put ⟨1, {}⟩)), (0, .call .endWrite), (0, .call .unlock),
    (0, .call (.finish (.switched (.ok ())))), (0, .back),
    (0, .leave (.managed (.switched (.ok ())))),
    (1, .enter), (1, .call .begin), (1, .call .startRead), (1, .call (.look (some ⟨1, {}⟩))),
    (1, .call .endRead), (1, .call (.finish (.enabled true))), (1, .back), (1, .load 25),
    (1, .call .begin), (1, .call .startRead), (1, .call (.look (some ⟨1, {}⟩))),
    (1, .call .endRead), (1, .call (.finish (.enabled true))), (1, .back),
    (2, .enter), (2, .call .begin), (2, .call .lock), (2, .call .startWrite),
    (2, .call (.take (some ⟨1, {}⟩))), (2, .call .endWrite),
    (1, .call .begin), (1, .call .startRead), (1, .call (.look none)), (1, .call .endRead),
    (1, .call (.finish .tracked)), (1, .back), (1, .leave (.judged (.ok event)))]

theorem reachable_threeVisitors : ∃ s event, Reachable threeVisitors s ∧
    s.past = threePast event := by
  obtain ⟨r, hr, hf⟩ := read_raiseHand
  have h : Reachable threeVisitors { cap := 25 } := .start 25
  have h := h.move 0 .enter trivial
  have h := h.move 0 (.call .begin) trivial
  have h := h.move 0 (.call .onLock) rfl
  have h := h.move 0 (.call .onRead) rfl
  have h := h.move 0 (m := .call (.look none)) (.call .onLook) rfl
  have h := h.move 0 (.call .onAbsent) trivial
  have h := h.move 0 (.call .onCreate) trivial
  have h := h.move 0 (m := .call (.endCreate (.ok ⟨1, {}⟩))) (.call (.onCreated rfl)) rfl
  have h := h.move 0 (.call .onWrite) ⟨rfl, rfl⟩
  have h := h.move 0 (.call .onPut) trivial
  have h := h.move 0 (.call .onDone) trivial
  have h := h.move 0 (.call .unlock) trivial
  have h := h.move 0 (.call .finish) trivial
  have h := h.move 0 .back trivial
  have h := h.move 0 .leave trivial
  -- the submission is read, and looks twice
  have h := h.move 1 .enter trivial
  have h := h.move 1 (.call .begin) trivial
  have h := h.move 1 (.call .read) rfl
  have h := h.move 1 (m := .call (.look (some ⟨1, {}⟩))) (.call .look) rfl
  have h := h.move 1 (.call .readDone) trivial
  have h := h.move 1 (.call .finish) trivial
  have h := h.move 1 .back trivial
  have h := h.move 1 (m := .load 25) .load rfl
  have h := h.moveFrom 1
    (a := .inside (.submit r "u1" ⟨fun _ => none, none, none⟩ .judged) .unborn)
    (by show Place.inside (Script.afterLoad _ _ _ _ 25) _ = _; rw [Script.afterLoad, hr]; rfl)
    (.call .begin) trivial
  have h := h.move 1 (.call .read) rfl
  have h := h.move 1 (m := .call (.look (some ⟨1, {}⟩))) (.call .look) rfl
  have h := h.move 1 (.call .readDone) trivial
  have h := h.move 1 (.call .finish) trivial
  have h := h.move 1 .back trivial
  -- now the client is taken
  have h := h.move 2 .enter trivial
  have h := h.move 2 (.call .begin) trivial
  have h := h.move 2 (.call .offLock) rfl
  have h := h.move 2 (.call .offWrite) ⟨rfl, rfl⟩
  have h := h.move 2 (m := .call (.take (some ⟨1, {}⟩))) (.call .offTake) rfl
  have h := h.move 2 (.call .offHeld) trivial
  have h := h.moveFrom 1
    (a := .inside (.call ⟨.track r.event (Submission.ofRequest r "u1").forwarded,
      ⟨fun _ => none, none, none⟩⟩ (Script.afterTrack r .judged)) .unborn)
    (by
      show Place.inside (Script.afterSecondLook r _ _ _ (.enabled true)) _ = _
      rw [Script.afterSecondLook, hf])
    (.call .begin) trivial
  have h := h.move 1 (.call .read) rfl
  have h := h.move 1 (m := .call (.look none)) (.call .look) rfl
  have h := h.move 1 (.call .readDone) trivial
  have h := h.move 1 (.call .finish) trivial
  have h := h.move 1 .back trivial
  have h := h.move 1 .leave trivial
  refine ⟨_, r.event, h, ?_⟩
  simp only [State.after, List.append_assoc]
  rfl

/-- So the submission passes, and no client hears of it. -/
theorem ingested_threeVisitors : ∃ s event, Reachable threeVisitors s ∧
    (1, .leave (.judged (.ok event))) ∈ s.past ∧ handed 1 s.past = [] ∧
    Ingested threeVisitors s 1 (.whole Gate.raiseHand) "u1" := by
  obtain ⟨s, event, h, hp⟩ := reachable_threeVisitors
  refine ⟨s, event, h, ?_, ?_, (h.ingested rfl).1⟩
  · rw [hp]
    simp [threePast]
  · rw [hp]
    rfl

end Visitors

end TelemetryGate
