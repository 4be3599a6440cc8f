import TelemetryGate.Proofs.Gate.Verdict
import TelemetryGate.Proofs.Json.Taken

/-!
# The first value of a body

The gate reads the value in front of a body and nothing else: what follows it makes no difference,
and less of it is no request.

* `TrackRequest.takes_slots`       the slots of a request take one value each;
* `Gate.Understood`                the gate has read a request, whatever it says of it;
* `Gate.ingest_behind`             what follows makes no difference;
* `Gate.ingest_part`               a part of the value is no request;
* `Gate.ingest_front`              both of them.
-/

namespace TelemetryGate

open Json

/-! ### requests -/

namespace TrackRequest

variable {bytes part : List UInt8}

theorem takes_slots (d : Nat) : ∀ slot ∈ form.slots, Takes (readKind d slot.kind) := by
  have hname : Takes (readKind d .textOrEmpty) :=
    (takes_readOptional (takes_readText "a string")).map _
  have hsource : Takes (readKind d (.optional .text)) :=
    takes_readOptional (takes_readText "a string")
  have hprops : Takes (readKind d (.optional .properties)) :=
    takes_readOptional (takes_readMap takes_readValue d)
  intro slot hslot
  simp only [form, List.mem_cons, List.not_mem_nil, or_false] at hslot
  rcases hslot with rfl | rfl | rfl | rfl
  · exact hname
  · exact hname
  · exact hsource
  · exact hprops

theorem reader_found {r : TrackRequest} {rest : List UInt8} (h : Reads reader bytes r rest) :
    Bracketed bytes rest ∧ ∀ more, Reads reader (bytes ++ more) r (rest ++ more) :=
  readRecord_found takes_slots h

/-- No part of bytes that ends before the rest does is a request. -/
theorem reader_part {r : TrackRequest} {rest : List UInt8} (h : Reads reader bytes r rest)
    (hpart : part <+: bytes) (hlen : part.length + rest.length < bytes.length) :
    ∃ f, reader part = .error f := by
  cases hread : reader part with
  | error f => exact ⟨f, rfl⟩
  | ok r' =>
    obtain ⟨more, rfl⟩ := hpart
    have hreads : Reads reader part r'.value r'.rest := ⟨r'.shorter, hread⟩
    obtain ⟨_, hwhole⟩ := (reader_found hreads).2 more
    obtain ⟨_, hread'⟩ := h
    cases hwhole.symm.trans hread'
    -- what the part leaves, with the other bytes behind it, is no shorter than these bytes
    rw [List.length_append, List.length_append] at hlen
    omega

end TrackRequest

/-! ### the gate -/

namespace Gate

variable {g : Gate} {client : LiveClient} {body body' : Body} {bytes more part : List UInt8}
  {actor : String} {o : Outcomes}

/-- The answer tells that a request was read: it passed, or the event or the kind of client is not
known. -/
def Understood (answer : Except Rejection String) : Prop :=
  (∃ event, answer = .ok event) ∨ answer = .error .unknownEvent ∨
    answer = .error .unknownClientType

theorem not_understood {f : BodyFault} : ¬ Understood (.error (.malformed f)) := by
  rintro (⟨event, h⟩ | h | h)
  · cases h
  · cases h
  · cases h

section
variable (h : g.manager.live = some client)
include h

/-- **A part of a body that ends inside its value is no request.** -/
theorem ingest_part (hcap : g.cap ≤ Word.most) {r : TrackRequest} {rest : List UInt8}
    (hread : Reads TrackRequest.reader bytes r rest) (hlen : bytes.length ≤ g.cap)
    (hpart : part <+: bytes) (hinside : part.length + rest.length < bytes.length)
    (hholds : body'.Holds part) :
    ∃ f, g.ingest body' actor o = { answer := .error (.malformed f), state := g } := by
  obtain ⟨f, hfault⟩ := TrackRequest.reader_part hread hpart hinside
  have hshort : part.length ≤ g.cap := Nat.le_trans hpart.length_le hlen
  have hfit : part.length ≤ Word.most := Nat.le_trans hshort hcap
  by_cases hblank : ∀ b ∈ part, isBlank b = true
  · exact ⟨_, ingest_of_fault h (readRequest_of_blank hholds (.inl hfit) hshort hblank) actor o⟩
  · exact ⟨_, ingest_of_fault h (readRequest_of_fault hholds (.inl hfit) hshort hblank hfault)
      actor o⟩

variable (hb : body.Holds bytes) (hfit : bytes.length ≤ Word.most)
include hb hfit

theorem read_of_understood (hanswer : Understood (g.ingest body actor o).answer) :
    bytes.length ≤ g.cap ∧ (¬ ∀ b ∈ bytes, isBlank b = true) ∧
      ∃ r rest, Reads TrackRequest.reader bytes r rest := by
  have hgood : ∀ f, readRequest g.cap body ≠ .error f := by
    intro f hf
    rw [ingest_of_fault h hf] at hanswer
    exact not_understood hanswer
  have hlen : bytes.length ≤ g.cap :=
    Nat.not_lt.mp fun hlong => hgood _ (readRequest_of_long hb (.inl hfit) hlong)
  have hblank : ¬ ∀ b ∈ bytes, isBlank b = true :=
    fun hall => hgood _ (readRequest_of_blank hb (.inl hfit) hlen hall)
  refine ⟨hlen, hblank, ?_⟩
  cases hread : TrackRequest.reader bytes with
  | error f => exact absurd (readRequest_of_fault hb (.inl hfit) hlen hblank hread) (hgood _)
  | ok r => exact ⟨r.value, r.rest, r.shorter, hread⟩

/-- **Whatever follows the value in a body, the gate does the same.** -/
theorem ingest_behind (hcap : g.cap ≤ Word.most)
    (hanswer : Understood (g.ingest body actor o).answer)
    (hmore : body'.Holds (bytes ++ more)) (hroom : bytes.length + more.length ≤ g.cap) :
    g.ingest body' actor o = g.ingest body actor o := by
  obtain ⟨hlen, hblank, r, rest, hread⟩ := read_of_understood h hb hfit hanswer
  obtain ⟨_, hread'⟩ := (TrackRequest.reader_found hread).2 more
  obtain ⟨_, hread⟩ := hread
  have hlen' : (bytes ++ more).length ≤ g.cap := by
    rw [List.length_append]
    exact hroom
  have hblank' : ¬ ∀ b ∈ bytes ++ more, isBlank b = true :=
    fun hall => hblank fun b hb => hall b (List.mem_append_left more hb)
  rw [ingest_of_request h (readRequest_of_ok hb (.inl hfit) hlen hblank hread),
    ingest_of_request h (readRequest_of_ok hmore (.inl (by omega)) hlen' hblank' hread')]

/-- **A body of which a request was read begins with a value in brackets. Whatever follows that
value, the gate does the same, and a part of the body that ends before the value's last bracket is
malformed and is not handed on.** -/
theorem ingest_front (hcap : g.cap ≤ Word.most)
    (hanswer : Understood (g.ingest body actor o).answer) :
    (∀ more body', body'.Holds (bytes ++ more) → bytes.length + more.length ≤ g.cap →
      g.ingest body' actor o = g.ingest body actor o) ∧
    ∃ value close rest, bytes = value ++ close :: rest ∧ (close = 93 ∨ close = 125) ∧
      (∀ t, Bracketed bytes t ↔ t = rest) ∧
      ∀ part body', part <+: value → body'.Holds part →
        ∃ f, g.ingest body' actor o = { answer := .error (.malformed f), state := g } := by
  refine ⟨fun more body' => ingest_behind h hb hfit hcap hanswer, ?_⟩
  obtain ⟨hlen, hblank, r, rest, hread⟩ := read_of_understood h hb hfit hanswer
  have hbracketed := (TrackRequest.reader_found hread).1
  obtain ⟨value, close, hbytes, hclose⟩ := hbracketed.closing
  have hfirst : ∀ t, Bracketed bytes t ↔ t = rest :=
    fun t => ⟨fun ht => ht.unique hbracketed, fun ht => ht ▸ hbracketed⟩
  refine ⟨value, close, rest, hbytes, hclose, hfirst, fun part body' hpart hholds => ?_⟩
  have hfront : part <+: bytes := by
    rw [hbytes]
    exact hpart.trans (List.prefix_append _ _)
  have hinside : part.length + rest.length < bytes.length := by
    have hle := hpart.length_le
    rw [hbytes, List.length_append, List.length_cons]
    omega
  exact ingest_part h hcap hread hlen hfront hinside hholds

end

/-- A request after a member that nobody asks for, in which a text has brackets. -/
def bracketed : List UInt8 :=
  "\x7b\"x\":[\"]\x7d\"],\"event\":\"user_raise_hand\",\"clientType\":\"web\"\x7d".toUTF8.toList

/-- Two bytes behind it that are no text make no difference; of nothing of it nothing is read. -/
theorem front_bracketed :
    ((liveGate 100).ingest (.whole bracketed) "u1" .good).answer = .ok "user_raise_hand" ∧
    (liveGate 100).ingest (.whole (bracketed ++ [255, 123])) "u1" .good =
      (liveGate 100).ingest (.whole bracketed) "u1" .good ∧
    ∃ f, (liveGate 100).ingest (.whole []) "u1" .good =
      { answer := .error (.malformed f), state := liveGate 100 } := by
  have hanswer : ((liveGate 100).ingest (.whole bracketed) "u1" .good).answer =
      .ok "user_raise_hand" := by decide +kernel
  have hlive : (liveGate 100).manager.live = some ⟨1, {}⟩ := rfl
  obtain ⟨hmore, value, close, rest, _, _, _, hpart⟩ :=
    ingest_front hlive (Body.holds_whole bracketed) (by decide +kernel) (by decide)
      (.inl ⟨_, hanswer⟩)
  refine ⟨hanswer, hmore [255, 123] _ (Body.holds_whole _) (by decide +kernel), ?_⟩
  exact hpart [] (.whole []) List.nil_prefix (Body.holds_whole [])

end Gate

end TelemetryGate
