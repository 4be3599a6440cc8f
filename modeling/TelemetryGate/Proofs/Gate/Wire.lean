import TelemetryGate.Proofs.Gate.Requests
import TelemetryGate.Proofs.Json.Regular

/-!
# Requests as text

A request that is written and sent comes to what it comes to when it is handed over as it is.

* `TrackRequest.Regular`, `Integral`   a request that text can hold, and one of whole numbers;
* `TrackRequest.reads_encode`          the text of a request is read back, whatever follows;
* `TrackRequest.regular_of_reader`     a request that was read is one that text can hold;
* `TrackRequest.Faithful`, `wire`      both ways to the gate agree.
-/

namespace TelemetryGate

namespace TrackRequest

/-- The text of the request opens at most as many brackets inside one another as are read; its own
is one of them. -/
def Regular (r : TrackRequest) : Prop :=
  ∀ p, r.props = some p → Json.Regular (Json.maxDepth - 1) (.object p)

/-- Every number in the properties is whole. -/
def Integral (r : TrackRequest) : Prop := ∀ p, r.props = some p → Json.Integral (.object p)

/-! ### from the request to its text and back -/

section
variable {r : TrackRequest} {d : Nat}

open Json

theorem missing?_eq_none (given : List String) : form.missing? given = none := rfl

theorem printed_name (text : String) :
    Printed (readKind d .textOrEmpty) text (Utf8.encode (quote text)) := by
  have h := printed_present_text (d := d) text
  refine ⟨h.front, fun s hs => ?_⟩
  obtain ⟨h', hread⟩ := h.reads s hs
  refine ⟨h', ?_⟩
  show (readOptional (readText "a string") _).map _ = _
  exact congrArg (Except.map _) hread

theorem printed_props {p : Properties} (h : Json.Regular (maxDepth - 1) (.object p))
    (hi : Json.Integral (.object p)) :
    Printed (readKind (maxDepth - 1) (.optional .properties)) (some p)
      (Utf8.encode (Json.object p).compact) := by
  have hbytes := encode_object p []
  have hmap := printed_readMap h hi
  rw [List.append_nil] at hbytes
  rw [hbytes] at hmap ⊢
  exact hmap.present (by decide)

theorem fills_props (given : List String) (h : r.Regular) (hi : r.Integral)
    (hnew : given.contains "props" = false) :
    ∃ given', Fills (readKind (maxDepth - 1)) form given { r with props := none }
      ((r.props.map fun p => ("props", (Json.object p).compact)).toList.map
        fun m => memberBytes m.1 (Utf8.encode m.2)) given' r := by
  obtain ⟨event, clientType, source, props⟩ := r
  cases props with
  | none => exact ⟨given, .nil⟩
  | some p =>
    exact ⟨_, .slot "props" rfl hnew (printed_props (h p rfl) (hi p rfl)) .nil⟩

theorem fills_source (given : List String) (h : r.Regular) (hi : r.Integral)
    (hsource : given.contains "source" = false) (hprops : given.contains "props" = false) :
    ∃ given', Fills (readKind (maxDepth - 1)) form given { r with source := none, props := none }
      (((r.source.map fun s => ("source", quote s)).toList ++
        (r.props.map fun p => ("props", (Json.object p).compact)).toList).map
          fun m => memberBytes m.1 (Utf8.encode m.2)) given' r := by
  obtain ⟨event, clientType, source, props⟩ := r
  cases source with
  | none => exact fills_props given h hi hprops
  | some source =>
    obtain ⟨given', hfills⟩ := fills_props ("source" :: given) h hi hprops
    exact ⟨given', .slot "source" rfl hsource (printed_present_text source) hfills⟩

/-- The text of a request is read back, whatever follows it. -/
theorem reads_encode (h : r.Regular) (hi : r.Integral) (s : List UInt8) :
    Reads reader (Utf8.encode r.encode ++ s) r s := by
  obtain ⟨given', hfills⟩ := fills_source ["clientType", "event"] h hi rfl rfl
  rw [encode, List.append_assoc, encode_record]
  refine readRecord_fills ?_ (missing?_eq_none given') s
  exact .slot "event" rfl rfl (printed_name r.event)
    (.slot "clientType" rfl rfl (printed_name r.clientType) hfills)

theorem reader_encode (h : r.Regular) (hi : r.Integral) :
    Reads reader (Utf8.encode r.encode) r [] := by
  have hreads := reads_encode h hi []
  rwa [List.append_nil] at hreads

theorem decode_encode (h : r.Regular) (hi : r.Integral) :
    decode (Utf8.encode r.encode) = .ok r :=
  (reader_encode h hi).whole rfl

/-- The text of a request is not blank. -/
theorem encode_not_blank (r : TrackRequest) :
    ¬ ∀ b ∈ Utf8.encode r.encode, isBlank b = true := by
  intro hblank
  have hbrace : (123 : UInt8) ∈ Utf8.encode r.encode := by
    rw [← List.append_nil (Utf8.encode r.encode), encode, encode_record]
    exact List.mem_cons_self
  exact absurd (hblank 123 hbrace) (by decide)

end

/-! ### from text to a request -/

theorem regular_of_reader {bytes : List UInt8} {r : Read TrackRequest bytes}
    (h : reader bytes = .ok r) : Regular r.value := by
  have hblank : Regular form.blank := fun p hp => nomatch hp
  refine Json.readRecord_keeps hblank (fun d hd slot hslot => ?_) h
  simp only [form, List.mem_cons, List.not_mem_nil, or_false] at hslot
  rcases hslot with rfl | rfl | rfl | rfl
  · exact fun s v hv record hr => hr
  · exact fun s v hv record hr => hr
  · exact fun s v hv record hr => hr
  · intro s v hv record _ p hp
    obtain ⟨t, r', hread, rfl⟩ := Json.readOptional_some hv hp
    have hdepth : Json.maxDepth - 1 = d := Nat.sub_eq_of_eq_add hd
    rw [hdepth]
    exact Json.readMap_regular hread

theorem regular_of_readRequest {cap : Nat} {body : Body} {r : TrackRequest}
    (h : Gate.readRequest cap body = .ok r) : r.Regular := by
  have hsaid := (Gate.readRequest_ok h).2.2
  unfold Gate.said at hsaid
  cases hr : reader (body.take (Gate.wanted cap)).bytes with
  | error f => rw [hr] at hsaid; cases hsaid
  | ok read =>
    rw [hr] at hsaid
    cases hsaid
    exact regular_of_reader hr

theorem regular_of_decode {bytes : List UInt8} {r : TrackRequest} (h : decode bytes = .ok r) :
    r.Regular := by
  rw [decode, Json.readWhole] at h
  cases hr : reader bytes with
  | error f => rw [hr] at h; cases h
  | ok read =>
    rw [hr] at h
    dsimp only at h
    cases hrest : Json.skipBlanks read.rest with
    | nil =>
      rw [hrest] at h
      cases h
      exact regular_of_reader hr
    | cons b rest => rw [hrest] at h; cases h

/-! ### both ways to the gate -/

/-- The request comes through its text unchanged. -/
structure Faithful (r : TrackRequest) : Prop where
  decoded : decode (Utf8.encode r.encode) = .ok r
  /-- the gate does the same with the text as with the request -/
  ingested : ∀ (g : Gate) (body : Body) (actor : String) (o : Outcomes),
    body.Holds (Utf8.encode r.encode) → (Utf8.encode r.encode).length ≤ g.cap →
    g.cap ≤ Word.most → g.ingest body actor o = g.submit r actor o
  /-- no other request has the text -/
  canonical : ∀ r' : TrackRequest, r'.Regular → r'.Integral → r'.encode = r.encode → r' = r

theorem faithful {r : TrackRequest} (h : r.Regular) (hi : r.Integral) : Faithful r := by
  refine ⟨decode_encode h hi, fun g body actor o hbody hlen hcap => ?_, fun r' h' hi' e => ?_⟩
  · cases hl : g.manager.live with
    | none => rw [Gate.ingest_of_off hl, Gate.submit_of_off hl]
    | some client =>
      obtain ⟨h', hread⟩ := reader_encode h hi
      have hfit := Or.inl (b := g.cap < Word.most) (Nat.le_trans hlen hcap)
      have hrequest := Gate.readRequest_of_ok hbody hfit hlen (encode_not_blank r) hread
      exact Gate.ingest_of_request hl hrequest actor o
  · have hboth := decode_encode h' hi'
    rw [e, decode_encode h hi] at hboth
    exact (Except.ok.inj hboth).symm

/-- **A request that text can hold comes through its text unchanged, and every request that was read
is one.** -/
theorem wire : (∀ r : TrackRequest, r.Regular → r.Integral → r.Faithful) ∧
    (∀ (cap : Nat) (body : Body) (r : TrackRequest),
      Gate.readRequest cap body = .ok r → r.Regular) ∧
    ∀ (bytes : List UInt8) (r : TrackRequest), decode bytes = .ok r → r.Regular :=
  ⟨fun _ => faithful, fun _ _ _ => regular_of_readRequest, fun _ _ => regular_of_decode⟩

/-- A source that is empty, escapes, and the least and the greatest word. -/
theorem wire_nested :
    let r : TrackRequest :=
      { event := "user_raise_hand", clientType := "web", source := some ""
        props := some [("", .list [.whole (-9223372036854775808), .object []]),
          ("\n\"é", .whole 18446744073709551615)] }
    let g : Gate := { manager := ⟨some ⟨1, {}⟩, 1⟩, cap := 200 }
    r.Regular ∧ r.Integral ∧ r.Faithful ∧
      decode (Utf8.encode r.encode) = .ok r ∧
      Gate.readRequest g.cap (.whole (Utf8.encode r.encode)) = .ok r ∧
      (∀ o, g.ingest (.whole (Utf8.encode r.encode)) "u" o = g.submit r "u" o) := by
  intro r g
  have h : r.Regular := by
    rintro p ⟨⟩
    refine .object (by decide) fun m hm => ?_
    simp only [List.mem_cons, List.not_mem_nil, or_false] at hm
    rcases hm with rfl | rfl
    · refine .list fun v hv => ?_
      simp only [List.mem_cons, List.not_mem_nil, or_false] at hv
      rcases hv with rfl | rfl
      · exact .whole (by decide)
      · exact .object Members.sorted_nil fun m hm => nomatch hm
    · exact .whole (by decide)
  have hi : r.Integral := by
    rintro p ⟨⟩
    refine .object fun m hm => ?_
    simp only [List.mem_cons, List.not_mem_nil, or_false] at hm
    rcases hm with rfl | rfl
    · refine .list fun v hv => ?_
      simp only [List.mem_cons, List.not_mem_nil, or_false] at hv
      rcases hv with rfl | rfl
      · exact .whole _
      · exact .object fun m hm => nomatch hm
    · exact .whole _
  have hfaithful := wire.1 r h hi
  have hlen : (Utf8.encode r.encode).length ≤ 200 := by decide +kernel
  obtain ⟨_, hread⟩ := reader_encode h hi
  have hrequest : Gate.readRequest g.cap (.whole (Utf8.encode r.encode)) = .ok r :=
    Gate.readRequest_of_ok (Body.holds_whole _) (.inr (by decide)) hlen (encode_not_blank r) hread
  exact ⟨wire.2.1 _ _ _ hrequest, hi, hfaithful, hfaithful.decoded, hrequest,
    fun o => hfaithful.ingested g _ "u" o (Body.holds_whole _) hlen (by decide)⟩

end TrackRequest

end TelemetryGate
