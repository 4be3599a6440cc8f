import TelemetryGate.Delivery.Sink
import TelemetryGate.Proofs.Json.Value

/-!
# What a payload says

* `Json.reads_record`       an object that was printed member by member, in any order, is read back;
* `Message.members`         the members of a message, in the order in which they are printed;
* `Message.decode_encode`   the text of a message is the object of its members;
* `Sink.track_payload`      an event that is taken waits as one payload, and what that says.
-/

namespace TelemetryGate

namespace Json

variable {d : Nat} {a b : Properties}

theorem reads_record {ms : List (String × Json)} (h : ∀ m ∈ ms, Regular d m.2 ∧ Integral m.2)
    (s : List UInt8) :
    Reads (readValue (d + 1))
      (Utf8.encode (record (ms.map fun m => (m.1, m.2.compact))) ++ s)
      (.object (Members.ofList ms)) s := by
  have hparts : List.Forall₂ (fun m part => ∃ bytes, part = memberBytes m.1 bytes ∧
      Printed (readValue d) m.2 bytes) ms
      (ms.map fun m => memberBytes m.1 (Utf8.encode m.2.compact)) :=
    List.forall₂_map_right_iff.mpr
      (List.forall₂_same.mpr fun m hm => ⟨_, rfl, printed_compact (h m hm).1 (h m hm).2⟩)
  obtain ⟨h', hmembers⟩ := readMembers_commas hparts true [] s Shorter.same
  rw [encode_record, List.map_map]
  exact reads_object hmembers

theorem regular_extend (ha : Regular d (.object a)) (hb : Regular d (.object b)) :
    Regular d (.object (Members.extend a b)) := by
  cases ha with
  | object hsorted ha =>
    cases hb with
    | object _ hb =>
      refine .object (Members.sorted_extend hsorted b) fun m hm => ?_
      rcases Members.mem_extend hm with hm | hm
      · exact ha m hm
      · exact hb m hm

theorem integral_extend (ha : Integral (.object a)) (hb : Integral (.object b)) :
    Integral (.object (Members.extend a b)) := by
  cases ha with
  | object ha =>
    cases hb with
    | object hb =>
      refine .object fun m hm => ?_
      rcases Members.mem_extend hm with hm | hm
      · exact ha m hm
      · exact hb m hm

theorem Regular.sorted (h : Regular d (.object a)) : Members.Sorted a := by
  cases h with
  | object hsorted => exact hsorted

end Json

open Json

/-! ### messages -/

namespace Message

/-- Which program sends. -/
def origin : Properties :=
  [("library", .object [("name", .text programName), ("version", .text version)])]

def members (m : Message) : List (String × Json) :=
  [("type", .text "track"), ("event", .text m.event), ("userId", .text m.sender),
    ("anonymousId", .text m.sender), ("messageId", .text m.stamp.id),
    ("timestamp", .text m.stamp.moment), ("properties", .object m.properties),
    ("context", .object origin)]

theorem compact_origin : (Json.object origin).compact = library := by
  rw [compact_object]
  show record [("library", (Json.object _).compact)] = _
  rw [compact_object]
  rfl

theorem encode_eq (m : Message) :
    m.encode = record (m.members.map fun p => (p.1, p.2.compact)) := by
  show record _ = record [_, _, _, _, _, _, _, ("context", (Json.object origin).compact)]
  rw [compact_origin]
  rfl

theorem regular_origin : Regular (maxDepth - 1) (.object origin) := by
  refine .object (by decide) fun p hp => ?_
  rw [List.mem_singleton.mp hp]
  refine .object (by decide) fun q hq => ?_
  simp only [List.mem_cons, List.not_mem_nil, or_false] at hq
  rcases hq with rfl | rfl
  · exact .text _
  · exact .text _

theorem integral_origin : Integral (.object origin) := by
  refine .object fun p hp => ?_
  rw [List.mem_singleton.mp hp]
  refine .object fun q hq => ?_
  simp only [List.mem_cons, List.not_mem_nil, or_false] at hq
  rcases hq with rfl | rfl
  · exact .text _
  · exact .text _

variable {m : Message}

/-- The object around the properties is one of the brackets that may be open. -/
theorem decode_encode (h : Regular (maxDepth - 1) (.object m.properties))
    (hi : Integral (.object m.properties)) :
    readWhole (readValue maxDepth) (Utf8.encode m.encode) =
      .ok (.object (Members.ofList m.members)) := by
  have hall : ∀ p ∈ m.members, Regular (maxDepth - 1) p.2 ∧ Integral p.2 := by
    intro p hp
    simp only [members, List.mem_cons, List.not_mem_nil, or_false] at hp
    rcases hp with rfl | rfl | rfl | rfl | rfl | rfl | rfl | rfl
    case inr.inr.inr.inr.inr.inr.inl => exact ⟨h, hi⟩
    case inr.inr.inr.inr.inr.inr.inr => exact ⟨regular_origin, integral_origin⟩
    all_goals exact ⟨.text _, .text _⟩
  have hreads := reads_record hall []
  rw [List.append_nil, ← encode_eq] at hreads
  exact hreads.whole rfl

theorem nodup_members (m : Message) : (m.members.map (·.1)).Nodup := by
  show ["type", "event", "userId", "anonymousId", "messageId", "timestamp", "properties",
    "context"].Nodup
  decide

theorem find?_members {p : String × Json} (hp : p ∈ m.members) :
    Members.find? p.1 (Members.ofList m.members) = some p.2 :=
  Members.find?_ofList_of_mem m.nodup_members hp

end Message

/-! ### payloads -/

namespace Sink

variable {s s' : Sink} {event : String} {props : Properties} {stamp : Stamp}

theorem pending_track (h : s.track event props stamp = .ok s') :
    s'.queue.pending =
      s.queue.pending ++ [(Message.ofEvent s.config event props stamp).encode] := by
  unfold track at h
  cases hoffer : s.queue.offer (Message.ofEvent s.config event props stamp).encode with
  | error f =>
    rw [hoffer] at h
    cases h
  | ok q =>
    rw [hoffer] at h
    cases h
    exact Queue.pending_offer hoffer

/-- **An event that is taken waits as one payload, behind those that wait already. It says which
event it is and who sends it, and has under each name the property of the event, or else the one
that every event has.** -/
theorem track_payload (hdefaults : Regular (maxDepth - 1) (.object s.config.defaultProps))
    (hdefaults' : Integral (.object s.config.defaultProps))
    (hprops : Regular (maxDepth - 1) (.object props)) (hprops' : Integral (.object props))
    (h : s.track event props stamp = .ok s') :
    ∃ payload object properties,
      s'.queue.pending = s.queue.pending ++ [payload] ∧
      readWhole (readValue maxDepth) (Utf8.encode payload) = .ok (.object object) ∧
      Members.find? "type" object = some (.text "track") ∧
      Members.find? "event" object = some (.text event) ∧
      Members.find? "userId" object = some (.text s.config.diagnosticId) ∧
      Members.find? "anonymousId" object = some (.text s.config.diagnosticId) ∧
      Members.find? "properties" object = some (.object properties) ∧
      Members.Sorted properties ∧
      ∀ name, Members.find? name properties =
        (Members.find? name props).or (Members.find? name s.config.defaultProps) := by
  have hregular := regular_extend hdefaults hprops
  have hmembers {p : String × Json}
      (hp : p ∈ (Message.ofEvent s.config event props stamp).members) := Message.find?_members hp
  refine ⟨_, _, Members.extend s.config.defaultProps props, pending_track h,
    Message.decode_encode hregular (integral_extend hdefaults' hprops'), ?_, ?_, ?_, ?_, ?_,
    hregular.sorted, Members.find?_extend hprops.sorted⟩
  · exact hmembers (p := ("type", _)) (by simp [Message.members, Message.ofEvent])
  · exact hmembers (p := ("event", _)) (by simp [Message.members, Message.ofEvent])
  · exact hmembers (p := ("userId", _)) (by simp [Message.members, Message.ofEvent])
  · exact hmembers (p := ("anonymousId", _)) (by simp [Message.members, Message.ofEvent])
  · exact hmembers (p := ("properties", _)) (by simp [Message.members, Message.ofEvent])

/-- A client with two properties that every event has. -/
def counting : Sink where
  config := { writeKey := "key", diagnosticId := "diag-1"
              defaultProps := [("Build", .text "b"), ("n", .whole 1)] }
  endpoint := { scheme := "http", path := .segments ["v1", "track"] }
  queue := { capacity := 1 }

/-- An event with one of them, nested, and the other. -/
theorem payload_counting : ∃ s' payload object properties,
    counting.track "e\"" [("n", .list [.whole (-2)])] ⟨"i", "now"⟩ = .ok s' ∧
    s'.queue.pending = [payload] ∧
    readWhole (readValue maxDepth) (Utf8.encode payload) = .ok (.object object) ∧
    Members.find? "event" object = some (.text "e\"") ∧
    Members.find? "properties" object = some (.object properties) ∧
    Members.find? "n" properties = some (.list [.whole (-2)]) ∧
    Members.find? "Build" properties = some (.text "b") ∧
    Members.find? "other" properties = none := by
  have hdefaults : Regular (maxDepth - 1) (.object counting.config.defaultProps) ∧
      Integral (.object counting.config.defaultProps) := by
    refine ⟨.object (by decide) fun m hm => ?_, .object fun m hm => ?_⟩
    all_goals
      simp only [counting, List.mem_cons, List.not_mem_nil, or_false] at hm
      rcases hm with rfl | rfl
    · exact .text "b"
    · exact .whole (by decide)
    · exact .text "b"
    · exact .whole 1
  have hprops : Regular (maxDepth - 1) (.object [("n", .list [.whole (-2)])]) ∧
      Integral (.object [("n", .list [.whole (-2)])]) := by
    refine ⟨.object (by decide) fun m hm => ?_, .object fun m hm => ?_⟩
    all_goals rw [List.mem_singleton.mp hm]
    · exact .list fun v hv => List.mem_singleton.mp hv ▸ .whole (by decide)
    · exact .list fun v hv => List.mem_singleton.mp hv ▸ .whole (-2)
  have htrack : ∃ s', counting.track "e\"" [("n", .list [.whole (-2)])] ⟨"i", "now"⟩ = .ok s' :=
    ⟨_, rfl⟩
  obtain ⟨s', htrack⟩ := htrack
  obtain ⟨payload, object, properties, hpending, hread, _, hevent, _, _, hproperties, _, hall⟩ :=
    track_payload hdefaults.1 hdefaults.2 hprops.1 hprops.2 htrack
  exact ⟨s', payload, object, properties, htrack, hpending, hread, hevent, hproperties, hall "n",
    hall "Build", hall "other"⟩

end Sink

end TelemetryGate
