import Mathlib.Data.List.Induction
import TelemetryGate.Event

/-!
# The fields of a request

A request depends on the values of its fields alone: not on their order, nor on fields that are
null.

* `Given`                                a field that is given, with a value or as null;
* `TrackRequest.ofGiven`                 the request that fields come to;
* `Pick`                                 the values of one field among those that are given;
* `TrackRequest.foldl_store`             storing the fields one after another comes to it;
* `TrackRequest.ofGiven_congr`           fields that are null make no difference.
-/

namespace TelemetryGate

/-- A field of a request that is given, with a value or as null. -/
inductive Given where
  | event (v : Option String)
  | clientType (v : Option String)
  | source (v : Option String)
  | props (v : Option Properties)

namespace Given

def name : Given → String
  | event _ => "event"
  | clientType _ => "clientType"
  | source _ => "source"
  | props _ => "props"

def names : Given → List String
  | event _ => ["event", "Event"]
  | clientType _ => ["clientType", "ClientType"]
  | source _ => ["source", "Source"]
  | props _ => ["props", "Props"]

/-- What stands for it in JSON text. -/
def json : Given → Json
  | event v => v.elim .null .text
  | clientType v => v.elim .null .text
  | source v => v.elim .null .text
  | props v => v.elim .null .object

def event? : Given → Option String
  | event v => v
  | _ => none

def clientType? : Given → Option String
  | clientType v => v
  | _ => none

def source? : Given → Option String
  | source v => v
  | _ => none

def props? : Given → Option Properties
  | props v => v
  | _ => none

/-- The request with the field. -/
def store : Given → TrackRequest → TrackRequest
  | event v, r => { r with event := v.getD "" }
  | clientType v, r => { r with clientType := v.getD "" }
  | source v, r => { r with source := v }
  | props v, r => { r with props := v }

end Given

/-- The request that fields come to: a name that is missing or null is empty, and anything else that
is so is missing. -/
def TrackRequest.ofGiven (gs : List Given) : TrackRequest :=
  { event := (gs.findSome? Given.event?).getD ""
    clientType := (gs.findSome? Given.clientType?).getD ""
    source := gs.findSome? Given.source?
    props := gs.findSome? Given.props? }

section
variable {g : Given} {gs : List Given}

/-- The values of one field: how they are picked, and how they are put. -/
structure Pick (α : Type) where
  name : String
  pick : Given → Option α
  put : α → Given
  pick_iff : ∀ g v, pick g = some v ↔ g = put v
  name_put : ∀ v, (put v).name = name
  json_put : ∀ v, (put v).json ≠ .null

namespace Pick

def event : Pick String where
  name := "event"
  pick := Given.event?
  put := fun v => .event (some v)
  pick_iff := fun g v => by cases g <;> simp [Given.event?]
  name_put := fun _ => rfl
  json_put := fun _ h => nomatch h

def clientType : Pick String where
  name := "clientType"
  pick := Given.clientType?
  put := fun v => .clientType (some v)
  pick_iff := fun g v => by cases g <;> simp [Given.clientType?]
  name_put := fun _ => rfl
  json_put := fun _ h => nomatch h

def source : Pick String where
  name := "source"
  pick := Given.source?
  put := fun v => .source (some v)
  pick_iff := fun g v => by cases g <;> simp [Given.source?]
  name_put := fun _ => rfl
  json_put := fun _ h => nomatch h

def props : Pick Properties where
  name := "props"
  pick := Given.props?
  put := fun v => .props (some v)
  pick_iff := fun g v => by cases g <;> simp [Given.props?]
  name_put := fun _ => rfl
  json_put := fun _ h => nomatch h

variable {α : Type} (field : Pick α)

/-- A value is picked if it is among the fields, each of which is given once. -/
theorem findSome?_iff (hnodup : (gs.map Given.name).Nodup) (v : α) :
    gs.findSome? field.pick = some v ↔ field.put v ∈ gs := by
  induction gs with
  | nil => simp
  | cons g gs ih =>
    rw [List.map_cons, List.nodup_cons] at hnodup
    rw [List.findSome?_cons, List.mem_cons]
    cases hg : field.pick g with
    | none =>
      have hne : field.put v ≠ g := by
        intro heq
        cases hg.symm.trans ((field.pick_iff g v).mpr heq.symm)
      rw [or_iff_right hne]
      exact ih hnodup.2
    | some v' =>
      obtain rfl := (field.pick_iff g v').mp hg
      have hnot : field.put v ∉ gs := by
        intro hmem
        refine hnodup.1 ?_
        rw [field.name_put v', ← field.name_put v]
        exact List.mem_map_of_mem hmem
      rw [or_iff_left hnot, Option.some_inj]
      constructor
      · rintro rfl
        rfl
      · intro heq
        exact Option.some.inj (hg.symm.trans ((field.pick_iff _ v).mpr heq.symm))

/-- A field that is not given is not picked. -/
theorem findSome?_absent (h : field.name ∉ gs.map Given.name) :
    gs.findSome? field.pick = none := by
  refine List.findSome?_eq_none_iff.mpr fun g hg => ?_
  refine Option.eq_none_iff_forall_ne_some.mpr fun v hv => h ?_
  obtain rfl := (field.pick_iff g v).mp hv
  rw [← field.name_put v]
  exact List.mem_map_of_mem hg

/-- Fields that are null make no difference. -/
theorem findSome?_congr {gs' : List Given} (h : (gs.map Given.name).Nodup)
    (h' : (gs'.map Given.name).Nodup) (halike : ∀ g : Given, g.json ≠ .null → (g ∈ gs' ↔ g ∈ gs)) :
    gs'.findSome? field.pick = gs.findSome? field.pick := by
  refine Option.ext fun v => ?_
  rw [field.findSome?_iff h', field.findSome?_iff h]
  exact halike _ (field.json_put v)

end Pick

namespace TrackRequest

theorem ofGiven_concat (h : g.name ∉ gs.map Given.name) :
    ofGiven (gs ++ [g]) = g.store (ofGiven gs) := by
  unfold ofGiven
  simp only [List.findSome?_append, List.findSome?_singleton]
  cases g with
  | event v =>
    have hnone : gs.findSome? Given.event? = none := Pick.event.findSome?_absent h
    simp [Given.store, Given.event?, Given.clientType?, Given.source?, Given.props?, hnone]
  | clientType v =>
    have hnone : gs.findSome? Given.clientType? = none := Pick.clientType.findSome?_absent h
    simp [Given.store, Given.event?, Given.clientType?, Given.source?, Given.props?, hnone]
  | source v =>
    have hnone : gs.findSome? Given.source? = none := Pick.source.findSome?_absent h
    simp [Given.store, Given.event?, Given.clientType?, Given.source?, Given.props?, hnone]
  | props v =>
    have hnone : gs.findSome? Given.props? = none := Pick.props.findSome?_absent h
    simp [Given.store, Given.event?, Given.clientType?, Given.source?, Given.props?, hnone]

/-- Fields that are stored one after another, in whatever order. -/
theorem foldl_store (h : (gs.map Given.name).Nodup) :
    gs.foldl (fun r g => g.store r) form.blank = ofGiven gs := by
  induction gs using List.reverseRecOn with
  | nil => rfl
  | append_singleton gs g ih =>
    rw [List.map_append, List.nodup_append] at h
    have hnot : g.name ∉ gs.map Given.name := fun hmem =>
      h.2.2 _ hmem _ (List.mem_singleton_self _) rfl
    rw [List.foldl_append, ih h.1, ofGiven_concat hnot]
    rfl

theorem ofGiven_congr {gs' : List Given} (h : (gs.map Given.name).Nodup)
    (h' : (gs'.map Given.name).Nodup) (halike : ∀ g : Given, g.json ≠ .null → (g ∈ gs' ↔ g ∈ gs)) :
    ofGiven gs' = ofGiven gs := by
  have hevent := Pick.event.findSome?_congr h h' halike
  have hclientType := Pick.clientType.findSome?_congr h h' halike
  have hsource := Pick.source.findSome?_congr h h' halike
  have hprops := Pick.props.findSome?_congr h h' halike
  unfold ofGiven
  rw [show gs'.findSome? Given.event? = gs.findSome? Given.event? from hevent,
    show gs'.findSome? Given.clientType? = gs.findSome? Given.clientType? from hclientType,
    show gs'.findSome? Given.source? = gs.findSome? Given.source? from hsource,
    show gs'.findSome? Given.props? = gs.findSome? Given.props? from hprops]

end TrackRequest

end

end TelemetryGate
