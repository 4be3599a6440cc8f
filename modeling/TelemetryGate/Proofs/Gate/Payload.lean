import Mathlib.Data.List.Nodup
import TelemetryGate.Proofs.Gate.Given
import TelemetryGate.Proofs.Gate.Verdict
import TelemetryGate.Proofs.Json.Slots

/-!
# Requests as clients write them

An object or a list is read as the request that its fields come to. An object that gives a field
twice is none.

* `Listed`, `Itemized`        the fields of an object in any order, and those of a list in theirs;
* `Repeats`                   members of which so many give one field;
* `Listed.read`, …            what is read of them;
* `TrackRequest.ReadAs`       the request that bytes come to, alone or in a body;
* `TrackRequest.understood`   what comes to a request, and to which.
-/

namespace TelemetryGate

open Json

/-! ### text -/

/-- How many brackets the value of a field may open inside one another. -/
def fieldDepth : Nat := maxDepth - 1

/-- The members of an object: fields under either of their names, and members of other names. -/
inductive Listed : Bool → List Given → List UInt8 → List UInt8 → Prop
  | close {first : Bool} {s t : List UInt8} (h : Blanks s (125 :: t)) : Listed first [] s t
  | field {first : Bool} {g : Given} {gs : List Given} {name : String} {s u v t : List UInt8}
    (hname : name ∈ g.names) (key : Key (Quotes name) first s u)
    (value : Denotes fieldDepth (.value g.json) u v) (rest : Listed false gs v t) :
    Listed first (g :: gs) s t
  | other {first : Bool} {gs : List Given} {name : String} {s u v t : List UInt8}
    (hname : ∀ g : Given, name ∉ g.names) (key : Key (Quotes name) first s u)
    (value : Derives .value u v) (rest : Listed false gs v t) : Listed first gs s t

/-- The items of a list. -/
inductive Itemized : Bool → List Given → List UInt8 → List UInt8 → Prop
  | close {first : Bool} {s t : List UInt8} (h : Blanks s (93 :: t)) : Itemized first [] s t
  | item {first : Bool} {g : Given} {gs : List Given} {s u v t : List UInt8}
    (sep : Separator first s u) (value : Denotes fieldDepth (.value g.json) u v)
    (rest : Itemized false gs v t) : Itemized first (g :: gs) s t

/-- The members of an object, among them `n` of the names. -/
inductive Repeats (names : List String) : Nat → Bool → List UInt8 → List UInt8 → Prop
  | close {first : Bool} {s t : List UInt8} (h : Blanks s (125 :: t)) : Repeats names 0 first s t
  | named {n : Nat} {first : Bool} {name : String} {s u v t : List UInt8} (hname : name ∈ names)
    (key : Key (Quotes name) first s u) (value : Derives .value u v)
    (rest : Repeats names n false v t) : Repeats names (n + 1) first s t
  | other {n : Nat} {first : Bool} {s u v t : List UInt8} (key : Key Inside first s u)
    (value : Derives .value u v) (rest : Repeats names n false v t) : Repeats names n first s t

/-! ### fields and slots -/

section
variable {s s₀ t u : List UInt8} {g : Given} {gs : List Given} {first : Bool}

theorem reads_name {v : Option String} {d : Nat}
    (h : Denotes d (.value (v.elim .null .text)) s t) :
    Reads (readKind d .textOrEmpty) s (v.getD "") t := by
  obtain ⟨h', hread⟩ := reads_textOrNull h "a string"
  refine ⟨h', ?_⟩
  show (readOptional (readText "a string") s).map _ = _
  rw [hread]
  rfl

theorem exact_slots (d : Nat) :
    ∀ slot ∈ TrackRequest.form.slots, Exact (readKind d slot.kind) := by
  intro slot hslot
  simp only [TrackRequest.form, List.mem_cons, List.not_mem_nil, or_false] at hslot
  rcases hslot with rfl | rfl | rfl | rfl
  · exact (exact_readOptional (exact_readText _)).map _
  · exact (exact_readOptional (exact_readText _)).map _
  · exact exact_readOptional (exact_readText _)
  · exact exact_readOptional (exact_readMap d)

namespace Given

/-- The slot of a field, which both of its names find. -/
structure SlotOf (g : Given) (slot : Slot Kind Kind.El TrackRequest) : Prop where
  mem : slot ∈ TrackRequest.form.slots
  name_eq : slot.name = g.name
  found : ∀ name ∈ g.names, TrackRequest.form.slot? name = some slot

theorem slotOf (g : Given) : ∃ slot, g.SlotOf slot := by
  have hfound : ∀ {slot : Slot Kind Kind.El TrackRequest} {a b : String},
      TrackRequest.form.slot? a = some slot → TrackRequest.form.slot? b = some slot →
        ∀ name ∈ [a, b], TrackRequest.form.slot? name = some slot := by
    intro slot a b ha hb name hname
    rcases List.mem_pair.mp hname with rfl | rfl
    · exact ha
    · exact hb
  cases g with
  | event v =>
    exact ⟨TrackRequest.form.slots[0], by simp [TrackRequest.form], rfl, hfound rfl rfl⟩
  | clientType v =>
    exact ⟨TrackRequest.form.slots[1], by simp [TrackRequest.form], rfl, hfound rfl rfl⟩
  | source v =>
    exact ⟨TrackRequest.form.slots[2], by simp [TrackRequest.form], rfl, hfound rfl rfl⟩
  | props v =>
    exact ⟨TrackRequest.form.slots[3], by simp [TrackRequest.form], rfl, hfound rfl rfl⟩

/-- The value of a field is read into its slot. -/
theorem SlotOf.fills {slot : Slot Kind Kind.El TrackRequest} (hslot : g.SlotOf slot)
    (h : Denotes fieldDepth (.value g.json) s t) :
    ∃ x, Reads (readKind fieldDepth slot.kind) s x t ∧ slot.store x = g.store := by
  have hfind : ∀ {slot'}, TrackRequest.form.slot? g.name = some slot' → slot = slot' := by
    intro slot' h'
    have hmem : g.name ∈ g.names := by cases g <;> exact List.mem_cons_self
    exact Option.some.inj ((hslot.found g.name hmem).symm.trans h')
  cases g with
  | event v =>
    obtain rfl := hfind (rfl : _ = some TrackRequest.form.slots[0])
    exact ⟨v.getD "", reads_name h, rfl⟩
  | clientType v =>
    obtain rfl := hfind (rfl : _ = some TrackRequest.form.slots[1])
    exact ⟨v.getD "", reads_name h, rfl⟩
  | source v =>
    obtain rfl := hfind (rfl : _ = some TrackRequest.form.slots[2])
    exact ⟨v, reads_textOrNull h _, rfl⟩
  | props v =>
    obtain rfl := hfind (rfl : _ = some TrackRequest.form.slots[3])
    exact ⟨v, reads_objectOrNull h, rfl⟩

end Given

theorem slot?_of_other {name : String} (h : ∀ g : Given, name ∉ g.names) :
    TrackRequest.form.slot? name = none := by
  have hno : ∀ a b : String, name ∉ [a, b] →
      ¬ (decide (a = name) || decide (some b = some name)) = true := by
    intro a b hab
    rw [List.mem_pair, not_or] at hab
    rw [Bool.or_eq_true, decide_eq_true_iff, decide_eq_true_iff, Option.some_inj, not_or]
    exact ⟨Ne.symm hab.1, Ne.symm hab.2⟩
  refine List.find?_eq_none.mpr fun slot hslot => ?_
  simp only [TrackRequest.form, List.mem_cons, List.not_mem_nil, or_false] at hslot
  rcases hslot with rfl | rfl | rfl | rfl
  · exact hno _ _ (h (.event none))
  · exact hno _ _ (h (.clientType none))
  · exact hno _ _ (h (.source none))
  · exact hno _ _ (h (.props none))

/-! ### what is read -/

/-- The members of an object fill the slots of their fields, if each field is given once. -/
theorem Listed.read (h : Listed first gs s t) (given : List String) (record : TrackRequest)
    (hnodup : (gs.map Given.name).Nodup) (hnew : ∀ g ∈ gs, g.name ∉ given)
    (hs : s.length ≤ s₀.length) :
    ∃ h', readSlots (readKind fieldDepth) TrackRequest.form given first record s hs =
      .ok ⟨(gs.foldl (fun r g => g.store r) record, t), h'⟩ := by
  induction h generalizing given record with
  | close h => exact readSlots_end rfl h hs
  | @field first g gs name s u v t hname key value _ ih =>
    obtain ⟨slot, hslot⟩ := g.slotOf
    obtain ⟨x, hread, hstore⟩ := hslot.fills value
    obtain ⟨hg, hgs⟩ := List.forall_mem_cons.mp hnew
    rw [List.map_cons, List.nodup_cons] at hnodup
    obtain ⟨colon, hnamed, hgap⟩ := named_of_key key
    have hnot : given.contains slot.name = false := by
      rw [hslot.name_eq, List.contains_eq_mem, decide_eq_false hg]
    have hvalue := (exact_slots fieldDepth slot hslot.mem).blanks.reads hgap hread
    obtain ⟨hs', hstep⟩ := readSlots_next record hnamed (hslot.found name hname) hnot hvalue hs
    -- the slot is filled now, and no field after this one is the same
    have hnew' : ∀ g' ∈ gs, g'.name ∉ slot.name :: given := by
      intro g' hg' hmem
      rcases List.mem_cons.mp hmem with heq | hmem
      · rw [hslot.name_eq] at heq
        exact hnodup.1 (heq ▸ List.mem_map_of_mem hg')
      · exact hgs g' hg' hmem
    obtain ⟨h', hrest⟩ := ih (slot.name :: given) (slot.store x record) hnodup.2 hnew' hs'
    rw [hstore] at hrest
    rw [hstore] at hstep
    exact ⟨h', hstep.trans hrest⟩
  | other hname key value _ ih =>
    obtain ⟨hs', hstep⟩ := readSlots_other record key (slot?_of_other hname) value hs
    obtain ⟨h', hrest⟩ := ih given record hnodup hnew hs'
    exact ⟨h', hstep.trans hrest⟩

/-- The names of the slots, in their order. -/
def fieldNames : List String := ["event", "clientType", "source", "props"]

/-- The items of a list fill slots in their order. -/
theorem Itemized.read (h : Itemized first gs s t) (wanted : String) (record : TrackRequest)
    {n : Nat} (hfirst : first = decide (n = 0)) {slots : List (Slot Kind Kind.El TrackRequest)}
    (hslots : slots <:+ TrackRequest.form.slots)
    (hnames : gs.map Given.name <+: slots.map (·.name)) (hs : s.length ≤ s₀.length) :
    ∃ h', readInOrder (readKind fieldDepth) wanted n record s hs slots =
      .ok ⟨(gs.foldl (fun r g => g.store r) record, t), h'⟩ := by
  induction h generalizing n record slots with
  | close h =>
    have hoptional : ∀ slot ∈ TrackRequest.form.slots, slot.required = false := by
      simp [TrackRequest.form]
    exact readInOrder_end (fun slot hslot => hoptional slot (hslots.subset hslot)) h hs
  | @item first g gs s u v t sep value _ ih =>
    cases slots with
    | nil => exact absurd hnames.length_le (by simp)
    | cons slot slots =>
      obtain ⟨slot', hslot⟩ := g.slotOf
      obtain ⟨x, hread, hstore⟩ := hslot.fills value
      rw [List.map_cons, List.map_cons, List.cons_prefix_cons] at hnames
      have heq : slot' = slot := by
        have hmem : slot ∈ TrackRequest.form.slots := hslots.subset List.mem_cons_self
        have hnodup : (TrackRequest.form.slots.map (·.name)).Nodup := by decide
        exact List.inj_on_of_nodup_map hnodup hslot.mem hmem (hslot.name_eq.trans hnames.1)
      subst heq
      obtain ⟨hs', hstep⟩ := readInOrder_next slots record (hfirst ▸ sep) value.derives.begins
        hread hs
      obtain ⟨h', hrest⟩ := ih (slot'.store x record) (n := n + 1) rfl
        ((List.suffix_cons slot' slots).trans hslots) hnames.2 hs'
      rw [hstore] at hrest
      rw [hstore] at hstep
      exact ⟨h', hstep.trans hrest⟩

namespace TrackRequest

/-! ### whole texts -/

/-- An object comes first, which gives these fields, each of them once. -/
def ObjectOf (gs : List Given) (s t : List UInt8) : Prop :=
  (gs.map Given.name).Nodup ∧ ∃ u, Blanks s (123 :: u) ∧ Listed true gs u t

/-- A list comes first, which gives these fields, the first ones in their order. -/
def ListOf (gs : List Given) (s t : List UInt8) : Prop :=
  gs.map Given.name <+: fieldNames ∧ ∃ u, Blanks s (91 :: u) ∧ Itemized true gs u t

/-- An object comes first, which gives a field more than once. -/
def TwiceIn (g : Given) (s t : List UInt8) : Prop :=
  ∃ n u, 2 ≤ n ∧ Blanks s (123 :: u) ∧ Repeats g.names n true u t

/-- Bytes come to a request, wherever they are read: alone, or in a body, whatever follows there. -/
structure ReadAs (r : TrackRequest) (s t : List UInt8) : Prop where
  first : Reads reader s r t
  whole : Blanks t [] → decode s = .ok r
  /-- where the cap is all that 64 bits count, the body is no longer, as nothing in memory is -/
  body : ∀ {cap : Nat} {body : Body}, body.Holds s → s.length ≤ cap →
    (s.length ≤ Word.most ∨ cap < Word.most) → Gate.readRequest cap body = .ok r

theorem readAs {b : UInt8} {r : TrackRequest} (hgap : Blanks s (b :: u)) (hb : isBlank b = false)
    (h : Reads reader s r t) : ReadAs r s t := by
  refine ⟨h, fun ht => h.whole ht.skip_nil, fun hbody hlen hfit => ?_⟩
  obtain ⟨h', hread⟩ := h
  exact Gate.readRequest_of_ok hbody hfit hlen (hgap.not_all hb) hread

theorem ObjectOf.readAs (h : ObjectOf gs s t) : ReadAs (ofGiven gs) s t := by
  obtain ⟨hnodup, u, hgap, hlisted⟩ := h
  obtain ⟨h', hahead⟩ := hgap.ahead_eq (by decide)
  obtain ⟨ht, hread⟩ := hlisted.read [] form.blank hnodup (fun g _ => List.not_mem_nil)
    (Shorter.same (s := u))
  rw [foldl_store hnodup] at hread
  refine TrackRequest.readAs hgap (by decide) ⟨Shorter.after ht h', ?_⟩
  rw [reader, readRecord, hahead]
  show Except.map _ (readSlots (readKind fieldDepth) form [] true form.blank u Shorter.same) = _
  rw [hread]
  rfl

theorem ListOf.readAs (h : ListOf gs s t) : ReadAs (ofGiven gs) s t := by
  obtain ⟨hstart, u, hgap, horder⟩ := h
  have hnodup : (gs.map Given.name).Nodup := hstart.sublist.nodup (by decide)
  obtain ⟨h', hahead⟩ := hgap.ahead_eq (by decide)
  obtain ⟨ht, hread⟩ := horder.read form.wantedLength form.blank (n := 0) rfl
    (List.suffix_refl form.slots) hstart (Shorter.same (s := u))
  rw [foldl_store hnodup] at hread
  refine TrackRequest.readAs hgap (by decide) ⟨Shorter.after ht h', ?_⟩
  rw [reader, readRecord, hahead]
  show Except.map _ (readInOrder (readKind fieldDepth) form.wantedLength 0 form.blank u
    Shorter.same form.slots) = _
  rw [hread]
  rfl

end TrackRequest

/-! ### fields that are given twice -/

/-- Members that are read have each field once at most, and none that is given already. -/
theorem Repeats.once {n : Nat} (h : Repeats g.names n first s t) {given : List String}
    {record : TrackRequest} {hs : s.length ≤ s₀.length}
    {p : { p : TrackRequest × List UInt8 // p.2.length ≤ s₀.length }}
    (hp : readSlots (readKind fieldDepth) TrackRequest.form given first record s hs = .ok p) :
    n ≤ 1 ∧ (n = 1 → g.name ∉ given) := by
  induction h generalizing given record with
  | close => exact ⟨Nat.zero_le 1, fun h => nomatch h⟩
  | named hname key value _ ih =>
    obtain ⟨slot, hslot⟩ := g.slotOf
    obtain ⟨hnew, record', hs', hrest⟩ := readSlots_named key (hslot.found _ hname)
      (exact_slots fieldDepth slot hslot.mem) value hp
    obtain ⟨hle, hnot⟩ := ih hrest
    rw [hslot.name_eq] at hnot hnew
    have hzero : ¬ _ = 1 := fun h => hnot h List.mem_cons_self
    rw [List.contains_eq_mem, decide_eq_false_iff_not] at hnew
    exact ⟨by omega, fun _ => hnew⟩
  | other key value _ ih =>
    obtain ⟨given', record', hs', hsub, hrest⟩ :=
      readSlots_step key (exact_slots fieldDepth) value hp
    obtain ⟨hle, hnot⟩ := ih hrest
    exact ⟨hle, fun h hmem => hnot h (hsub _ hmem)⟩

namespace TrackRequest

theorem not_read_of_twice (h : TwiceIn g s t) (r : Read TrackRequest s) : reader s ≠ .ok r := by
  obtain ⟨n, u, hn, hgap, hrepeats⟩ := h
  intro hread
  obtain ⟨h', hahead⟩ := hgap.ahead_eq (by decide)
  rw [reader, readRecord, hahead] at hread
  obtain ⟨p, hp, _⟩ := map_ok hread
  have hslots : readSlots (readKind fieldDepth) form [] true form.blank u Shorter.same = .ok p :=
    hp
  have hle := (hrepeats.once hslots).1
  omega

end TrackRequest

theorem Gate.readRequest_of_twice {cap : Nat} {body : Body} (h : TrackRequest.TwiceIn g s t)
    (hbody : body.Holds s) (hfit : s.length ≤ Word.most ∨ cap < Word.most) :
    ∃ f, Gate.readRequest cap body = .error f := by
  by_cases hlen : s.length ≤ cap
  · by_cases hb : ∀ b ∈ s, isBlank b = true
    · exact ⟨_, Gate.readRequest_of_blank hbody hfit hlen hb⟩
    · cases hread : TrackRequest.reader s with
      | ok r => exact absurd hread (TrackRequest.not_read_of_twice h r)
      | error f => exact ⟨_, Gate.readRequest_of_fault hbody hfit hlen hb hread⟩
  · exact ⟨_, Gate.readRequest_of_long hbody hfit (Nat.not_le.mp hlen)⟩

end

/-- **An object that gives each field once at most, under either of its names, with a value or as
null, among members of other names with values of any shape, is read as the request that its fields
come to, in whatever order they are and whatever follows; so is a list that gives the same values in
the order of the fields. An object that gives a field twice is malformed to a gate whose client is
alive, which then does nothing.** Where the cap is all that 64 bits count, the body is no longer, as
nothing in memory is. -/
theorem TrackRequest.understood :
    (∀ gs s t, ObjectOf gs s t → ReadAs (ofGiven gs) s t ∧
      ∀ gs' s' t', ListOf gs' s' t' → (∀ g : Given, g.json ≠ .null → (g ∈ gs' ↔ g ∈ gs)) →
        ReadAs (ofGiven gs) s' t') ∧
    ∀ g s t, TwiceIn g s t → ∀ (gate : Gate) client body actor o,
      gate.manager.live = some client → body.Holds s →
      (s.length ≤ Word.most ∨ gate.cap < Word.most) →
      ∃ f, gate.ingest body actor o = { answer := .error (.malformed f), state := gate } := by
  constructor
  · intro gs s t hobject
    refine ⟨hobject.readAs, fun gs' s' t' hlist halike => ?_⟩
    have hnodup' : (gs'.map Given.name).Nodup := hlist.1.sublist.nodup (by decide)
    rw [← ofGiven_congr hobject.1 hnodup' halike]
    exact hlist.readAs
  · intro g s t htwice gate client body actor o hlive hbody hfit
    obtain ⟨f, hf⟩ := Gate.readRequest_of_twice htwice hbody hfit
    exact ⟨f, Gate.ingest_of_fault hlive hf actor o⟩

namespace TrackRequest

/-- A field under its other name, which is null, a member of another name and a field. -/
def shuffled : List UInt8 := "\x7b\"Props\":null,\"x\":[],\"event\":\"e\"\x7d".toUTF8.toList

def listed : List UInt8 := "[\"e\"]".toUTF8.toList

/-- A field under both of its names, neither time with a value that it can have. -/
def twice : List UInt8 := "\x7b\"event\":1,\"Event\":[]\x7d".toUTF8.toList

theorem objectOf_shuffled : ObjectOf [.props none, .event (some "e")] shuffled [] := by
  have hwritten : shuffled = 123 :: commas true [memberBytes "Props" [110, 117, 108, 108],
      memberBytes "x" [91, 93], memberBytes "event" [34, 101, 34]] [125] := by decide +kernel
  have htext : Quotes "e" [101, 34, 125] [125] := quotes_inQuotes "e" [125]
  have hthird : Listed false [.event (some "e")]
      (commas false [memberBytes "event" [34, 101, 34]] [125]) [] :=
    .field (show "event" ∈ ["event", "Event"] by decide) (key_member false "event" _ [] [125])
      (.text htext) (.close .done)
  have hsecond : Listed false [.event (some "e")]
      (commas false [memberBytes "x" [91, 93], memberBytes "event" [34, 101, 34]] [125]) [] := by
    have hother : ∀ g : Given, "x" ∉ g.names := by
      intro g
      cases g <;> simp [Given.names]
    exact .other hother (key_member false "x" _ _ [125]) (.list (.endItems .done)) hthird
  have hnull : (Json.null, [110, 117, 108, 108]) ∈ words := List.mem_cons_self
  rw [hwritten]
  exact ⟨by decide, _, .done, .field (show "Props" ∈ ["props", "Props"] by decide)
    (key_member true "Props" _ _ [125]) (.word hnull) hsecond⟩

theorem listOf_listed : ListOf [.event (some "e")] listed [] := by
  have hwritten : listed = [91, 34, 101, 34, 93] := by decide +kernel
  have htext : Quotes "e" [101, 34, 93] [93] := quotes_inQuotes "e" [93]
  rw [hwritten]
  exact ⟨by decide, _, .done, .item (.first .done) (.text htext) (.close .done)⟩

theorem twiceIn_twice : TwiceIn (.event none) twice [] := by
  have hwritten : twice =
      123 :: commas true [memberBytes "event" [49], memberBytes "Event" [91, 93]] [125] := by
    decide +kernel
  have hsecond : Repeats ["event", "Event"] 1 false
      (commas false [memberBytes "Event" [91, 93]] [125]) [] :=
    .named (by decide) (key_member false "Event" _ [] [125]) (.list (.endItems .done))
      (.close .done)
  have hone : Numeral ([49] ++ commas false [memberBytes "Event" [91, 93]] [125])
      (commas false [memberBytes "Event" [91, 93]] [125]) :=
    .more (by decide) (by decide) .done .none .none
  rw [hwritten]
  exact ⟨2, _, Nat.le_refl 2, .done, .named (by decide) (key_member true "event" _ _ [125])
    (.number hone (stops_cons (by decide) _)) hsecond⟩

/-- One request comes of the object and of the list, and none of a field that is given twice. -/
theorem understood_shuffled :
    ObjectOf [.props none, .event (some "e")] shuffled [] ∧ ListOf [.event (some "e")] listed [] ∧
    TwiceIn (.event none) twice [] ∧
    decode shuffled = .ok (ofGiven [.props none, .event (some "e")]) ∧
    decode listed = .ok (ofGiven [.props none, .event (some "e")]) ∧
    ∃ f, (Gate.liveGate 100).ingest (.whole twice) "u1" .good =
      { answer := .error (.malformed f), state := Gate.liveGate 100 } := by
  have halike : ∀ g : Given, g.json ≠ .null →
      (g ∈ [.event (some "e")] ↔ g ∈ [.props none, .event (some "e")]) := by
    intro g hg
    have hprops : g ≠ .props none := by
      rintro rfl
      exact hg rfl
    rw [List.mem_cons, List.mem_cons, List.mem_cons, or_iff_right hprops]
  obtain ⟨hobject, hlists⟩ := understood.1 _ _ _ objectOf_shuffled
  have hlist := hlists _ _ _ listOf_listed halike
  exact ⟨objectOf_shuffled, listOf_listed, twiceIn_twice, hobject.whole .done, hlist.whole .done,
    understood.2 _ _ _ twiceIn_twice (Gate.liveGate 100) _ _ "u1" .good rfl
      (Body.holds_whole twice) (.inr (by decide))⟩

/-! ### depth -/

/-- Lists inside one another. -/
def nested : Nat → Json
  | 0 => .list []
  | n + 1 => .list [nested n]

def nestedBytes : Nat → List UInt8
  | 0 => [91, 93]
  | n + 1 => 91 :: (nestedBytes n ++ [93])

/-- They need as much depth as there are of them. -/
theorem denotes_nested (n : Nat) (t : List UInt8) :
    Denotes (n + 1) (.value (nested n)) (nestedBytes n ++ t) t := by
  induction n generalizing t with
  | zero => exact .list (.endItems .done)
  | succ n ih =>
    have hinner : Denotes (n + 1) (.items true [nested n]) (nestedBytes n ++ 93 :: t) t :=
      .item (.first .done) (ih (93 :: t)) (.endItems .done)
    rw [nestedBytes, List.cons_append, List.append_assoc]
    exact .list hinner

/-- Properties that open one bracket more inside one another than the value of a field may. -/
def tooDeep : List UInt8 :=
  123 :: commas true [memberBytes "props"
    (123 :: commas true [memberBytes "a" (nestedBytes 125)] [125])] [125]

/-- How deep a field nests counts, and a gate whose reporting is off does not look at the body. -/
theorem refused_tooDeep :
    (∃ u v, tooDeep = 123 :: u ∧ Key (Quotes "props") true u v ∧
      Denotes (fieldDepth + 1) (.value (.object [("a", nested 125)])) v [125] ∧
      (decode tooDeep).isOk = false) ∧
    TwiceIn (.event none) twice [] ∧
    ((⟨⟨none, 0⟩, 100⟩ : Gate).ingest (.whole twice) "u1" .good).answer = .error .disabled := by
  have hmembers : Denotes fieldDepth (.members true [("a", nested 125)])
      (commas true [memberBytes "a" (nestedBytes 125)] [125, 125]) [125] :=
    .member (key_member true "a" _ [] [125, 125]) (denotes_nested 125 _) (.endMembers .done)
  have hbytes : 123 :: commas true [memberBytes "a" (nestedBytes 125)] [125] ++ [125] =
      123 :: commas true [memberBytes "a" (nestedBytes 125)] [125, 125] :=
    congrArg (List.cons 123) (List.append_assoc (memberBytes "a" (nestedBytes 125)) [125] [125])
  refine ⟨⟨_, _, rfl, key_member true "props" _ [] [125], ?_, ?_⟩, twiceIn_twice, rfl⟩
  · show Denotes _ _ (_ ++ [125]) _
    rw [hbytes]
    exact .object hmembers
  · decide +kernel

end TrackRequest

end TelemetryGate
