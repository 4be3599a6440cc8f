import TelemetryGate.Proofs.Json.Entries
import TelemetryGate.Proofs.Json.Skipped

/-!
# What a reader takes

A reader takes one value from the front. The value is well formed, and whatever is put behind what
it leaves, it takes the same one.

* `Takes`              so of a reader of values, if something follows that stops a number;
* `takes_readValue`    of values of any shape;
* `Bracketed`          a value in brackets, after blanks;
* `readRecord_found`   of records, whatever follows.
-/

namespace TelemetryGate.Json

variable {α β : Type} {s s₀ t u : List UInt8} {b : UInt8} {first : Bool}

/-- A reader takes a value that is well formed, and what is put behind what it leaves changes
nothing, if it leaves anything. -/
structure Takes (read : Reader α) : Prop where
  derives : ∀ {s t v}, Reads read s v t → Stops t → ∃ u, Blanks s u ∧ Derives .value u t
  followed : ∀ {s t v}, Reads read s v t → Stops t → t ≠ [] → ∀ x, Reads read (s ++ x) v (t ++ x)

/-! ### items and members -/

theorem readItems_found {item : Reader α} (hitem : Takes item) {acc vs : List α}
    {hs : s.length ≤ s₀.length} {h' : t.length ≤ s₀.length}
    (h : readItems item acc s hs = .ok ⟨(vs, t), h'⟩) :
    Derives (.items acc.isEmpty) s t ∧ ∀ (x s₁ : List UInt8) (hs' : (s ++ x).length ≤ s₁.length),
      ∃ h', readItems item acc (s ++ x) hs' = .ok ⟨(vs, t ++ x), h'⟩ := by
  fun_induction readItems item acc s hs with
  | case2 acc s hs hnext t' ht hclose =>
    cases h
    have hend := closeList_ok hclose
    exact ⟨.endItems hend, fun x s₁ hs' => readItems_end (hend.append x) hs'⟩
  | case4 acc s hs q hq hnext v after hafter hv _ ih =>
    obtain ⟨hrest, hmore⟩ := ih h
    obtain ⟨sep, hbegins⟩ := nextItem_some hnext
    have hread : Reads item q v after := ⟨hafter, hv⟩
    obtain ⟨u, hgap, hvalue⟩ := hitem.derives hread hrest.stops_items
    refine ⟨.item (sep.after_blanks hgap) hvalue hrest, fun x s₁ hs' => ?_⟩
    have hread' := hitem.followed hread hrest.stops_items hrest.items_ne_nil x
    obtain ⟨_, hnext'⟩ := nextItem_separator (sep.append x) (hbegins.append x)
    obtain ⟨hs'', hstep⟩ := readItems_next hnext' hread' hs'
    rw [hstep]
    exact hmore x s₁ hs''
  | _ => cases h

theorem readMembers_found {value : Reader α} (hvalue : Takes value) {acc ms : Members α}
    {hs : s.length ≤ s₀.length} {h' : t.length ≤ s₀.length}
    (h : readMembers value first acc s hs = .ok ⟨(ms, t), h'⟩) :
    Derives (.members first) s t ∧ ∀ (x s₁ : List UInt8) (hs' : (s ++ x).length ≤ s₁.length),
      ∃ h', readMembers value first acc (s ++ x) hs' = .ok ⟨(ms, t ++ x), h'⟩ := by
  fun_induction readMembers value first acc s hs with
  | case2 first acc s hs hnext t' ht hclose =>
    cases h
    have hend := closeObject_ok hclose
    exact ⟨.endMembers hend, fun x s₁ hs' => readMembers_end (hend.append x) hs'⟩
  | case6 first acc s hs q hq hnext name q₁ hq₁ hscan q₂ hq₂ hcolon v after hafter hv _ _ _ ih =>
    obtain ⟨hrest, hmore⟩ := ih h
    have sep := nextName_some hnext
    have hname : Quotes name q q₁ := scanText_quotes hscan
    have hread : Reads value q₂ v after := ⟨hafter, hv⟩
    obtain ⟨u, hgap, hderives⟩ := hvalue.derives hread hrest.stops_members
    have key : Key Inside first s u := ⟨q, q₁, q₂, sep, hname.inside, skipColon_ok hcolon, hgap⟩
    refine ⟨.member key hderives hrest, fun x s₁ hs' => ?_⟩
    have hread' := hvalue.followed hread hrest.stops_members hrest.members_ne_nil x
    have hnamed := named (sep.append x) (hname.append x) ((skipColon_ok hcolon).append x)
    obtain ⟨hs'', hstep⟩ := readMembers_next acc hnamed hread' hs'
    rw [hstep]
    exact hmore x s₁ hs''
  | _ => cases h

/-! ### values -/

theorem readWord_ok {v v' : α} {cs : List Char} {h' : t.length < (b :: s).length}
    (h : readWord v cs s = .ok (⟨v', t, h'⟩ : Read α (b :: s))) :
    v' = v ∧ s = cs.map Char.toUInt8 ++ t := by
  unfold readWord at h
  cases hword : scanWord cs s with
  | error f =>
    rw [hword] at h
    cases h
  | ok r =>
    obtain ⟨t', ht'⟩ := r
    rw [hword] at h
    cases h
    exact ⟨rfl, scanWord_ok hword⟩

/-- What was read, by what it begins with. -/
inductive Seen (d : Nat) : List UInt8 → Json → List UInt8 → Prop
  | word {v : Json} {w t : List UInt8} (h : (v, w) ∈ words) : Seen d (w ++ t) v t
  | number {x : Number} {s t : List UInt8} (h : Reads (scanNumber false) s x t) :
    Seen d s x.toJson t
  | negative {x : Number} {s t : List UInt8} (h : Reads (scanNumber true) s x t) :
    Seen d (45 :: s) x.toJson t
  | text {text : String} {s t : List UInt8} (h : Quotes text s t) : Seen d (34 :: s) (.text text) t
  | list {d' : Nat} {vs : List Json} {s t : List UInt8} {h' : t.length ≤ s.length} (hd : d = d' + 1)
    (h : readItems (readValue d') [] s Shorter.same = .ok ⟨(vs, t), h'⟩) :
    Seen d (91 :: s) (.list vs) t
  | object {d' : Nat} {ms : Properties} {s t : List UInt8} {h' : t.length ≤ s.length}
    (hd : d = d' + 1)
    (h : readMembers (readValue d') true [] s Shorter.same = .ok ⟨(ms, t), h'⟩) :
    Seen d (123 :: s) (.object ms) t

theorem seen_of_reads {d : Nat} {v : Json} (h : Reads (readValue d) s v t) :
    ∃ u, Blanks s u ∧ Seen d u v t := by
  obtain ⟨h', h⟩ := h
  rw [readValue] at h
  cases hahead : ahead s with
  | none =>
    rw [hahead] at h
    cases h
  | some r =>
    obtain ⟨hrun, _⟩ := ahead_some hahead
    obtain ⟨b, rest, hr⟩ := r
    rw [hahead] at h
    obtain ⟨⟨v', t', hlt⟩, hread, hwide⟩ := map_ok h
    cases hwide
    clear h hahead
    refine ⟨b :: rest, hrun, ?_⟩
    split_ifs at hread with hn htrue hfalse hminus hdigit hquote hlist hobject
    · obtain ⟨rfl, rfl⟩ := readWord_ok hread
      subst hn
      exact .word (w := [110, 117, 108, 108]) (by simp [words])
    · obtain ⟨rfl, rfl⟩ := readWord_ok hread
      subst htrue
      exact .word (w := [116, 114, 117, 101]) (by simp [words])
    · obtain ⟨rfl, rfl⟩ := readWord_ok hread
      subst hfalse
      exact .word (w := [102, 97, 108, 115, 101]) (by simp [words])
    · obtain ⟨⟨x, t', hx⟩, hscan, heq⟩ := map_ok hread
      cases heq
      subst hminus
      exact .negative ⟨hx, hscan⟩
    · obtain ⟨⟨x, t', hx⟩, hscan, heq⟩ := map_ok hread
      cases heq
      exact .number ⟨hx, hscan⟩
    · obtain ⟨⟨x, t', hx⟩, hscan, heq⟩ := map_ok hread
      cases heq
      subst hquote
      exact .text (scanText_quotes hscan)
    · cases d with
      | zero => cases hread
      | succ d =>
        obtain ⟨⟨⟨vs, t'⟩, hle⟩, hitems, heq⟩ := map_ok hread
        cases heq
        subst hlist
        exact .list rfl hitems
    · cases d with
      | zero => cases hread
      | succ d =>
        obtain ⟨⟨⟨ms, t'⟩, hle⟩, hmembers, heq⟩ := map_ok hread
        cases heq
        subst hobject
        exact .object rfl hmembers

theorem numeral_of_reads {negative : Bool} {y : Number} (h : Reads (scanNumber negative) s y t) :
    Numeral s t ∧ (t ≠ [] → ∀ x, Reads (scanNumber negative) (s ++ x) y (t ++ x)) := by
  obtain ⟨hnumeral, hmore⟩ := scanNumber_found (reads_iff.mp h)
  exact ⟨hnumeral, fun hne x => reads_iff.mpr (hmore hne x)⟩

/-- What a reader takes from a value that begins here. -/
structure TakesHere (read : Reader α) (s : List UInt8) (v : α) (t : List UInt8) : Prop where
  derives : Derives .value s t
  followed : t ≠ [] → ∀ x, Reads read (s ++ x) v (t ++ x)

theorem Seen.takes {d : Nat} {v : Json} (h : Seen d s v t) (ht : Stops t)
    (ih : ∀ d' < d, Takes (readValue d')) : TakesHere (readValue d) s v t := by
  cases h with
  | @word v w t hw =>
    refine ⟨.word hw, fun _ x => ?_⟩
    rw [List.append_assoc]
    exact reads_word hw _
  | number h =>
    obtain ⟨hnumeral, hmore⟩ := numeral_of_reads h
    refine ⟨.number hnumeral ht, fun hne x => ?_⟩
    obtain ⟨b, u, rfl, hb⟩ := hnumeral.front
    exact reads_digit hb (hmore hne x)
  | negative h =>
    obtain ⟨hnumeral, hmore⟩ := numeral_of_reads h
    exact ⟨.negative hnumeral ht, fun hne x => reads_minus (hmore hne x)⟩
  | text h => exact ⟨.text h.inside, fun _ x => reads_text (h.append x).reads⟩
  | @list d' _ _ _ _ hd h =>
    subst hd
    obtain ⟨hderives, hmore⟩ := readItems_found (ih d' (Nat.lt_succ_self _)) h
    refine ⟨.list hderives, fun _ x => ?_⟩
    obtain ⟨_, hitems⟩ := hmore x _ Shorter.same
    exact reads_list hitems
  | @object d' _ _ _ _ hd h =>
    subst hd
    obtain ⟨hderives, hmore⟩ := readMembers_found (ih d' (Nat.lt_succ_self _)) h
    refine ⟨.object hderives, fun _ x => ?_⟩
    obtain ⟨_, hmembers⟩ := hmore x _ Shorter.same
    exact reads_object hmembers

theorem takes_of_here {read : Reader α} (hskips : SkipsBlanks read)
    (h : ∀ s v t, Reads read s v t → Stops t → ∃ u, Blanks s u ∧ TakesHere read u v t) :
    Takes read := by
  constructor
  · intro s t v hread ht
    obtain ⟨u, hrun, hhere⟩ := h s v t hread ht
    exact ⟨u, hrun, hhere.derives⟩
  · intro s t v hread ht hne x
    obtain ⟨u, hrun, hhere⟩ := h s v t hread ht
    exact hskips.reads (hrun.append x) (hhere.followed hne x)

theorem takes_readValue (d : Nat) : Takes (readValue d) := by
  induction d using Nat.strongRecOn with
  | ind d ih =>
    refine takes_of_here (skipsBlanks_readValue d) fun s v t hread ht => ?_
    obtain ⟨u, hrun, hseen⟩ := seen_of_reads hread
    exact ⟨u, hrun, hseen.takes ht ih⟩

/-! ### the values of slots -/

theorem takes_readText (wanted : String) : Takes (readText wanted) := by
  refine takes_of_here (skipsBlanks_readText wanted) fun s v t hread ht => ?_
  obtain ⟨h', h⟩ := hread
  revert h
  fun_cases readText wanted s with
  | case2 rest hr hahead =>
    intro h
    obtain ⟨⟨text, t', hlt⟩, hscan, heq⟩ := map_ok h
    cases heq
    have hquotes : Quotes text rest t' := scanText_quotes hscan
    exact ⟨34 :: rest, (ahead_some hahead).1, .text hquotes.inside,
      fun _ x => reads_readText (hquotes.append x).reads⟩
  | _ =>
    intro h
    cases h

theorem takes_readMap {value : Nat → Reader α} (hvalue : ∀ d, Takes (value d)) (depth : Nat) :
    Takes (readMap depth value) := by
  refine takes_of_here (skipsBlanks_readMap depth value) fun s v t hread ht => ?_
  obtain ⟨h', h⟩ := hread
  revert h
  fun_cases readMap depth value s with
  | case3 rest hr d hahead =>
    intro h
    obtain ⟨⟨⟨ms, t'⟩, hle⟩, hmembers, heq⟩ := map_ok h
    cases heq
    obtain ⟨hderives, hmore⟩ := readMembers_found (hvalue d) hmembers
    refine ⟨123 :: rest, (ahead_some hahead).1, .object hderives, fun _ x => ?_⟩
    obtain ⟨_, hmembers'⟩ := hmore x _ Shorter.same
    exact reads_readMap hmembers'
  | _ =>
    intro h
    cases h

theorem takes_readOptional {read : Reader α} (hread : Takes read) : Takes (readOptional read) := by
  refine takes_of_here (skipsBlanks_readOptional read) fun s v t hreads ht => ?_
  obtain ⟨h', h⟩ := hreads
  revert h
  fun_cases readOptional read s with
  | case2 rest hr hahead widen =>
    intro h
    obtain ⟨⟨v', t', hlt⟩, hword, heq⟩ := map_ok h
    cases heq
    obtain ⟨rfl, rfl⟩ := readWord_ok hword
    refine ⟨_, (ahead_some hahead).1, ?_, fun _ x => reads_null read _⟩
    exact .word (v := .null) (w := [110, 117, 108, 108]) (by simp [words])
  | case3 b rest hr hahead widen hnull =>
    intro h
    obtain ⟨⟨a, t', hlt⟩, hsome, heq⟩ := map_ok h
    cases heq
    obtain ⟨hrun, hblank⟩ := ahead_some hahead
    have hreads : Reads read (b :: rest) a t' := ⟨hlt, hsome⟩
    obtain ⟨u, hgap, hderives⟩ := hread.derives hreads ht
    obtain rfl := hgap.eq_of_front hblank
    refine ⟨_, hrun, hderives, fun hne x => ?_⟩
    exact reads_present hblank hnull (hread.followed hreads ht hne x)
  | _ =>
    intro h
    cases h

theorem Takes.map {read : Reader α} (h : Takes read) (f : α → β) :
    Takes fun s => (read s).map (Read.map f) := by
  have hback : ∀ {s t v}, Reads (fun s => (read s).map (Read.map f)) s v t →
      ∃ a, Reads read s a t ∧ f a = v := by
    rintro s t v ⟨h', hmap⟩
    obtain ⟨⟨a, t', hlt⟩, hread, heq⟩ := map_ok hmap
    cases heq
    exact ⟨a, ⟨hlt, hread⟩, rfl⟩
  constructor
  · intro s t v hmap ht
    obtain ⟨a, hread, _⟩ := hback hmap
    exact h.derives hread ht
  · intro s t v hmap ht hne x
    obtain ⟨a, hread, rfl⟩ := hback hmap
    obtain ⟨h', hread'⟩ := h.followed hread ht hne x
    refine ⟨h', ?_⟩
    dsimp only
    rw [hread']
    rfl

/-! ### records -/

section

variable {κ : Type} {El : κ → Type} {ρ : Type} {read : (k : κ) → Reader (El k)}
  {form : Form κ El ρ}

theorem readSlots_found (hslots : ∀ slot ∈ form.slots, Takes (read slot.kind))
    {given : List String} {record record' : ρ} {hs : s.length ≤ s₀.length}
    {h' : t.length ≤ s₀.length}
    (h : readSlots read form given first record s hs = .ok ⟨(record', t), h'⟩) :
    Derives (.members first) s t ∧ ∀ (x s₁ : List UInt8) (hs' : (s ++ x).length ≤ s₁.length),
      ∃ h', readSlots read form given first record (s ++ x) hs' =
        .ok ⟨(record', t ++ x), h'⟩ := by
  fun_induction readSlots read form given first record s hs with
  | case3 given first record s hs hnext hall =>
    obtain ⟨⟨t', ht⟩, hclose, heq⟩ := map_ok h
    cases heq
    have hend := closeObject_ok hclose
    exact ⟨.endMembers hend, fun x s₁ hs' => readSlots_end hall (hend.append x) hs'⟩
  | case8 given first record s hs q hq hnext name q₁ hq₁ hscan slot hslot hnew q₂ hq₂ hcolon v after
      hafter hv _ _ _ ih =>
    obtain ⟨hrest, hmore⟩ := ih h
    have htakes := hslots slot (List.mem_of_find?_eq_some hslot)
    have sep := nextName_some hnext
    have hname : Quotes name q q₁ := scanText_quotes hscan
    have hread : Reads (read slot.kind) q₂ v after := ⟨hafter, hv⟩
    obtain ⟨u, hgap, hderives⟩ := htakes.derives hread hrest.stops_members
    have key : Key Inside first s u := ⟨q, q₁, q₂, sep, hname.inside, skipColon_ok hcolon, hgap⟩
    refine ⟨.member key hderives hrest, fun x s₁ hs' => ?_⟩
    have hread' := htakes.followed hread hrest.stops_members hrest.members_ne_nil x
    have hnamed := named (sep.append x) (hname.append x) ((skipColon_ok hcolon).append x)
    obtain ⟨hs'', hstep⟩ :=
      readSlots_next record hnamed hslot (eq_false_of_ne_true hnew) hread' hs'
    rw [hstep]
    exact hmore x s₁ hs''
  | case11 given first record s hs q hq hnext name q₁ hq₁ hscan hslot q₂ hq₂ hcolon after hafter
      hskip _ _ _ ih =>
    obtain ⟨hrest, hmore⟩ := ih h
    have sep := nextName_some hnext
    have hname : Quotes name q q₁ := scanText_quotes hscan
    obtain ⟨u, hgap, hderives⟩ := skipValue_derives hskip hrest.stops_members
    have key : Key (Quotes name) first s u := ⟨q, q₁, q₂, sep, hname, skipColon_ok hcolon, hgap⟩
    refine ⟨.member (key.mono fun _ _ => Quotes.inside) hderives hrest, fun x s₁ hs' => ?_⟩
    have hvalue := hderives.append (fun _ => hrest.members_ne_nil) x
    obtain ⟨hs'', hstep⟩ :=
      readSlots_other record (key.append fun _ _ h => h.append x) hslot hvalue hs'
    rw [hstep]
    exact hmore x s₁ hs''
  | _ => cases h

theorem readInOrder_found {slots : List (Slot κ El ρ)}
    (hslots : ∀ slot ∈ slots, Takes (read slot.kind)) {wanted : String} {n : Nat}
    {record record' : ρ} {hs : s.length ≤ s₀.length} {h' : t.length ≤ s₀.length}
    (h : readInOrder read wanted n record s hs slots = .ok ⟨(record', t), h'⟩) :
    Derives (.items (decide (n = 0))) s t ∧
      ∀ (x s₁ : List UInt8) (hs' : (s ++ x).length ≤ s₁.length),
        ∃ h', readInOrder read wanted n record (s ++ x) hs' slots =
          .ok ⟨(record', t ++ x), h'⟩ := by
  fun_induction readInOrder read wanted n record s hs slots with
  | case1 n record s hs =>
    obtain ⟨⟨t', ht⟩, hclose, heq⟩ := map_ok h
    cases heq
    have hend := closeList_ok hclose
    refine ⟨.endItems hend, fun x s₁ hs' => ?_⟩
    obtain ⟨hle, hclose'⟩ := closeList_end (hend.append x) hs'
    refine ⟨hle, ?_⟩
    rw [readInOrder, hclose']
    rfl
  | case4 n record s hs slot slots hnext hrequired ih =>
    obtain ⟨hrest, hmore⟩ := ih (List.forall_mem_cons.mp hslots).2 h
    refine ⟨hrest, fun x s₁ hs' => ?_⟩
    obtain ⟨u, hend⟩ := nextItem_none hnext
    rw [readInOrder, nextItem_end _ (hend.append x)]
    simp only [if_neg hrequired]
    exact hmore x s₁ hs'
  | case6 n record s hs slot slots q hq hnext v after hafter hv _ ih =>
    obtain ⟨htakes, hothers⟩ := List.forall_mem_cons.mp hslots
    obtain ⟨hrest, hmore⟩ := ih hothers h
    obtain ⟨sep, hbegins⟩ := nextItem_some hnext
    have hread : Reads (read slot.kind) q v after := ⟨hafter, hv⟩
    have hrest : Derives (.items false) after t := hrest
    obtain ⟨u, hgap, hvalue⟩ := htakes.derives hread hrest.stops_items
    refine ⟨.item (sep.after_blanks hgap) hvalue hrest, fun x s₁ hs' => ?_⟩
    have hread' := htakes.followed hread hrest.stops_items hrest.items_ne_nil x
    obtain ⟨hs'', hstep⟩ :=
      readInOrder_next slots record (sep.append x) (hbegins.append x) hread' hs'
    rw [hstep]
    exact hmore x s₁ hs''
  | _ => cases h

/-- Bytes begin with blanks and a value in brackets; the value ends, with its last bracket, before
`t`. -/
def Bracketed (s t : List UInt8) : Prop :=
  ∃ u, (Blanks s (91 :: u) ∧ Derives (.items true) u t) ∨
    (Blanks s (123 :: u) ∧ Derives (.members true) u t)

/-- It ends in one place only. -/
theorem Bracketed.unique {t' : List UInt8} (h : Bracketed s t) (h' : Bracketed s t') : t = t' := by
  have hskip : ∀ {t}, Bracketed s t → ∃ hlt, skipValue s = .ok ⟨t, hlt⟩ := by
    rintro t ⟨u, ⟨hrun, hderives⟩ | ⟨hrun, hderives⟩⟩
    · exact (Derives.list hderives).skip hrun
    · exact (Derives.object hderives).skip hrun
  obtain ⟨_, hs⟩ := hskip h
  obtain ⟨_, hs'⟩ := hskip h'
  cases hs.symm.trans hs'
  rfl

theorem Bracketed.closing (h : Bracketed s t) :
    ∃ v close, s = v ++ close :: t ∧ (close = 93 ∨ close = 125) := by
  obtain ⟨u, ⟨hrun, hderives⟩ | ⟨hrun, hderives⟩⟩ := h
  · obtain ⟨v, hv⟩ := ((hderives.closing nofun).trans (List.suffix_cons _ _)).trans hrun.suffix
    exact ⟨v, 93, hv.symm, .inl rfl⟩
  · obtain ⟨v, hv⟩ := ((hderives.closing nofun).trans (List.suffix_cons _ _)).trans hrun.suffix
    exact ⟨v, 125, hv.symm, .inr rfl⟩

/-- **A record that was read is a value in brackets, and what is put behind what follows it changes
nothing.** -/
theorem readRecord_found {read : Nat → (k : κ) → Reader (El k)}
    (hslots : ∀ d, ∀ slot ∈ form.slots, Takes (read d slot.kind)) {depth : Nat} {record : ρ}
    (h : Reads (readRecord read form depth) s record t) :
    Bracketed s t ∧ ∀ x, Reads (readRecord read form depth) (s ++ x) record (t ++ x) := by
  have hskips := skipsBlanks_readRecord read form depth
  obtain ⟨h', h⟩ := h
  revert h
  fun_cases readRecord read form depth s with
  | case3 b rest hr hahead hb d body =>
    intro h
    obtain ⟨⟨⟨record', t'⟩, hle⟩, hbody, heq⟩ := map_ok h
    cases heq
    obtain ⟨hrun, _⟩ := ahead_some hahead
    by_cases hbrace : b = 123
    · subst hbrace
      obtain ⟨hderives, hmore⟩ := readSlots_found (hslots d) ((if_pos rfl).symm.trans hbody)
      refine ⟨⟨rest, .inr ⟨hrun, hderives⟩⟩, fun x => hskips.reads (hrun.append x) ?_⟩
      obtain ⟨hle', hbody'⟩ := hmore x _ Shorter.same
      refine ⟨Shorter.cons hle', ?_⟩
      show readRecord read form (d + 1) (123 :: (rest ++ x)) = _
      rw [readRecord, ahead_cons (by decide)]
      simp only [hbody']
      rfl
    · rw [Bool.or_eq_true, decide_eq_true_iff, decide_eq_true_iff] at hb
      obtain rfl := hb.resolve_left hbrace
      obtain ⟨hderives, hmore⟩ := readInOrder_found (hslots d) ((if_neg hbrace).symm.trans hbody)
      refine ⟨⟨rest, .inl ⟨hrun, hderives⟩⟩, fun x => hskips.reads (hrun.append x) ?_⟩
      obtain ⟨hle', hbody'⟩ := hmore x _ Shorter.same
      refine ⟨Shorter.cons hle', ?_⟩
      show readRecord read form (d + 1) (91 :: (rest ++ x)) = _
      rw [readRecord, ahead_cons (by decide)]
      simp only [if_neg hbrace, hbody']
      rfl
  | _ =>
    intro h
    cases h

end

end TelemetryGate.Json
