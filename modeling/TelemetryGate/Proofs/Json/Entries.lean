import TelemetryGate.Proofs.Json.Slots
import TelemetryGate.Proofs.Setting.Record

/-!
# Records whose slots text gives

An object that gives slots of a form, each once at most, is read as the record that they come to,
and as the object of their values, in whatever order they are.

* `Listing`                 the members of an object, each with a text of its own;
* `Quoted`, `reads_flag`, ..  values that have one text;
* `Form.Entry`              a slot and what it is given;
* `Form.fill`, `Form.json`  the record and the object that entries come to;
* `Form.ObjectOf`           text that gives entries;
* `Form.Sound`              entries that some text gives;
* `Form.lens_cases`         what a slot is given, as the record shows it and as the object does;
* `Form.ObjectOf.reads`     the record is read;
* `Form.ObjectOf.denotes`   so is the object.
-/

namespace TelemetryGate

namespace Json

variable {α β : Type} {s₀ s t u : List UInt8} {d : Nat} {first : Bool}

/-- The members of an object, to the brace that closes it: each has a name, and a text. -/
inductive Listing (name : α → String) (text : α → List UInt8 → List UInt8 → Prop) :
    Bool → List α → List UInt8 → List UInt8 → Prop
  | close {first : Bool} {s t : List UInt8} (h : Blanks s (125 :: t)) :
    Listing name text first [] s t
  | member {first : Bool} {a : α} {as : List α} {s u v t : List UInt8}
    (key : Key (Quotes (name a)) first s u) (value : text a u v)
    (rest : Listing name text false as v t) : Listing name text first (a :: as) s t

section
variable {name : α → String} {text : α → List UInt8 → List UInt8 → Prop} {as : List α}

theorem Listing.all (h : Listing name text first as s t) : ∀ a ∈ as, ∃ u v, text a u v := by
  induction h with
  | close => exact fun a ha => nomatch ha
  | member _ value _ ih => exact List.forall_mem_cons.mpr ⟨⟨_, _, value⟩, ih⟩

theorem Listing.denotes {json : α → Json} (h : Listing name text first as s t)
    (hjson : ∀ a ∈ as, ∀ s t, text a s t → Denotes d (.value (json a)) s t) :
    Denotes d (.members first (as.map fun a => (name a, json a))) s t := by
  induction h with
  | close h => exact .endMembers h
  | member key value _ ih =>
    obtain ⟨ha, has⟩ := List.forall_mem_cons.mp hjson
    exact .member key (ha _ _ value) (ih has)

/-- Members that the reader of values reads are read, each put over those before it. -/
theorem Listing.reads {value : Reader β} {f : α → β} (h : Listing name text first as s t)
    (hskips : SkipsBlanks value)
    (hread : ∀ a ∈ as, ∀ s t, text a s t → Reads value s (f a) t) (acc : Members β)
    (hs : s.length ≤ s₀.length) :
    ∃ h', readMembers value first acc s hs =
      .ok ⟨(Members.extend acc (as.map fun a => (name a, f a)), t), h'⟩ := by
  induction h generalizing acc with
  | close h => exact readMembers_end h hs
  | @member first a as s u v t key hvalue _ ih =>
    obtain ⟨ha, has⟩ := List.forall_mem_cons.mp hread
    obtain ⟨colon, hnamed, hgap⟩ := named_of_key key
    obtain ⟨hs', hstep⟩ :=
      readMembers_next acc hnamed (hskips.reads hgap (ha _ _ hvalue)) hs
    obtain ⟨h', hrest⟩ := ih has (Members.insert (name a) (f a) acc) hs'
    exact ⟨h', hstep.trans hrest⟩

end

/-! ### texts, flags and numbers -/

/-- A text in quotes. -/
def Quoted (x : String) (s t : List UInt8) : Prop := ∃ u, s = 34 :: u ∧ Quotes x u t

theorem Quoted.denotes {x : String} (h : Quoted x s t) : Denotes d (.value (.text x)) s t := by
  obtain ⟨u, rfl, hquotes⟩ := h
  exact .text hquotes

theorem Quoted.reads {x : String} (h : Quoted x s t) (wanted : String) :
    Reads (readText wanted) s x t := by
  obtain ⟨u, rfl, hquotes⟩ := h
  exact reads_readText hquotes.reads

theorem reads_flag {b : Bool} {w : List UInt8} (h : (Json.flag b, w) ∈ words) (t : List UInt8) :
    Reads readFlag (w ++ t) b t := by
  simp only [words, List.mem_cons, List.not_mem_nil, or_false, Prod.mk.injEq, reduceCtorEq,
    false_and, false_or, Json.flag.injEq] at h
  rcases h with ⟨rfl, rfl⟩ | ⟨rfl, rfl⟩
  all_goals
    refine ⟨by simp only [List.length_cons, List.length_append]; omega, ?_⟩
    show readFlag (_ :: (_ ++ t)) = _
    rw [readFlag, ahead_cons (by decide)]
    rfl

/-- Digits are a number. -/
theorem numeral_decimals (n : Nat) (t : List UInt8) : Numeral (decimals n ++ t) t := by
  by_cases hzero : n = 0
  · subst hzero
    exact .zero .none .none
  · obtain ⟨b, bs, hdecimals, hb, hne⟩ := decimals_front hzero
    have hall := decimals_digit (n := n)
    rw [hdecimals] at hall ⊢
    exact .more hb hne (run_append (List.forall_mem_cons.mp hall).2 t) .none .none

theorem scans_decimals {n : Nat} (hn : n < Word.signLimit) (ht : Stops t) :
    Reads (scanNumber false) (decimals n ++ t) (.whole n) t := by
  have hfits : Fits n := by
    unfold Fits
    have hmost : Word.signLimit ≤ Word.most := by decide
    omega
  exact scanNumber_of_nonneg hfits (Int.natCast_nonneg n) ht

/-! ### blanks in front -/

theorem skipsBlanks_readFlag : SkipsBlanks readFlag := by
  intro s t h
  rw [readFlag, readFlag, ahead_blanks h]
  cases ahead t with
  | none => rfl
  | some r =>
    obtain ⟨b, rest, hr⟩ := r
    dsimp only [Option.map_some, Read.widen]
    by_cases ht : b = 't'.toUInt8
    · rw [if_pos ht, if_pos ht, outcome_widen, outcome_widen]
    · rw [if_neg ht, if_neg ht]
      by_cases hf : b = 'f'.toUInt8
      · rw [if_pos hf, if_pos hf, outcome_widen, outcome_widen]
      · rw [if_neg hf, if_neg hf]
        rfl

theorem skipsBlanks_readWhole? (limit : Nat) (wanted : String) :
    SkipsBlanks (readWhole? limit wanted) := by
  intro s t h
  rw [readWhole?, readWhole?, ahead_blanks h]
  cases ahead t with
  | none => rfl
  | some r =>
    obtain ⟨b, rest, hr⟩ := r
    dsimp only [Option.map_some, Read.widen]
    by_cases hminus : b = 45
    · rw [if_pos hminus, if_pos hminus]
      rcases scanNumber true rest with f | ⟨n | x, after, _⟩
      · rfl
      · dsimp only
        split <;> rfl
      · rfl
    · rw [if_neg hminus, if_neg hminus]
      by_cases hdigit : isDigit b = true
      · rw [if_pos hdigit, if_pos hdigit]
        rcases scanNumber false (b :: rest) with f | ⟨n | x, after, _⟩
        · rfl
        · dsimp only
          split <;> rfl
        · rfl
      · rw [if_neg hdigit, if_neg hdigit]
        rfl

theorem SkipsBlanks.map {read : Reader α} (h : SkipsBlanks read) (f : α → β) :
    SkipsBlanks fun s => (read s).map (Read.map f) := by
  have houtcome : ∀ {s : List UInt8} (x : Except Fault (Read α s)),
      outcome (x.map (Read.map f)) = (outcome x).map fun p => (f p.1, p.2) := by
    intro s x
    cases x <;> rfl
  intro s t hst
  dsimp only
  rw [houtcome, houtcome, h s t hst]

theorem skipsBlanks_readKind (d : Nat) (k : Kind) : SkipsBlanks (readKind d k) := by
  cases k with
  | text => exact skipsBlanks_readText _
  | flag => exact skipsBlanks_readFlag
  | whole limit wanted => exact skipsBlanks_readWhole? limit wanted
  | path => exact skipsBlanks_readText _
  | properties => exact skipsBlanks_readMap d _
  | texts => exact skipsBlanks_readMap d _
  | optional k => exact skipsBlanks_readOptional _
  | textOrEmpty => exact (skipsBlanks_readOptional _).map _

variable {κ : Type} {El : κ → Type} {ρ : Type}

theorem skipsBlanks_readRecord (read : Nat → (k : κ) → Reader (El k)) (form : Form κ El ρ)
    (depth : Nat) : SkipsBlanks (readRecord read form depth) := by
  intro s t h
  rw [readRecord, readRecord, ahead_blanks h]
  cases ahead t with
  | none => rfl
  | some r =>
    obtain ⟨b, rest, hr⟩ := r
    dsimp only [Option.map_some, Read.widen]
    by_cases hb : (b = 123 || b = 91) = true
    · rw [if_pos hb, if_pos hb]
      cases depth with
      | zero => rfl
      | succ d =>
        dsimp only
        generalize (if b = 123 then _ else _ : Except Fault _) = body
        cases body with
        | error f => rfl
        | ok p => rfl
    · rw [if_neg hb, if_neg hb]
      rfl

end Json

/-! ### entries -/

section
variable {κ : Type} {El V : κ → Type} {ρ : Type}

/-- A slot of a form, and what it is given. -/
structure Form.Entry (form : Form κ El ρ) (V : κ → Type) where
  slot : Slot κ El ρ
  mem : slot ∈ form.slots
  value : V slot.kind

namespace Form

open Json

def Entry.name {form : Form κ El ρ} (e : form.Entry V) : String := e.slot.name

/-- The record that entries come to, stored one after another. -/
def fill (form : Form κ El ρ) (value : (k : κ) → V k → El k) (es : List (form.Entry V)) : ρ :=
  es.foldl (fun r e => e.slot.store (value _ e.value) r) form.blank

/-- The members of the object that they come to. -/
def json (form : Form κ El ρ) (json : (k : κ) → V k → Json) (es : List (form.Entry V)) :
    Properties :=
  Members.ofList (es.map fun e => (e.name, json _ e.value))

/-- An object comes first, which gives these entries, each slot once at most. -/
def ObjectOf (form : Form κ El ρ) (text : (k : κ) → V k → List UInt8 → List UInt8 → Prop)
    (es : List (form.Entry V)) (s t : List UInt8) : Prop :=
  (es.map Entry.name).Nodup ∧
    ∃ u, s = 123 :: u ∧ Listing Entry.name (fun e => text _ e.value) true es u t

/-- Each slot is given something once at most, and that has a text. -/
structure Sound (form : Form κ El ρ) (text : (k : κ) → V k → List UInt8 → List UInt8 → Prop)
    (es : List (form.Entry V)) : Prop where
  nodup : (es.map Entry.name).Nodup
  written : ∀ e ∈ es, ∃ s t, text e.slot.kind e.value s t

variable {form : Form κ El ρ} {es : List (form.Entry V)} {value : (k : κ) → V k → El k}
  {toJson : (k : κ) → V k → Json} {text : (k : κ) → V k → List UInt8 → List UInt8 → Prop}
  {s s₀ t u : List UInt8} {d : Nat} {first : Bool}

theorem ObjectOf.sound (h : form.ObjectOf text es s t) : form.Sound text es := by
  obtain ⟨hnodup, u, rfl, hlisting⟩ := h
  exact ⟨hnodup, hlisting.all⟩

/-! ### what a slot shows -/

theorem entry_cases (hform : form.Loose) (es : List (form.Entry V)) {slot : Slot κ El ρ}
    (hslot : slot ∈ form.slots) :
    (∃ v, (⟨slot, hslot, v⟩ : form.Entry V) ∈ es) ∨ slot.name ∉ es.map Entry.name := by
  by_cases h : slot.name ∈ es.map Entry.name
  · obtain ⟨⟨slot', hslot', v⟩, he, hname⟩ := List.mem_map.mp h
    obtain rfl := List.inj_on_of_nodup_map hform.nodup hslot' hslot hname
    exact .inl ⟨v, he⟩
  · exact .inr h

/-- A slot that no entry is for shows what it showed before. -/
theorem get_foldl (l : form.Lens) (h : l.slot.name ∉ es.map Entry.name) (record : ρ) :
    l.get (es.foldl (fun r e => e.slot.store (value _ e.value) r) record) = l.get record := by
  induction es generalizing record with
  | nil => rfl
  | cons e es ih =>
    rw [List.map_cons, List.mem_cons, not_or] at h
    rw [List.foldl_cons, ih h.2]
    exact l.get_store_of_ne _ e.mem (Ne.symm h.1) _ _

theorem get_fill_of_not_mem (l : form.Lens) (h : l.slot.name ∉ es.map Entry.name) :
    l.get (form.fill value es) = l.get form.blank := get_foldl l h form.blank

theorem get_fill_of_mem (l : form.Lens) (hnodup : (es.map Entry.name).Nodup)
    {v : V l.slot.kind} (h : (⟨l.slot, l.mem, v⟩ : form.Entry V) ∈ es) :
    l.get (form.fill value es) = value _ v := by
  unfold fill
  generalize form.blank = record
  induction es generalizing record with
  | nil => cases h
  | cons e es ih =>
    rw [List.map_cons, List.nodup_cons] at hnodup
    rw [List.foldl_cons]
    rcases List.mem_cons.mp h with rfl | h
    · rw [get_foldl l hnodup.1]
      exact l.get_store _ _
    · exact ih hnodup.2 h _

theorem sorted_json (toJson : (k : κ) → V k → Json) (es : List (form.Entry V)) :
    Members.Sorted (form.json toJson es) := Members.sorted_extend Members.sorted_nil _

theorem mem_json {m : String × Json} (h : m ∈ form.json toJson es) :
    ∃ e ∈ es, m = (e.name, toJson _ e.value) := by
  rcases Members.mem_extend h with hm | hm
  · cases hm
  · obtain ⟨e, he, rfl⟩ := List.mem_map.mp hm
    exact ⟨e, he, rfl⟩

theorem find?_json_of_mem (hnodup : (es.map Entry.name).Nodup) {e : form.Entry V} (h : e ∈ es) :
    Members.find? e.name (form.json toJson es) = some (toJson _ e.value) := by
  have hnames : ((es.map fun e => (e.name, toJson _ e.value)).map (·.1)).Nodup := by
    rw [List.map_map]
    exact hnodup
  exact Members.find?_ofList_of_mem hnames (List.mem_map_of_mem h)

theorem find?_json_of_not_mem {name : String} (h : name ∉ es.map Entry.name) :
    Members.find? name (form.json toJson es) = none := by
  refine Members.find?_extend_of_not_mem ?_
  rw [List.map_map]
  exact h

/-- **A slot is given something, which the record shows and the object holds, or nothing, and then
the record shows what it does unless said otherwise, and the object has no such member.** -/
theorem lens_cases (hform : form.Loose) (hnodup : (es.map Entry.name).Nodup) (l : form.Lens)
    (value : (k : κ) → V k → El k) (toJson : (k : κ) → V k → Json) :
    (∃ v, (⟨l.slot, l.mem, v⟩ : form.Entry V) ∈ es ∧
      Members.find? l.slot.name (form.json toJson es) = some (toJson _ v) ∧
      l.get (form.fill value es) = value _ v) ∨
    l.slot.name ∉ es.map Entry.name ∧ Members.find? l.slot.name (form.json toJson es) = none ∧
      l.get (form.fill value es) = l.get form.blank := by
  rcases entry_cases hform es l.mem with ⟨v, hv⟩ | hno
  · exact .inl ⟨v, hv, find?_json_of_mem hnodup hv, get_fill_of_mem l hnodup hv⟩
  · exact .inr ⟨hno, find?_json_of_not_mem hno, get_fill_of_not_mem l hno⟩

/-! ### what is read -/

theorem readSlots_listing {read : (k : κ) → Reader (El k)} (hform : form.Loose)
    (hskips : ∀ k, SkipsBlanks (read k))
    (hread : ∀ e ∈ es, ∀ s t, text _ e.value s t → Reads (read e.slot.kind) s (value _ e.value) t)
    (h : Listing Entry.name (fun e => text _ e.value) first es s t) (given : List String)
    (record : ρ) (hnodup : (es.map Entry.name).Nodup) (hnew : ∀ e ∈ es, e.name ∉ given)
    (hs : s.length ≤ s₀.length) :
    ∃ h', readSlots read form given first record s hs =
      .ok ⟨(es.foldl (fun r e => e.slot.store (value _ e.value) r) record, t), h'⟩ := by
  induction h generalizing given record with
  | close h => exact readSlots_end (missing?_of_loose hform given) h hs
  | @member first e es s u v t key hvalue _ ih =>
    obtain ⟨he, hes⟩ := List.forall_mem_cons.mp hread
    obtain ⟨hgiven, hnew⟩ := List.forall_mem_cons.mp hnew
    rw [List.map_cons, List.nodup_cons] at hnodup
    obtain ⟨colon, hnamed, hgap⟩ := named_of_key key
    have hnot : given.contains e.slot.name = false := by
      rw [List.contains_eq_mem]
      exact decide_eq_false hgiven
    obtain ⟨hs', hstep⟩ := readSlots_next record hnamed (slot?_name hform e.mem) hnot
      ((hskips _).reads hgap (he _ _ hvalue)) hs
    -- the slot is filled now, and no entry after this one is for it
    have hnew' : ∀ e' ∈ es, e'.name ∉ e.slot.name :: given := by
      intro e' he' hmem
      rcases List.mem_cons.mp hmem with heq | hmem
      · have hin : e'.name ∈ es.map Entry.name := List.mem_map_of_mem he'
        rw [heq] at hin
        exact hnodup.1 hin
      · exact hnew e' he' hmem
    obtain ⟨h', hrest⟩ := ih hes _ (e.slot.store (value _ e.value) record) hnodup.2 hnew' hs'
    exact ⟨h', hstep.trans hrest⟩

/-- **An object that gives slots is read as the record that they come to.** -/
theorem ObjectOf.reads {read : Nat → (k : κ) → Reader (El k)} (hform : form.Loose)
    (h : form.ObjectOf text es s t) (hskips : ∀ k, SkipsBlanks (read d k))
    (hread : ∀ k v s t, text k v s t → Reads (read d k) s (value k v) t) :
    Reads (readRecord read form (d + 1)) s (form.fill value es) t := by
  obtain ⟨hnodup, u, rfl, hlisting⟩ := h
  obtain ⟨h', hbody⟩ := readSlots_listing hform hskips (fun e _ => hread _ e.value) hlisting []
    form.blank hnodup (fun _ _ => List.not_mem_nil) Shorter.same
  refine ⟨Shorter.cons h', ?_⟩
  rw [readRecord, ahead_cons (by decide)]
  simp only [hbody]
  rfl

/-- So it is as a value, which is the object of what they are given. -/
theorem ObjectOf.denotes (h : form.ObjectOf text es s t)
    (hjson : ∀ k v s t, text k v s t → Denotes d (.value (toJson k v)) s t) :
    Denotes (d + 1) (.value (.object (form.json toJson es))) s t := by
  obtain ⟨_, u, rfl, hlisting⟩ := h
  exact .object (hlisting.denotes fun e _ => hjson _ e.value)

end Form

end

end TelemetryGate
