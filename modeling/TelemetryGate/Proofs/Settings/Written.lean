import TelemetryGate.Proofs.Json.Entries
import TelemetryGate.Proofs.Settings.Layers

/-!
# Settings as text gives them

An object that gives some of the fields, each once at most and with a value of its own kind, is read
as the settings that these fields come to.

* `Kind.json`, `Kind.Written`   a value of a slot as JSON, and its text;
* `Part.Given`, `Part.Written`  what a part of the settings is given, and the text of that;
* `Settings.ofEntries`          the settings that entries come to;
* `Settings.ways`               the ways to the values that are given;
* `Settings.WrittenAs`          text that gives entries;
* `Settings.decode_written`     it is read as the settings they come to.
-/

namespace TelemetryGate

open Json

/-! ### values -/

/-- The value of a slot, as JSON has it. -/
def Kind.json : (k : Kind) → k.El → Json
  | .text, x => .text x
  | .flag, b => .flag b
  | .whole _ _, n => .whole n
  | .path, x => .text x
  | .properties, ms => .object ms
  | .texts, ms => .object (ms.map fun m => (m.1, .text m.2))
  | .optional _, none => .null
  | .optional k, some x => k.json x
  | .textOrEmpty, x => .text x

/-- The text of a value of a kind: numbers fit a word with a sign, and names that texts stand under
are in lower case. -/
inductive Kind.Written : (k : Kind) → k.El → List UInt8 → List UInt8 → Prop
  | text {x : String} {s t : List UInt8} (h : Quoted x s t) : Written .text x s t
  | path {x : String} {s t : List UInt8} (h : Quoted x s t) : Written .path x s t
  | flag {b : Bool} {w t : List UInt8} (h : (Json.flag b, w) ∈ words) : Written .flag b (w ++ t) t
  | whole {limit n : Nat} {wanted : String} {t : List UInt8} (hlimit : n ≤ limit)
    (hsign : n < Word.signLimit) (ht : Stops t) :
    Written (.whole limit wanted) n (decimals n ++ t) t
  | texts {ms : List (String × String)} {s t : List UInt8}
    (hlower : ∀ m ∈ ms, TelemetryGate.Text.lower m.1 = m.1)
    (h : Listing Prod.fst (fun m => Quoted m.2) true ms s t) :
    Written .texts (Members.ofList ms) (123 :: s) t
  | null {k : Kind} {t : List UInt8} : Written (.optional k) none (110 :: 117 :: 108 :: 108 :: t) t
  | present {k : Kind} {x : k.El} {s t : List UInt8} (hk : ∀ k', k ≠ .optional k')
    (h : Written k x s t) : Written (.optional k) (some x) s t

section
variable {k : Kind} {x : k.El} {s t : List UInt8} {d : Nat}

namespace Kind.Written

/-- What is not null does not begin as null does. -/
theorem front (h : Written k x s t) (hk : ∀ k', k ≠ .optional k') :
    ∃ b u, s = b :: u ∧ isBlank b = false ∧ b ≠ 110 := by
  cases h with
  | text h =>
    obtain ⟨u, rfl, _⟩ := h
    exact ⟨34, u, rfl, by decide, by decide⟩
  | path h =>
    obtain ⟨u, rfl, _⟩ := h
    exact ⟨34, u, rfl, by decide, by decide⟩
  | flag h =>
    simp only [words, List.mem_cons, List.not_mem_nil, or_false, Prod.mk.injEq, reduceCtorEq,
      false_and, false_or] at h
    rcases h with ⟨_, rfl⟩ | ⟨_, rfl⟩
    all_goals exact ⟨_, _, rfl, by decide, by decide⟩
  | @whole limit n =>
    obtain ⟨b, bs, hdecimals, hb⟩ := decimals_cons n
    rw [hdecimals]
    exact ⟨b, _, rfl, not_isBlank_of_isDigit hb, ne_of_isDigit hb (by decide)⟩
  | texts => exact ⟨123, _, rfl, by decide, by decide⟩
  | null => exact absurd rfl (hk _)
  | present => exact absurd rfl (hk _)

/-- The text of a value of a kind is read as that value. -/
theorem reads (h : Written k x s t) : Reads (readKind (d + 1) k) s x t := by
  induction h with
  | text h => exact h.reads _
  | path h => exact h.reads _
  | flag h => exact reads_flag h _
  | @whole limit n wanted t hlimit hsign ht =>
    have hscan := scans_decimals hsign ht
    obtain ⟨b, bs, hdecimals, hb⟩ := decimals_cons n
    rw [hdecimals] at hscan ⊢
    exact reads_readWhole? wanted hb hlimit hscan
  | @texts ms s t _ h =>
    obtain ⟨h', hread⟩ := h.reads (skipsBlanks_readText "a string")
      (fun m _ s t hm => Quoted.reads hm _) [] Shorter.same
    rw [List.map_id''] at hread
    · exact reads_readMap hread
    · exact fun m => rfl
  | null => exact reads_null _ _
  | present hk h ih =>
    obtain ⟨b, u, rfl, hb, hnull⟩ := h.front hk
    exact reads_present hb hnull ih

/-- It is the text of that value as JSON has it. -/
theorem denotes (h : Written k x s t) : Denotes (d + 1) (.value (k.json x)) s t := by
  induction h with
  | text h => exact h.denotes
  | path h => exact h.denotes
  | flag h => exact .word h
  | @whole limit n wanted t hlimit hsign ht =>
    exact .number (numeral_decimals n t) ht (scans_decimals hsign ht)
  | @texts ms s t _ h =>
    have hmembers : Denotes d (.members true (ms.map fun m => (m.1, Json.text m.2))) s t :=
      h.denotes fun m _ s t hm => Quoted.denotes hm
    show Denotes _ (.value (.object ((Members.extend [] ms).map _))) _ _
    rw [Members.extend_map]
    exact .object hmembers
  | null =>
    have hnull : (Json.null, [110, 117, 108, 108]) ∈ words := List.mem_cons_self
    exact .word hnull
  | present _ _ ih => exact ih

end Kind.Written

end

/-! ### parts -/

/-- What a part is given: a value, or slots of a section. -/
@[reducible] def Part.Given : Part → Type
  | single k => k.El
  | sink => List (SinkSettings.form.Entry Kind.El)
  | host => List (HostSettings.form.Entry Kind.El)
  | logging => List (LogSettings.form.Entry Kind.El)

/-- A section, of the slots that are given. -/
def Form.record {ρ : Type} (form : Form Kind Kind.El ρ) (es : List (form.Entry Kind.El)) : ρ :=
  form.fill (fun _ x => x) es

theorem Form.ObjectOf.record {ρ : Type} {form : Form Kind Kind.El ρ}
    {es : List (form.Entry Kind.El)}
    {s t : List UInt8} {d : Nat} (h : form.ObjectOf Kind.Written es s t) (hform : form.Loose) :
    Reads (readRecord readKind form (d + 2)) s (form.record es) t :=
  h.reads hform (skipsBlanks_readKind _) fun _ _ _ _ hw => hw.reads

namespace Part

def value : (p : Part) → p.Given → p.El
  | single _, x => x
  | sink, es => SinkSettings.form.record es
  | host, es => HostSettings.form.record es
  | logging, es => LogSettings.form.record es

def json : (p : Part) → p.Given → Json
  | single k, x => k.json x
  | sink, es => .object (SinkSettings.form.json Kind.json es)
  | host, es => .object (HostSettings.form.json Kind.json es)
  | logging, es => .object (LogSettings.form.json Kind.json es)

/-- The text of what a part is given. -/
def Written : (p : Part) → p.Given → List UInt8 → List UInt8 → Prop
  | single k, x => k.Written x
  | sink, es => SinkSettings.form.ObjectOf Kind.Written es
  | host, es => HostSettings.form.ObjectOf Kind.Written es
  | logging, es => LogSettings.form.ObjectOf Kind.Written es

/-- The ways to the values that a part is given. -/
def ways : (p : Part) → p.Given → List (List String)
  | single _, _ => [[]]
  | sink, es => es.map fun e => [e.name]
  | host, es => es.map fun e => [e.name]
  | logging, es => es.map fun e => [e.name]

variable {p : Part} {v : p.Given} {s t : List UInt8} {d : Nat}

theorem skipsBlanks_readPart (d : Nat) (p : Part) : SkipsBlanks (Settings.readPart d p) := by
  cases p with
  | single k => exact skipsBlanks_readKind d k
  | sink => exact skipsBlanks_readRecord _ _ d
  | host => exact skipsBlanks_readRecord _ _ d
  | logging => exact skipsBlanks_readRecord _ _ d

theorem Written.reads (h : p.Written v s t) :
    Reads (Settings.readPart (d + 2) p) s (p.value v) t := by
  cases p with
  | single k => exact Kind.Written.reads h
  | sink => exact Form.ObjectOf.record h SinkSettings.form_loose
  | host => exact Form.ObjectOf.record h HostSettings.form_loose
  | logging => exact Form.ObjectOf.record h LogSettings.form_loose

theorem Written.denotes (h : p.Written v s t) : Denotes (d + 2) (.value (p.json v)) s t := by
  cases p with
  | single k => exact Kind.Written.denotes h
  | sink => exact Form.ObjectOf.denotes h fun _ _ _ _ hw => hw.denotes
  | host => exact Form.ObjectOf.denotes h fun _ _ _ _ hw => hw.denotes
  | logging => exact Form.ObjectOf.denotes h fun _ _ _ _ hw => hw.denotes

end Part

/-! ### settings -/

namespace Settings

abbrev Entry : Type := form.Entry Part.Given

/-- The settings that entries come to. -/
def ofEntries (es : List Entry) : Settings := form.fill Part.value es

/-- The ways to the values that entries give. -/
def ways (es : List Entry) : List (List String) :=
  es.flatMap fun e => (e.slot.kind.ways e.value).map (e.name :: ·)

/-- An object that gives these entries is the whole text, but for blanks. -/
def WrittenAs (es : List Entry) (bytes : List UInt8) : Prop :=
  ∃ s t, Blanks bytes s ∧ form.ObjectOf Part.Written es s t ∧ Blanks t []

variable {es : List Entry} {bytes : List UInt8}

theorem WrittenAs.sound (h : WrittenAs es bytes) : form.Sound Part.Written es := by
  obtain ⟨s, t, _, hobject, _⟩ := h
  exact hobject.sound

/-- **Text that gives entries is read as the settings that they come to.** -/
theorem decode_written (h : WrittenAs es bytes) : decode bytes = .ok (ofEntries es) := by
  obtain ⟨s, t, hfront, hobject, hend⟩ := h
  have hread : Reads (readRecord readPart form maxDepth) s (ofEntries es) t :=
    hobject.reads (d := 126) form_loose (Part.skipsBlanks_readPart _) fun _ _ _ _ hw => hw.reads
  exact ((skipsBlanks_readRecord readPart form maxDepth).reads hfront hread).whole hend.skip_nil

/-- As a value, it is the object of what is given. -/
theorem value_written (h : WrittenAs es bytes) :
    readWhole (readValue maxDepth) bytes = .ok (.object (form.json Part.json es)) := by
  obtain ⟨s, t, hfront, hobject, hend⟩ := h
  have hvalue : Denotes maxDepth (.value (.object (form.json Part.json es))) s t :=
    hobject.denotes (d := 126) fun _ _ _ _ hw => hw.denotes
  exact ((skipsBlanks_readValue maxDepth).reads hfront hvalue.reads).whole hend.skip_nil

end Settings

end TelemetryGate
