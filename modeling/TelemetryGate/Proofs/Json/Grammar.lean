import TelemetryGate.Json.Skip
import TelemetryGate.Proofs.Json.Value

/-!
# What JSON text is

Text is described as it is read, from the front: each relation says of some bytes that a piece of
text comes first, and what then follows.

* `Numeral`                   a number without its sign;
* `Derives`                   a value, items and members, nested to any depth;
* `Denotes`                   the same with their content, nested to a bounded depth.
-/

namespace TelemetryGate.Json

/-! ### numbers -/

inductive Places : List UInt8 → List UInt8 → Prop
  | none {s : List UInt8} : Places s s
  | some {b : UInt8} {s t : List UInt8} (hb : isDigit b = true) (h : Run isDigit s t) :
    Places (46 :: b :: s) t

inductive Sign : List UInt8 → List UInt8 → Prop
  | none {s : List UInt8} : Sign s s
  | plus {s : List UInt8} : Sign (43 :: s) s
  | minus {s : List UInt8} : Sign (45 :: s) s

inductive Power : List UInt8 → List UInt8 → Prop
  | none {s : List UInt8} : Power s s
  | some {e b : UInt8} {s u t : List UInt8} (he : e = 101 ∨ e = 69) (sign : Sign s (b :: u))
    (hb : isDigit b = true) (h : Run isDigit u t) : Power (e :: s) t

/-- A number without its sign; a zero comes first only if nothing but places or a power follows. -/
inductive Numeral : List UInt8 → List UInt8 → Prop
  | zero {s u t : List UInt8} (places : Places s u) (power : Power u t) : Numeral (48 :: s) t
  | more {b : UInt8} {s u v t : List UInt8} (hb : isDigit b = true) (hne : b ≠ 48)
    (digits : Run isDigit s u) (places : Places u v) (power : Power v t) : Numeral (b :: s) t

/-! ### values -/

/-- A value, or items or members to the bracket that closes them; at the first one, or after one. -/
inductive Goal where
  | value
  | items (first : Bool)
  | members (first : Bool)

inductive Derives : Goal → List UInt8 → List UInt8 → Prop
  | word {v : Json} {w t : List UInt8} (h : (v, w) ∈ words) : Derives .value (w ++ t) t
  | number {s t : List UInt8} (h : Numeral s t) (hs : Stops t) : Derives .value s t
  | negative {s t : List UInt8} (h : Numeral s t) (hs : Stops t) : Derives .value (45 :: s) t
  | text {s t : List UInt8} (h : Inside s t) : Derives .value (34 :: s) t
  | list {s t : List UInt8} (h : Derives (.items true) s t) : Derives .value (91 :: s) t
  | object {s t : List UInt8} (h : Derives (.members true) s t) : Derives .value (123 :: s) t
  | endItems {first : Bool} {s t : List UInt8} (h : Blanks s (93 :: t)) :
    Derives (.items first) s t
  | item {first : Bool} {s u v t : List UInt8} (sep : Separator first s u)
    (value : Derives .value u v) (rest : Derives (.items false) v t) : Derives (.items first) s t
  | endMembers {first : Bool} {s t : List UInt8} (h : Blanks s (125 :: t)) :
    Derives (.members first) s t
  | member {first : Bool} {s u v t : List UInt8} (key : Key Inside first s u)
    (value : Derives .value u v) (rest : Derives (.members false) v t) :
    Derives (.members first) s t

/-- The content of a value, of items or of members. -/
inductive Content where
  | value (v : Json)
  | items (first : Bool) (vs : List Json)
  | members (first : Bool) (ms : Properties)

def Content.goal : Content → Goal
  | value _ => .value
  | items first _ => .items first
  | members first _ => .members first

/-- Of members with one name the last counts. A number is what it reads as, if it is in range. -/
inductive Denotes : Nat → Content → List UInt8 → List UInt8 → Prop
  | word {d : Nat} {v : Json} {w t : List UInt8} (h : (v, w) ∈ words) :
    Denotes d (.value v) (w ++ t) t
  | number {d : Nat} {x : Number} {s t : List UInt8} (h : Numeral s t) (hs : Stops t)
    (hx : Reads (scanNumber false) s x t) : Denotes d (.value x.toJson) s t
  | negative {d : Nat} {x : Number} {s t : List UInt8} (h : Numeral s t) (hs : Stops t)
    (hx : Reads (scanNumber true) s x t) : Denotes d (.value x.toJson) (45 :: s) t
  | text {d : Nat} {text : String} {s t : List UInt8} (h : Quotes text s t) :
    Denotes d (.value (.text text)) (34 :: s) t
  | list {d : Nat} {vs : List Json} {s t : List UInt8} (h : Denotes d (.items true vs) s t) :
    Denotes (d + 1) (.value (.list vs)) (91 :: s) t
  | object {d : Nat} {ms : Properties} {s t : List UInt8}
    (h : Denotes d (.members true ms) s t) :
    Denotes (d + 1) (.value (.object (Members.extend [] ms))) (123 :: s) t
  | endItems {d : Nat} {first : Bool} {s t : List UInt8} (h : Blanks s (93 :: t)) :
    Denotes d (.items first []) s t
  | item {d : Nat} {first : Bool} {v : Json} {vs : List Json} {s u w t : List UInt8}
    (sep : Separator first s u) (value : Denotes d (.value v) u w)
    (rest : Denotes d (.items false vs) w t) : Denotes d (.items first (v :: vs)) s t
  | endMembers {d : Nat} {first : Bool} {s t : List UInt8} (h : Blanks s (125 :: t)) :
    Denotes d (.members first []) s t
  | member {d : Nat} {first : Bool} {name : String} {v : Json} {ms : Properties}
    {s u w t : List UInt8} (key : Key (Quotes name) first s u) (value : Denotes d (.value v) u w)
    (rest : Denotes d (.members false ms) w t) : Denotes d (.members first ((name, v) :: ms)) s t

/-! ### what has content is well formed -/

section
variable {s t u : List UInt8} {first : Bool}

theorem Denotes.derives {d : Nat} {content : Content} (h : Denotes d content s t) :
    Derives content.goal s t := by
  induction h with
  | word h => exact .word h
  | number h hs _ => exact .number h hs
  | negative h hs _ => exact .negative h hs
  | text h => exact .text h.inside
  | list _ ih => exact .list ih
  | object _ ih => exact .object ih
  | endItems h => exact .endItems h
  | item sep _ _ value rest => exact .item sep value rest
  | endMembers h => exact .endMembers h
  | member key _ _ value rest => exact .member (key.mono fun _ _ => Quotes.inside) value rest

end

/-! ### what a value begins with -/

section
variable {s t : List UInt8}

theorem Numeral.front (h : Numeral s t) : ∃ b u, s = b :: u ∧ isDigit b = true := by
  cases h with
  | zero => exact ⟨48, _, rfl, by decide⟩
  | more hb => exact ⟨_, _, rfl, hb⟩

theorem begins_word {v : Json} {w : List UInt8} (h : (v, w) ∈ words) : Begins (w ++ t) := by
  simp only [words, List.mem_cons, List.not_mem_nil, or_false, Prod.mk.injEq] at h
  rcases h with ⟨_, rfl⟩ | ⟨_, rfl⟩ | ⟨_, rfl⟩
  all_goals exact ⟨_, _, rfl, by decide, by decide⟩

theorem Derives.begins (h : Derives .value s t) : Begins s := by
  cases h with
  | word h => exact begins_word h
  | number h =>
    obtain ⟨b, u, rfl, hb⟩ := h.front
    exact ⟨b, u, rfl, not_isBlank_of_isDigit hb, ne_of_isDigit hb (by decide)⟩
  | negative => exact ⟨45, _, rfl, by decide, by decide⟩
  | text => exact ⟨34, _, rfl, by decide, by decide⟩
  | list => exact ⟨91, _, rfl, by decide, by decide⟩
  | object => exact ⟨123, _, rfl, by decide, by decide⟩

end

end TelemetryGate.Json
