/-!
# Bodies of submissions

A body is read piece by piece and no further than is needed.

* `Piece`         what one reading gives;
* `Body`          what each reading in turn gives, without end if need be;
* `Body.take`     the first bytes of a body;
* `Body.ofBytes`  some bytes, cut into pieces.
-/

namespace TelemetryGate

/-- What one reading gives: some bytes, of which none means the end, or a failure. -/
inductive Piece where
  | bytes (bs : List UInt8)
  | failed (reason : String)

/-- What each reading in turn gives. -/
abbrev Body : Type := Nat → Piece

/-- The bytes that were taken from a body, and why no more were if reading failed. -/
structure Taken where
  bytes : List UInt8
  failure : Option String

namespace Body

/-- Takes up to `want` bytes from the `i`th piece on, after those in `acc`, which are in reverse. -/
def takeFrom (body : Body) (i want : Nat) (acc : List UInt8) : Taken :=
  if want = 0 then ⟨acc.reverse, none⟩
  else
    match body i with
    | .failed reason => ⟨acc.reverse, some reason⟩
    | .bytes [] => ⟨acc.reverse, none⟩
    | .bytes (b :: bs) =>
      takeFrom body (i + 1) (want - (bs.length + 1)) (((b :: bs).take want).reverseAux acc)
termination_by want
decreasing_by omega

def take (body : Body) (want : Nat) : Taken := takeFrom body 0 want []

/-- Bytes in pieces of `n`, put in front of `acc` in reverse. -/
def cut (n : Nat) (acc : List (List UInt8)) (bs : List UInt8) : List (List UInt8) :=
  match bs with
  | [] => acc.reverse
  | b :: rest => cut n ((b :: rest.take (n - 1)) :: acc) (rest.drop (n - 1))
termination_by bs.length
decreasing_by simp only [List.length_drop, List.length_cons]; omega

/-- Some bytes in pieces of `n`; after the last one reading ends or fails. -/
def ofBytes (bs : List UInt8) (n : Nat) (failure : Option String) : Body :=
  let pieces := (cut n [] bs).toArray
  fun i =>
    match pieces[i]? with
    | some p => .bytes p
    | none =>
      match failure with
      | some reason => .failed reason
      | none => .bytes []

def whole (bs : List UInt8) : Body := fun i => .bytes (if i = 0 then bs else [])

end Body

end TelemetryGate
