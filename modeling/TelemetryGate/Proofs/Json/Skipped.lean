import TelemetryGate.Proofs.Json.Counted
import TelemetryGate.Proofs.Json.Passing

/-!
# What was scanned is text

The other way round from the readers of well-formed text: what a scanner took was well formed.

* `scanText_quotes`      a text that was read, and what it says;
* `nextItem_some`, …     what stood between values;
* `Closes`, `Awaits`     what the open brackets still demand of a value that is passed over;
* `skipValue_derives`    a value that was passed over.
-/

namespace TelemetryGate.Json

variable {s s₀ t u r : List UInt8} {b : UInt8} {char : Char} {first : Bool}
  {opened : List Bracket}

/-! ### blanks and words -/

theorem ahead_some {r : Read UInt8 s} (h : ahead s = some r) :
    Blanks s (r.value :: r.rest) ∧ isBlank r.value = false := by
  induction s with
  | nil => cases h
  | cons b s ih =>
    rw [ahead] at h
    by_cases hb : isBlank b = true
    · rw [if_pos hb] at h
      obtain ⟨r', hr', rfl⟩ := Option.map_eq_some_iff.mp h
      obtain ⟨hrun, hfront⟩ := ih hr'
      exact ⟨.step hb hrun, hfront⟩
    · rw [if_neg hb] at h
      cases h
      exact ⟨.done, eq_false_of_ne_true hb⟩

theorem scanWord_ok {cs : List Char} {h' : t.length ≤ s.length} (h : scanWord cs s = .ok ⟨t, h'⟩) :
    s = cs.map Char.toUInt8 ++ t := by
  induction cs generalizing s with
  | nil =>
    cases h
    rfl
  | cons c cs ih =>
    cases s with
    | nil => cases h
    | cons b s =>
      rw [scanWord] at h
      by_cases hb : b = c.toUInt8
      · rw [if_pos hb] at h
        cases hword : scanWord cs s with
        | error f =>
          rw [hword] at h
          cases h
        | ok r =>
          obtain ⟨t', ht'⟩ := r
          rw [hword] at h
          cases h
          rw [hb, List.map_cons, List.cons_append, ← ih hword]
      · rw [if_neg hb] at h
        cases h

/-! ### texts -/

theorem plain_of_not (hquote : b ≠ 34) (hslash : b ≠ 92) (hlow : ¬ b < 32) : Plain b := by
  refine ⟨?_, fun e => hquote (UInt8.toNat_inj.mp e), fun e => hslash (UInt8.toNat_inj.mp e)⟩
  exact Nat.not_lt.mp fun hlt => hlow (UInt8.lt_iff_toNat_lt.mpr hlt)

theorem scanHex_unit {n : Nat} {hu : u.length < s.length} (h : scanHex s = .ok ⟨n, u, hu⟩) :
    ∃ a b c d, s = a :: b :: c :: d :: u ∧ codeUnit? a b c d = some n := by
  unfold scanHex at h
  split at h
  · rename_i a b c d rest
    split at h
    · rename_i ha hb hc hd
      cases h
      refine ⟨a, b, c, d, rfl, ?_⟩
      simp only [codeUnit?, ha, hb, hc, hd]
    · cases h
  · cases h

theorem skipEscape_inside {a : After s} (h : skipEscape s = .ok a) (rest : Inside a.1 t) :
    Inside (92 :: s) t := by
  cases s with
  | nil => cases h
  | cons b s =>
    rw [skipEscape] at h
    by_cases hletter : (letterEscape? b).isSome = true
    · rw [if_pos hletter] at h
      cases h
      exact .letter hletter rest
    · rw [if_neg hletter] at h
      by_cases hu : b = 'u'.toUInt8
      · rw [if_pos hu] at h
        subst hu
        cases hscan : scanHex s with
        | error f =>
          rw [hscan] at h
          cases h
        | ok r =>
          obtain ⟨n, w, hw⟩ := r
          rw [hscan] at h
          cases h
          obtain ⟨a, b, c, d, rfl, hunit⟩ := scanHex_unit hscan
          exact .unit (hunit ▸ rfl) rest
      · rw [if_neg hu] at h
        cases h

/-- **A text that was passed over is well formed.** -/
theorem skipText_inside {hs : s.length ≤ s₀.length} {a : After s₀} (h : skipText s hs = .ok a) :
    Inside s a.1 := by
  fun_induction skipText s hs with
  | case2 =>
    cases h
    exact .close
  | case3 e after hafter hescape _ _ _ _ ih => exact skipEscape_inside hescape (ih h)
  | case6 b s _ _ hquote hslash hlow _ ih => exact .plain (plain_of_not hquote hslash hlow) (ih h)
  | _ => cases h

theorem scanUnit_spells {bs : List UInt8} (h : Reads scanUnit s char u) (rest : Spells bs u t) :
    Spells (Utf8.char char ++ bs) (92 :: 117 :: s) t := by
  obtain ⟨_, h⟩ := h
  unfold scanUnit at h
  obtain ⟨⟨n, v, hv⟩, hscan, h⟩ := bind_ok h
  obtain ⟨a, b, c, d, rfl, hunit⟩ := scanHex_unit hscan
  dsimp only at h
  by_cases htrail : isTrailing n = true
  · rw [if_pos htrail] at h
    cases h
  rw [if_neg htrail] at h
  by_cases hlead : isLeading n = true
  · rw [if_pos hlead] at h
    obtain ⟨⟨_, v', _⟩, hslash, h⟩ := bind_ok h
    obtain ⟨⟨_, w, _⟩, hletter, h⟩ := bind_ok h
    obtain ⟨⟨m, w', hw⟩, hsecond, h⟩ := bind_ok h
    have hv : v = 92 :: v' := expectInPair_ok hslash
    have hv' : v' = 117 :: w := expectInPair_ok hletter
    obtain ⟨a', b', c', d', hw', hunit'⟩ := scanHex_unit hsecond
    dsimp only at hw'
    subst hv hv' hw'
    dsimp only at h
    by_cases hjoin : isTrailing m = true
    · rw [if_pos hjoin] at h
      obtain ⟨rfl, rfl⟩ := Read.mk.inj (Except.ok.inj h)
      exact .pair hunit hunit' hlead hjoin rest
    · rw [if_neg hjoin] at h
      cases h
  · rw [if_neg hlead] at h
    cases h
    exact .unit hunit ⟨eq_false_of_ne_true hlead, eq_false_of_ne_true htrail⟩ rest

theorem scanEscape_spells {bs : List UInt8} (h : Reads scanEscape s char u) (rest : Spells bs u t) :
    Spells (Utf8.char char ++ bs) (92 :: s) t := by
  obtain ⟨_, h⟩ := h
  cases s with
  | nil => cases h
  | cons b s =>
    rw [scanEscape] at h
    cases hletter : letterEscape? b with
    | some c' =>
      rw [hletter] at h
      cases h
      exact .letter hletter rest
    | none =>
      rw [hletter] at h
      dsimp only at h
      by_cases hu : b = 'u'.toUInt8
      · rw [if_pos hu] at h
        subst hu
        obtain ⟨r, hr, heq⟩ := map_ok h
        cases heq
        exact scanUnit_spells ⟨r.shorter, hr⟩ rest
      · rw [if_neg hu] at h
        cases h

theorem scanBytes_spells {acc : List UInt8} {hs : s.length ≤ s₀.length} {r : Read (List UInt8) s₀}
    (h : scanBytes acc s hs = .ok r) :
    ∃ bs, r.value = bs.reverse ++ acc ∧ Spells bs s r.rest := by
  fun_induction scanBytes acc s hs with
  | case2 acc s hs rest =>
    cases h
    exact ⟨[], rfl, .close⟩
  | case3 acc e c after hafter hescape _ _ _ _ ih =>
    obtain ⟨bs, hvalue, hspells⟩ := ih h
    refine ⟨Utf8.char c ++ bs, ?_, scanEscape_spells ⟨hafter, hescape⟩ hspells⟩
    rw [hvalue, Utf8.encode_toString, List.reverse_append, List.append_assoc]
  | case6 acc b rest _ _ hquote hslash hlow _ ih =>
    obtain ⟨bs, hvalue, hspells⟩ := ih h
    refine ⟨b :: bs, ?_, .plain (plain_of_not hquote hslash hlow) hspells⟩
    rw [hvalue, List.reverse_cons, List.append_assoc]
    rfl
  | _ => cases h

/-- **A text that was read is well formed, and says what was read.** -/
theorem scanText_quotes {r : Read String s} (h : scanText s = .ok r) : Quotes r.value s r.rest := by
  unfold scanText at h
  obtain ⟨bytes, hscan, h⟩ := bind_ok h
  obtain ⟨bs, hvalue, hspells⟩ := scanBytes_spells hscan
  rw [List.append_nil] at hvalue
  dsimp only at h
  cases hdecode : Utf8.decode? bytes.value.reverse with
  | none =>
    rw [hdecode] at h
    cases h
  | some text =>
    rw [hdecode] at h
    cases h
    rw [hvalue, List.reverse_reverse] at hdecode
    rw [Quotes, Utf8.decode?_eq_some_iff.mp hdecode]
    exact hspells

/-! ### between values -/

theorem nextItem_some {hs : s.length ≤ s₀.length} {h' : t.length ≤ s₀.length}
    (h : nextItem first s hs = .ok (some ⟨t, h'⟩)) : Separator first s t ∧ Begins t := by
  revert h
  fun_cases nextItem first s hs with
  | case3 b rest hr hahead hclose hfirst =>
    rintro ⟨⟩
    obtain ⟨hrun, hblank⟩ := ahead_some hahead
    rw [hfirst]
    exact ⟨.first hrun, b, rest, rfl, hblank, hclose⟩
  | case6 rest hr hfirst b after ha hnext hclose _ hahead =>
    rintro ⟨⟩
    obtain ⟨hrun, hblank⟩ := ahead_some hnext
    rw [eq_false_of_ne_true hfirst]
    exact ⟨.next (ahead_some hahead).1 hrun, b, after, rfl, hblank, hclose⟩
  | _ => exact nofun

theorem nextItem_none {hs : s.length ≤ s₀.length} (h : nextItem first s hs = .ok none) :
    ∃ t, Blanks s (93 :: t) := by
  revert h
  fun_cases nextItem first s hs with
  | case2 rest hr hahead => exact fun _ => ⟨rest, (ahead_some hahead).1⟩
  | _ => exact nofun

theorem nextName_some {hs : s.length ≤ s₀.length} {h' : t.length < s₀.length}
    (h : nextName first s hs = .ok (some ⟨t, h'⟩)) : Separator first s (34 :: t) := by
  revert h
  fun_cases nextName first s hs with
  | case3 rest hr _ hfirst hahead =>
    rintro ⟨⟩
    rw [hfirst]
    exact .first (ahead_some hahead).1
  | case6 rest hr _ hfirst after ha hahead _ hnext =>
    rintro ⟨⟩
    rw [eq_false_of_ne_true hfirst]
    exact .next (ahead_some hahead).1 (ahead_some hnext).1
  | _ => exact nofun

theorem closeList_ok {hs : s.length ≤ s₀.length} {h' : t.length ≤ s₀.length}
    (h : closeList s hs = .ok ⟨t, h'⟩) : Blanks s (93 :: t) := by
  revert h
  fun_cases closeList s hs with
  | case2 rest hr hahead =>
    rintro ⟨⟩
    exact (ahead_some hahead).1
  | _ => exact nofun

theorem closeObject_ok {hs : s.length ≤ s₀.length} {h' : t.length ≤ s₀.length}
    (h : closeObject s hs = .ok ⟨t, h'⟩) : Blanks s (125 :: t) := by
  revert h
  fun_cases closeObject s hs with
  | case2 rest hr hahead =>
    rintro ⟨⟩
    exact (ahead_some hahead).1
  | _ => exact nofun

theorem skipColon_ok {h' : t.length < s.length} (h : skipColon s = .ok ⟨t, h'⟩) :
    Blanks s (58 :: t) := by
  revert h
  fun_cases skipColon s with
  | case2 rest hr hahead =>
    rintro ⟨⟩
    exact (ahead_some hahead).1
  | _ => exact nofun

/-! ### what the brackets demand -/

/-- What stands inside a bracket. -/
def Bracket.goal (first : Bool) : Bracket → Goal
  | .list => .items first
  | .object => .members first

/-- What closes the open brackets, the innermost first. -/
inductive Closes : List Bracket → List UInt8 → List UInt8 → Prop
  | done {t : List UInt8} : Closes [] t t
  | more {inner : Bracket} {outer : List Bracket} {s u t : List UInt8}
    (h : Derives (inner.goal false) s u) (rest : Closes outer u t) : Closes (inner :: outer) s t

/-- A value comes next, and then what closes the open brackets. -/
def Awaits (opened : List Bracket) (s t : List UInt8) : Prop :=
  ∃ u v, Blanks s u ∧ Derives .value u v ∧ Closes opened v t

/-- What is demanded of the bytes after a word. -/
def Skip.Demands : Skip s₀ → List UInt8 → Prop
  | .done a, t => a.1 = t
  | .more opened a, t => Awaits opened a.1 t

theorem Closes.stops (h : Closes opened s t) (ht : Stops t) : Stops s := by
  cases h with
  | done => exact ht
  | @more inner _ _ _ _ h =>
    cases inner with
    | list => exact h.stops_items
    | object => exact h.stops_members

theorem Bracket.ends {inner : Bracket} (h : Blanks s (inner.closing :: t)) :
    Derives (inner.goal first) s t := by
  cases inner with
  | list => exact .endItems h
  | object => exact .endMembers h

theorem skipName_ok {hs : s.length < s₀.length} {a : After s₀} (h : skipName s hs = .ok a) :
    ∃ u v, Blanks s (34 :: u) ∧ Inside u v ∧ Blanks v (58 :: a.1) := by
  revert h
  fun_cases skipName s hs with
  | case4 u hu v hv hname after hafter _ hahead hcolon =>
    rintro ⟨⟩
    exact ⟨u, v, (ahead_some hahead).1, skipText_inside hname, (ahead_some hcolon).1⟩
  | _ => exact nofun

/-- To the next value inside a bracket: what stands before it is what a separator stands before. -/
theorem nextValue_derives {inner : Bracket} {hs : s.length < s₀.length} {k : Skip s₀}
    (h : nextValue inner opened s hs = .ok k) (hk : k.Demands t)
    (hsep : ∀ u, Blanks s u → Separator first r u) :
    ∃ v, Derives (inner.goal first) r v ∧ Closes opened v t := by
  cases inner with
  | list =>
    cases h
    obtain ⟨u, v, hgap, hvalue, hcloses⟩ := hk
    cases hcloses with
    | more hrest hcloses => exact ⟨_, .item (hsep u hgap) hvalue hrest, hcloses⟩
  | object =>
    obtain ⟨a, hname, rfl⟩ := map_ok h
    obtain ⟨q, q', hquote, hinside, hcolon⟩ := skipName_ok hname
    obtain ⟨u, v, hgap, hvalue, hcloses⟩ := hk
    cases hcloses with
    | more hrest hcloses =>
      exact ⟨_, .member ⟨q, q', a.1, hsep _ hquote, hinside, hcolon, hgap⟩ hvalue hrest, hcloses⟩

theorem afterValue_closes {hs : s.length < s₀.length} {k : Skip s₀}
    (h : afterValue opened s hs = .ok k) (hk : k.Demands t) : Closes opened s t := by
  fun_induction afterValue opened s hs with
  | case1 =>
    cases h
    cases hk
    exact .done
  | case3 s hs inner outer u hu _ hahead =>
    obtain ⟨v, hderives, hcloses⟩ :=
      nextValue_derives h hk fun _ hgap => .next (ahead_some hahead).1 hgap
    exact .more hderives hcloses
  | case4 s hs inner outer u hu _ hahead _ ih =>
    exact .more (Bracket.ends (ahead_some hahead).1) (ih h)
  | _ => cases h

theorem afterOpening_closes {inner : Bracket} {hs : s.length < s₀.length} {k : Skip s₀}
    (h : afterOpening inner opened s hs = .ok k) (hk : k.Demands t) :
    ∃ v, Derives (inner.goal true) s v ∧ Closes opened v t := by
  revert h
  fun_cases afterOpening inner opened s hs with
  | case2 u hu _ hahead =>
    intro h
    exact ⟨u, Bracket.ends (ahead_some hahead).1, afterValue_closes h hk⟩
  | case3 b u hu hahead _ hclose =>
    intro h
    exact nextValue_derives h hk fun _ hgap => .first ((ahead_some hahead).1.trans hgap)
  | _ => exact nofun

theorem awaits_of_value {v : List UInt8} (hrun : Blanks s u) (hvalue : Derives .value u v)
    (hcloses : Closes opened v t) : Awaits opened s t := ⟨u, v, hrun, hvalue, hcloses⟩

theorem step_awaits {k : Skip s} (h : Skip.step opened s = .ok k) (hk : k.Demands t)
    (ht : Stops t) : Awaits opened s t := by
  rw [Skip.step] at h
  cases hahead : ahead s with
  | none =>
    rw [hahead] at h
    cases h
  | some front =>
    obtain ⟨hrun, _⟩ := ahead_some hahead
    obtain ⟨b, rest, hr⟩ := front
    rw [hahead] at h
    dsimp only at h hrun
    split_ifs at h with hn htrue hfalse hminus hdigit hquote hlist hobject
    · split at h
      · rename_i v hv hword
        obtain rfl := scanWord_ok hword
        subst hn
        refine awaits_of_value hrun ?_ (afterValue_closes h hk)
        exact .word (v := .null) (w := [110, 117, 108, 108]) (by simp [words])
      · cases h
    · split at h
      · rename_i v hv hword
        obtain rfl := scanWord_ok hword
        subst htrue
        refine awaits_of_value hrun ?_ (afterValue_closes h hk)
        exact .word (v := .flag true) (w := [116, 114, 117, 101]) (by simp [words])
      · cases h
    · split at h
      · rename_i v hv hword
        obtain rfl := scanWord_ok hword
        subst hfalse
        refine awaits_of_value hrun ?_ (afterValue_closes h hk)
        exact .word (v := .flag false) (w := [102, 97, 108, 115, 101]) (by simp [words])
      · cases h
    · split at h
      · rename_i v hv hnumber
        subst hminus
        have hcloses := afterValue_closes h hk
        exact awaits_of_value hrun (.negative (skipNumber_numeral hnumber) (hcloses.stops ht))
          hcloses
      · cases h
    · split at h
      · rename_i v hv hnumber
        have hcloses := afterValue_closes h hk
        exact awaits_of_value hrun (.number (skipNumber_numeral hnumber) (hcloses.stops ht)) hcloses
      · cases h
    · split at h
      · rename_i v hv htext
        subst hquote
        exact awaits_of_value hrun (.text (skipText_inside htext)) (afterValue_closes h hk)
      · cases h
    · subst hlist
      obtain ⟨v, hderives, hcloses⟩ := afterOpening_closes h hk
      exact awaits_of_value hrun (.list hderives) hcloses
    · subst hobject
      obtain ⟨v, hderives, hcloses⟩ := afterOpening_closes h hk
      exact awaits_of_value hrun (.object hderives) hcloses

theorem skipInside_awaits {hs : s.length ≤ s₀.length} {a : After s₀}
    (h : skipInside opened s hs = .ok a) (ht : Stops a.1) : Awaits opened s a.1 := by
  fun_induction skipInside opened s hs with
  | case1 => cases h
  | case2 opened s hs t hlt hstep =>
    cases h
    exact step_awaits hstep rfl ht
  | case3 opened s hs opened' t hlt hstep ih => exact step_awaits hstep (ih h) ht

/-- **A value that was passed over is well formed.** -/
theorem skipValue_derives {a : After s} (h : skipValue s = .ok a) (ht : Stops a.1) :
    ∃ u, Blanks s u ∧ Derives .value u a.1 := by
  obtain ⟨u, v, hgap, hvalue, hcloses⟩ := skipInside_awaits h ht
  cases hcloses
  exact ⟨u, hgap, hvalue⟩

end TelemetryGate.Json
