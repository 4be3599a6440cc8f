import TelemetryGate.Proofs.Json.Numerals
import TelemetryGate.Proofs.Json.Quotes

/-!
# Values that are passed over

A value is passed over one word at a time, with the open brackets in a list. What a word does is
said of what comes after it: `Resumes` is where a value has just ended, `Passes` where one is about
to begin.

* `Resumes`, `Opens`, `Passes`   the ways on from a place, and where they end;
* `Derives.skip`                 a value that is well formed is passed over.
-/

namespace TelemetryGate.Json

variable {s₀ s t u r : List UInt8} {b : UInt8} {opened : List Bracket}

/-! ### ways on -/

/-- With the brackets open, what comes next is passed over, and then `r` follows. -/
def Passes (opened : List Bracket) (s r : List UInt8) : Prop :=
  ∀ s₀ (hs : s.length ≤ s₀.length),
    ∃ h', (skipInside opened s hs : Except Fault (After s₀)) = .ok ⟨r, h'⟩

/-- A step has come to where `r` follows, or to where what comes next is passed over. -/
def Leads (x : Except Fault (Skip s₀)) (r : List UInt8) : Prop :=
  (∃ h, x = .ok (.done ⟨r, h⟩)) ∨
    ∃ opened t h, x = .ok (.more opened ⟨t, h⟩) ∧ Passes opened t r

/-- A value has ended. -/
def Resumes (opened : List Bracket) (s r : List UInt8) : Prop :=
  ∀ s₀ (hs : s.length < s₀.length), Leads (afterValue opened s hs : Except Fault (Skip s₀)) r

/-- A bracket was opened. -/
def Opens (inner : Bracket) (opened : List Bracket) (s r : List UInt8) : Prop :=
  ∀ s₀ (hs : s.length < s₀.length),
    Leads (afterOpening inner opened s hs : Except Fault (Skip s₀)) r

theorem passes_of_step (h : Leads (Skip.step opened s) r) : Passes opened s r := by
  intro s₀ hs
  rw [skipInside]
  rcases h with ⟨h, hstep⟩ | ⟨opened', t, h, hstep, hpasses⟩
  · rw [hstep]
    exact ⟨Shorter.within h hs, rfl⟩
  · rw [hstep]
    exact hpasses s₀ (Shorter.within_le h hs)

theorem resumes_nil (r : List UInt8) : Resumes [] r r := fun _ hs => .inl ⟨hs, rfl⟩

/-! ### brackets -/

theorem resumes_close {inner : Bracket} (h : Blanks s (inner.closing :: t))
    (hr : Resumes opened t r) : Resumes (inner :: opened) s r := by
  intro s₀ hs
  have hblank : isBlank inner.closing = false := by cases inner <;> decide
  have hcomma : inner.closing ≠ 44 := by cases inner <;> decide
  obtain ⟨h', hahead⟩ := h.ahead_eq hblank
  rw [afterValue, hahead]
  simp only [if_neg hcomma, if_true]
  exact hr s₀ _

theorem opens_close {inner : Bracket} (h : Blanks s (inner.closing :: t))
    (hr : Resumes opened t r) : Opens inner opened s r := by
  intro s₀ hs
  have hblank : isBlank inner.closing = false := by cases inner <;> decide
  obtain ⟨h', hahead⟩ := h.ahead_eq hblank
  rw [afterOpening, hahead]
  simp only [if_true]
  exact hr s₀ _

/-- To the next value in a list. -/
theorem leads_list (hs : s.length < s₀.length) (hr : Passes (.list :: opened) s r) :
    Leads (nextValue .list opened s hs) r := .inr ⟨_, s, hs, rfl, hr⟩

/-- To the next value in an object. -/
theorem leads_object {v w : List UInt8} (hquote : Blanks s (34 :: u)) (hname : Inside u v)
    (hcolon : Blanks v (58 :: w)) (hs : s.length < s₀.length)
    (hr : Passes (.object :: opened) w r) : Leads (nextValue .object opened s hs) r := by
  obtain ⟨h₁, hahead⟩ := hquote.ahead_eq (by decide)
  obtain ⟨h₂, hskip⟩ := hname.skip (Shorter.le h₁)
  obtain ⟨h₃, hahead'⟩ := hcolon.ahead_eq (by decide)
  refine .inr ⟨_, w, by omega, ?_, hr⟩
  rw [nextValue, skipName, hahead]
  simp only [if_true, hskip, hahead']
  rfl

/-- After a comma comes the next value inside the bracket. -/
theorem resumes_comma {inner : Bracket} (h : Blanks s (44 :: u))
    (hnext : ∀ s₀ (hu : u.length < s₀.length),
      Leads (nextValue inner opened u hu : Except Fault (Skip s₀)) r) :
    Resumes (inner :: opened) s r := by
  intro s₀ hs
  obtain ⟨h', hahead⟩ := h.ahead_eq (by decide)
  rw [afterValue, hahead]
  exact hnext s₀ _

/-- A bracket that does not close at once has a first value inside. -/
theorem opens_first {inner : Bracket} (h : Blanks s (b :: u)) (hb : isBlank b = false)
    (hclose : b ≠ inner.closing)
    (hnext : ∀ s₀ (hu : (b :: u).length < s₀.length),
      Leads (nextValue inner opened (b :: u) hu : Except Fault (Skip s₀)) r) :
    Opens inner opened s r := by
  intro s₀ hs
  obtain ⟨h', hahead⟩ := h.ahead_eq hb
  rw [afterOpening, hahead]
  simp only [if_neg hclose]
  exact hnext s₀ _

/-! ### values -/

theorem passes_word {v : Json} {w : List UInt8} (hw : (v, w) ∈ words) (h : Blanks s (w ++ t))
    (hr : Resumes opened t r) : Passes opened s r := by
  refine passes_of_step ?_
  simp only [words, List.mem_cons, List.not_mem_nil, or_false, Prod.mk.injEq] at hw
  rcases hw with ⟨_, rfl⟩ | ⟨_, rfl⟩ | ⟨_, rfl⟩
  all_goals
    obtain ⟨h', hahead⟩ := Blanks.ahead_eq h (by decide)
    rw [Skip.step, hahead]
    exact hr s _

theorem passes_number (hn : Numeral u t) (ht : Stops t) (h : Blanks s u)
    (hr : Resumes opened t r) : Passes opened s r := by
  obtain ⟨b, v, rfl, hb⟩ := hn.front
  obtain ⟨h', hahead⟩ := h.ahead_eq (not_isBlank_of_isDigit hb)
  obtain ⟨_, hskip⟩ := hn.skip ht
  refine passes_of_step ?_
  rw [Skip.step, hahead]
  simp only [if_neg (ne_of_isDigit (c := 'n'.toUInt8) hb (by decide)),
    if_neg (ne_of_isDigit (c := 't'.toUInt8) hb (by decide)),
    if_neg (ne_of_isDigit (c := 'f'.toUInt8) hb (by decide)),
    if_neg (ne_of_isDigit (c := 45) hb (by decide)), if_pos hb, hskip]
  exact hr s _

theorem passes_negative (hn : Numeral u t) (ht : Stops t) (h : Blanks s (45 :: u))
    (hr : Resumes opened t r) : Passes opened s r := by
  obtain ⟨h', hahead⟩ := h.ahead_eq (by decide)
  obtain ⟨_, hskip⟩ := hn.skip ht
  refine passes_of_step ?_
  rw [Skip.step, hahead]
  simp only [show (45 : UInt8) ≠ 'n'.toUInt8 by decide, show (45 : UInt8) ≠ 't'.toUInt8 by decide,
    show (45 : UInt8) ≠ 'f'.toUInt8 by decide, if_true, if_false, hskip]
  exact hr s _

theorem passes_text (hi : Inside u t) (h : Blanks s (34 :: u)) (hr : Resumes opened t r) :
    Passes opened s r := by
  obtain ⟨h', hahead⟩ := h.ahead_eq (by decide)
  obtain ⟨_, hskip⟩ := hi.skip (Shorter.le h')
  refine passes_of_step ?_
  rw [Skip.step, hahead]
  simp only [show (34 : UInt8) ≠ 'n'.toUInt8 by decide, show (34 : UInt8) ≠ 't'.toUInt8 by decide,
    show (34 : UInt8) ≠ 'f'.toUInt8 by decide, show (34 : UInt8) ≠ 45 by decide,
    show isDigit 34 = false by decide, Bool.false_eq_true, if_true, if_false, hskip]
  exact hr s _

theorem passes_list (h : Blanks s (91 :: u)) (hr : Opens .list opened u r) :
    Passes opened s r := by
  obtain ⟨h', hahead⟩ := h.ahead_eq (by decide)
  refine passes_of_step ?_
  rw [Skip.step, hahead]
  exact hr s h'

theorem passes_object (h : Blanks s (123 :: u)) (hr : Opens .object opened u r) :
    Passes opened s r := by
  obtain ⟨h', hahead⟩ := h.ahead_eq (by decide)
  refine passes_of_step ?_
  rw [Skip.step, hahead]
  exact hr s h'

/-- What is passed over from each place in a text, if what follows is. -/
def Goal.Passed : Goal → List UInt8 → List UInt8 → Prop
  | .value, u, t => ∀ s opened r, Blanks s u → Resumes opened t r → Passes opened s r
  | .items true, s, t => ∀ opened r, Resumes opened t r → Opens .list opened s r
  | .items false, s, t => ∀ opened r, Resumes opened t r → Resumes (.list :: opened) s r
  | .members true, s, t => ∀ opened r, Resumes opened t r → Opens .object opened s r
  | .members false, s, t => ∀ opened r, Resumes opened t r → Resumes (.object :: opened) s r

theorem Derives.passed {goal : Goal} (h : Derives goal s t) : goal.Passed s t := by
  induction h with
  | word h => exact fun s opened r hs hr => passes_word h hs hr
  | number h ht => exact fun s opened r hs hr => passes_number h ht hs hr
  | negative h ht => exact fun s opened r hs hr => passes_negative h ht hs hr
  | text h => exact fun s opened r hs hr => passes_text h hs hr
  | list _ ih => exact fun s opened r hs hr => passes_list hs (ih opened r hr)
  | object _ ih => exact fun s opened r hs hr => passes_object hs (ih opened r hr)
  | @endItems first s t h =>
    cases first with
    | true => exact fun opened r hr => opens_close h hr
    | false => exact fun opened r hr => resumes_close h hr
  | @item first s u v t sep value _ hvalue hrest =>
    cases sep with
    | first h =>
      intro opened r hr
      obtain ⟨b, u, rfl, hb, hclose⟩ := value.begins
      exact opens_first h hb hclose fun s₀ hu =>
        leads_list hu (hvalue _ _ r .done (hrest opened r hr))
    | next h h' =>
      intro opened r hr
      exact resumes_comma h fun s₀ hu => leads_list hu (hvalue _ _ r h' (hrest opened r hr))
  | @endMembers first s t h =>
    cases first with
    | true => exact fun opened r hr => opens_close h hr
    | false => exact fun opened r hr => resumes_close h hr
  | @member first s u v t key _ _ hvalue hrest =>
    obtain ⟨q, q', w, sep, hname, hcolon, hgap⟩ := key
    cases sep with
    | first h =>
      intro opened r hr
      exact opens_first h (by decide) (by decide) fun s₀ hu =>
        leads_object .done hname hcolon hu (hvalue _ _ r hgap (hrest opened r hr))
    | next h h' =>
      intro opened r hr
      exact resumes_comma h fun s₀ hu =>
        leads_object h' hname hcolon hu (hvalue _ _ r hgap (hrest opened r hr))

/-- **A value that is well formed is passed over, however deep it nests and whatever its texts and
numbers are.** -/
theorem Derives.skip (h : Derives .value u t) (hs : Blanks s u) :
    ∃ h', skipValue s = .ok ⟨t, h'⟩ :=
  h.passed s [] t hs (resumes_nil t) s Shorter.same

end TelemetryGate.Json
