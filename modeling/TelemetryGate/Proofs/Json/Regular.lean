import TelemetryGate.Proofs.Json.Record
import TelemetryGate.Proofs.Json.Value

/-!
# What was read can be written

* `scanNumber_fits`     a whole number that was read fits a word;
* `readItems_all`       the items of a list that was read are what was read one by one;
* `readValue_regular`   whatever text a value was read from, it is regular.
-/

namespace TelemetryGate.Json

variable {α : Type} {s s₀ : List UInt8}

/-! ### numbers -/

/-- A number that is whole fits a word. -/
def Number.Fits : Number → Prop
  | .whole n => Json.Fits n
  | .real _ => True

theorem takeDigits_le {limit n count : Nat} (h : n ≤ limit) (hs : s.length ≤ s₀.length) :
    (takeDigits limit n count s hs).value ≤ limit := by
  fun_induction takeDigits limit n count s hs with
  | case1 => exact h
  | case2 => exact h
  | case3 n count hs b rest _ hfit _ ih =>
    exact ih (Nat.not_lt.mp (of_decide_eq_false (Bool.eq_false_iff.mpr hfit)))
  | case4 => exact h

theorem assembleAt_fits {negative : Bool} {m : Nat} {e : Int} {x : Number}
    (h : assembleAt negative m e s = .ok x) : x.Fits := by
  rw [assembleAt] at h
  cases ha : assemble negative m e with
  | none => rw [ha] at h; cases h
  | some y => rw [ha] at h; cases h; exact trivial

/-- With an exponent a number is never whole. -/
theorem scanExponent_fits {negative : Bool} {m : Nat} {e : Int} {r : Read Number s}
    (h : scanExponent negative m e s = .ok r) : r.value.Fits := by
  revert h
  fun_cases scanExponent negative m e s with
  | case3 => rintro ⟨⟩; exact trivial
  | case4 =>
    rename_i x hx
    rintro ⟨⟩
    exact assembleAt_fits hx
  | _ =>
    intro h
    cases h

theorem scanTail_fits {negative : Bool} {m : Nat} {e : Int} {hs : s.length < s₀.length}
    {r : Read Number s₀} (h : scanTail negative m e s hs = .ok r) : r.value.Fits := by
  revert h
  fun_cases scanTail negative m e s hs with
  | case1 b rest =>
    intro h
    obtain ⟨r', hr, rfl⟩ := map_ok h
    exact scanExponent_fits (r := r') hr
  | case2 b rest _ _ x hx => rintro ⟨⟩; exact assembleAt_fits hx
  | case4 _ x hx => rintro ⟨⟩; exact assembleAt_fits hx
  | _ =>
    intro h
    cases h

theorem scanPlaces_fits {negative : Bool} {m : Nat} {e : Int} {hs : s.length < s₀.length}
    {r : Read Number s₀} (h : scanPlaces negative m e s hs = .ok r) : r.value.Fits := by
  revert h
  fun_cases scanPlaces negative m e s hs with
  | case1 => exact scanTail_fits
  | case4 => exact scanTail_fits
  | _ =>
    intro h
    cases h

theorem wholeOrReal_fits (negative : Bool) {m : Nat} (h : m ≤ Word.most) :
    (scanAfterWhole.wholeOrReal negative m).Fits := by
  unfold scanAfterWhole.wholeOrReal
  cases negative with
  | false =>
    rw [if_neg (by decide)]
    exact ⟨by omega, Int.ofNat_le.mpr h⟩
  | true =>
    rw [if_pos rfl]
    by_cases hreal : (m = 0 || Word.signLimit < m) = true
    · rw [if_pos hreal]
      exact trivial
    · rw [if_neg hreal]
      rw [Bool.or_eq_true, not_or, decide_eq_true_iff, decide_eq_true_iff] at hreal
      exact ⟨by omega, by omega⟩

theorem scanAfterWhole_fits {negative full : Bool} {m dropped : Nat} (hm : m ≤ Word.most)
    {hs : s.length < s₀.length} {r : Read Number s₀}
    (h : scanAfterWhole negative m full dropped s hs = .ok r) : r.value.Fits := by
  revert h
  fun_cases scanAfterWhole negative m full dropped s hs with
  | case1 => exact scanPlaces_fits
  | case2 => exact scanTail_fits
  | case3 => rintro ⟨⟩; exact wholeOrReal_fits negative hm
  | case4 => exact scanTail_fits
  | case5 => rintro ⟨⟩; exact wholeOrReal_fits negative hm

theorem digit_le (b : UInt8) : digit b ≤ maxWord :=
  Nat.le_trans (Nat.sub_le _ _) (Nat.le_trans (Nat.le_of_lt b.toNat_lt) (by decide))

/-- A whole number that was read fits a word. -/
theorem scanNumber_fits {negative : Bool} {r : Read Number s}
    (h : scanNumber negative s = .ok r) : r.value.Fits := by
  rw [scanNumber.eq_def] at h
  cases s with
  | nil => cases h
  | cons b rest =>
    dsimp only at h
    by_cases hzero : b = 48
    · rw [if_pos hzero] at h
      cases rest with
      | nil => exact scanAfterWhole_fits (Nat.zero_le _) h
      | cons c after =>
        dsimp only at h
        by_cases hc : isDigit c = true
        · rw [if_pos hc] at h
          cases h
        · rw [if_neg hc] at h
          exact scanAfterWhole_fits (Nat.zero_le _) h
    · rw [if_neg hzero] at h
      by_cases hb : isDigit b = true
      · rw [if_pos hb] at h
        have hvalue : (takeDigits maxWord (digit b) 1 rest Shorter.same).value ≤ maxWord :=
          takeDigits_le (digit_le b) Shorter.same
        by_cases hfull : (takeDigits maxWord (digit b) 1 rest Shorter.same).full = true
        · rw [if_pos hfull] at h
          exact scanAfterWhole_fits hvalue h
        · rw [if_neg hfull] at h
          exact scanAfterWhole_fits hvalue h
      · rw [if_neg hb] at h
        cases h

/-! ### values -/

theorem readItems_all {item : Reader α} {P : α → Prop}
    (hP : ∀ t (r : Read α t), item t = .ok r → P r.value) {acc : List α} (hacc : ∀ v ∈ acc, P v)
    {hs : s.length ≤ s₀.length} {p : { p : List α × List UInt8 // p.2.length ≤ s₀.length }}
    (h : readItems item acc s hs = .ok p) : ∀ v ∈ p.1.1, P v := by
  fun_induction readItems item acc s hs with
  | case2 acc s hs _ t h' hclose =>
    cases h
    exact fun v hv => hacc v (List.mem_reverse.mp hv)
  | case4 acc s hs t ht _ v after h' hv _ ih =>
    exact ih (List.forall_mem_cons.mpr ⟨hP t ⟨v, after, h'⟩ hv, hacc⟩) h
  | _ => cases h

/-- Where a value that was read came from. -/
inductive Origin (d : Nat) : Json → Prop
  | null : Origin d .null
  | flag (b : Bool) : Origin d (.flag b)
  | number {negative : Bool} {t : List UInt8} {r : Read Number t}
    (h : scanNumber negative t = .ok r) : Origin d r.value.toJson
  | text (s : String) : Origin d (.text s)
  | list {d' : Nat} {t : List UInt8} {p : { p : List Json × List UInt8 // p.2.length ≤ t.length }}
    (hd : d = d' + 1) (h : readItems (readValue d') [] t Shorter.same = .ok p) :
    Origin d (.list p.1.1)
  | object {d' : Nat} {t : List UInt8}
    {p : { p : Properties × List UInt8 // p.2.length ≤ t.length }} (hd : d = d' + 1)
    (h : readMembers (readValue d') true [] t Shorter.same = .ok p) : Origin d (.object p.1.1)

theorem origin_of_readValue {d : Nat} {r : Read Json s} (h : readValue d s = .ok r) :
    Origin d r.value := by
  rw [readValue] at h
  cases ha : ahead s with
  | none => rw [ha] at h; cases h
  | some front =>
    obtain ⟨b, rest, hrest⟩ := front
    rw [ha] at h
    obtain ⟨r', hread, rfl⟩ := map_ok h
    show Origin d r'.value
    split_ifs at hread with hn ht hf hminus hdigit hquote hlist hobject
    · rw [readWord_value hread]
      exact .null
    · rw [readWord_value hread]
      exact .flag true
    · rw [readWord_value hread]
      exact .flag false
    · obtain ⟨x, hscan, rfl⟩ := map_ok hread
      exact .number hscan
    · obtain ⟨x, hscan, rfl⟩ := map_ok hread
      exact .number hscan
    · obtain ⟨x, hscan, rfl⟩ := map_ok hread
      exact .text x.value
    · cases d with
      | zero => cases hread
      | succ d =>
        obtain ⟨p, hitems, rfl⟩ := map_ok hread
        exact .list rfl hitems
    · cases d with
      | zero => cases hread
      | succ d =>
        obtain ⟨p, hmembers, rfl⟩ := map_ok hread
        exact .object rfl hmembers

/-- An object whose members were read one by one is in order, and so is each value in it. -/
theorem regular_insert {d : Nat} {ms : Properties} {name : String} {v : Json}
    (hms : Members.Sorted ms ∧ ∀ m ∈ ms, Regular d m.2) (hv : Regular d v) :
    Members.Sorted (Members.insert name v ms) ∧ ∀ m ∈ Members.insert name v ms, Regular d m.2 := by
  obtain ⟨hsorted, hall⟩ := hms
  refine ⟨hsorted.insert name v, fun m hm => ?_⟩
  rcases Members.mem_insert hm with rfl | hm
  · exact hv
  · exact hall m hm

theorem regular_members {d : Nat}
    (hvalue : ∀ t (r : Read Json t), readValue d t = .ok r → Regular d r.value) {first : Bool}
    {hs : s.length ≤ s₀.length} {p : { p : Properties × List UInt8 // p.2.length ≤ s₀.length }}
    (h : readMembers (readValue d) first [] s hs = .ok p) : Regular (d + 1) (.object p.1.1) := by
  have hkeep := readMembers_keeps (P := fun ms => Members.Sorted ms ∧ ∀ m ∈ ms, Regular d m.2)
    (fun ms name t r hr hms => regular_insert hms (hvalue t r hr))
    ⟨Members.sorted_nil, fun m hm => nomatch hm⟩ h
  exact .object hkeep.1 hkeep.2

/-- **Whatever text a value was read from, it is one that can be written.** -/
theorem readValue_regular {d : Nat} {r : Read Json s} (h : readValue d s = .ok r) :
    Regular d r.value := by
  -- what stands inside brackets is read with one bracket less to open
  induction d using Nat.strongRecOn generalizing s r with
  | ind d ih =>
    generalize hv : r.value = v
    have horigin := origin_of_readValue h
    rw [hv] at horigin
    cases horigin with
    | null => exact .null
    | flag b => exact .flag b
    | @number _ _ x hscan =>
      have hfits := scanNumber_fits hscan
      cases hx : x.value with
      | whole n =>
        rw [hx] at hfits
        exact .whole hfits
      | real y => exact .real y
    | text s => exact .text s
    | list hd hitems =>
      subst hd
      refine .list (readItems_all (fun t r hr => ih _ (Nat.lt_succ_self _) hr) ?_ hitems)
      exact fun v hv => nomatch hv
    | object hd hmembers =>
      subst hd
      exact regular_members (fun t r hr => ih _ (Nat.lt_succ_self _) hr) hmembers

theorem readMap_regular {d : Nat} {r : Read Properties s} (h : readMap d readValue s = .ok r) :
    Regular d (.object r.value) := by
  revert h
  fun_cases readMap d readValue s with
  | case3 rest _ d =>
    intro h
    obtain ⟨p, hp, rfl⟩ := map_ok h
    exact regular_members (fun t r hr => readValue_regular hr) hp
  | _ =>
    intro h
    cases h

end TelemetryGate.Json
