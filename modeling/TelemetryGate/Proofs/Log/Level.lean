import TelemetryGate.Log.Filter
import TelemetryGate.Proofs.Decimal
import TelemetryGate.Proofs.Setting.Record

/-!
# What a level lets pass

A limit is spelled in letters or in digits, so it is one directive of a list, and that directive
gives way to every other that concerns a record.

* `Limit.isAlphanum_of_ofText?`     a limit is spelled in letters or digits;
* `Directive.parse_of_isAlphanum`   such a text is a directive: a level or a target;
* `LogFilter.ofLevel_of_limit`      the filter that a limit makes, with nothing said on the way;
* `LogFilter.ofModules_eq_ok`       the directives of modules come after those that are there;
* `LogFilter.admits_cons`           a limit decides about records that nothing else concerns.
-/

namespace TelemetryGate

/-! ### letters and digits -/

theorem Text.isAlphanum_cases {c : Char} (h : c.isAlphanum = true) :
    c.isUpper = true ∨ c.isLower = true ∨ c.isDigit = true := by
  have h : (c.isUpper || c.isLower || c.isDigit) = true := h
  rwa [Bool.or_eq_true, Bool.or_eq_true, or_assoc] at h

theorem Text.range_of_isAlphanum {c : Char} (h : c.isAlphanum = true) :
    (65 ≤ c.toNat ∧ c.toNat ≤ 90) ∨ (97 ≤ c.toNat ∧ c.toNat ≤ 122) ∨
      (48 ≤ c.toNat ∧ c.toNat ≤ 57) := by
  rcases Text.isAlphanum_cases h with h | h | h
  · exact .inl (of_decide_eq_true h)
  · obtain ⟨hlow, hhigh⟩ := Bool.and_eq_true_iff.mp h
    exact .inr (.inl ⟨of_decide_eq_true hlow, of_decide_eq_true hhigh⟩)
  · obtain ⟨hlow, hhigh⟩ := Bool.and_eq_true_iff.mp h
    exact .inr (.inr ⟨of_decide_eq_true hlow, of_decide_eq_true hhigh⟩)

/-- A letter or digit is no blank and none of the marks between the parts of a directive. -/
theorem Text.marks_of_isAlphanum {c : Char} (h : c.isAlphanum = true) :
    c.toNat < 128 ∧ isBlank c = false ∧ c ∉ ['=', '[', ','] := by
  have hrange := Text.range_of_isAlphanum h
  refine ⟨by omega, ?_, ?_⟩
  · unfold isBlank
    simp only [Bool.or_eq_false_iff, Bool.and_eq_false_iff, decide_eq_false_iff_not]
    omega
  · simp only [List.mem_cons, List.not_mem_nil, or_false]
    rintro (rfl | rfl | rfl) <;> revert hrange <;> decide

/-- A text without blanks is trimmed. -/
theorem Text.trim_eq_self {s : String} (h : ∀ c ∈ s.toList, isBlank c = false) : trim s = s := by
  have hkeep : ∀ cs : List Char, (∀ c ∈ cs, isBlank c = false) → cs.dropWhile isBlank = cs := by
    intro cs hcs
    refine List.dropWhile_eq_self_iff.mpr fun hl => ?_
    rw [hcs _ (List.getElem_mem hl)]
    exact Bool.false_ne_true
  rw [trim, hkeep _ h, hkeep _ fun c hc => h c (List.mem_reverse.mp hc), List.reverse_reverse,
    String.ofList_toList]

theorem Text.isAlphanum_of_toLower {c : Char} (h : c.toLower.isLower = true) :
    c.isAlphanum = true := by
  show (c.isUpper || c.isLower || c.isDigit) = true
  rw [Bool.or_eq_true, Bool.or_eq_true]
  unfold Char.toLower at h
  split at h
  · next hupper =>
    have hcapital : c.isUpper = true := decide_eq_true hupper
    exact .inl (.inl hcapital)
  · exact .inl (.inr h)

/-! ### limits -/

namespace Limit

variable {s : String} {limit : Limit}

/-- A limit is spelled in letters or digits, with a plus before it at most. -/
theorem isAlphanum_of_ofText? (h : ofText? s = some limit) (hplus : s.toList.head? ≠ some '+') :
    s.toList ≠ [] ∧ ∀ c ∈ s.toList, c.isAlphanum = true := by
  have hdigits : dropPlus s.toList = s.toList := by
    unfold dropPlus
    split
    · next rest hs =>
      rw [hs] at hplus
      exact absurd rfl hplus
    · rfl
  rw [ofText?, hdigits] at h
  cases hread : Decimal.readDigits? s.toList with
  | some n =>
    refine ⟨?_, fun c hc => ?_⟩
    · intro hnil
      rw [hnil] at hread
      cases hread
    · rw [Char.isAlphanum, Decimal.isDigit_of_readDigits? hread c hc, Bool.or_true]
  | none =>
    rw [hread] at h
    obtain ⟨before, after, hnames, _⟩ := List.lookup_eq_some_iff.mp h
    have hmem : (s.map Char.toLower, limit) ∈ names := by
      rw [hnames]
      exact List.mem_append_right _ List.mem_cons_self
    have hall : names.all (fun m => !m.1.toList.isEmpty && m.1.toList.all Char.isLower) = true := by
      decide
    have hname := List.all_eq_true.mp hall _ hmem
    dsimp only at hname
    rw [Bool.and_eq_true, String.toList_map, List.all_eq_true] at hname
    obtain ⟨hfull, hlower⟩ := hname
    refine ⟨fun hnil => ?_, fun c hc => ?_⟩
    · rw [hnil] at hfull
      cases hfull
    · exact Text.isAlphanum_of_toLower (hlower _ (List.mem_map_of_mem hc))

end Limit

/-! ### directives -/

namespace Directive

theorem map_placed (n : Nat) (cs : List Char) : (placed n cs).map Prod.snd = cs := by
  induction cs generalizing n with
  | nil => rfl
  | cons c cs ih => rw [placed, List.map_cons, ih]

theorem startsWord_of_isAlphanum {c : Char} (h : c.isAlphanum = true) : startsWord c = true := by
  have halpha : Text.isAlphanumeric c = true := by
    rw [Text.isAlphanumeric, if_pos (Text.marks_of_isAlphanum h).1]
    exact h
  rw [startsWord, halpha, Bool.or_true]

theorem readWord_of_isAlphanum {s : String} (h : ∀ c ∈ s.toList, c.isAlphanum = true) :
    readWord (Utf8.encode s) (placed 0 s.toList) = .ok (ofWord s) := by
  have hmark : fromMark ['=', '[', ','] (placed 0 s.toList) = [] := by
    refine List.dropWhile_eq_nil_iff.mpr fun p hp => ?_
    have hp : p.2 ∈ s.toList := by
      rw [← map_placed 0 s.toList]
      exact List.mem_map_of_mem hp
    have hnone := (Text.marks_of_isAlphanum (h _ hp)).2.2
    simpa using hnone
  have hpiece : piece (Utf8.encode s) 0 none = s := by
    rw [piece, Option.elim_none, List.drop_zero, Utf8.decodeLossy, Utf8.decode?_encode]
  rw [readWord, hmark]
  dsimp only
  rw [hpiece]

/-- A text of letters and digits is a level, or a target if it is none. -/
theorem parse_of_isAlphanum {s : String} (hne : s.toList ≠ [])
    (hall : ∀ c ∈ s.toList, c.isAlphanum = true) : parse s = .ok (ofWord s) := by
  have htrim : Text.trim s = s :=
    Text.trim_eq_self fun c hc => (Text.marks_of_isAlphanum (hall c hc)).2.1
  have hword := readWord_of_isAlphanum hall
  unfold parse
  dsimp only
  rw [htrim]
  revert hword
  cases hs : s.toList with
  | nil => exact absurd hs hne
  | cons c cs =>
    intro hword
    have hc : c.isAlphanum = true := hall c (hs ▸ List.mem_cons_self)
    rw [placed] at hword ⊢
    split
    · next h => cases h
    · next h =>
      cases h
      exact absurd hc (by decide)
    · next h =>
      cases h
      rw [if_pos (startsWord_of_isAlphanum hc)]
      exact hword

theorem parse_of_limit {s : String} {limit : Limit} (h : Limit.ofText? s = some limit)
    (hplus : s.toList.head? ≠ some '+') : parse s = .ok { limit } := by
  obtain ⟨hne, hall⟩ := Limit.isAlphanum_of_ofText? h hplus
  rw [parse_of_isAlphanum hne hall, ofWord, h]

/-- Every directive is as specific as one that is a limit alone. -/
theorem orUpTo_limit (limit : Limit) (d : Directive) :
    ({ limit } : Directive).orUpTo d = true := by
  have hreach : ({ limit } : Directive).reach = 0 := rfl
  unfold orUpTo
  rw [hreach]
  split
  · next h => exact decide_eq_true (Nat.pos_of_ne_zero (Ne.symm h))
  · split
    · next h => exact decide_eq_true (Nat.pos_of_ne_zero (Ne.symm h))
    · exact congrArg Bool.not List.lex_nil

end Directive

/-! ### filters -/

namespace LogFilter

variable {s : String} {limit : Limit}

theorem parts_of_isAlphanum (hne : s.toList ≠ []) (hall : ∀ c ∈ s.toList, c.isAlphanum = true) :
    parts s = [s] := by
  have hcomma : ',' ∉ s.toList := fun hc => absurd (hall _ hc) (by decide)
  have hfull : s.toList.isEmpty = false := List.isEmpty_eq_false_iff.mpr hne
  rw [parts, List.splitOn_eq_singleton hcomma, List.filter_singleton, hfull]
  show [String.ofList s.toList] = [s]
  rw [String.ofList_toList]

/-- A level that spells a limit makes the filter of that limit, and there is nothing to say. -/
theorem ofLevel_of_limit (h : Limit.ofText? s = some limit)
    (hplus : s.toList.head? ≠ some '+') : ofLevel s = (⟨[{ limit }]⟩, []) := by
  obtain ⟨hne, hall⟩ := Limit.isAlphanum_of_ofText? h hplus
  unfold ofLevel
  rw [parts_of_isAlphanum hne hall]
  simp only [List.filterMap_cons, List.filterMap_nil, Directive.parse_of_limit h hplus]
  rfl

theorem extend_eq_ok {texts : List String} {f f' : LogFilter} (h : f.extend texts = .ok f') :
    ∃ ds, texts.mapM Directive.parse = .ok ds ∧ f' = ⟨f.directives ++ ds⟩ := by
  unfold extend at h
  cases hds : texts.mapM Directive.parse with
  | error e =>
    rw [hds] at h
    cases h
  | ok ds =>
    rw [hds] at h
    cases h
    exact ⟨ds, rfl, rfl⟩

/-- The texts of the directives of modules: those of the settings, then those of the variable. -/
def allModuleTexts (t : Members.Traversal String) (settings : LogSettings) (env : Environment) :
    List String :=
  (t.visit settings.modules).map (fun m => m.1 ++ "=" ++ m.2) ++
    moduleTexts ((env.get? modulesVariable).getD "")

/-- With the directives of modules a filter has those that it had, and theirs after them. -/
theorem ofModules_eq_ok {t : Members.Traversal String} {settings : LogSettings} {env : Environment}
    {f f' : LogFilter} (h : ofModules t settings env f = .ok f') :
    ∃ ds, (allModuleTexts t settings env).mapM Directive.parse = .ok ds ∧
      f' = ⟨f.directives ++ ds⟩ := by
  unfold ofModules at h
  split at h
  · cases h
  · next between hsettings =>
    obtain ⟨ds, hds, rfl⟩ := extend_eq_ok hsettings
    obtain ⟨ds', hds', rfl⟩ := extend_eq_ok (Setting.mapError_eq_ok.mp h)
    refine ⟨ds ++ ds', ?_, ?_⟩
    · rw [allModuleTexts, List.mapM_append, hds, hds']
      rfl
    · rw [List.append_assoc]

theorem foldl_better (d : Directive) (ds : List Directive) :
    ∃ e, ds.foldl better (some d) = some e := by
  induction ds generalizing d with
  | nil => exact ⟨d, rfl⟩
  | cons e ds ih => exact ih _

/-- Another directive decides where one does, and else the limit. -/
theorem deciding?_cons (limit : Limit) (ds : List Directive) (r : LogRecord) :
    (⟨{ limit } :: ds⟩ : LogFilter).deciding? r =
      some (((⟨ds⟩ : LogFilter).deciding? r).getD { limit }) := by
  show ({ limit } :: ds.filter (·.concerns r)).foldl better none =
    some (((ds.filter (·.concerns r)).foldl better none).getD { limit })
  cases ds.filter (·.concerns r) with
  | nil => rfl
  | cons d rest =>
    have hfirst : better (some { limit }) d = some d :=
      congrArg some (if_pos (Directive.orUpTo_limit limit d))
    obtain ⟨e, he⟩ := foldl_better d rest
    calc List.foldl better none ({ limit } :: d :: rest)
        = rest.foldl better (better (some { limit }) d) := rfl
      _ = some e := by rw [hfirst, he]
      _ = some ((rest.foldl better (some d)).getD { limit }) := by rw [he]; rfl

/-- **A limit that goes before directives decides about the records that none of them concerns.** -/
theorem admits_cons (limit : Limit) (ds : List Directive) (r : LogRecord) :
    (⟨{ limit } :: ds⟩ : LogFilter).admits r =
      (((⟨ds⟩ : LogFilter).deciding? r).elim limit Directive.limit).admits r.level := by
  rw [admits, deciding?_cons]
  cases (⟨ds⟩ : LogFilter).deciding? r <;> rfl

end LogFilter

end TelemetryGate
