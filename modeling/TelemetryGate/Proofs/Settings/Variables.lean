import TelemetryGate.Proofs.Decimal
import TelemetryGate.Proofs.Settings.Load

/-!
# Texts from variables

What a variable holds is read as a flag or a number where it reads as one, and a field that wants a
text gets it written back. A text comes through unchanged only if it is spelled as it would be
written; a file that gives a text is taken at its word.

* `Kept`, `toText_iff_kept`       the texts that come through a variable;
* `Settings.textFields`           the texts of the sections;
* `Settings.given_variable`       a variable for one of them is above all else that is said of it;
* `Settings.overridden`           what is loaded then.
-/

namespace TelemetryGate

/-! ### what comes through a variable -/

/-- The words that say yes or no in a variable. -/
def flagWords : List String := ["true", "false"]

/-- A text that a variable can hold and a field that wants a text gets back as it was. -/
inductive Kept : String → Prop
  | flag {v : String} (h : v ∈ flagWords) : Kept v
  | whole {n : Int} (h : Word.isSigned n = true) : Kept (toString n)
  /-- a number that is no whole number in a signed word, in the spelling in which it is written -/
  | real {v : String} (hflag : Text.lower v ∉ flagWords)
    (hwhole : ∀ n, Decimal.readWhole? v.toList = some n → Word.isSigned n = false) {x : Float}
    (h : Decimal.readReal? v.toList = some x) (hv : Decimal.plainForm.write x = v) : Kept v
  | text {v : String} (hflag : Text.lower v ∉ flagWords)
    (hwhole : Decimal.readWhole? v.toList = none) (hreal : Decimal.readReal? v.toList = none) :
    Kept v

/-- A text whose first letter is that of no such word is none, in whatever case. -/
theorem lower_not_flag {v : String} {c : Char} {cs : List Char} (hv : v.toList = c :: cs)
    (hc : c.toNat < 128) (ht : c.toLower ≠ 't') (hf : c.toLower ≠ 'f') :
    Text.lower v ∉ flagWords := by
  intro hmem
  have hsigma : c ≠ 'Σ' := by
    rintro rfl
    exact absurd hc (by decide)
  have hlist : (Text.lower v).toList =
      c.toLower :: Text.lowerFrom (Text.endsInCased false c) cs := by
    rw [Text.lower, String.toList_ofList, hv, Text.lowerFrom, if_neg hsigma, Text.lowerChar,
      if_pos hc]
    rfl
  rcases List.mem_pair.mp hmem with h | h
  · rw [h] at hlist
    exact ht (List.cons.inj hlist).1.symm
  · rw [h] at hlist
    exact hf (List.cons.inj hlist).1.symm

theorem lower_toString (n : Int) : Text.lower (toString n) ∉ flagWords := by
  rcases Decimal.toList_toString n with ⟨htext, _⟩ | ⟨htext, _⟩
  · have hdigits : Nat.toDigits 10 n.natAbs ≠ [] := Nat.toDigits_ne_nil
    obtain ⟨c, cs, hcs⟩ := List.exists_cons_of_ne_nil hdigits
    have hc : c.isDigit = true := Json.isDigit_of_mem (hcs ▸ List.mem_cons_self)
    have hnine := (Char.isDigit_iff_toNat.mp hc).2
    have hlower : c.toLower = c := by
      have hnot : ¬ (c.val ≥ 'A'.val ∧ c.val ≤ 'Z'.val) := fun h => by
        have hA : 'A'.toNat ≤ c.toNat := UInt32.le_iff_toNat_le.mp h.1
        exact absurd (hA.trans hnine) (by decide)
      exact dif_neg hnot
    refine lower_not_flag (htext.trans hcs) (Nat.lt_of_le_of_lt hnine (by decide)) ?_ ?_
    · rw [hlower]
      exact Decimal.digit_ne hc (by decide)
    · rw [hlower]
      exact Decimal.digit_ne hc (by decide)
  · exact lower_not_flag htext (by decide) (by decide) (by decide)

/-- Every text that a variable can hold can be written back. -/
theorem toText_ofVariable (v : String) (origin : Option String) :
    ∃ x, (Setting.single (.ofVariable v) origin).toText = .ok x := by
  cases hv : Scalar.ofVariable v with
  | nothing =>
    revert hv
    fun_cases Scalar.ofVariable v with
    | _ => exact nofun
  | flag b => exact ⟨_, rfl⟩
  | whole n => exact ⟨_, rfl⟩
  | real x => exact ⟨_, rfl⟩
  | text s => exact ⟨_, rfl⟩

/-- **What comes back of a variable is what it holds, for the texts that are kept and no
others.** -/
theorem toText_iff_kept (v : String) (origin : Option String) :
    (Setting.single (.ofVariable v) origin).toText = .ok v ↔ Kept v := by
  constructor
  · have hflag : Text.lower v ≠ "true" → Text.lower v ≠ "false" → Text.lower v ∉ flagWords := by
      intro ht hf hmem
      rcases List.mem_pair.mp hmem with h | h
      · exact ht h
      · exact hf h
    fun_cases Scalar.ofVariable v with
    | case1 word h =>
      rintro ⟨rfl⟩
      exact .flag (by decide)
    | case2 word h h' =>
      rintro ⟨rfl⟩
      exact .flag (by decide)
    | case3 word ht hf n hn hsigned =>
      intro heq
      rw [← Except.ok.inj heq]
      exact .whole hsigned
    | case4 word ht hf n hn hsigned =>
      intro heq
      obtain ⟨x, hx⟩ := Decimal.readReal?_of_readWhole? hn
      rw [hx] at heq
      refine .real (hflag ht hf) (fun m hm => ?_) hx (Except.ok.inj heq)
      rw [hn] at hm
      rw [← Option.some.inj hm]
      exact Bool.eq_false_iff.mpr hsigned
    | case5 word ht hf hn x hx =>
      intro heq
      refine .real (hflag ht hf) (fun m hm => ?_) hx (Except.ok.inj heq)
      rw [hn] at hm
      cases hm
    | case6 word ht hf hn hx =>
      intro _
      exact .text (hflag ht hf) hn hx
  · have hflag : Text.lower v ∉ flagWords → Text.lower v ≠ "true" ∧ Text.lower v ≠ "false" :=
      fun h => ⟨fun e => h (e ▸ by decide), fun e => h (e ▸ by decide)⟩
    intro h
    unfold Scalar.ofVariable
    dsimp only
    cases h with
    | flag h =>
      rcases List.mem_pair.mp h with rfl | rfl
      · rfl
      · rfl
    | @whole n h =>
      obtain ⟨ht, hf⟩ := hflag (lower_toString n)
      rw [if_neg ht, if_neg hf, Decimal.readWhole?_toString]
      dsimp only
      rw [if_pos h]
      rfl
    | @real _ hwords hwhole x h hv =>
      obtain ⟨ht, hf⟩ := hflag hwords
      rw [if_neg ht, if_neg hf, h]
      cases hn : Decimal.readWhole? v.toList with
      | none => exact congrArg Except.ok hv
      | some n =>
        dsimp only
        rw [if_neg (by rw [hwhole n hn]; decide)]
        exact congrArg Except.ok hv
    | text hwords hwhole hreal =>
      obtain ⟨ht, hf⟩ := hflag hwords
      rw [if_neg ht, if_neg hf, hwhole, hreal]
      rfl

/-- The text that a setting is, if it is one. -/
def Setting.text? : Setting → Option String
  | .single (.text v) _ => some v
  | _ => none

theorem Setting.text?_eq_some {x : Setting} {v : String} (h : x.text? = some v) :
    ∃ origin, x = .single (.text v) origin := by
  revert h
  fun_cases text? x with
  | case1 w origin =>
    intro h
    cases h
    exact ⟨origin, rfl⟩
  | case2 =>
    intro h
    cases h

/-! ### fields that are texts -/

/-- A text in a section of the settings, and what settings hold there. -/
structure TextField where
  part : String
  name : String
  get : Settings → String

namespace TextField

def field (t : TextField) : Field := ⟨[t.part, t.name], .text, t.get⟩

/-- The variable that gives it, in lower case. -/
def variableName (t : TextField) : String := variablePrefix ++ t.part ++ "__" ++ t.name

end TextField

namespace Settings

/-- The texts of the sections for the sink and the host. -/
def textFields : List TextField :=
  [⟨"telemetry", "write_key", fun s => s.sink.writeKey⟩,
    ⟨"telemetry", "dataplane_url", fun s => s.sink.dataplaneUrl⟩,
    ⟨"telemetry", "build_hash", fun s => s.sink.buildHash⟩,
    ⟨"telemetry", "plugin_version", fun s => s.sink.pluginVersion⟩,
    ⟨"host", "diagnostic_id", fun s => s.host.diagnosticId⟩,
    ⟨"host", "server_version", fun s => s.host.serverVersion⟩]

theorem field_mem {t : TextField} (ht : t ∈ textFields) : t.field ∈ fields := by
  simp only [textFields, List.mem_cons, List.not_mem_nil, or_false] at ht
  rcases ht with rfl | rfl | rfl | rfl | rfl | rfl
  all_goals simp [fields, TextField.field]

theorem variableName_way : ∀ t ∈ textFields,
    variablePrefix.toList.isPrefixOf t.variableName.toList = true ∧
      Layer.way? (String.ofList (dotted (t.variableName.toList.drop variablePrefix.length))) =
        some t.field.way := by decide +kernel

end Settings

/-! ### a variable more -/

theorem Layer.given?_append (way : List String) (layer layer' : Layer) :
    (layer ++ layer').given? way = (layer'.given? way).or (layer.given? way) := by
  unfold given? leaves
  rw [List.flatMap_append, Leaf.last?_append]

theorem Layer.fits_append {layer layer' : Layer} :
    (layer ++ layer').Fits ↔ layer.Fits ∧ layer'.Fits := by
  unfold Fits leaves
  rw [List.flatMap_append]
  exact List.forall_mem_append

/-- A variable among others. -/
def Environment.among (before after : Environment) (name value : String) : Environment :=
  before ++ (name, value) :: after

theorem Layer.ofEnvironment_append (env env' : Environment) :
    ofEnvironment (env ++ env') = ofEnvironment env ++ ofEnvironment env' := List.filterMap_append

theorem Layer.ofEnvironment_among (before after : Environment) (name value : String) :
    ofEnvironment (before.among after name value) =
      ofEnvironment before ++ (ofEnvironment [(name, value)] ++ ofEnvironment after) := by
  rw [← ofEnvironment_append, ← ofEnvironment_append]
  rfl

namespace Settings

section
variable {t : TextField} (ht : t ∈ textFields) {name : String}
  (hname : Text.lower name = t.variableName) {before after : Environment}
include ht hname

/-- The variable gives its text to the field and nothing else. -/
theorem leaves_variable (v : String) :
    (Layer.ofEnvironment [(name, v)]).leaves =
      [⟨t.field.way, .single (.ofVariable v) (some variableOrigin)⟩] := by
  obtain ⟨hfront, hway⟩ := variableName_way t ht
  have hsetting : settingOfVariable? (name, v) =
      some (String.ofList (dotted (t.variableName.toList.drop variablePrefix.length)),
        .single (.ofVariable v) (some variableOrigin)) := by
    unfold settingOfVariable?
    dsimp only
    rw [hname, if_pos hfront]
  have hlayer : Layer.ofEnvironment [(name, v)] =
      [(String.ofList (dotted (t.variableName.toList.drop variablePrefix.length)),
        .single (.ofVariable v) (some variableOrigin))] := by
    unfold Layer.ofEnvironment
    rw [List.filterMap_cons_some hsetting, List.filterMap_nil]
  rw [hlayer, Layer.leaves, List.flatMap_singleton]
  dsimp only
  rw [hway]
  exact congrArg (fun way => [Leaf.mk way _]) (List.append_nil _)

/-- The variable has the last word on the field if none after it says anything of that. -/
theorem given_variable (hafter : (Layer.ofEnvironment after).given? t.field.way = none)
    (v : String) : (Layer.ofEnvironment (before.among after name v)).given? t.field.way =
      some (.single (.ofVariable v) (some variableOrigin)) := by
  have hone : (Layer.ofEnvironment [(name, v)]).given? t.field.way =
      some (.single (.ofVariable v) (some variableOrigin)) := by
    unfold Layer.given?
    rw [leaves_variable ht hname, Leaf.last?_singleton, if_pos rfl]
  rw [Layer.ofEnvironment_among, Layer.given?_append, Layer.given?_append, hafter,
    Option.none_or, hone]
  rfl

/-- It says nothing of anything else. -/
theorem given_beside {way : List String} (hway : way ≠ t.field.way) (v : String) :
    (Layer.ofEnvironment (before.among after name v)).given? way =
      (Layer.ofEnvironment (before ++ after)).given? way := by
  have hone : (Layer.ofEnvironment [(name, v)]).given? way = none := by
    unfold Layer.given?
    rw [leaves_variable ht hname, Leaf.last?_singleton, if_neg hway.symm]
  rw [Layer.ofEnvironment_among, Layer.ofEnvironment_append, Layer.given?_append,
    Layer.given?_append, Layer.given?_append, hone, Option.or_none]

theorem fits_among (h : (Layer.ofEnvironment (before ++ after)).Fits) (v : String) :
    (Layer.ofEnvironment (before.among after name v)).Fits := by
  rw [Layer.ofEnvironment_append] at h
  obtain ⟨hbefore, hafter⟩ := Layer.fits_append.mp h
  obtain ⟨x, hx⟩ := toText_ofVariable v (some variableOrigin)
  have hone : (Layer.ofEnvironment [(name, v)]).Fits := by
    intro l hl
    rw [leaves_variable ht hname, List.mem_singleton] at hl
    rw [hl]
    exact .field (field_mem ht) hx
  rw [Layer.ofEnvironment_among]
  exact Layer.fits_append.mpr ⟨hbefore, Layer.fits_append.mpr ⟨hone, hafter⟩⟩

/-- It does not tell where files are. -/
theorem globalFile?_among (s : Surroundings) (v : String) :
    globalFile? { s with environment := before.among after name v } =
      globalFile? { s with environment := before ++ after } := by
  have hother : ∀ t ∈ textFields, Text.lower "XDG_CONFIG_HOME" ≠ t.variableName ∧
      Text.lower "HOME" ≠ t.variableName := by decide +kernel
  obtain ⟨hconfig, hhome⟩ := hother t ht
  have hget : ∀ n, Text.lower n ≠ t.variableName →
      (before.among after name v).get? n = Environment.get? (before ++ after) n := by
    intro n hn
    have hne : (n == name) = false := beq_false_of_ne fun e => hn (e ▸ hname)
    unfold Environment.among Environment.get?
    rw [List.lookup_append, List.lookup_append, List.lookup_cons, hne]
  unfold globalFile? globalPath? Surroundings.directory? Surroundings.home?
  rw [hget _ hconfig, hget _ hhome]

/-- With the variable there is another layer in the place of the highest. -/
theorem given_among {s : Surroundings} {path : Option Path} {layers : List Layer}
    (h : Given { s with environment := before ++ after } path layers) (v : String) :
    ∃ rest, layers = Layer.ofEnvironment (before ++ after) :: rest ∧
      Given { s with environment := before.among after name v } path
        (Layer.ofEnvironment (before.among after name v) :: rest) := by
  obtain ⟨user, named, huser, hnamed, rfl, hfits⟩ := h
  obtain ⟨henvironment, hrest⟩ := List.forall_mem_cons.mp hfits
  refine ⟨[named, user], rfl, user, named, ?_, hnamed, rfl, List.forall_mem_cons.mpr ⟨?_, hrest⟩⟩
  · unfold globalLayer at huser ⊢
    rwa [globalFile?_among ht hname]
  · exact fits_among ht hname henvironment v

end

/-- **A variable for a text of a section, among others that settings can take, and none after it
that says anything of that text: the settings are loaded, the text is what comes back of the value,
which is the value itself if that is kept and only then, and the other fields are what they are
without the variable. Where no variable says anything of the text, what a file gives as a text is
taken as it stands, whatever it reads as.** -/
theorem overridden : ∀ t ∈ textFields,
    (∀ name before after (s : Surroundings) path layers v, Text.lower name = t.variableName →
      (Layer.ofEnvironment after).given? t.field.way = none →
      Given { s with environment := before ++ after } path layers →
      ∃ settings, load { s with environment := before.among after name v } path = .ok settings ∧
        (Setting.single (.ofVariable v) (some variableOrigin)).toText = .ok (t.get settings) ∧
        (t.get settings = v ↔ Kept v) ∧
        ∀ settings', load { s with environment := before ++ after } path = .ok settings' →
          ∀ f ∈ fields, f.way ≠ t.field.way → f.get settings = f.get settings') ∧
    ∀ s file named layers v origin, Given s (some file) layers → fileLayer s file = .ok named →
      (Layer.ofEnvironment s.environment).given? t.field.way = none →
      named.given? t.field.way = some (.single (.text v) origin) →
      ∃ settings, load s (some file) = .ok settings ∧ t.get settings = v := by
  intro t ht
  have hfield := field_mem ht
  constructor
  · intro name before after s path layers v hname hafter h
    obtain ⟨rest, rfl, h'⟩ := given_among ht hname h v
    obtain ⟨settings, hload, hfrom⟩ := load_ok h'
    have hsaid : (Layer.ofEnvironment (before.among after name v)).given? t.field.way =
        some (.single (.ofVariable v) (some variableOrigin)) := given_variable ht hname hafter v
    have hshows : (Setting.single (.ofVariable v) (some variableOrigin)).toText =
        .ok (t.get settings) := by
      have hhighest := hfrom.field t.field hfield
      rwa [Layer.highest?, List.findSome?_cons, hsaid] at hhighest
    refine ⟨settings, hload, hshows, ?_, fun settings' hload' f hf hway => ?_⟩
    · rw [← toText_iff_kept v (some variableOrigin), hshows]
      exact ⟨congrArg Except.ok, Except.ok.inj⟩
    · obtain ⟨_, hload'', hfrom'⟩ := load_ok h
      cases hload'.symm.trans hload''
      refine hfrom.field_eq hfrom' hf ?_
      rw [List.map_cons, List.map_cons, given_beside ht hname hway]
  · intro s file named layers v origin h hnamed hno hsaid
    obtain ⟨settings, hload, hfrom⟩ := load_ok h
    obtain ⟨user, named', huser, hnamed', rfl, _⟩ := h
    cases hnamed.symm.trans hnamed'
    have hhighest := hfrom.field t.field hfield
    rw [Layer.highest?, List.findSome?_cons, hno] at hhighest
    dsimp only at hhighest
    rw [List.findSome?_cons, hsaid] at hhighest
    exact ⟨settings, hload, (Except.ok.inj hhighest).symm⟩

/-- A host where the user has no file, and a file that gives a key with zeros in front. -/
def keyed (environment : Environment) : Surroundings where
  files :=
    { home := ["w"]
      entries :=
        [(["w"], .directory),
          (["w", "c.json"],
            .file (Utf8.encode "\x7b\"telemetry\":\x7b\"write_key\":\"007\"\x7d\x7d"))] }
  environment

theorem overridden_zeros :
    (∃ settings, load (keyed [("CALLS_TELEMETRY__TELEMETRY__WRITE_KEY", "007")])
        (some "c.json") = .ok settings ∧ settings.sink.writeKey = "7") ∧
      ∃ settings, load (keyed []) (some "c.json") = .ok settings ∧
        settings.sink.writeKey = "007" := by
  have huser : ∃ user, globalLayer (keyed []) = .ok user ∧ user.Fits :=
    exists_ok (by decide +kernel)
  have hnamed : ∃ named, fileLayer (keyed []) "c.json" = .ok named ∧ named.Fits ∧
      (named.given? ["telemetry", "write_key"]).bind Setting.text? = some "007" :=
    exists_ok (by decide +kernel)
  obtain ⟨user, huser, huserFits⟩ := huser
  obtain ⟨named, hnamed, hnamedFits, hkey⟩ := hnamed
  have hgiven : Given (keyed []) (some "c.json") [Layer.ofEnvironment [], named, user] := by
    refine ⟨user, named, huser, hnamed, rfl, fun layer hlayer => ?_⟩
    simp only [List.mem_cons, List.not_mem_nil, or_false] at hlayer
    rcases hlayer with rfl | rfl | rfl
    · exact List.forall_mem_nil _
    · exact hnamedFits
    · exact huserFits
  obtain ⟨hvariable, hfile⟩ := overridden textFields[0] List.mem_cons_self
  constructor
  · obtain ⟨settings, hload, hshows, _⟩ := hvariable "CALLS_TELEMETRY__TELEMETRY__WRITE_KEY" [] []
      (keyed []) (some "c.json") _ "007" (by decide +kernel) rfl hgiven
    have hseven : ∃ x, (Setting.single (.ofVariable "007") (some variableOrigin)).toText = .ok x ∧
        x = "7" := exists_ok (by decide +kernel)
    obtain ⟨_, hseven, rfl⟩ := hseven
    exact ⟨settings, hload, Except.ok.inj (hshows.symm.trans hseven)⟩
  · obtain ⟨x, hsaid, htext⟩ := Option.bind_eq_some_iff.mp hkey
    obtain ⟨origin, rfl⟩ := Setting.text?_eq_some htext
    exact hfile _ _ _ _ "007" origin hgiven hnamed rfl hsaid

/-- **A key of digits loses the zeros in front of it in a variable, but not in a file.** -/
theorem zeros_lost :
    (∃ settings, load (keyed [("CALLS_TELEMETRY__TELEMETRY__WRITE_KEY", "007")]) none =
        .ok settings ∧ settings.sink.writeKey ≠ "007") ∧
      ∃ settings, load (keyed []) (some "c.json") = .ok settings ∧
        settings.sink.writeKey = "007" :=
  ⟨exists_ok (by decide +kernel), exists_ok (by decide +kernel)⟩

end Settings

end TelemetryGate
