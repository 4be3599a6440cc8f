import TelemetryGate.Host
import TelemetryGate.Proofs.Json.Value

/-!
# Answers as text

An answer is written on one line, whatever it says, and read back from it.

* `OneLine`                  a text without a line feed;
* `Response.oneLine_encode`  the text of an answer is one;
* `Response.decode_encode`   an answer is read back from its text;
* `Response.listed`          answers on a line each are read back line by line.
-/

namespace TelemetryGate

/-! ### texts on one line -/

def OneLine (s : String) : Prop := '\n' ∉ s.toList

instance (s : String) : Decidable (OneLine s) := inferInstanceAs (Decidable ('\n' ∉ s.toList))

section
variable {s t : String}

theorem oneLine_append (hs : OneLine s) (ht : OneLine t) : OneLine (s ++ t) := by
  unfold OneLine
  rw [String.toList_append, List.mem_append]
  exact not_or.mpr ⟨hs, ht⟩

theorem oneLine_intercalate {texts : List String} (hs : OneLine s) (h : ∀ t ∈ texts, OneLine t) :
    OneLine (String.intercalate s texts) := by
  induction texts with
  | nil =>
    rw [String.intercalate_nil]
    exact List.not_mem_nil
  | cons t texts ih =>
    obtain ⟨ht, hrest⟩ := List.forall_mem_cons.mp h
    cases texts with
    | nil =>
      rw [String.intercalate_singleton]
      exact ht
    | cons t' texts =>
      rw [String.intercalate_cons_cons]
      exact oneLine_append (oneLine_append ht hs) (ih hrest)

theorem oneLine_toString (n : Nat) : OneLine (toString n) := by
  intro hmem
  have hdigits : '\n' ∈ Nat.toDigits 10 n := by rwa [← Nat.toList_repr]
  have hdigit := Json.isDigit_of_mem hdigits
  exact absurd hdigit (by decide)

end

namespace Json

theorem hexDigit_ne : ∀ n < 16, hexDigit n ≠ '\n' := by decide

/-- A line feed is among what is escaped, and stands in no escape. -/
theorem not_mem_escape (c : Char) : '\n' ∉ escape c := by
  by_cases hletter : c ∈ letters.map Prod.fst
  · have hall : ∀ p ∈ letters, '\n' ∉ escape p.1 := by decide
    obtain ⟨p, hp, rfl⟩ := List.mem_map.mp hletter
    exact hall p hp
  · simp only [letters, List.map_cons, List.map_nil, List.mem_cons, List.not_mem_nil, or_false,
      not_or] at hletter
    simp only [escape, hletter, if_false]
    by_cases hcontrol : c.toNat < 0x20
    · have hhigh := hexDigit_ne (c.toNat / 16) (by omega)
      have hlow := hexDigit_ne (c.toNat % 16) (by omega)
      rw [if_pos hcontrol]
      simp [hhigh.symm, hlow.symm]
    · rw [if_neg hcontrol, List.mem_singleton]
      rintro rfl
      exact hcontrol (by decide)

theorem oneLine_quote (s : String) : OneLine (quote s) := by
  have hescaped : OneLine (String.ofList (s.toList.flatMap escape)) := by
    unfold OneLine
    rw [String.toList_ofList, List.mem_flatMap]
    rintro ⟨c, _, hmem⟩
    exact not_mem_escape c hmem
  exact oneLine_append (oneLine_append (by decide) hescaped) (by decide)

theorem oneLine_record {ms : List (String × String)} (h : ∀ m ∈ ms, OneLine m.2) :
    OneLine (record ms) := by
  refine oneLine_append (oneLine_append (by decide) (oneLine_intercalate (by decide) ?_))
    (by decide)
  intro part hpart
  obtain ⟨m, hm, rfl⟩ := List.mem_map.mp hpart
  exact oneLine_append (oneLine_append (oneLine_quote m.1) (by decide)) (h m hm)

end Json

namespace Response

open Json

theorem oneLine_encode (r : Response) : OneLine r.encode := by
  refine oneLine_record fun m hm => ?_
  rw [List.mem_append, List.mem_append, List.mem_singleton, Option.mem_toList, Option.mem_toList,
    Option.map_eq_some_iff, Option.map_eq_some_iff] at hm
  rcases hm with (rfl | ⟨s, _, rfl⟩) | ⟨s, _, rfl⟩
  · exact oneLine_toString r.code
  · exact oneLine_quote s
  · exact oneLine_quote s

/-! ### read back -/

variable {r : Response}

theorem fills_err (given : List String) (hnew : given.contains "err" = false) :
    ∃ given', Fills (readKind (maxDepth - 1)) form given { r with err := none }
      ((r.err.map fun s => ("err", quote s)).toList.map
        fun m => memberBytes m.1 (Utf8.encode m.2)) given' r ∧ given ⊆ given' := by
  obtain ⟨code, msg, err⟩ := r
  cases err with
  | none => exact ⟨given, .nil, List.Subset.refl _⟩
  | some err =>
    exact ⟨_, .slot "err" rfl hnew (printed_present_text err) .nil, List.subset_cons_self _ _⟩

theorem fills_msg (given : List String) (hmsg : given.contains "msg" = false)
    (herr : given.contains "err" = false) :
    ∃ given', Fills (readKind (maxDepth - 1)) form given { r with msg := none, err := none }
      (((r.msg.map fun s => ("msg", quote s)).toList ++
        (r.err.map fun s => ("err", quote s)).toList).map
          fun m => memberBytes m.1 (Utf8.encode m.2)) given' r ∧ given ⊆ given' := by
  obtain ⟨code, msg, err⟩ := r
  cases msg with
  | none => exact fills_err given herr
  | some msg =>
    obtain ⟨given', hfills, hsub⟩ := fills_err (r := ⟨code, some msg, err⟩) ("msg" :: given) herr
    exact ⟨given', .slot "msg" rfl hmsg (printed_present_text msg) hfills,
      fun x hx => hsub (List.mem_cons_of_mem _ hx)⟩

/-- **An answer is read back from its text.** -/
theorem decode_encode (h : r.code ≤ Word.mostShort) : decode (Utf8.encode r.encode) = .ok r := by
  obtain ⟨given', hfills, hsub⟩ := fills_msg (r := r) ["code"] rfl rfl
  have hcode : given'.contains "code" = true :=
    List.contains_iff_mem.mpr (hsub List.mem_cons_self)
  have hall : form.missing? given' = none := by
    simp only [Form.missing?, form, List.find?, hcode]
    rfl
  have hfills' : Fills (readKind (maxDepth - 1)) form [] form.blank
      (memberBytes "code" (Utf8.encode (toString r.code)) :: _) given' r :=
    .slot "code" rfl rfl (printed_readWhole? "u16" h (by decide)) hfills
  have hbytes : Utf8.encode r.encode = _ :=
    (List.append_nil _).symm.trans (encode_record _ [])
  rw [decode, hbytes]
  exact (readRecord_fills hfills' hall []).whole rfl

/-! ### answers on a line each -/

/-- Line by line, the text is read as the answers. -/
def Lists (text : String) (responses : List Response) : Prop :=
  List.Forall₂ (fun line r => decode (Utf8.encode (String.ofList line)) = .ok r)
    (text.toList.splitOn '\n') responses

theorem listed {responses : List Response} (hne : responses ≠ [])
    (h : ∀ r ∈ responses, r.code ≤ Word.mostShort) :
    Lists (String.intercalate "\n" (responses.map encode)) responses := by
  have hlines : ∀ line ∈ (responses.map encode).map String.toList, '\n' ∉ line := by
    intro line hline
    rw [List.map_map] at hline
    obtain ⟨r, _, rfl⟩ := List.mem_map.mp hline
    exact oneLine_encode r
  have hsplit : (String.intercalate "\n" (responses.map encode)).toList.splitOn '\n' =
      (responses.map encode).map String.toList := by
    rw [String.toList_intercalate]
    refine List.splitOn_intercalate '\n' hlines fun hnil => hne ?_
    exact List.map_eq_nil_iff.mp (List.map_eq_nil_iff.mp hnil)
  unfold Lists
  rw [hsplit, List.map_map, List.forall₂_map_left_iff, List.forall₂_same]
  intro r hr
  show decode (Utf8.encode (String.ofList r.encode.toList)) = _
  rw [String.ofList_toList]
  exact decode_encode (h r hr)

end Response

end TelemetryGate
