import TelemetryGate.Proofs.Delivery.Creation
import TelemetryGate.Proofs.Url.Base

/-!
# Where messages go

Messages go to who is spoken to in the dataplane, and to a path below that of the dataplane as long
as the dataplane is a path and nothing behind it: to a query or a fragment the path loses its last
segment.

* `Endpoint.eq_trimmed_iff_of_slashes`, `eq_trimmed_iff_of_last`   when a path is all of another but
  the slashes at its end;
* `Endpoint.ofDataplane_parts`                                      where messages go.
-/

namespace TelemetryGate

open Url (blanksLeft trimmed)

namespace Endpoint

theorem below_eq_iff {base parts : List String} :
    Url.Path.segments (base ++ path) = .segments (parts ++ path) ↔ base = parts := by
  constructor
  · intro h
    exact List.append_cancel_right (Url.Path.segments.inj h)
  · rintro rfl
    rfl

variable {parts base : List String}

/-- A path that is all but some slashes at its end is all but the slashes at its end if there are
none. -/
theorem eq_trimmed_iff_of_slashes {n : Nat} (h : parts = base ++ List.replicate n "") :
    base = trimmed parts ↔ base.getLast? ≠ some "" := by
  rw [h, Url.trimmed_slashes, eq_comm]
  exact Url.trimmed_eq_self_iff base

/-- A path without its last segment is all but the slashes at its end if that one is empty and no
other. -/
theorem eq_trimmed_iff_of_last {last : String} (h : parts = base ++ [last]) :
    base = trimmed parts ↔ base.getLast? ≠ some "" ∧ parts.getLast? = some "" := by
  rw [h, List.getLast?_concat]
  by_cases hlast : last = ""
  · subst hlast
    have hone : base ++ [""] = base ++ List.replicate 1 "" := rfl
    rw [eq_trimmed_iff_of_slashes hone]
    exact (and_iff_left rfl).symm
  · have hkeep : trimmed (base ++ [last]) = base ++ [last] := by
      rw [Url.trimmed_eq_self_iff, List.getLast?_concat]
      exact fun e => hlast (Option.some.inj e)
    rw [hkeep]
    refine iff_of_false (fun heq => ?_) fun heq => hlast (Option.some.inj heq.2)
    have hlength := congrArg List.length heq
    rw [List.length_append, List.length_singleton] at hlength
    omega

/-- **Where the messages of a dataplane that settings may have go: to the same scheme, name, host
and port, and to the path that is in front with the path of messages behind it, nothing else. In
front is the path of the dataplane with some of the slashes at its end left out, if nothing follows
that path; and that path without its last segment, whatever it is, if a query or a fragment follows
it. So the path of the dataplane is in front as it should be, without the slashes at its end and
no more, if and only if nothing is lost to a query or a fragment but an empty segment, no blanks are
put behind it, and no empty segment is left at its end.** -/
theorem ofDataplane_parts (config : ClientConfig) (u e : Url) (h : config.validate = .ok ())
    (hu : Url.parse config.dataplaneUrl = .ok u) (he : ofDataplane config.dataplaneUrl = .ok e) :
    e.scheme = u.scheme ∧ (e.user = u.user ∧ e.host = u.host ∧ e.port = u.port) ∧
    (e.query = none ∧ e.fragment = none) ∧
    ∃ parts base, u.path = .segments parts ∧ e.path = .segments (base ++ path) ∧
      (u.Bare → blanksLeft config.dataplaneUrl = [] → ∃ n, parts = base ++ List.replicate n "") ∧
      (¬ u.Bare → base = parts.dropLast) ∧
      (e.path = .segments (trimmed parts ++ path) ↔
        (u.Bare → blanksLeft config.dataplaneUrl = []) ∧ (¬ u.Bare → parts.getLast? = some "") ∧
          base.getLast? ≠ some "") := by
  obtain ⟨u', hu', hp⟩ := config.validate_ok h
  obtain rfl : u' = u := Except.ok.inj (hu'.symm.trans hu)
  unfold ofDataplane at he
  cases hv : Url.parse (trimSlashes config.dataplaneUrl ++ "/") with
  | error f =>
    rw [hv] at he
    cases he
  | ok v =>
    rw [hv] at he
    cases he
    obtain ⟨parts, base, last, hparts, hbase, hlost, hheld, hblanks⟩ := Url.slashed_path hu hp hv
    have hpath : (v.withPath path).path = .segments (base ++ path) := by
      unfold Url.withPath
      rw [hbase]
      exact congrArg (fun front => Url.Path.segments (front ++ path)) List.dropLast_concat
    have hscheme : v.scheme = u'.scheme := Url.slashed_scheme hu hp hv
    have hauthority := Url.slashed_authority hu hp hv
    refine ⟨hscheme, hauthority, ⟨rfl, rfl⟩, parts, base, hparts, hpath, hheld, fun hmore => ?_,
      ?_⟩
    · rw [hlost hmore, List.dropLast_concat]
    · rw [hpath, below_eq_iff]
      by_cases hbare : u'.Bare
      · by_cases hnone : blanksLeft config.dataplaneUrl = []
        · obtain ⟨n, hn⟩ := hheld hbare hnone
          rw [eq_trimmed_iff_of_slashes hn]
          exact ⟨fun hlast => ⟨fun _ => hnone, fun hno => absurd hbare hno, hlast⟩,
            fun hall => hall.2.2⟩
        · exact iff_of_false (hblanks hbare hnone) fun hall => hnone (hall.1 hbare)
      · rw [eq_trimmed_iff_of_last (hlost hbare)]
        exact ⟨fun hboth => ⟨fun hno => absurd hno hbare, fun _ => hboth.2, hboth.1⟩,
          fun hall => ⟨hall.2.2, hall.2.1 hbare⟩⟩

/-! ### with slashes, and with a query -/

/-- Settings with a dataplane. -/
def settingsOf (url : String) : ClientConfig :=
  { writeKey := "key", dataplaneUrl := url, diagnosticId := "diag-1" }

def urlOf (parts : List String) (query : Option String) : Url :=
  { scheme := "http", host := some (.domain "example.com"), path := .segments parts, query }

theorem ofDataplane_slashed :
    ofDataplane "http://example.com/base//" = .ok (urlOf ["base", "v1", "track"] none) ∧
      (urlOf ["base", "v1", "track"] none).path =
        .segments (trimmed ["base", "", ""] ++ path) := by
  have hvalid : (settingsOf "http://example.com/base//").validate = .ok () := by decide +kernel
  have hparse : Url.parse "http://example.com/base//" = .ok (urlOf ["base", "", ""] none) := by
    decide +kernel
  have hendpoint : ofDataplane "http://example.com/base//" =
      .ok (urlOf ["base", "v1", "track"] none) := by decide +kernel
  have hnone : Url.blanksLeft "http://example.com/base//" = [] := by decide +kernel
  obtain ⟨-, -, -, parts, base, hparts, hpath, -, -, hiff⟩ :=
    ofDataplane_parts (settingsOf "http://example.com/base//") _ _ hvalid hparse hendpoint
  obtain rfl : base = ["base"] := below_eq_iff.mp (hpath.symm.trans rfl)
  cases hparts
  have hbare : (urlOf ["base", "", ""] none).Bare := ⟨rfl, rfl⟩
  exact ⟨hendpoint, hiff.mpr ⟨fun _ => hnone, fun hno => absurd hbare hno, by decide⟩⟩

/-- **The path of a dataplane with a query behind it is lost.** -/
theorem lost_queried :
    (settingsOf "http://example.com/base?x=1").validate = .ok () ∧
      Url.parse "http://example.com/base?x=1" = .ok (urlOf ["base"] (some "x=1")) ∧
      ofDataplane "http://example.com/base?x=1" = .ok (urlOf ["v1", "track"] none) ∧
      (urlOf ["v1", "track"] none).path ≠ .segments (trimmed ["base"] ++ path) := by
  refine ⟨?_, ?_, ?_, ?_⟩
  all_goals decide +kernel

end Endpoint

end TelemetryGate
