import TelemetryGate.Delivery.Sink
import TelemetryGate.Proofs.Url.Blanks

/-!
# When a client is made

A client is made of settings that hold, unless blanks at the end of the dataplane stand directly
behind its authority: reading the url drops them, but not from the endpoint that is made of it.

* `ClientConfig.validate_ok`   the dataplane of settings that hold is a url to post over;
* `Sink.created_iff`           when a client is made;
* `Sink.refused_blanks`        when settings that hold make none.
-/

namespace TelemetryGate

open Url (isPosted readScheme? clean authorityOf isSlash blanksLeft KeepsAuthority)

theorem ClientConfig.validate_ok {config : ClientConfig} (h : config.validate = .ok ()) :
    ∃ u, Url.parse config.dataplaneUrl = .ok u ∧ isPosted u.scheme = true := by
  unfold validate at h
  split at h
  · cases h
  · split at h
    · cases h
    · obtain ⟨u, hu, -⟩ := Json.map_ok h
      unfold checkUrl at hu
      cases hparse : Url.parse config.dataplaneUrl with
      | error e =>
        rw [hparse] at hu
        cases hu
      | ok v =>
        rw [hparse] at hu
        dsimp only at hu
        split at hu
        · cases hu
          exact ⟨u, rfl, ‹_›⟩
        · cases hu

namespace Sink

variable {config : ClientConfig}

theorem created_of_valid (h : config.validate = .ok ()) (capacity : Nat) :
    (∃ s, create config capacity = .ok s) ↔
      ∃ base, Url.parse (Endpoint.trimSlashes config.dataplaneUrl ++ "/") = .ok base := by
  unfold create Endpoint.ofDataplane
  rw [h]
  cases Url.parse (Endpoint.trimSlashes config.dataplaneUrl ++ "/") with
  | error e => exact iff_of_false (fun h => nomatch h.choose_spec) fun h => nomatch h.choose_spec
  | ok base => exact iff_of_true ⟨_, rfl⟩ ⟨_, rfl⟩

/-- **A client is made of settings if and only if they hold and their dataplane keeps its authority
when a slash is put behind it.** -/
theorem created_iff (config : ClientConfig) (capacity : Nat) :
    (∃ s, create config capacity = .ok s) ↔
      config.validate = .ok () ∧ KeepsAuthority config.dataplaneUrl := by
  cases h : config.validate with
  | error f =>
    refine iff_of_false (fun hs => ?_) fun hs => nomatch hs.1
    obtain ⟨s, hs⟩ := hs
    unfold create at hs
    rw [h] at hs
    cases hs
  | ok _ =>
    obtain ⟨u, hu, hp⟩ := config.validate_ok h
    rw [created_of_valid h capacity, Url.parse_slashed_iff hu hp]
    exact (and_iff_right rfl).symm

/-- Settings that hold make no client if a control or a space, but no tab and no line end, stands
at the end of the dataplane and directly behind its authority. -/
theorem refused_blanks {scheme : String} {rest : List Char} (h : config.validate = .ok ())
    (hread : readScheme? (clean config.dataplaneUrl) = some (scheme, rest))
    (hnothing : authorityOf rest = rest.dropWhile isSlash)
    (hblanks : blanksLeft config.dataplaneUrl ≠ []) (capacity : Nat) :
    ∃ e, create config capacity = .error (.badUrl config.dataplaneUrl e) := by
  obtain ⟨u, hu, hp⟩ := config.validate_ok h
  obtain ⟨rest', hread'⟩ := Url.parse_scheme hu
  rw [hread] at hread'
  cases hread'
  rw [Url.parse_posted hread hp] at hu
  have hwho := (Url.readHierarchy_iff hp).mp ⟨u, hu⟩
  have hno : ¬ ∃ base, Url.parse (Endpoint.trimSlashes config.dataplaneUrl ++ "/") = .ok base := by
    rw [← created_of_valid h capacity, created_iff]
    rintro ⟨-, hkeeps⟩
    exact hblanks ((Url.keepsAuthority_iff hread hp hwho).mp hkeeps hnothing)
  unfold create Endpoint.ofDataplane
  rw [h]
  cases hparse : Url.parse (Endpoint.trimSlashes config.dataplaneUrl ++ "/") with
  | error e => exact ⟨e, rfl⟩
  | ok base => exact absurd ⟨base, hparse⟩ hno

/-! ### a space at the end -/

/-- Settings with a space at the end of the dataplane. -/
def spaced : ClientConfig :=
  { writeKey := "key", dataplaneUrl := "http://example.com ", diagnosticId := "diag-1" }

theorem refused_spaced : spaced.validate = .ok () ∧
    create spaced defaultCapacity = .error (.badUrl "http://example.com " .domain) := by
  have hv : spaced.validate = .ok () := by decide +kernel
  have he : Endpoint.ofDataplane spaced.dataplaneUrl
      = .error (.badUrl "http://example.com " .domain) := by decide +kernel
  refine ⟨hv, ?_⟩
  unfold create
  rw [hv, he]
  rfl

end Sink

end TelemetryGate
