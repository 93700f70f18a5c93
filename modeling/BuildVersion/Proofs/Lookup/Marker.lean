import Mathlib.Data.List.TakeWhile
import BuildVersion.Lookup.Session
import BuildVersion.Proofs.Version.Normalize

namespace BuildVersion.Lookup

open Version (IsOverlong)

section Outcomes

variable {responses : Responses} {url text version : String} {canonical : Bool} {fault : Fault}

theorem fetchTrimmed_ne_aborted (responses : Responses) (url : String) (fault : Fault) :
    fetchTrimmed responses.source url ≠ .aborted fault := by
  unfold fetchTrimmed Responses.source
  split <;> simp

theorem fetchTrimmed_eq_ok_iff :
    fetchTrimmed responses.source url = .ok text ↔
      ∃ body, responses.lookup url = some (.ok body) ∧ Text.trimmed body = text := by
  unfold fetchTrimmed Responses.source
  split
  · next body hbody => simp [hbody]
  · next e he => simp [he]
  · next hnone => simp [hnone]

theorem versionOf_eq_ok_iff :
    versionOf url canonical text = .ok version ↔
      text ≠ "" ∧ if canonical then Version.normalize text = .ok version else text = version := by
  by_cases htext : text = ""
  · simp [versionOf, htext]
  · cases canonical with
    | false => simp [versionOf, htext]
    | true => simp [versionOf, htext, Outcome.mapErr_eq_ok_iff]

theorem versionOf_eq_aborted_iff :
    versionOf url canonical text = .aborted fault ↔
      fault = .overlongNumeral ∧ canonical = true ∧ IsOverlong text := by
  have hempty : ¬IsOverlong "" := by
    intro hlong
    have hnormalize := Version.normalize_eq_aborted_iff.mpr ⟨rfl, hlong⟩
    contradiction
  by_cases htext : text = ""
  · subst htext
    simp [versionOf, hempty]
  · cases canonical with
    | false => simp [versionOf, htext]
    | true =>
        simp [versionOf, htext, Outcome.mapErr_eq_aborted_iff, Version.normalize_eq_aborted_iff]

theorem markerOutcome_eq_aborted_iff :
    markerOutcome responses.source url canonical = .aborted fault ↔
      fault = .overlongNumeral ∧ canonical = true ∧
        ∃ body, responses.lookup url = some (.ok body) ∧ IsOverlong (Text.trimmed body) := by
  simp only [markerOutcome, Outcome.bind_eq_aborted_iff, Outcome.mapErr_eq_aborted_iff,
    fetchTrimmed_ne_aborted, false_or, Outcome.mapErr_eq_ok_iff, fetchTrimmed_eq_ok_iff,
    versionOf_eq_aborted_iff]
  constructor
  · rintro ⟨_, ⟨body, hbody, rfl⟩, hfault, hcanonical, hlong⟩
    exact ⟨hfault, hcanonical, body, hbody, hlong⟩
  · rintro ⟨hfault, hcanonical, body, hbody, hlong⟩
    exact ⟨_, ⟨body, hbody, rfl⟩, hfault, hcanonical, hlong⟩

end Outcomes

theorem marker_outcome (source : Source) (url : String) (canonical : Bool) :
    (marker source url canonical).outcome = markerOutcome source url canonical := rfl

theorem marker_urls (source : Source) (url : String) (canonical : Bool) :
    (marker source url canonical).urls = [url] := by
  simp only [marker, Run.urls, info, List.cons_append, List.nil_append, List.filterMap_cons]
  split <;> rfl

namespace Run

variable (outcome : Outcome Version.VersionError String)

theorem urls_append (events more : List Event) :
    Run.urls ⟨events ++ more, outcome⟩ =
      Run.urls ⟨events, outcome⟩ ++ Run.urls ⟨more, outcome⟩ := List.filterMap_append

theorem notices_append (events more : List Event) :
    Run.notices ⟨events ++ more, outcome⟩ =
      Run.notices ⟨events, outcome⟩ ++ Run.notices ⟨more, outcome⟩ := List.filterMap_append

theorem urls_map_said (notices : List Console.Notice) :
    Run.urls ⟨notices.map .said, outcome⟩ = [] := by
  rw [Run.urls, List.filterMap_map, List.filterMap_eq_nil_iff]
  intro notice _
  rfl

theorem notices_map_said (notices : List Console.Notice) :
    Run.notices ⟨notices.map .said, outcome⟩ = notices := by
  rw [Run.notices, List.filterMap_map]
  exact List.filterMap_some

theorem urls_after (events : List Event) (run : Run) :
    (Run.after events run).urls = Run.urls ⟨events, run.outcome⟩ ++ run.urls :=
  urls_append run.outcome events run.events

theorem notices_after (events : List Event) (run : Run) :
    (Run.after events run).notices = Run.notices ⟨events, run.outcome⟩ ++ run.notices :=
  notices_append run.outcome events run.events

end Run

namespace Resolver

def markerRuns (r : Resolver) (source : Source) (branch url : String) (canonical : Bool) :
    List Run :=
  [r.stable source canonical, r.prerelease source canonical, r.latestCi source canonical,
    r.ci source branch canonical, marker source url canonical]

/-- Each of these lookups asks for one marker, which decides its outcome. -/
theorem exists_marker_of_mem_markerRuns {r : Resolver} {source : Source} {branch url : String}
    {canonical : Bool} {run : Run} (hrun : run ∈ r.markerRuns source branch url canonical) :
    ∃ asked, run.urls = [asked] ∧ run.outcome = markerOutcome source asked canonical := by
  simp only [markerRuns, List.mem_cons, List.not_mem_nil, or_false] at hrun
  obtain rfl | rfl | rfl | rfl | rfl := hrun
  · exact ⟨_, by rw [stable, Run.urls_after, marker_urls]; rfl, rfl⟩
  · exact ⟨_, by rw [prerelease, Run.urls_after, marker_urls]; rfl, rfl⟩
  · exact ⟨_, by rw [latestCi, Run.urls_after, marker_urls]; rfl, rfl⟩
  · exact ⟨_, by rw [ci, Run.urls_after, marker_urls]; rfl, rfl⟩
  · exact ⟨_, marker_urls source url canonical, rfl⟩

/-- A lookup ends without a version and without an error only where a canonical version is wanted
and the marker holds one with a number that is too long to be computed. -/
theorem marker_aborted_iff_overlong (r : Resolver) (responses : Responses) (branch url : String)
    (canonical : Bool) :
    ∀ run ∈ [r.stable responses.source canonical, r.prerelease responses.source canonical,
        r.latestCi responses.source canonical, r.ci responses.source branch canonical,
        marker responses.source url canonical],
      ∃ asked, run.urls = [asked] ∧ ∀ fault, run.outcome = .aborted fault ↔
        fault = .overlongNumeral ∧ canonical = true ∧
          ∃ body, responses.lookup asked = some (.ok body) ∧
            IsOverlong (Text.trimmed body) := by
  intro run hrun
  obtain ⟨asked, hurls, houtcome⟩ := exists_marker_of_mem_markerRuns hrun
  refine ⟨asked, hurls, fun fault => ?_⟩
  rw [houtcome]
  exact markerOutcome_eq_aborted_iff

def sampleResponses : Responses :=
  [("https://dl.k8s.io/release/stable.txt", .ok "v1.18.2\n")]

/-- A marker that holds a version of the usual length. -/
theorem stable_sample_not_aborted :
    ({} : Resolver).stable sampleResponses.source true ∈
        ({} : Resolver).markerRuns sampleResponses.source "master" "https://host/latest.txt" true ∧
      ∀ fault, (({} : Resolver).stable sampleResponses.source true).outcome ≠ .aborted fault := by
  refine ⟨List.mem_cons_self, fun fault hfault => ?_⟩
  obtain ⟨asked, hurls, haborted⟩ := marker_aborted_iff_overlong {} sampleResponses "master"
    "https://host/latest.txt" true (({} : Resolver).stable sampleResponses.source true)
    List.mem_cons_self
  have hasked : (({} : Resolver).stable sampleResponses.source true).urls =
      ["https://dl.k8s.io/release/stable.txt"] := by
    decide +kernel
  obtain rfl := List.singleton_inj.mp (hasked.symm.trans hurls)
  obtain ⟨rfl, -, body, hbody, hlong⟩ := (haborted fault).mp hfault
  obtain rfl : "v1.18.2\n" = body := by simpa [sampleResponses] using hbody
  have hnormalize : Version.normalize (Text.trimmed "v1.18.2\n") = .ok "1.18.2" := by decide +kernel
  rw [Version.normalize_eq_aborted_iff.mpr ⟨rfl, hlong⟩] at hnormalize
  contradiction

/-- A version whose first number has one digit more than is computed. -/
def overlongVersion : Version.SemVer.Parts :=
  ⟨List.replicate (Numeral.maxDigits + 1) '1', ['0'], ['0'], [], []⟩

theorem isNumeral_replicate_one (n : Nat) :
    Version.SemVer.IsNumeral (List.replicate (n + 1) '1') :=
  .inr ⟨'1', List.replicate n '1', List.replicate_succ, by decide,
    fun d hd => by rw [List.eq_of_mem_replicate hd]; rfl⟩

theorem isOverlong_overlongVersion : IsOverlong (String.ofList overlongVersion.written) := by
  refine ⟨overlongVersion, ?_, .inl String.toList_ofList, ?_⟩
  · exact
      { isNumeral_major := isNumeral_replicate_one Numeral.maxDigits
        isNumeral_minor := .inl rfl
        isNumeral_patch := .inl rfl
        isPrereleaseWord := List.forall_mem_nil _
        isBuildWord := List.forall_mem_nil _ }
  · rintro ⟨hmajor, -⟩
    rw [overlongVersion, List.length_replicate] at hmajor
    omega

theorem marker_overlongVersion_aborted :
    (marker (Responses.source
        [("https://host/latest.txt", .ok (String.ofList overlongVersion.written))])
      "https://host/latest.txt" true).outcome = .aborted .overlongNumeral := by
  rw [marker_outcome, markerOutcome_eq_aborted_iff]
  refine ⟨rfl, rfl, _, List.lookup_cons_self, ?_⟩
  have hblank : ∀ c ∈ overlongVersion.written, Text.isBlank c = false := by
    rw [Version.SemVer.Parts.forall_mem_written (by decide) (by decide) (by decide)]
    simp [overlongVersion]
    decide
  rw [Text.trimmed, String.toList_ofList, Text.trim_of_forall hblank]
  exact isOverlong_overlongVersion

end Resolver

end BuildVersion.Lookup
