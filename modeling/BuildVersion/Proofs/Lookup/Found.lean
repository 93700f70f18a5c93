import BuildVersion.Proofs.Lookup.Marker

namespace BuildVersion.Lookup

section Texts

variable {source : Source} {url text version : String} {canonical : Bool}

theorem trimmed_of_fetchTrimmed (hfetch : fetchTrimmed source url = .ok text) :
    Text.trimmed text = text := by
  rw [fetchTrimmed, Outcome.map_eq_bind] at hfetch
  obtain ⟨body, -, hbody⟩ := Outcome.bind_eq_ok_iff.mp hfetch
  rw [← Outcome.ok.inj hbody]
  exact Text.trimmed_trimmed body

theorem exists_of_markerOutcome (houtcome : markerOutcome source url canonical = .ok version) :
    ∃ text, fetchTrimmed source url = .ok text ∧ versionOf url canonical text = .ok version := by
  obtain ⟨text, hfetch, hversion⟩ := Outcome.bind_eq_ok_iff.mp houtcome
  exact ⟨text, Outcome.mapErr_eq_ok_iff.mp hfetch, hversion⟩

theorem version_of_markerOutcome (houtcome : markerOutcome source url canonical = .ok version) :
    version ≠ "" ∧ Text.trimmed version = version ∧
      (canonical = true → Version.normalize version = .ok version) := by
  obtain ⟨text, hfetch, hversion⟩ := exists_of_markerOutcome houtcome
  obtain ⟨htext, hversion⟩ := versionOf_eq_ok_iff.mp hversion
  cases canonical with
  | false =>
      obtain rfl : text = version := hversion
      refine ⟨htext, trimmed_of_fetchTrimmed hfetch, ?_⟩
      intro hcanonical
      contradiction
  | true =>
      have hnormalize : Version.normalize text = .ok version := hversion
      exact ⟨Version.ne_empty_of_normalize hnormalize, Version.trimmed_of_normalize hnormalize,
        fun _ => Version.normalize_self_of_eq_ok hnormalize⟩

end Texts

namespace Resolver

/-- The search on the remaining branches finds a text that was fetched from one of them. -/
theorem exists_fetched_of_kubecrossFrom {r : Resolver} {source : Source} {version : String}
    (all : List String) {branches : List String}
    (houtcome : (r.kubecrossFrom source all branches).outcome = .ok version) :
    version ≠ "" ∧ ∃ url, fetchTrimmed source url = .ok version := by
  induction branches with
  | nil =>
      rw [kubecrossFrom] at houtcome
      contradiction
  | cons branch rest ih =>
      unfold kubecrossFrom at houtcome
      dsimp only at houtcome
      split at houtcome
      · contradiction
      · next url hurl =>
          split at houtcome
          · next text hfetch =>
              split at houtcome
              · exact ih houtcome
              · next htext =>
                  obtain rfl : text = version := Outcome.ok.inj houtcome
                  exact ⟨htext, url, hfetch⟩
          · next e hfetch =>
              split at houtcome
              · contradiction
              · exact ih houtcome
          · contradiction

/-- A version that is found is not empty and has no blanks at its ends, and one that was to be
canonical stays as it is when it is normalised again. -/
theorem found_version_trimmed (r : Resolver) (source : Source) (branch url : String) :
    (∀ canonical, ∀ run ∈ [r.stable source canonical, r.prerelease source canonical,
        r.latestCi source canonical, r.ci source branch canonical,
        marker source url canonical],
      ∀ version, run.outcome = .ok version →
        version ≠ "" ∧ Text.trimmed version = version ∧
          (canonical = true → Version.normalize version = .ok version)) ∧
      ∀ branches version, (r.kubecross source branches).outcome = .ok version →
        version ≠ "" ∧ Text.trimmed version = version := by
  constructor
  · intro canonical run hrun version hversion
    obtain ⟨asked, -, houtcome⟩ := exists_marker_of_mem_markerRuns hrun
    rw [houtcome] at hversion
    exact version_of_markerOutcome hversion
  · intro branches version hversion
    obtain ⟨hne, asked, hfetch⟩ := exists_fetched_of_kubecrossFrom branches hversion
    exact ⟨hne, trimmed_of_fetchTrimmed hfetch⟩

/-- Markers with exotic blanks around a version, one of them with a digit of another script. -/
def blankResponses : Responses :=
  [("https://dl.k8s.io/ci/latest.txt", .ok "\x1cv1.2٠.0-a.7\u3000\n"),
    ("https://host/next", .ok " \u2028v1.13.9-1\x85")]

theorem found_among_blanks :
    ((({} : Resolver).latestCi blankResponses.source true).outcome = .ok "1.20.0-a.7" ∧
      "1.20.0-a.7" ≠ "" ∧ Text.trimmed "1.20.0-a.7" = "1.20.0-a.7" ∧
      Version.normalize "1.20.0-a.7" = .ok "1.20.0-a.7") ∧
      (({ endpoints := { kubecrossUrl := "https://host/\x7bbranch\x7d" } } : Resolver).kubecross
        blankResponses.source ["gone", "next"]).outcome = .ok "v1.13.9-1" ∧
      "v1.13.9-1" ≠ "" ∧ Text.trimmed "v1.13.9-1" = "v1.13.9-1" := by
  have hlatest : (({} : Resolver).latestCi blankResponses.source true).outcome =
      .ok "1.20.0-a.7" := by
    decide +kernel
  have hnext : (({ endpoints := { kubecrossUrl := "https://host/\x7bbranch\x7d" } } :
      Resolver).kubecross blankResponses.source ["gone", "next"]).outcome = .ok "v1.13.9-1" := by
    decide +kernel
  obtain ⟨hne, htrimmed, hnormal⟩ := (found_version_trimmed {} blankResponses.source "master"
    "https://host/latest.txt").1 true (({} : Resolver).latestCi blankResponses.source true)
    (List.mem_cons_of_mem _ (List.mem_cons_of_mem _ List.mem_cons_self)) "1.20.0-a.7" hlatest
  exact ⟨⟨hlatest, hne, htrimmed, hnormal rfl⟩, hnext,
    (found_version_trimmed { endpoints := { kubecrossUrl := "https://host/\x7bbranch\x7d" } }
      blankResponses.source "master" "https://host/latest.txt").2 ["gone", "next"] "v1.13.9-1"
      hnext⟩

end Resolver

end BuildVersion.Lookup
