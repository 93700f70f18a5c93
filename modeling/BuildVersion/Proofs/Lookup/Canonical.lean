import BuildVersion.Proofs.Lookup.Marker

namespace BuildVersion.Lookup

open Console (Notice)
open Version (VersionError)

theorem map_info (messages : List String) :
    messages.map info = (messages.map Notice.info).map .said := by
  rw [List.map_map]
  rfl

/-- How the message of a version that was found begins. -/
def retrievedMark : String := "Retrieved Kubernetes version: "

/-- What is told of a version that was found. -/
def retrieved : Outcome VersionError String → List String
  | .ok version => [retrievedMark ++ version]
  | _ => []

theorem not_retrievedMark_prefix {head : String} (tail : String)
    (hhead : ¬retrievedMark.toList <+: head.toList) (hmark : ¬head.toList <+: retrievedMark.toList) :
    ¬retrievedMark.toList <+: (head ++ tail).toList := by
  rw [String.toList_append]
  intro h
  rcases List.prefix_or_prefix_of_prefix h (List.prefix_append head.toList tail.toList) with
    hbegins | hbegins
  · exact hhead hbegins
  · exact hmark hbegins

/-- Whether a lookup, raw or canonical, tells a few messages, reads one marker, and tells of the
version if there is one. -/
structure ReadsMarker (source : Source) (lookup : Bool → Run) (asked : String)
    (opening : List String) : Prop where
  urls : ∀ canonical, (lookup canonical).urls = [asked]
  notices : ∀ canonical, (lookup canonical).notices =
    (opening ++ retrieved (lookup canonical).outcome).map .info
  not_retrieved : ∀ message ∈ opening, ¬retrievedMark.toList <+: message.toList
  outcome : ∀ canonical, (lookup canonical).outcome = markerOutcome source asked canonical

theorem readsMarker_marker (source : Source) (url : String) :
    ReadsMarker source (marker source url) url
      [s!"Retrieving Kubernetes build version from {url}..."] where
  urls := marker_urls source url
  notices canonical := by
    simp only [marker, Run.notices, info]
    cases markerOutcome source url canonical <;> rfl
  not_retrieved := by
    intro message hmessage
    obtain rfl := List.mem_singleton.mp hmessage
    rw [String.append_assoc]
    exact not_retrievedMark_prefix _ (by decide) (by decide)
  outcome _ := rfl

theorem ReadsMarker.after {source : Source} {lookup : Bool → Run} {asked : String}
    {opening : List String} (hlookup : ReadsMarker source lookup asked opening)
    (first : List String) (hfirst : ∀ message ∈ first, ¬retrievedMark.toList <+: message.toList) :
    ReadsMarker source (fun canonical => Run.after (first.map info) (lookup canonical)) asked
      (first ++ opening) where
  urls canonical := by
    rw [Run.urls_after, map_info, Run.urls_map_said, hlookup.urls, List.nil_append]
  notices canonical := by
    rw [Run.notices_after, map_info, Run.notices_map_said, hlookup.notices, List.append_assoc]
    exact List.map_append.symm
  not_retrieved := by
    intro message hmessage
    obtain hmessage | hmessage := List.mem_append.mp hmessage
    · exact hfirst message hmessage
    · exact hlookup.not_retrieved message hmessage
  outcome := hlookup.outcome

namespace Resolver

theorem exists_readsMarker {r : Resolver} {source : Source} {branch url : String}
    {lookup : Bool → Run}
    (hlookup : lookup ∈ [r.stable source, r.prerelease source, r.latestCi source,
      r.ci source branch, marker source url]) :
    ∃ asked opening, ReadsMarker source lookup asked opening := by
  simp only [List.mem_cons, List.not_mem_nil, or_false] at hlookup
  obtain rfl | rfl | rfl | rfl | rfl := hlookup
  · refine ⟨_, _, (readsMarker_marker source _).after
      ["Retrieving Kubernetes release version..."] ?_⟩
    decide
  · refine ⟨_, _, (readsMarker_marker source _).after
      ["Retrieving Kubernetes testing version..."] ?_⟩
    decide
  · refine ⟨_, _, (readsMarker_marker source _).after
      ["Retrieving Kubernetes latest build version..."] ?_⟩
    decide
  · refine ⟨_, _, (readsMarker_marker source _).after
      [s!"Retrieving Kubernetes build version on the '{branch}' branch...",
        s!"Version marker file: {Version.Marker.fileFor branch r.trunk}"] ?_⟩
    intro message hmessage
    simp only [List.mem_cons, List.not_mem_nil, or_false] at hmessage
    rcases hmessage with rfl | rfl
    · rw [String.append_assoc]
      exact not_retrievedMark_prefix _ (by decide) (by decide)
    · exact not_retrievedMark_prefix _ (by decide) (by decide)
  · exact ⟨url, _, readsMarker_marker source url⟩

end Resolver

section Outcomes

variable {source : Source} {url text : String}

theorem versionOf_false_eq_err_iff {e : VersionError} :
    versionOf url false text = .err e ↔ text = "" ∧ e = .notFound ⟨"version", url⟩ := by
  by_cases htext : text = ""
  · simp [versionOf, htext, eq_comm]
  · simp [versionOf, htext]

theorem versionOf_true_of_empty : versionOf url true "" = versionOf url false "" := rfl

theorem versionOf_true_of_ne (htext : text ≠ "") :
    versionOf url true text = (Version.normalize text).mapErr .format := by
  simp [versionOf, htext]

theorem markerOutcome_of_err {failure : Version.FetchError} (hfailure : source url = .err failure)
    (canonical : Bool) : markerOutcome source url canonical = .err (.fetch failure) := by
  rw [markerOutcome, fetchTrimmed, hfailure]
  rfl

theorem markerOutcome_of_ok {body : String} (hbody : source url = .ok body) (canonical : Bool) :
    markerOutcome source url canonical = versionOf url canonical (Text.trimmed body) := by
  rw [markerOutcome, fetchTrimmed, hbody]
  rfl

end Outcomes

namespace Resolver

/-- A raw and a canonical lookup of one marker ask for the same address and tell the same up to the
version, which each tells of if and only if it gives one. Where the raw lookup fails, because of
the client or of an empty marker, the canonical one fails likewise; where it gives a version, the
trimmed text, the outcome of the canonical one is that of normalising this version. -/
theorem canonical_follows_raw (r : Resolver) (responses : Responses) (branch url : String) :
    ∀ lookup ∈ [r.stable responses.source, r.prerelease responses.source,
        r.latestCi responses.source, r.ci responses.source branch, marker responses.source url],
      ∃ asked opening,
        (∀ canonical, (lookup canonical).urls = [asked] ∧
          (lookup canonical).notices =
            (opening ++ retrieved (lookup canonical).outcome).map .info) ∧
        (∀ message ∈ opening, ¬retrievedMark.toList <+: message.toList) ∧
        (∀ e, (lookup false).outcome = .err e → (lookup true).outcome = .err e ∧
          ((∃ failure, responses.source asked = .err failure ∧ e = .fetch failure) ∨
            ∃ body, responses.source asked = .ok body ∧ Text.trimmed body = "" ∧
              e = .notFound ⟨"version", asked⟩)) ∧
        (∀ version, (lookup false).outcome = .ok version →
          (∃ body, responses.source asked = .ok body ∧ version = Text.trimmed body) ∧
            (lookup true).outcome = (Version.normalize version).mapErr .format) ∧
        ∀ fault, (lookup false).outcome ≠ .aborted fault := by
  intro lookup hlookup
  obtain ⟨asked, opening, hreads⟩ := exists_readsMarker hlookup
  refine ⟨asked, opening, fun canonical => ⟨hreads.urls canonical, hreads.notices canonical⟩,
    hreads.not_retrieved, ?_⟩
  rw [hreads.outcome, hreads.outcome]
  cases hsource : responses.source asked with
  | err failure =>
      simp only [markerOutcome_of_err hsource]
      refine ⟨?_, ?_, ?_⟩
      · intro e he
        exact ⟨he, .inl ⟨failure, rfl, (Outcome.err.inj he).symm⟩⟩
      · intro version hversion
        contradiction
      · intro fault hfault
        contradiction
  | ok body =>
      simp only [markerOutcome_of_ok hsource]
      by_cases htext : Text.trimmed body = ""
      · simp only [htext, versionOf_true_of_empty]
        refine ⟨?_, ?_, ?_⟩
        · intro e he
          exact ⟨he, .inr ⟨body, rfl, htext, (versionOf_false_eq_err_iff.mp he).2⟩⟩
        · intro version hversion
          exact absurd rfl (versionOf_eq_ok_iff.mp hversion).1
        · intro fault hfault
          contradiction
      · rw [versionOf_true_of_ne htext]
        refine ⟨?_, ?_, ?_⟩
        · intro e he
          exact absurd (versionOf_false_eq_err_iff.mp he).1 htext
        · intro version hversion
          obtain rfl : Text.trimmed body = version := (versionOf_eq_ok_iff.mp hversion).2
          exact ⟨⟨body, rfl, rfl⟩, rfl⟩
        · intro fault hfault
          rw [versionOf, if_neg htext] at hfault
          contradiction
  | aborted fault =>
      have haborted : fetchTrimmed responses.source asked = .aborted fault := by
        rw [fetchTrimmed, hsource]
        rfl
      exact absurd haborted (fetchTrimmed_ne_aborted responses asked fault)

def branchResponses : Responses :=
  [("https://dl.k8s.io/ci/latest-1.18.txt", .ok " v1.18.3-beta.0\n")]

/-- The lookups of a branch's version tell of different versions and of nothing else that
differs. -/
theorem canonical_branch_follows_raw :
    (({} : Resolver).ci branchResponses.source "release-1.18" false).outcome =
        .ok "v1.18.3-beta.0" ∧
      (({} : Resolver).ci branchResponses.source "release-1.18" true).outcome =
        .ok "1.18.3-beta.0" ∧
      ∃ opening,
        (({} : Resolver).ci branchResponses.source "release-1.18" false).notices =
          (opening ++ ["Retrieved Kubernetes version: v1.18.3-beta.0"]).map .info ∧
        (({} : Resolver).ci branchResponses.source "release-1.18" true).notices =
          (opening ++ ["Retrieved Kubernetes version: 1.18.3-beta.0"]).map .info := by
  have hraw : (({} : Resolver).ci branchResponses.source "release-1.18" false).outcome =
      .ok "v1.18.3-beta.0" := by
    decide +kernel
  have hnormal : Version.normalize "v1.18.3-beta.0" = .ok "1.18.3-beta.0" := by decide +kernel
  obtain ⟨asked, opening, htold, -, -, hversion, -⟩ := canonical_follows_raw {} branchResponses
    "release-1.18" "https://host/latest.txt" (({} : Resolver).ci branchResponses.source "release-1.18")
    (.tail _ (.tail _ (.tail _ (.head _))))
  have hcanonical : (({} : Resolver).ci branchResponses.source "release-1.18" true).outcome =
      .ok "1.18.3-beta.0" := by
    rw [(hversion _ hraw).2, hnormal]
    rfl
  refine ⟨hraw, hcanonical, opening, ?_, ?_⟩
  · rw [(htold false).2, hraw]
    rfl
  · rw [(htold true).2, hcanonical]
    rfl

end Resolver

end BuildVersion.Lookup
