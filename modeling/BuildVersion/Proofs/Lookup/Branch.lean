import BuildVersion.Proofs.Lookup.Marker
import BuildVersion.Proofs.Text.Split

namespace BuildVersion.Version.Marker

variable {base file file' branch branch' trunk : String}

/-- A file that does not begin with a slash is found again behind its base. -/
theorem url_eq_url_iff (hfile : file.toList.head? ≠ some '/')
    (hfile' : file'.toList.head? ≠ some '/') : url base file = url base file' ↔ file = file' := by
  have hwhole {s : List Char} (hs : s.head? ≠ some '/') : s.dropWhile (· = '/') = s := by
    cases s with
    | nil => rfl
    | cons c s => rw [List.dropWhile_cons_of_neg (by simpa using hs)]
  rw [url, url, hwhole hfile, hwhole hfile', String.ofList_inj, List.append_cancel_left_eq,
    List.cons_inj_right, String.toList_inj]

/-- The marker of a branch begins with the word `latest`. -/
theorem head?_fileFor (branch trunk : String) :
    (fileFor branch trunk).toList.head? = some 'l' := by
  rw [fileFor]
  split
  · rfl
  · rw [String.append_assoc, String.toList_append]
    rfl

theorem fileFor_trunk (trunk : String) : fileFor trunk trunk = latest := if_pos rfl

theorem fileFor_of_ne (hbranch : branch ≠ trunk) :
    (fileFor branch trunk).toList =
      "latest-".toList ++ Text.removeLeading releaseMark branch.toList ++ ".txt".toList := by
  rw [fileFor, if_neg hbranch]
  change ("latest-" ++ String.ofList (Text.removeLeading releaseMark branch.toList) ++
    ".txt").toList = _
  simp only [String.toList_append, String.toList_ofList]

theorem fileFor_eq_latest_iff : fileFor branch trunk = latest ↔ branch = trunk := by
  constructor
  · intro h
    by_contra hbranch
    have hfile := fileFor_of_ne hbranch
    -- A hyphen stands where the marker of the trunk has a point.
    have hpoint : latest.toList[6]? = some '.' := rfl
    rw [h] at hfile
    rw [hfile] at hpoint
    simp at hpoint
  · rintro rfl
    exact fileFor_trunk branch

theorem fileFor_eq_fileFor_iff (hbranch : branch ≠ trunk) (hbranch' : branch' ≠ trunk) :
    fileFor branch trunk = fileFor branch' trunk ↔
      branch = branch' ∨
        branch.toList = releaseMark ++ branch'.toList ∧ ¬releaseMark <+: branch'.toList ∨
        branch'.toList = releaseMark ++ branch.toList ∧ ¬releaseMark <+: branch.toList := by
  rw [← String.toList_inj, fileFor_of_ne hbranch, fileFor_of_ne hbranch',
    List.append_cancel_right_eq, List.append_cancel_left_eq,
    Text.removeLeading_eq_removeLeading_iff, String.toList_inj]

end BuildVersion.Version.Marker

namespace BuildVersion.Lookup.Resolver

open Version.Marker (releaseMark)

section Urls

variable (r : Resolver) (source : Source) (canonical : Bool)

theorem ci_urls (branch : String) : (r.ci source branch canonical).urls =
    [Version.Marker.url r.endpoints.ciBase (Version.Marker.fileFor branch r.trunk)] := by
  rw [ci, Run.urls_after, marker_urls]
  rfl

theorem latestCi_urls : (r.latestCi source canonical).urls =
    [Version.Marker.url r.endpoints.ciBase Version.Marker.latest] := by
  rw [latestCi, Run.urls_after, marker_urls]
  rfl

end Urls

/-- The lookup for a branch asks for the marker of the latest build only for the trunk, and finds
the same there. The lookups for two other branches ask for the same marker only if the branches are
the same or one of them is the other with one more `release-` in front, the other having none. -/
theorem ci_urls_eq_iff (r : Resolver) (source source' : Source) (branch branch' : String)
    (canonical canonical' : Bool) :
    ((r.ci source branch canonical).urls = (r.latestCi source' canonical').urls ↔
        branch = r.trunk) ∧
      (branch = r.trunk →
        (r.ci source branch canonical).outcome = (r.latestCi source canonical).outcome) ∧
      (branch ≠ r.trunk → branch' ≠ r.trunk →
        ((r.ci source branch canonical).urls = (r.ci source' branch' canonical').urls ↔
          branch = branch' ∨
            branch = "release-" ++ branch' ∧ ¬"release-".toList <+: branch'.toList ∨
            branch' = "release-" ++ branch ∧ ¬"release-".toList <+: branch.toList)) := by
  have hslash (branch : String) :
      (Version.Marker.fileFor branch r.trunk).toList.head? ≠ some '/' := by
    rw [Version.Marker.head?_fileFor]
    decide
  refine ⟨?_, ?_, ?_⟩
  · rw [ci_urls, latestCi_urls, List.singleton_inj,
      Version.Marker.url_eq_url_iff (hslash branch) (by decide),
      Version.Marker.fileFor_eq_latest_iff]
  · intro htrunk
    have hfile : Version.Marker.fileFor branch r.trunk = Version.Marker.latest :=
      Version.Marker.fileFor_eq_latest_iff.mpr htrunk
    rw [ci, latestCi, hfile]
    rfl
  · intro hbranch hbranch'
    have hmarked (s t : String) : s = "release-" ++ t ↔ s.toList = releaseMark ++ t.toList := by
      rw [← String.toList_inj, String.toList_append]
      rfl
    rw [ci_urls, ci_urls, List.singleton_inj,
      Version.Marker.url_eq_url_iff (hslash branch) (hslash branch'),
      Version.Marker.fileFor_eq_fileFor_iff hbranch hbranch', hmarked, hmarked]
    rfl

/-- A trunk that is named like a release branch: it has the marker of the latest build, its version
alone has a marker of its own, and of a doubled mark only one is removed. -/
theorem release_trunk_markers :
    let r : Resolver := { endpoints := { ciBase := "https://host/ci//" }, trunk := "release-1.19" }
    let source : Source := fun _ => .ok "v1.19.0\n"
    ((r.ci source "release-1.19" true).urls = (r.latestCi source false).urls ∧
      (r.ci source "release-1.19" true).outcome = (r.latestCi source true).outcome) ∧
      (r.ci source "1.19" true).urls ≠ (r.latestCi source true).urls ∧
      "release-1.18" ≠ r.trunk ∧ "1.18" ≠ r.trunk ∧ "release-release-1.18" ≠ r.trunk ∧
      (r.ci source "release-1.18" true).urls = (r.ci source "1.18" false).urls ∧
      (r.ci source "release-release-1.18" true).urls ≠ (r.ci source "release-1.18" true).urls := by
  intro r source
  have htrunk := ci_urls_eq_iff r source source "release-1.19" "1.18" true false
  have hversion := ci_urls_eq_iff r source source "1.19" "1.18" true true
  have hsame := ci_urls_eq_iff r source source "release-1.18" "1.18" true false
  have hdoubled := ci_urls_eq_iff r source source "release-release-1.18" "release-1.18" true true
  refine ⟨⟨htrunk.1.mpr rfl, htrunk.2.1 rfl⟩, fun h => ?_, by decide, by decide, by decide, ?_, ?_⟩
  · exact absurd (hversion.1.mp h) (by decide)
  · exact (hsame.2.2 (by decide) (by decide)).mpr (by decide)
  · intro h
    exact absurd ((hdoubled.2.2 (by decide) (by decide)).mp h) (by decide)

end BuildVersion.Lookup.Resolver
