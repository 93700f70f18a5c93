import BuildVersion.Proofs.Config.Field
import BuildVersion.Proofs.Config.Load
import BuildVersion.Proofs.Number.Integer

namespace BuildVersion

theorem Settings.Value.Gives.eq_nan_or_zero_lt {v : Settings.Value} {x : Binary64}
    (hx : v.Gives x) : v = .real .nan ∧ x = .nan ∨ Binary64.zero.lt x = true := by
  rcases hx with hn | hreal
  · exact .inr (Binary64.zero_lt_ofInt hn)
  · rcases hreal with rfl | hpos
    · exact .inl ⟨rfl, rfl⟩
    · exact .inr hpos

namespace Config

variable {files : Files.Tree} {path : Files.Path} {env : Environment} {words : Words}
  {config : Config}

def GivesNoNumber (files : Files.Tree) (path : Files.Path) : Prop :=
  ∃ table, HoldsTable files path table ∧ table.Holds timeoutPath (.real .nan)

theorem ReadsTimeout.zero_lt {data : Settings.Table} {x : Binary64} (hx : ReadsTimeout data x)
    (hnumber : ¬ data.Holds timeoutPath (.real .nan)) : Binary64.zero.lt x = true := by
  cases hx with
  | own hheld hgives =>
      rcases hgives.eq_nan_or_zero_lt with ⟨rfl, -⟩ | hpos
      · exact absurd hheld hnumber
      · exact hpos
  | default _ => exact Binary64.zero_lt_ofInt (by decide)

theorem readsTimeout_nan {data : Settings.Table} (hheld : data.Holds timeoutPath (.real .nan)) :
    ReadsTimeout data .nan :=
  .own hheld (.real (.inl rfl))

theorem HoldsTable.unique {table table' : Settings.Table} (h : HoldsTable files path table)
    (h' : HoldsTable files path table') : table = table' := by
  obtain ⟨text, entries, ⟨bytes, hread, hdecode⟩, hparse, htable⟩ := h
  obtain ⟨text', entries', ⟨bytes', hread', hdecode'⟩, hparse', htable'⟩ := h'
  rw [hread'] at hread
  cases hread
  rw [hdecode'] at hdecode
  cases hdecode
  rw [hparse'] at hparse
  cases hparse
  rw [htable'] at htable
  exact (Option.some.inj htable).symm

/-- A configuration that is loaded waits for a time above zero unless the file gives what is no
number for it, and then it is this that is waited for. The environment has no say in it. -/
theorem timeout_above_zero_iff (hload : load files path env words = .ok config) :
    (Binary64.zero.lt config.endpoints.timeout = true ↔ ¬ GivesNoNumber files path) ∧
      (config.endpoints.timeout = .nan ↔ GivesNoNumber files path) := by
  obtain ⟨table, loaded, htable, hloaded, rfl⟩ := load_eq_ok_iff.mp hload
  have htimeout : (loaded.withEnvironment env).endpoints.timeout = loaded.endpoints.timeout := rfl
  have hreads := readsTimeout_of_ofTable hloaded
  rw [htimeout]
  by_cases hnan : table.Holds timeoutPath (.real .nan)
  · have hgives : GivesNoNumber files path := ⟨table, htable, hnan⟩
    rw [hreads.unique (readsTimeout_nan hnan)]
    exact ⟨iff_of_false (by decide) (not_not_intro hgives), iff_of_true rfl hgives⟩
  · have hnumber : ¬ GivesNoNumber files path := by
      rintro ⟨other, hother, hheld⟩
      rw [hother.unique htable] at hheld
      exact hnan hheld
    have hpos := hreads.zero_lt hnan
    refine ⟨iff_of_true hpos hnumber, iff_of_false ?_ hnumber⟩
    intro heq
    rw [heq] at hpos
    contradiction

def infiniteText : String := "[endpoints]\ntimeout = inf"

/-- A time without end lies above zero. -/
theorem infinite_timeout_above_zero :
    load (treeOf (fileOf infiniteText)) settingsPath .empty =
        .ok { endpoints := { timeout := .infinite false } } ∧
      Binary64.zero.lt (.infinite false) = true ∧
      ¬ GivesNoNumber (treeOf (fileOf infiniteText)) settingsPath := by
  have hparse : Toml.parse infiniteText = .ok [(.text "endpoints",
      .table [(.text "timeout", .real (.infinite false))])] := by
    with_unfolding_all rfl
  have htable : HoldsTable (treeOf (fileOf infiniteText)) settingsPath
      [("endpoints", .table [(.text "timeout", .real (.infinite false))])] :=
    holdsTable_fileOf (by decide +kernel) hparse rfl
  have hconfig : ofTable [("endpoints", .table [(.text "timeout", .real (.infinite false))])] =
      .ok { endpoints := { timeout := .infinite false } } := by
    decide +kernel
  have hload : load (treeOf (fileOf infiniteText)) settingsPath .empty =
      .ok { endpoints := { timeout := .infinite false } } :=
    load_eq_ok_iff.mpr ⟨_, _, htable, hconfig, rfl⟩
  obtain ⟨habove, -⟩ := timeout_above_zero_iff hload
  exact ⟨hload, by decide, habove.mp (by decide)⟩

def noNumberText : String := "[endpoints]\ntimeout = nan"

/-- What is no number passes for a timeout, and it does not lie above zero. -/
theorem noNumber_timeout_not_above_zero :
    load (treeOf (fileOf noNumberText)) settingsPath .empty =
        .ok { endpoints := { timeout := .nan } } ∧
      Binary64.zero.lt .nan = false := by
  have hparse : Toml.parse noNumberText = .ok [(.text "endpoints",
      .table [(.text "timeout", .real .nan)])] := by
    with_unfolding_all rfl
  have htable : HoldsTable (treeOf (fileOf noNumberText)) settingsPath
      [("endpoints", .table [(.text "timeout", .real .nan)])] :=
    holdsTable_fileOf (by decide +kernel) hparse rfl
  have hconfig : ofTable [("endpoints", .table [(.text "timeout", .real .nan)])] =
      .ok { endpoints := { timeout := .nan } } := by
    decide +kernel
  exact ⟨load_eq_ok_iff.mpr ⟨_, _, htable, hconfig, rfl⟩, rfl⟩

end Config

end BuildVersion
