import BuildVersion.Proofs.Config.Template
import BuildVersion.Proofs.Number.Binary64

namespace BuildVersion

namespace Settings

variable {ε : Type} {fault : Fault}

theorem Value.number?_eq_aborted_iff {v : Value} :
    (v.number? : Outcome ε (Option Binary64)) = .aborted fault ↔
      fault = .numberTooLarge ∧
        ∃ n : Int, v = .integer n ∧ (Binary64.overflowBound : Int) ≤ n := by
  cases v with
  | integer n =>
      have hpos := Binary64.overflowBound_pos
      have hinfinite := Binary64.ofInt_eq_infinite_iff n
      simp only [Value.number?, Value.integer.injEq, exists_eq_left']
      split
      · simp only [reduceCtorEq, false_iff]
        omega
      · split
        · next sign hsign =>
            have hlarge := hinfinite.mp ⟨sign, hsign⟩
            have hle : (Binary64.overflowBound : Int) ≤ n := by omega
            simp only [Outcome.aborted.injEq, hle, and_true, eq_comm]
        · next hfinite =>
            have hsmall : ¬ (Binary64.overflowBound : Int) ≤ n := by
              intro hle
              obtain ⟨sign, hsign⟩ := hinfinite.mpr (by omega)
              exact hfinite sign hsign
            simp only [reduceCtorEq, hsmall, and_false]
  | _ => simp [Value.number?]

theorem Table.number?_eq_aborted_iff {t : Table} {key : String} :
    (t.number? key : Outcome ε (Option Binary64)) = .aborted fault ↔
      fault = .numberTooLarge ∧
        ∃ n : Int, t.lookup key = some (.integer n) ∧ (Binary64.overflowBound : Int) ≤ n := by
  unfold Table.number?
  cases t.lookup key with
  | none => simp
  | some v => simp [Value.number?_eq_aborted_iff]

end Settings

namespace Config

open Template (expand)

variable {fault : Fault}

/-- A template asks for a name, a position or a number that is not there. -/
def IsMissing : TemplateFault → Prop
  | .missingName _ => True
  | .missingPosition => True
  | .missingNumber => True
  | _ => False

theorem checkTemplate_eq_aborted_iff {template : String} :
    checkTemplate template = .aborted fault ↔
      Text.contains branchField template = true ∧
        ∃ cause, expand template trialBranch = .error cause ∧ ¬ IsMissing cause ∧
          fault = .template cause := by
  unfold checkTemplate
  by_cases hmentioned : Text.contains branchField template = true
  · rw [if_pos hmentioned]
    cases expand template trialBranch with
    | ok url => simp
    | error cause => cases cause <;> simp [hmentioned, IsMissing, eq_comm]
  · simp [hmentioned]

theorem ofTable_eq_aborted_iff {data : Settings.Table} :
    ofTable data = .aborted fault ↔ checkTemplate (templateOf data) = .aborted fault ∨
      checkTemplate (templateOf data) = .ok () ∧ fault = .numberTooLarge ∧
        ∃ n : Int, (endpointsOf data).lookup "timeout" = some (.integer n) ∧
          (Binary64.overflowBound : Int) ≤ n := by
  have htable : ofTable data = (checkTemplate (templateOf data)).bind fun _ =>
      ((endpointsOf data).number? "timeout").bind fun timeout => .ok _ := rfl
  simp only [htable, Outcome.bind_eq_aborted_iff, Settings.Table.number?_eq_aborted_iff,
    reduceCtorEq, and_false, exists_false, or_false]
  constructor
  · rintro (hcheck | ⟨⟨⟩, hcheck⟩)
    · exact .inl hcheck
    · exact .inr hcheck
  · rintro (hcheck | hcheck)
    · exact .inl hcheck
    · exact .inr ⟨(), hcheck⟩

end Config

end BuildVersion
