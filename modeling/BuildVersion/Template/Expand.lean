import BuildVersion.Template.Piece
import BuildVersion.Template.Value

namespace BuildVersion.Template

/-- The name that a template knows. -/
def knownName : String := "branch"

/-- The position that a text of digits names; `none` for a text that is no position. -/
def position (s : List Char) (n : Nat) : Except TemplateFault (Option Nat) :=
  match s with
  | [] => .ok (some n)
  | c :: rest =>
    match Text.digitValue? c with
    | none => .ok none
    | some d =>
      if n * 10 + d ≤ Layout.maxNumber then position rest (n * 10 + d) else .error .malformed

/-- A step of a reference: its kind by its first character, its text, and what follows it. -/
def step? : List Char → Except TemplateFault (Step × List Char)
  | '.' :: rest =>
    let name := rest.takeWhile fun c => c ≠ '.' ∧ c ≠ '['
    if name = [] then .error .malformed
    else .ok (.member name, rest.drop name.length)
  | '[' :: rest =>
    let name := rest.takeWhile (· ≠ ']')
    if name.length = rest.length then .error .malformed
    else
      match position name 0 with
      | .error e => .error e
      | .ok n =>
        if name = [] then .error .malformed
        else .ok (n.elim (.key name) .position, rest.drop (name.length + 1))
  | _ => .error .malformed

theorem length_lt_of_step? {s rest : List Char} {step : Step} (h : step? s = .ok (step, rest)) :
    rest.length < s.length := by
  unfold step? at h
  dsimp only at h
  split at h
  · split at h
    · contradiction
    · obtain ⟨-, rfl⟩ := Prod.mk.inj (Except.ok.inj h)
      exact Nat.lt_succ_of_le (List.drop_suffix _ _).length_le
  · split at h
    · contradiction
    · split at h
      · contradiction
      · split at h
        · contradiction
        · obtain ⟨-, rfl⟩ := Prod.mk.inj (Except.ok.inj h)
          exact Nat.lt_succ_of_le (List.drop_suffix _ _).length_le
  · contradiction

def follow (v : Value) (steps : List Char) : Except TemplateFault Value :=
  match steps with
  | [] => .ok v
  | c :: s =>
    match _h : step? (c :: s) with
    | .error e => .error e
    | .ok (step, rest) => do
      let v ← v.step step
      follow v rest
termination_by steps.length
decreasing_by exact length_lt_of_step? _h

/-- The value that a reference names. A reference without a name, or with a number in its place,
asks for a value by position, and there is none. -/
def resolve (branch reference : List Char) : Except TemplateFault Value := do
  let name := reference.takeWhile fun c => c ≠ '.' ∧ c ≠ '['
  let n ← position name 0
  if n.isSome then .error .missingPosition
  else if String.ofList name = knownName then
    follow (.text branch) (reference.drop name.length)
  else .error (.missingName (String.ofList name))

/-- Expands one piece; `inner` expands the layout of a field. -/
def expandPiece (branch : List Char) (inner : List Char → Except TemplateFault (List Char)) :
    Piece → Except TemplateFault (List Char)
  | .literal c => .ok [c]
  | .broken => .error .malformed
  | .field f => do
    let v ← resolve branch f.reference
    let v ← f.conversion.elim (.ok v) v.convert
    let layout ← if f.nested then inner f.layout else .ok f.layout
    v.fit layout

/-- Expands a template whose layouts may nest `depth` deep. -/
def expandNested (branch : List Char) : (depth : Nat) → List Char → Except TemplateFault (List Char)
  | 0, _ => .error .malformed
  | depth + 1, template =>
    ((pieces template).mapM (expandPiece branch (expandNested branch depth))).map List.flatten

/-- The template with the branch in the places of its fields. -/
def expand (template branch : String) : Except TemplateFault String :=
  (expandNested branch.toList 2 template.toList).map String.ofList

end BuildVersion.Template
