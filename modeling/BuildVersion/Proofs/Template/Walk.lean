import BuildVersion.Template.Expand

/-!
Walks from the branch to the value that a field shows. No step looks at the text of the branch but
one to a character of it, and an empty branch has no characters; so a walk that succeeds for the
empty branch succeeds for every branch, and leads to the same value but for the branch inside.
-/

namespace BuildVersion.Template

namespace Value

/-- A value for each branch: always the same, the branch itself, or a member bound to such a
value. -/
inductive Uniform : (List Char → Value) → Prop
  | constant (v : Value) : Uniform fun _ => v
  | branch : Uniform text
  | bound (owner : Kind) (m : Member) {v : List Char → Value} (hv : Uniform v) :
      Uniform fun b => .bound owner m (v b)

namespace Uniform

variable {v : List Char → Value}

theorem kindOf_eq (hv : Uniform v) (b : List Char) : (v b).kindOf = (v []).kindOf := by
  cases hv <;> rfl

theorem naming_eq (hv : Uniform v) (b : List Char) : (v b).naming = (v []).naming := by
  cases hv <;> rfl

theorem bind (hv : Uniform v) (owner : Kind) (m : Member) :
    Uniform fun b => Value.bind owner m (v b) := by
  simp only [Value.bind, hv.kindOf_eq]
  cases m.form with
  | method => exact .bound owner m hv
  | operator => exact .bound owner m hv
  | _ => exact .constant _

end Uniform

/-- A member that is found for the empty branch is found for every branch. -/
def FoundUniformly (find : List Char → Option Value) : Prop :=
  ∀ x, find [] = some x → ∃ w, Uniform w ∧ ∀ b, find b = some (w b)

theorem FoundUniformly.constant (x : Option Value) : FoundUniformly fun _ => x :=
  fun y hy => ⟨fun _ => y, .constant y, fun _ => hy⟩

theorem FoundUniformly.uniform {v : List Char → Value} (hv : Uniform v) :
    FoundUniformly fun b => some (v b) :=
  fun _ _ => ⟨v, hv, fun _ => rfl⟩

section Member

variable {owner : Kind} {m : Member} {v : List Char → Value} {name : String}

theorem ofBound?_self (self : Value) :
    ofBound? owner m self "__self__" = some (if m.form = .free then .nothing else self) := rfl

theorem ofBound?_of_ne {self other : Value} (hname : name ≠ "__self__")
    (hnaming : self.naming = other.naming) :
    ofBound? owner m self name = ofBound? owner m other name := by
  unfold ofBound?
  split
  · contradiction
  · rfl
  · rw [hnaming]
  · rfl

theorem foundUniformly_ofBound? (hv : Uniform v) :
    FoundUniformly fun b => ofBound? owner m (v b) name := by
  by_cases hname : name = "__self__"
  · subst hname
    simp only [ofBound?_self]
    by_cases hfree : m.form = .free
    · simp only [hfree, if_true]
      exact .constant _
    · simp only [hfree, if_false]
      exact .uniform hv
  · simp only [ofBound?_of_ne hname (hv.naming_eq _)]
    exact .constant _

theorem foundUniformly_data? (hv : Uniform v) : FoundUniformly fun b => (v b).data? name := by
  cases hv with
  | constant v => exact .constant _
  | branch => exact .constant _
  | bound owner m hv =>
      simp only [data?, kindOf]
      by_cases hclass : name = "__class__"
      · simp only [hclass, if_true]
        exact .constant _
      · simp only [hclass, if_false]
        exact foundUniformly_ofBound? hv

/-- A member of a kind, as values of the kind give it. -/
theorem foundUniformly_ownMember? (hv : Uniform v) (k : Kind) :
    FoundUniformly fun b => (k.member? name).bind fun (owner, m) =>
      if m.isData then (v b).data? name else some ((v b).bind owner m) := by
  cases hmember : k.member? name with
  | none => exact .constant none
  | some found =>
      obtain ⟨owner, m⟩ := found
      simp only [Option.bind_some]
      by_cases hdata : m.isData = true
      · simp only [hdata, if_true]
        exact foundUniformly_data? hv
      · simp only [hdata]
        exact .uniform (hv.bind owner m)

theorem member?_text (s : List Char) :
    (text s).member? name = (Kind.text.member? name).bind fun (owner, m) =>
      if m.isData then (text s).data? name else some ((text s).bind owner m) := by
  simp only [member?, ownMember?, kindOf]
  cases Kind.text.member? name <;> rfl

theorem member?_bound (self : Value) :
    (bound owner m self).member? name =
      ((bound owner m self).kindOf.member? name).bind fun (owner', m') =>
        if m'.isData then (bound owner m self).data? name
        else some ((bound owner m self).bind owner' m') := by
  simp only [member?, ownMember?]
  cases (bound owner m self).kindOf.member? name <;> rfl

theorem foundUniformly_member? (hv : Uniform v) : FoundUniformly fun b => (v b).member? name := by
  have hkind := hv.kindOf_eq
  cases hv with
  | constant v => exact .constant _
  | branch =>
      simp only [member?_text]
      exact foundUniformly_ownMember? .branch _
  | bound owner m hv =>
      simp only [member?_bound, hkind]
      exact foundUniformly_ownMember? (.bound owner m hv) _

end Member

/-- A walk that succeeds for the empty branch succeeds for every branch. -/
def WalksUniformly (walk : List Char → Except TemplateFault Value) : Prop :=
  ∀ x, walk [] = .ok x → ∃ w, Uniform w ∧ ∀ b, walk b = .ok (w b)

theorem WalksUniformly.constant (x : Except TemplateFault Value) : WalksUniformly fun _ => x :=
  fun y hy => ⟨fun _ => y, .constant y, fun _ => hy⟩

theorem WalksUniformly.bind {walk : List Char → Except TemplateFault Value}
    {next : Value → Except TemplateFault Value} (hwalk : WalksUniformly walk)
    (hnext : ∀ w, Uniform w → WalksUniformly fun b => next (w b)) :
    WalksUniformly fun b => (walk b).bind next := by
  intro x hx
  simp only [Except.bind] at hx ⊢
  cases hfirst : walk [] with
  | error e => simp [hfirst] at hx
  | ok y =>
      obtain ⟨w, hw, hall⟩ := hwalk y hfirst
      simp only [hall] at hx ⊢
      exact hnext w hw x hx

theorem step_member (v : Value) (name : List Char) :
    v.step (.member name) =
      (v.member? (String.ofList name)).elim (.error .noAttribute) .ok := by
  simp only [step]
  split <;> simp [*]

theorem walksUniformly_step {v : List Char → Value} (hv : Uniform v) (step : Step) :
    WalksUniformly fun b => (v b).step step := by
  cases step with
  | member name =>
      intro x hx
      simp only [step_member] at hx ⊢
      cases hfound : (v []).member? (String.ofList name) with
      | none => simp [hfound] at hx
      | some y =>
          obtain ⟨w, hw, hall⟩ := foundUniformly_member? hv y hfound
          refine ⟨w, hw, fun b => ?_⟩
          have hb : (v b).member? (String.ofList name) = some (w b) := hall b
          rw [hb, Option.elim_some]
  | position n =>
      cases hv with
      | constant v => exact .constant _
      | branch =>
          -- The empty branch has no character at any position.
          intro x hx
          simp [step] at hx
      | bound owner m hv => exact .constant _
  | key name =>
      cases hv with
      | constant v => exact .constant _
      | branch => exact .constant _
      | bound owner m hv => exact .constant _

end Value

open Value (Uniform WalksUniformly walksUniformly_step)

section Follow

variable {s rest : List Char} {step : Step} {e : TemplateFault}

theorem follow_nil (v : Value) : follow v [] = .ok v := by
  rw [follow.eq_def]

theorem follow_of_error (v : Value) (hs : s ≠ []) (hstep : step? s = .error e) :
    follow v s = .error e := by
  rw [follow.eq_def]
  split
  · contradiction
  · split
    · next h => rw [Except.error.inj (hstep.symm.trans h)]
    · next h => rw [hstep] at h; contradiction

theorem follow_of_step? (v : Value) (hstep : step? s = .ok (step, rest)) :
    follow v s = (v.step step).bind (follow · rest) := by
  rw [follow.eq_def]
  split
  · contradiction
  · split
    · next h => rw [hstep] at h; contradiction
    · next h =>
        rw [hstep] at h
        cases h
        rfl

/-- By induction on the steps that are left: each of them is shorter than the text before it. -/
theorem walksUniformly_follow {v : List Char → Value} (hv : Uniform v) (s : List Char) :
    WalksUniformly fun b => follow (v b) s := by
  induction hn : s.length using Nat.strongRecOn generalizing v s with
  | ind n ih =>
      subst hn
      by_cases hs : s = []
      · subst hs
        simp only [follow_nil]
        exact fun _ _ => ⟨v, hv, fun _ => rfl⟩
      · cases hstep : step? s with
        | error e =>
            simp only [follow_of_error _ hs hstep]
            exact .constant _
        | ok found =>
            obtain ⟨step, rest⟩ := found
            simp only [follow_of_step? _ hstep]
            exact (walksUniformly_step hv step).bind fun w hw =>
              ih rest.length (length_lt_of_step? hstep) hw rest rfl

end Follow

theorem walksUniformly_resolve (reference : List Char) :
    WalksUniformly fun b => resolve b reference := by
  simp only [resolve, bind, Except.bind]
  split
  · exact .constant _
  · split
    · exact .constant _
    · split
      · exact walksUniformly_follow .branch _
      · exact .constant _

end BuildVersion.Template
