import BuildVersion.Proofs.Template.Walk

namespace BuildVersion.Template

theorem bind_eq_ok_iff {ε α β : Type} {x : Except ε α} {f : α → Except ε β} {b : β} :
    (x >>= f) = .ok b ↔ ∃ a, x = .ok a ∧ f a = .ok b := by
  cases x <;> simp [bind, Except.bind]

/-- Ways to write the branch: as it is, in quotes, or in quotes and ASCII. -/
inductive IsRendering : (List Char → List Char) → Prop
  | bare : IsRendering fun b => b
  | quoted : IsRendering Text.Quoted.encode
  | ascii : IsRendering fun b => Value.inAscii (Text.Quoted.encode b)

namespace Value

/-- The value that a field shows for each branch, after it was converted. -/
inductive Displayed : (List Char → Value) → Prop
  | constant (v : Value) : Displayed fun _ => v
  | rendering {write : List Char → List Char} (hwrite : IsRendering write) :
      Displayed fun b => .text (write b)
  | bound (owner : Kind) (m : Member) {v : List Char → Value} (hv : Uniform v) :
      Displayed fun b => .bound owner m (v b)

theorem Uniform.displayed {v : List Char → Value} (hv : Uniform v) : Displayed v := by
  cases hv with
  | constant v => exact .constant v
  | branch => exact .rendering .bare
  | bound owner m hv => exact .bound owner m hv

theorem quoted_bound {self other : Value} (h : self.kindOf = other.kindOf) (owner : Kind)
    (m : Member) : (bound owner m self).quoted = (bound owner m other).quoted := by
  rw [quoted, quoted, h]

/-- A text that is made of a value, and of a bound member without regard to the value that it is
bound to. -/
theorem Uniform.displayed_text {v : List Char → Value} (hv : Uniform v)
    (textOf : Value → List Char) {write : List Char → List Char} (hwrite : IsRendering write)
    (htext : ∀ s, textOf (.text s) = write s)
    (hbound : ∀ owner m {self other : Value}, self.kindOf = other.kindOf →
      textOf (.bound owner m self) = textOf (.bound owner m other)) :
    Displayed fun b => .text (textOf (v b)) := by
  cases hv with
  | constant v => exact .constant _
  | branch =>
      simp only [htext]
      exact .rendering hwrite
  | bound owner m hv =>
      have hsame := fun b => hbound owner m (hv.kindOf_eq b)
      simp only [hsame]
      exact .constant _

theorem Uniform.convert {v : List Char → Value} (hv : Uniform v) {c : Char} {x : Value}
    (hx : (v []).convert c = .ok x) :
    ∃ u, Displayed u ∧ ∀ b, (v b).convert c = .ok (u b) := by
  unfold Value.convert at hx
  split at hx
  · refine ⟨_, hv.displayed_text quoted .quoted (fun s => rfl) ?_, fun b => rfl⟩
    exact fun owner m _ _ h => quoted_bound h owner m
  · refine ⟨_, hv.displayed_text shown .bare (fun s => rfl) ?_, fun b => rfl⟩
    exact fun owner m _ _ h => quoted_bound h owner m
  · refine ⟨_, hv.displayed_text (fun v => inAscii v.quoted) .ascii (fun s => rfl) ?_,
      fun b => rfl⟩
    exact fun owner m _ _ h => congrArg inAscii (quoted_bound h owner m)
  · contradiction

/-- Whether a value can be fitted into a written layout. -/
def Accepts (v : Value) (written : List Char) : Prop :=
  ∃ s, v.fit written = .ok s

section Fit

variable {s written : List Char} {u : List Char → Value}

theorem fitText_of_parse {layout : Layout} (hparse : Layout.parse written = some layout)
    (hwidth : layout.width ≤ Layout.maxWidth) : fitText s written = .ok (layout.apply s) := by
  simp only [fitText, hparse, if_neg (Nat.not_lt.mpr hwidth)]

theorem accepts_text_iff :
    (text s).Accepts written ↔
      ∃ layout, Layout.parse written = some layout ∧ layout.width ≤ Layout.maxWidth := by
  constructor
  · rintro ⟨x, hx⟩
    rw [fit, fitText] at hx
    split at hx
    · contradiction
    · next layout hparse =>
        split at hx
        · contradiction
        · next hwidth => exact ⟨layout, hparse, Nat.not_lt.mp hwidth⟩
  · rintro ⟨layout, hparse, hwidth⟩
    exact ⟨_, fitText_of_parse hparse hwidth⟩

theorem fit_bound (owner : Kind) (m : Member) (self : Value) :
    (bound owner m self).fit written =
      if written.isEmpty then .ok (shownBound m self.kindOf).toList else .error .unsupported := rfl

theorem Uniform.fit_bound_eq (hu : Uniform u) (owner : Kind) (m : Member) (b : List Char) :
    (Value.bound owner m (u b)).fit written = (Value.bound owner m (u [])).fit written := by
  rw [fit_bound, fit_bound, hu.kindOf_eq]

/-- Whether the value can be fitted into a layout does not depend on the branch. -/
theorem Displayed.accepts_iff (hu : Displayed u) (b : List Char) :
    (u b).Accepts written ↔ (u []).Accepts written := by
  cases hu with
  | constant v => exact Iff.rfl
  | rendering hwrite => rw [accepts_text_iff, accepts_text_iff]
  | bound owner m hv => rw [Accepts, Accepts, hv.fit_bound_eq]

end Fit

end Value

/-- What a field shows for each branch: always the same text, or the branch in a layout. -/
inductive Shows : (List Char → List Char) → Prop
  | constant (s : List Char) : Shows fun _ => s
  | branch (layout : Layout) {write : List Char → List Char} (hwrite : IsRendering write) :
      Shows fun b => layout.apply (write b)

theorem Value.Displayed.shows {u : List Char → Value} (hu : Displayed u) {written : List Char}
    (haccepts : (u []).Accepts written) :
    ∃ x, Shows x ∧ ∀ b, (u b).fit written = .ok (x b) := by
  cases hu with
  | constant v =>
      obtain ⟨s, hs⟩ := haccepts
      exact ⟨fun _ => s, .constant s, fun _ => hs⟩
  | rendering hwrite =>
      obtain ⟨layout, hparse, hwidth⟩ := accepts_text_iff.mp haccepts
      exact ⟨_, .branch layout hwrite, fun _ => fitText_of_parse hparse hwidth⟩
  | bound owner m hv =>
      obtain ⟨s, hs⟩ := haccepts
      exact ⟨fun _ => s, .constant s, fun b => (hv.fit_bound_eq owner m b).trans hs⟩

def Field.value (f : Field) (branch : List Char) : Except TemplateFault Value := do
  let v ← resolve branch f.reference
  f.conversion.elim (.ok v) v.convert

theorem Field.displayed_value (f : Field) {x : Value} (hx : f.value [] = .ok x) :
    ∃ u, Value.Displayed u ∧ ∀ b, f.value b = .ok (u b) := by
  obtain ⟨v, hv, hconvert⟩ := bind_eq_ok_iff.mp hx
  obtain ⟨w, hw, hresolve⟩ := walksUniformly_resolve f.reference v hv
  obtain rfl : w [] = v := Except.ok.inj ((hresolve []).symm.trans hv)
  cases hconversion : f.conversion with
  | none =>
      refine ⟨w, hw.displayed, fun b => bind_eq_ok_iff.mpr ⟨w b, hresolve b, ?_⟩⟩
      rw [hconversion, Option.elim_none]
  | some c =>
      rw [hconversion, Option.elim_some] at hconvert
      obtain ⟨u, hu, hall⟩ := hw.convert hconvert
      refine ⟨u, hu, fun b => bind_eq_ok_iff.mpr ⟨w b, hresolve b, ?_⟩⟩
      rw [hconversion, Option.elim_some, hall]

theorem expandPiece_field (branch : List Char)
    (inner : List Char → Except TemplateFault (List Char)) (f : Field) :
    expandPiece branch inner (.field f) =
      f.value branch >>= fun v =>
        (if f.nested then inner f.layout else .ok f.layout) >>= v.fit := by
  rw [expandPiece, Field.value, bind_assoc]
  by_cases hnested : f.nested = true <;> simp only [hnested] <;> rfl

section Expansion

variable {f : Field} {branch : List Char} {inner : List Char → Except TemplateFault (List Char)}

theorem Field.exists_value (h : ∃ s, expandPiece branch inner (.field f) = .ok s) :
    ∃ v, f.value branch = .ok v := by
  obtain ⟨s, hs⟩ := h
  rw [expandPiece_field, bind_eq_ok_iff] at hs
  obtain ⟨v, hv, -⟩ := hs
  exact ⟨v, hv⟩

theorem Field.exists_expandPiece_iff {v : Value} (hv : f.value branch = .ok v) :
    (∃ s, expandPiece branch inner (.field f) = .ok s) ↔
      ∃ layout, (if f.nested then inner f.layout else .ok f.layout) = .ok layout ∧
        v.Accepts layout := by
  simp only [expandPiece_field, hv, bind_eq_ok_iff, Except.ok.injEq, exists_eq_left', Value.Accepts]
  exact ⟨fun ⟨s, layout, hlayout, hs⟩ => ⟨layout, hlayout, s, hs⟩,
    fun ⟨layout, hlayout, s, hs⟩ => ⟨s, layout, hlayout, hs⟩⟩

end Expansion

/-- A piece in the layout of a field, where no field has a layout with fields. -/
theorem exists_shows_of_expandPiece {piece : Piece}
    (hs : ∃ s, expandPiece [] (expandNested [] 0) piece = .ok s) :
    ∃ x, Shows x ∧ ∀ b, expandPiece b (expandNested b 0) piece = .ok (x b) := by
  cases piece with
  | literal c => exact ⟨fun _ => [c], .constant [c], fun _ => rfl⟩
  | broken =>
      obtain ⟨s, hs⟩ := hs
      contradiction
  | field f =>
      obtain ⟨v, hv⟩ := Field.exists_value hs
      obtain ⟨u, hu, hvalue⟩ := f.displayed_value hv
      obtain ⟨layout, hlayout, haccepts⟩ := (Field.exists_expandPiece_iff (hvalue [])).mp hs
      by_cases hnested : f.nested = true
      · rw [if_pos hnested, expandNested] at hlayout
        contradiction
      · rw [if_neg hnested, Except.ok.injEq] at hlayout
        obtain ⟨x, hx, hall⟩ := hu.shows (hlayout ▸ haccepts)
        refine ⟨x, hx, fun b => ?_⟩
        rw [expandPiece_field, hvalue, if_neg hnested]
        exact hall b

end BuildVersion.Template
