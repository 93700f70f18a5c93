import BuildVersion.Outcome

namespace BuildVersion.Outcome

variable {ε α β γ : Type} {P : α → Prop} {Q : β → Prop} {E F : Fault → Prop}

theorem map_map (f : α → β) (g : β → γ) (x : Outcome ε α) :
    (x.map f).map g = x.map fun a => g (f a) := by
  cases x <;> rfl

theorem map_bind (f : α → Outcome ε β) (g : β → γ) (x : Outcome ε α) :
    (x.bind f).map g = x.bind fun a => (f a).map g := by
  cases x <;> rfl

/-- A value has `P`, and a fault has `E`. -/
structure Ensures (P : α → Prop) (E : Fault → Prop) (x : Outcome ε α) : Prop where
  of_ok : ∀ a, x = ok a → P a
  of_aborted : ∀ fault, x = aborted fault → E fault

theorem ensures_ok {a : α} (ha : P a) : (ok a : Outcome ε α).Ensures P E where
  of_ok := by
    intro b hb
    rw [← ok.inj hb]
    exact ha
  of_aborted := by
    intro fault hfault
    contradiction

theorem ensures_err (e : ε) : (err e : Outcome ε α).Ensures P E where
  of_ok := by
    intro a ha
    contradiction
  of_aborted := by
    intro fault hfault
    contradiction

theorem ensures_aborted {fault : Fault} (hfault : E fault) :
    (aborted fault : Outcome ε α).Ensures P E where
  of_ok := by
    intro a ha
    contradiction
  of_aborted := by
    intro other hother
    rw [← aborted.inj hother]
    exact hfault

namespace Ensures

variable {x : Outcome ε α}

theorem imp {P' : α → Prop} (hx : x.Ensures P E) (hP : ∀ a, P a → P' a)
    (hE : ∀ fault, E fault → F fault) : x.Ensures P' F where
  of_ok a ha := hP a (hx.of_ok a ha)
  of_aborted fault hfault := hE fault (hx.of_aborted fault hfault)

theorem mono {P' : α → Prop} (hx : x.Ensures P E) (hP : ∀ a, P a → P' a) : x.Ensures P' E :=
  hx.imp hP fun _ hfault => hfault

theorem bind {f : α → Outcome ε β} (hx : x.Ensures P E)
    (hf : ∀ a, P a → (f a).Ensures Q E) : (x.bind f).Ensures Q E := by
  cases x with
  | ok a => exact hf a (hx.of_ok a rfl)
  | err e => exact ensures_err e
  | aborted fault => exact ensures_aborted (hx.of_aborted fault rfl)

theorem map {f : α → β} (hx : x.Ensures P E) (hf : ∀ a, P a → Q (f a)) :
    (x.map f).Ensures Q E := by
  rw [map_eq_bind]
  exact hx.bind fun a ha => ensures_ok (hf a ha)

end Ensures

end BuildVersion.Outcome
