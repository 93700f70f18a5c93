import BuildVersion.Fault

namespace BuildVersion

inductive Outcome (ε : Type) (α : Type)
  | ok (value : α)
  | err (error : ε)
  | aborted (fault : Fault)
  deriving DecidableEq, Repr

namespace Outcome

variable {ε ε' α β : Type}

def map (f : α → β) : Outcome ε α → Outcome ε β
  | ok a => ok (f a)
  | err e => err e
  | aborted fault => aborted fault

def mapErr (f : ε → ε') : Outcome ε α → Outcome ε' α
  | ok a => ok a
  | err e => err (f e)
  | aborted fault => aborted fault

def bind (x : Outcome ε α) (f : α → Outcome ε β) : Outcome ε β :=
  match x with
  | ok a => f a
  | err e => err e
  | aborted fault => aborted fault

instance : Monad (Outcome ε) where
  pure := ok
  bind := bind

/-- A value or an error, never a fault. -/
def ofExcept : Except ε α → Outcome ε α
  | .ok a => ok a
  | .error e => err e

@[simp] theorem map_ok (f : α → β) (a : α) : (ok a : Outcome ε α).map f = ok (f a) := rfl

@[simp] theorem map_err (f : α → β) (e : ε) : (err e : Outcome ε α).map f = err e := rfl

@[simp] theorem map_aborted (f : α → β) (x : Fault) :
    (aborted x : Outcome ε α).map f = aborted x := rfl

@[simp] theorem bind_ok (a : α) (f : α → Outcome ε β) : (ok a).bind f = f a := rfl

@[simp] theorem bind_err (e : ε) (f : α → Outcome ε β) : (err e).bind f = err e := rfl

@[simp] theorem bind_aborted (x : Fault) (f : α → Outcome ε β) :
    (aborted x).bind f = aborted x := rfl

theorem bind_eq_ok_iff {x : Outcome ε α} {f : α → Outcome ε β} {b : β} :
    x.bind f = ok b ↔ ∃ a, x = ok a ∧ f a = ok b := by
  cases x <;> simp

theorem map_eq_ok_iff {x : Outcome ε α} {f : α → β} {b : β} :
    x.map f = ok b ↔ ∃ a, x = ok a ∧ f a = b := by
  cases x <;> simp

theorem bind_eq_aborted_iff {x : Outcome ε α} {f : α → Outcome ε β} {fault : Fault} :
    x.bind f = aborted fault ↔ x = aborted fault ∨ ∃ a, x = ok a ∧ f a = aborted fault := by
  cases x <;> simp

theorem mapErr_eq_ok_iff {x : Outcome ε α} {f : ε → ε'} {a : α} :
    x.mapErr f = ok a ↔ x = ok a := by
  cases x <;> simp [mapErr]

theorem mapErr_eq_aborted_iff {x : Outcome ε α} {f : ε → ε'} {fault : Fault} :
    x.mapErr f = aborted fault ↔ x = aborted fault := by
  cases x <;> simp [mapErr]

theorem map_eq_bind (f : α → β) (x : Outcome ε α) : x.map f = x.bind fun a => ok (f a) := by
  cases x <;> rfl

end Outcome

end BuildVersion
