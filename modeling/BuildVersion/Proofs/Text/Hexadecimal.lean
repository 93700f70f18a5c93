import Mathlib.Algebra.Group.Nat.Defs
import BuildVersion.Text.Digit
import BuildVersion.Text.Quoted

namespace BuildVersion

/-- The digits `s` stand for the number `n`. -/
inductive Hexadecimal : (s : List Char) → (n : Nat) → Prop
  | nil : Hexadecimal [] 0
  | small {s : List Char} {n d : Nat} (front : Hexadecimal s n) (hd : d < 16) :
      Hexadecimal (s ++ [Nat.digitChar d]) (n * 16 + d)
  | capital {s : List Char} {n d : Nat} (front : Hexadecimal s n) (hd : d < 16) :
      Hexadecimal (s ++ [(Nat.digitChar d).toUpper]) (n * 16 + d)

theorem Hexadecimal.le_toNat_of_mem {s : List Char} {n : Nat} (hs : Hexadecimal s n) :
    ∀ c ∈ s, 0x20 ≤ c.toNat := by
  have hsmall : ∀ d < 16, 0x20 ≤ (Nat.digitChar d).toNat := by decide
  have hcapital : ∀ d < 16, 0x20 ≤ (Nat.digitChar d).toUpper.toNat := by decide
  induction hs with
  | nil => exact List.forall_mem_nil _
  | small _ hd ih =>
      exact List.forall_mem_append.mpr ⟨ih, List.forall_mem_singleton.mpr (hsmall _ hd)⟩
  | capital _ hd ih =>
      exact List.forall_mem_append.mpr ⟨ih, List.forall_mem_singleton.mpr (hcapital _ hd)⟩

namespace Text

theorem hexValue?_digitChar {d : Nat} (hd : d < 16) : hexValue? (Nat.digitChar d) = some d := by
  have hall : ∀ d : Fin 16, hexValue? (Nat.digitChar d) = some d.val := by decide
  exact hall ⟨d, hd⟩

theorem hexValue?_toUpper {d : Nat} (hd : d < 16) :
    hexValue? (Nat.digitChar d).toUpper = some d := by
  have hall : ∀ d : Fin 16, hexValue? (Nat.digitChar d).toUpper = some d.val := by decide
  exact hall ⟨d, hd⟩

theorem hexNumber?_snoc {s : List Char} {c : Char} {n d : Nat} (hs : hexNumber? s = some n)
    (hc : hexValue? c = some d) : hexNumber? (s ++ [c]) = some (n * 16 + d) := by
  rw [hexNumber?] at hs ⊢
  rw [List.foldlM_append, hs]
  simp [hc]

theorem hexNumber?_of_hexadecimal {s : List Char} {n : Nat} (hs : Hexadecimal s n) :
    hexNumber? s = some n := by
  induction hs with
  | nil => rfl
  | small _ hd ih => exact hexNumber?_snoc ih (hexValue?_digitChar hd)
  | capital _ hd ih => exact hexNumber?_snoc ih (hexValue?_toUpper hd)

namespace Quoted

theorem hexDigit_eq_digitChar {d : Nat} (hd : d < 16) : hexDigit d = Nat.digitChar d := by
  have hall : ∀ d : Fin 16, hexDigit d = Nat.digitChar d := by decide
  exact hall ⟨d, hd⟩

@[simp] theorem length_hexadecimal (width n : Nat) : (hexadecimal width n).length = width := by
  induction width generalizing n with
  | zero => rfl
  | succ width ih => rw [hexadecimal, List.length_append, ih, List.length_singleton]

theorem hexadecimal_mod (width n : Nat) : Hexadecimal (hexadecimal width n) (n % 16 ^ width) := by
  induction width generalizing n with
  | zero =>
      rw [pow_zero, Nat.mod_one]
      exact .nil
  | succ width ih =>
      have hlast : n % 16 ^ (width + 1) = n / 16 % 16 ^ width * 16 + n % 16 := by
        rw [pow_succ', Nat.mod_mul]
        omega
      rw [hexadecimal, hlast, hexDigit_eq_digitChar (Nat.mod_lt n (by decide))]
      exact .small (ih (n / 16)) (Nat.mod_lt n (by decide))

theorem hexadecimal_of_lt {width n : Nat} (hn : n < 16 ^ width) :
    Hexadecimal (hexadecimal width n) n := by
  have hmod := hexadecimal_mod width n
  rwa [Nat.mod_eq_of_lt hn] at hmod

end Quoted

end Text

end BuildVersion
