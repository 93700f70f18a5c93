import Mathlib.Algebra.GroupWithZero.Nat
import BuildVersion.Tar.Header
import BuildVersion.Proofs.Text.Digit
import BuildVersion.Proofs.Text.Split

namespace BuildVersion.Tar

def octalDigit (d : Nat) : UInt8 := UInt8.ofNat (0x30 + d)

/-- The last `width` octal digits of a number, the most significant first. -/
def octal : (width : Nat) → Nat → List UInt8
  | 0, _ => []
  | width + 1, n => octal width (n / 8) ++ [octalDigit (n % 8)]

@[simp] theorem length_octal (width n : Nat) : (octal width n).length = width := by
  induction width generalizing n with
  | zero => rfl
  | succ width ih => rw [octal, List.length_append, ih, List.length_singleton]

theorem exists_digit_of_mem_octal {width n : Nat} {b : UInt8} (hb : b ∈ octal width n) :
    ∃ d < 8, b = octalDigit d := by
  induction width generalizing n with
  | zero => simp [octal] at hb
  | succ width ih =>
      rcases List.mem_append.mp hb with hfront | hlast
      · exact ih hfront
      · exact ⟨n % 8, Nat.mod_lt n (by decide), List.mem_singleton.mp hlast⟩

theorem octalDigit_ne : ∀ d < 8, octalDigit d ≠ 0 ∧ octalDigit d < 0x80 := by decide

def charsOf (bytes : List UInt8) : List Char :=
  bytes.map fun b => Char.ofNat b.toNat

theorem char_octalDigit : ∀ d < 8, Char.ofNat (octalDigit d).toNat = Nat.digitChar d := by decide

/-- A character that no literal takes for a blank, a separator, a sign or a mark. -/
structure IsPlainChar (c : Char) : Prop where
  isBlank_eq : Text.isBlank c = false
  ne_underscore : c ≠ '_'
  ne_minus : c ≠ '-'
  ne_plus : c ≠ '+'
  ne_mark : c ≠ 'o' ∧ c ≠ 'O'

theorem isPlainChar_of_mem_charsOf_octal {width n : Nat} {c : Char}
    (hc : c ∈ charsOf (octal width n)) : IsPlainChar c := by
  have hplain : ∀ d < 8, Text.isBlank (Nat.digitChar d) = false ∧ Nat.digitChar d ≠ '_' ∧
      Nat.digitChar d ≠ '-' ∧ Nat.digitChar d ≠ '+' ∧ Nat.digitChar d ≠ 'o' ∧
      Nat.digitChar d ≠ 'O' := by decide
  obtain ⟨b, hb, rfl⟩ := List.mem_map.mp hc
  obtain ⟨d, hd, rfl⟩ := exists_digit_of_mem_octal hb
  obtain ⟨hblank, hunderscore, hminus, hplus, hmark⟩ := hplain d hd
  rw [char_octalDigit d hd]
  exact ⟨hblank, hunderscore, hminus, hplus, hmark⟩

theorem trim_charsOf_octal (width n : Nat) :
    Text.trim (charsOf (octal width n)) = charsOf (octal width n) :=
  Text.trim_of_forall fun _ hc => (isPlainChar_of_mem_charsOf_octal hc).isBlank_eq

theorem valueInBase?_octal (width n : Nat) :
    Numeral.valueInBase? 8 (charsOf (octal width n)) = some (n % 8 ^ width) := by
  induction width generalizing n with
  | zero => rw [Nat.pow_zero, Nat.mod_one]; rfl
  | succ width ih =>
      have hlt : n % 8 < 8 := Nat.mod_lt n (by decide)
      have hvalue := Text.digitValue?_digitChar (n % 8) (by omega)
      have hsplit : n % 8 ^ (width + 1) = n / 8 % 8 ^ width * 8 + n % 8 := by
        rw [Nat.pow_succ', Nat.mod_mul, Nat.mul_comm, Nat.add_comm]
      simp only [Numeral.valueInBase?] at ih ⊢
      rw [octal, charsOf, List.map_append, List.foldlM_append, ← charsOf, ih (n / 8), hsplit]
      simp [char_octalDigit (n % 8) hlt, hvalue, hlt]

theorem signOf_of_ne {c : Char} {s : List Char} (hminus : c ≠ '-') (hplus : c ≠ '+') :
    Numeral.signOf (c :: s) = (false, c :: s) := by
  rw [Numeral.signOf]
  · intro rest heq
    exact hminus (List.cons.inj heq).1
  · intro rest heq
    exact hplus (List.cons.inj heq).1

theorem afterOctalMark_of_notMem {s : List Char} (hlower : 'o' ∉ s) (hupper : 'O' ∉ s) :
    Numeral.afterOctalMark s = s := by
  unfold Numeral.afterOctalMark
  split
  next => simp at hlower
  next => simp at hupper
  next => simp at hlower
  next => simp at hupper
  next => rfl

/-- A literal of plain characters is read as it stands. -/
theorem octal?_of_isPlainChar {c : Char} {s : List Char} (hplain : ∀ d ∈ c :: s, IsPlainChar d)
    (htrim : Text.trim (c :: s) = c :: s) :
    Numeral.octal? (c :: s) = (Numeral.valueInBase? 8 (c :: s)).map (Numeral.signed false) := by
  have hfirst := hplain c List.mem_cons_self
  have hsign : Numeral.signOf (c :: s) = (false, c :: s) :=
    signOf_of_ne hfirst.ne_minus hfirst.ne_plus
  have hmark : Numeral.afterOctalMark (c :: s) = c :: s :=
    afterOctalMark_of_notMem (fun hmem => (hplain _ hmem).ne_mark.1 rfl)
      fun hmem => (hplain _ hmem).ne_mark.2 rfl
  have hgroups : Text.split '_' (c :: s) = [c :: s] :=
    Text.split_of_notMem fun hmem => (hplain _ hmem).ne_underscore rfl
  rw [Numeral.octal?, htrim, hsign]
  simp only [hmark, Numeral.grouped?, hgroups, List.any_cons, List.isEmpty_cons, List.any_nil,
    Bool.or_self, Bool.false_eq_true, if_false, List.flatten_singleton]

theorem octal?_charsOf_octal (width n : Nat) :
    Numeral.octal? (charsOf (octal (width + 1) n)) = some ((n % 8 ^ (width + 1) : Nat) : Int) := by
  have hplain : ∀ c ∈ charsOf (octal (width + 1) n), IsPlainChar c :=
    fun c hc => isPlainChar_of_mem_charsOf_octal hc
  have hvalue := valueInBase?_octal (width + 1) n
  have htrim := trim_charsOf_octal (width + 1) n
  have hlength : (charsOf (octal (width + 1) n)).length = width + 1 := by
    rw [charsOf, List.length_map, length_octal]
  generalize charsOf (octal (width + 1) n) = s at hplain hvalue htrim hlength
  cases s with
  | nil => simp at hlength
  | cons c s =>
      rw [octal?_of_isPlainChar hplain htrim, hvalue]
      rfl

/-- What follows the zero behind the digits is not looked at. -/
theorem number?_octal {width n : Nat} (hn : n < 8 ^ (width + 1)) (rest : List UInt8) :
    Header.number? (octal (width + 1) n ++ 0 :: rest) = some (n : Int) := by
  have hmem : ∀ b ∈ octal (width + 1) n, b ≠ 0 ∧ b < 0x80 := by
    intro b hb
    obtain ⟨d, hd, rfl⟩ := exists_digit_of_mem_octal hb
    exact octalDigit_ne d hd
  have hread := octal?_charsOf_octal width n
  have htrim := trim_charsOf_octal (width + 1) n
  have hlength := length_octal (width + 1) n
  rw [Nat.mod_eq_of_lt hn] at hread
  generalize octal (width + 1) n = digits at hmem hread htrim hlength
  have huntil : Name.untilZero (digits ++ 0 :: rest) = digits := by
    rw [Name.untilZero, List.takeWhile_append_of_pos (by simpa using fun b hb => (hmem b hb).1)]
    simp
  have hascii : digits.any (0x80 ≤ ·) = false := by
    rw [List.any_eq_false]
    intro b hb
    simpa using (hmem b hb).2
  cases digits with
  | nil => simp at hlength
  | cons b more =>
      have hhead := (hmem b (by simp)).2
      rw [List.cons_append] at huntil ⊢
      rw [Header.number?]
      · simp only [huntil, hascii, Bool.false_eq_true, if_false]
        change (if Text.trim (charsOf (b :: more)) = [] then some 0
          else Numeral.octal? (Text.trim (charsOf (b :: more)))) = some (n : Int)
        rw [htrim, if_neg (by simp [charsOf]), hread]
      · simp
      · rintro rest heq
        rw [(List.cons.inj heq).1] at hhead
        exact absurd hhead (by decide)
      · rintro rest heq
        rw [(List.cons.inj heq).1] at hhead
        exact absurd hhead (by decide)

end BuildVersion.Tar
