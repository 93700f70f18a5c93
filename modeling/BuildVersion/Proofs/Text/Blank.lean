import Mathlib.Data.List.DropRight
import BuildVersion.Proofs.Text.Digit
import BuildVersion.Text.Blank

namespace BuildVersion.Text

variable {s : List Char}

theorem trimEnd_trim (s : List Char) : trimEnd (trim s) = trim s :=
  List.rdropWhile_idempotent isBlank (trimStart s)

theorem trimStart_trim (s : List Char) : trimStart (trim s) = trim s := by
  rw [trimStart, List.dropWhile_eq_self_iff]
  intro htrim
  -- What is trimmed at its end still begins as it did before.
  have hbegins : trim s <+: trimStart s := List.rdropWhile_prefix isBlank (trimStart s)
  have hstart : 0 < (trimStart s).length := lt_of_lt_of_le htrim hbegins.length_le
  have hself : (trimStart s).dropWhile isBlank = trimStart s :=
    List.dropWhile_idempotent isBlank s
  rw [hbegins.getElem htrim]
  exact List.dropWhile_eq_self_iff.mp hself hstart

theorem trim_trim (s : List Char) : trim (trim s) = trim s := by
  rw [trim, trimStart_trim, trimEnd_trim]

theorem trimmed_trimmed (s : String) : trimmed (trimmed s) = trimmed s := by
  rw [trimmed, trimmed_toList, trim_trim, trimmed]

theorem isBlank_of_isDigit {c : Char} (hc : isDigit c = true) : isBlank c = false := by
  obtain ⟨d, hd⟩ := isDigit_iff.mp hc
  obtain ⟨first, hfirst, -⟩ := Option.map_eq_some_iff.mp hd
  have hrange := List.find?_some hfirst
  -- Between the blanks there is room for whole runs of ten digits only.
  have hgap : ∀ first ∈ digitZeros, 0x20 < first ∧ (first + 9 < 0x85 ∨ 0xA0 < first) ∧
      (first + 9 < 0x1680 ∨ 0x1680 < first) ∧ (first + 9 < 0x2000 ∨ 0x205F < first) ∧
      (first + 9 < 0x3000 ∨ 0x3000 < first) := by
    decide
  have hout := hgap first (List.mem_of_find?_eq_some hfirst)
  rw [Bool.and_eq_true, decide_eq_true_eq, decide_eq_true_eq] at hrange
  simp only [isBlank, Bool.or_eq_false_iff, Bool.and_eq_false_iff, decide_eq_false_iff_not,
    beq_eq_false_iff_ne]
  omega

theorem isBlank_of_isAsciiLetter {c : Char} (hc : isAsciiLetter c = true) : isBlank c = false := by
  simp only [isAsciiLetter, Bool.or_eq_true, Bool.and_eq_true, decide_eq_true_eq, char_le_iff,
    Char.reduceToNat] at hc
  simp only [isBlank, Bool.or_eq_false_iff, Bool.and_eq_false_iff, decide_eq_false_iff_not,
    beq_eq_false_iff_ne]
  omega

end BuildVersion.Text
