import BuildVersion.Proofs.Toml.Document
import BuildVersion.Proofs.Toml.Scalar

namespace BuildVersion.Toml

variable {fault : Fault}

theorem value_of_overlong {s : List Char} (hs : ∀ c ∈ s, Text.isAsciiDigit c = true)
    (hlong : Numeral.maxDigits ≤ s.length) (depth : Nat) :
    value depth ('1' :: s) = .aborted .overlongNumeral := by
  have hall : ∀ c ∈ '1' :: s, Text.isAsciiDigit c = true := List.forall_mem_cons.mpr ⟨rfl, hs⟩
  have hmoment := moment?_append hall (.inl rfl)
  have hdigits := digits_append hall (.inl rfl)
  rw [List.append_nil] at hmoment hdigits
  have hintegral : integral? ('1' :: s) = some ('1' :: s, []) := by
    rw [← hdigits]
    rfl
  have hdecimal : decimal? ('1' :: s) = some (.aborted .overlongNumeral) := by
    have hsign : sign ('1' :: s) = (false, '1' :: s) := rfl
    have hfraction : fraction? [] = none := rfl
    have hexponent : exponent? [] = none := rfl
    have hlt : Numeral.maxDigits < ('1' :: s).length := Nat.lt_succ_of_le hlong
    simp only [decimal?, hsign, hintegral, hfraction, hexponent, Option.map_none, Option.getD_none,
      Option.isNone_none, Bool.and_self, if_true, if_pos hlt]
  rw [value_of_isAsciiDigit rfl hmoment]
  simp only [number, hdecimal]
  rfl

theorem skipFiller_of_opening (s : List Char) : skipFiller ('[' :: s) = .ok ('[' :: s) := by
  have hdrop : ('[' :: s).dropWhile isBlankOrNewline = '[' :: s := rfl
  rw [skipFiller]
  split
  · next rest hcomment =>
      rw [hdrop] at hcomment
      exact absurd (List.cons.inj hcomment).1 (by decide)
  · rw [hdrop]

theorem items_eq_aborted {read : Reader Settings.Value} {s : List Char}
    (hread : read ('[' :: s) = .aborted fault) (fuel : Nat) :
    items read (fuel + 1) ('[' :: s) = .aborted fault := by
  rw [items, skipFiller_of_opening, Outcome.bind_ok]
  split
  · next hclosing => exact absurd (List.cons.inj hclosing).1 (by decide)
  · rw [hread, Outcome.bind_aborted]

theorem value_of_tower (depth n : Nat) (hdepth : depth < 2 * n) :
    value depth (List.replicate n '[') = .aborted .tooDeep := by
  induction n generalizing depth with
  | zero => omega
  | succ n ih =>
      rw [List.replicate_succ, value]
      split
      · next hstep =>
          -- The next array stands at once.
          obtain ⟨m, rfl⟩ : ∃ m, n = m + 1 := ⟨n - 1, by omega⟩
          have hinner := ih (depth - 2) (by omega)
          rw [List.replicate_succ] at hinner ⊢
          rw [items_eq_aborted hinner, Outcome.map_aborted]
      · rfl

theorem parse_eq_aborted_of_value {s : List Char} (hs : '\r' ∉ s)
    (hvalue : value maxDepth (dropBlanks s) = .aborted fault) :
    parse (String.ofList ('a' :: '=' :: s)) = .aborted fault := by
  have hname : keyName ('a' :: '=' :: s) = .ok ("a", '=' :: s) := by
    simp [keyName, isBareKeyChar, Text.isAsciiAlphanumeric, Text.isAsciiLetter, Text.isAsciiDigit]
  have hkey : key ('a' :: '=' :: s) = .ok (["a"], '=' :: s) := by
    simp [key, keyNames, hname, dropBlanks, isBlank]
  have hpair : pair (value maxDepth) ('a' :: '=' :: s) = .aborted fault := by
    simp only [pair, hkey, Outcome.bind_ok, hvalue, Outcome.map_aborted]
  have hstatement : statement {} ('a' :: '=' :: s) = .aborted fault := by
    rw [statement, hpair, Outcome.bind_aborted]
    · simp
    · simp
  have hunified : unifyNewlines ('a' :: '=' :: s) = 'a' :: '=' :: s :=
    unifyNewlines_of_notMem (by simp [hs])
  simp only [parse, String.toList_ofList, hunified, List.length_cons]
  simp [lines, dropBlanks, isBlank, hstatement]

theorem parse_of_overlong {s : List Char} (hs : ∀ c ∈ s, Text.isAsciiDigit c = true)
    (hlong : Numeral.maxDigits ≤ s.length) :
    parse (String.ofList ('a' :: '=' :: '1' :: s)) = .aborted .overlongNumeral := by
  apply parse_eq_aborted_of_value
  · have hall : ∀ c ∈ '1' :: s, Text.isAsciiDigit c = true := List.forall_mem_cons.mpr ⟨rfl, hs⟩
    intro hmem
    exact absurd (hall _ hmem) (by decide)
  · exact value_of_overlong hs hlong maxDepth

theorem parse_of_tower {n : Nat} (hn : maxDepth < 2 * n) :
    parse (String.ofList ('a' :: '=' :: List.replicate n '[')) = .aborted .tooDeep := by
  apply parse_eq_aborted_of_value
  · simp
  · obtain ⟨m, rfl⟩ : ∃ m, n = m + 1 := ⟨n - 1, by omega⟩
    have hblanks : dropBlanks (List.replicate (m + 1) '[') = List.replicate (m + 1) '[' := rfl
    rw [hblanks]
    exact value_of_tower maxDepth (m + 1) hn

end BuildVersion.Toml
