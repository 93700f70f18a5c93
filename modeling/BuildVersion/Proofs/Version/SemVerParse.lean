import BuildVersion.Proofs.Version.SemVerGrammar

namespace BuildVersion.Version.SemVer

section Number

variable {ε : Type} {digits : List Char}

theorem number_of_le (h : digits.length ≤ Numeral.maxDigits) :
    (number digits : Outcome ε Int) = .ok (Numeral.value digits) := if_pos h

theorem number_of_not_le (h : ¬digits.length ≤ Numeral.maxDigits) :
    (number digits : Outcome ε Int) = .aborted .overlongNumeral := if_neg h

end Number

section Parse

variable {text : String} {p : Parts}

theorem ne_empty_of_written (hp : p.WellFormed) (hwritten : p.written = text.toList) :
    text ≠ "" := by
  rintro rfl
  have hparts := parts?_eq_some_iff.mpr ⟨hp, hwritten⟩
  contradiction

theorem parse_of_short (hp : p.WellFormed) (hwritten : p.written = text.toList) (hshort : p.Short) :
    parse text = .ok p.version := by
  obtain ⟨hmajor, hminor, hpatch⟩ := hshort
  simp only [parse, if_neg (ne_empty_of_written hp hwritten),
    parts?_eq_some_iff.mpr ⟨hp, hwritten⟩, number_of_le hmajor, number_of_le hminor,
    number_of_le hpatch, Outcome.bind_ok, Parts.version]

theorem parse_of_not_short (hp : p.WellFormed) (hwritten : p.written = text.toList)
    (hlong : ¬p.Short) : parse text = .aborted .overlongNumeral := by
  simp only [parse, if_neg (ne_empty_of_written hp hwritten),
    parts?_eq_some_iff.mpr ⟨hp, hwritten⟩]
  -- The first number that is too long decides; the ones before it are computed.
  by_cases hmajor : p.major.length ≤ Numeral.maxDigits
  · rw [number_of_le hmajor, Outcome.bind_ok]
    by_cases hminor : p.minor.length ≤ Numeral.maxDigits
    · have hpatch : ¬p.patch.length ≤ Numeral.maxDigits := fun hpatch =>
        hlong ⟨hmajor, hminor, hpatch⟩
      rw [number_of_le hminor, Outcome.bind_ok, number_of_not_le hpatch, Outcome.bind_aborted]
    · rw [number_of_not_le hminor, Outcome.bind_aborted]
  · rw [number_of_not_le hmajor, Outcome.bind_aborted]

theorem parse_of_no_parts (hnone : ∀ p : Parts, p.WellFormed → p.written ≠ text.toList) :
    parse text = .err ⟨text, if text = "" then emptyMessage else strictMessage⟩ := by
  have hparts : parts? text.toList = none := by
    rw [Option.eq_none_iff_forall_ne_some]
    intro p hp
    obtain ⟨hp, hwritten⟩ := parts?_eq_some_iff.mp hp
    exact hnone p hp hwritten
  by_cases htext : text = ""
  · simp only [parse, htext, if_true]
  · simp only [parse, htext, if_false, hparts]

theorem parse_eq_ok_iff {v : SemVer} :
    parse text = .ok v ↔
      ∃ p : Parts, p.WellFormed ∧ p.written = text.toList ∧ p.Short ∧ p.version = v := by
  constructor
  · intro hparse
    by_cases hparts : ∃ p : Parts, p.WellFormed ∧ p.written = text.toList
    · obtain ⟨p, hp, hwritten⟩ := hparts
      by_cases hshort : p.Short
      · rw [parse_of_short hp hwritten hshort, Outcome.ok.injEq] at hparse
        exact ⟨p, hp, hwritten, hshort, hparse⟩
      · rw [parse_of_not_short hp hwritten hshort] at hparse
        contradiction
    · rw [parse_of_no_parts (by simpa using hparts)] at hparse
      contradiction
  · rintro ⟨p, hp, hwritten, hshort, rfl⟩
    exact parse_of_short hp hwritten hshort

theorem parse_eq_aborted_iff {fault : Fault} :
    parse text = .aborted fault ↔
      fault = .overlongNumeral ∧
        ∃ p : Parts, p.WellFormed ∧ p.written = text.toList ∧ ¬p.Short := by
  constructor
  · intro hparse
    by_cases hparts : ∃ p : Parts, p.WellFormed ∧ p.written = text.toList
    · obtain ⟨p, hp, hwritten⟩ := hparts
      by_cases hshort : p.Short
      · rw [parse_of_short hp hwritten hshort] at hparse
        contradiction
      · rw [parse_of_not_short hp hwritten hshort, Outcome.aborted.injEq] at hparse
        exact ⟨hparse.symm, p, hp, hwritten, hshort⟩
    · rw [parse_of_no_parts (by simpa using hparts)] at hparse
      contradiction
  · rintro ⟨rfl, p, hp, hwritten, hlong⟩
    exact parse_of_not_short hp hwritten hlong

end Parse

/-- A text is written from at most one collection of parts. -/
theorem Parts.written_injective {p q : Parts} (hp : p.WellFormed) (hq : q.WellFormed)
    (h : p.written = q.written) : p = q := by
  have hfound := hp.parts?_written
  rw [h, hq.parts?_written] at hfound
  exact (Option.some.inj hfound).symm

/-- Reading decides the grammar and finds the parts; a text outside the grammar is given back. -/
theorem parse_decides_grammar (text : String)
    (hshort : ∀ p : Parts, p.WellFormed → p.written = text.toList → p.Short) :
    (∀ v, parse text = .ok v ↔
        ∃ p : Parts, p.WellFormed ∧ p.written = text.toList ∧ p.version = v) ∧
      (∀ p q : Parts, p.WellFormed → q.WellFormed → p.written = text.toList →
        q.written = text.toList → p = q) ∧
      ((∀ p : Parts, p.WellFormed → p.written ≠ text.toList) →
        parse text = .err ⟨text, if text = "" then "version string is empty"
          else "not a valid semantic version"⟩) := by
  refine ⟨?_, ?_, ?_⟩
  · intro v
    rw [parse_eq_ok_iff]
    constructor
    · rintro ⟨p, hp, hwritten, -, hv⟩
      exact ⟨p, hp, hwritten, hv⟩
    · rintro ⟨p, hp, hwritten, hv⟩
      exact ⟨p, hp, hwritten, hshort p hp hwritten, hv⟩
  · intro p q hp hq hwritten hwritten'
    exact Parts.written_injective hp hq (hwritten.trans hwritten'.symm)
  · exact parse_of_no_parts

/-- No number is longer than the text in which it stands. -/
theorem Parts.short_of_length_le {p : Parts} (h : p.written.length ≤ Numeral.maxDigits) :
    p.Short := by
  simp only [written, List.length_append, List.length_cons] at h
  exact ⟨by omega, by omega, by omega⟩

/-- Digits of other scripts, hyphens inside identifiers and zeros in front of a build identifier. -/
theorem parse_digits_of_scripts :
    (∀ p : Parts, p.WellFormed → p.written = "1٢.0.3--.٠1a.7+00.-".toList → p.Short) ∧
      parse "1٢.0.3--.٠1a.7+00.-" = .ok ⟨12, 0, 3, ["-", "٠1a", "7"], ["00", "-"]⟩ := by
  have hshort : ∀ p : Parts, p.WellFormed → p.written = "1٢.0.3--.٠1a.7+00.-".toList →
      p.Short := by
    intro p _ hwritten
    refine Parts.short_of_length_le ?_
    rw [hwritten]
    decide
  have hparts : parts? "1٢.0.3--.٠1a.7+00.-".toList =
      some ⟨['1', '٢'], ['0'], ['3'], ["-", "٠1a", "7"], ["00", "-"]⟩ := by
    rfl
  obtain ⟨hp, hwritten⟩ := parts?_eq_some_iff.mp hparts
  exact ⟨hshort, ((parse_decides_grammar _ hshort).1 _).mpr ⟨_, hp, hwritten, by decide⟩⟩

end BuildVersion.Version.SemVer
