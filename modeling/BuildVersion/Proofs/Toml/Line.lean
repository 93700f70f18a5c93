import BuildVersion.Proofs.Text.Split
import BuildVersion.Proofs.Toml.Document
import BuildVersion.Proofs.Toml.Scalar

/-!
Lines of a document, each of them empty, the header of a table, or a bare name with a text or an
integer. What a line does to the state of a document does not depend on the lines after it, so a
document is read line by line, and empty lines may stand anywhere.
-/

namespace BuildVersion.Toml

open Settings (Value)

/-- A name that needs no marks. -/
structure IsBareName (name : String) : Prop where
  ne_nil : name.toList ≠ []
  bare : ∀ c ∈ name.toList, isBareKeyChar c = true

def headerLine (name : String) : List Char :=
  '[' :: (name.toList ++ [']'])

def pairLine (name : String) (w : List Char) : List Char :=
  name.toList ++ ' ' :: '=' :: ' ' :: w

/-- What a line does to the state of a document. -/
inductive Line : (l : List Char) → (st next : State) → Prop
  | empty {st : State} : Line [] st st
  | header {name : String} {st next : State} (hname : IsBareName name)
      (hopened : st.openTable [name] = .ok next) : Line (headerLine name) st next
  | pair {name : String} {w : List Char} {v : Value} {st next : State} (hname : IsBareName name)
      (hw : Writes w v) (hadded : st.addPair [name] v = .ok next) : Line (pairLine name w) st next

/-- What lines one below the other do. -/
inductive Lines : (ls : List (List Char)) → (st last : State) → Prop
  | nil {st : State} : Lines [] st st
  | cons {l : List Char} {ls : List (List Char)} {st next last : State} (first : Line l st next)
      (rest : Lines ls next last) : Lines (l :: ls) st last

variable {name : String} {l w rest : List Char} {ls : List (List Char)} {v : Value}
  {st next last : State} {fuel : Nat}

theorem Lines.append {ls' : List (List Char)} (first : Lines ls st next)
    (second : Lines ls' next last) : Lines (ls ++ ls') st last := by
  induction first with
  | nil => exact second
  | cons hline _ ih => exact .cons hline (ih second)

/-- Empty lines do nothing. -/
theorem Lines.of_filter (h : Lines (ls.filter (· ≠ [])) st last) : Lines ls st last := by
  induction ls generalizing st with
  | nil => exact h
  | cons l ls ih =>
      by_cases hl : l = []
      · subst hl
        exact .cons .empty (ih h)
      · rw [List.filter_cons_of_pos (by simpa using hl)] at h
        cases h with
        | cons first rest => exact .cons first (ih rest)

theorem keyName_of_bareName (hname : IsBareName name) {c : Char} (hc : isBareKeyChar c = false)
    (rest : List Char) : keyName (name.toList ++ c :: rest) = .ok (name, c :: rest) := by
  have htake : (name.toList ++ c :: rest).takeWhile isBareKeyChar = name.toList := by
    rw [List.takeWhile_append_of_pos hname.bare, List.takeWhile_cons_of_neg (by simp [hc]),
      List.append_nil]
  have hfull : name.toList.isEmpty = false := List.isEmpty_eq_false_iff.mpr hname.ne_nil
  rw [keyName]
  simp only [htake, hfull, Bool.false_eq_true, if_false, List.drop_left, String.ofList_toList]

theorem key_of_bareName (hname : IsBareName name) {c : Char} (hc : isBareKeyChar c = false)
    (hdot : (dropBlanks (c :: rest)).head? ≠ some '.') :
    key (name.toList ++ c :: rest) = .ok ([name], dropBlanks (c :: rest)) := by
  rw [key, keyNames, keyName_of_bareName hname hc, Outcome.bind_ok]
  dsimp only
  split
  · next h =>
      rw [h] at hdot
      exact absurd rfl hdot
  · rfl

structure IsStart (c : Char) : Prop where
  isBlank_eq : isBlank c = false
  ne_newline : c ≠ '\n'
  ne_comment : c ≠ '#'

theorem ne_of_isBareKeyChar {c d : Char} (hc : isBareKeyChar c = true)
    (hd : isBareKeyChar d = false) : c ≠ d := by
  rintro rfl
  rw [hc] at hd
  contradiction

theorem isStart_of_isBareKeyChar {c : Char} (hc : isBareKeyChar c = true) : IsStart c where
  isBlank_eq := by
    have hspace : c ≠ ' ' := ne_of_isBareKeyChar hc (by decide)
    have htab : c ≠ '\t' := ne_of_isBareKeyChar hc (by decide)
    simp [isBlank, hspace, htab]
  ne_newline := ne_of_isBareKeyChar hc (by decide)
  ne_comment := ne_of_isBareKeyChar hc (by decide)

theorem IsBareName.exists_cons (hname : IsBareName name) :
    ∃ c t, name.toList = c :: t ∧ isBareKeyChar c = true := by
  obtain ⟨c, t, ht⟩ := List.exists_cons_of_ne_nil hname.ne_nil
  exact ⟨c, t, ht, hname.bare c (ht ▸ List.mem_cons_self)⟩

theorem dropBlanks_of_isBlank_eq {c : Char} (hc : isBlank c = false) (rest : List Char) :
    dropBlanks (c :: rest) = c :: rest :=
  List.dropWhile_cons_of_neg (by simp [hc])

theorem statement_header (hname : IsBareName name) (st : State) (rest : List Char) :
    statement st (headerLine name ++ rest) = (st.openTable [name]).map (·, rest) := by
  obtain ⟨c, t, hcons, hc⟩ := hname.exists_cons
  have hblank := (isStart_of_isBareKeyChar hc).isBlank_eq
  have hkey : key (dropBlanks (name.toList ++ ']' :: rest)) = .ok ([name], ']' :: rest) := by
    have hdrop : dropBlanks (name.toList ++ ']' :: rest) = name.toList ++ ']' :: rest := by
      rw [hcons]
      exact dropBlanks_of_isBlank_eq hblank _
    rw [hdrop, key_of_bareName hname (by decide) (by simp [dropBlanks, isBlank])]
    rfl
  have hline : headerLine name ++ rest = '[' :: (name.toList ++ ']' :: rest) := by
    simp [headerLine]
  rw [hline, statement]
  · rw [hkey, Outcome.bind_ok, Outcome.map_eq_bind]
    rfl
  · -- The name does not begin with a bracket of its own.
    intro inner hinner
    rw [hcons] at hinner
    exact ne_of_isBareKeyChar hc (by decide) (List.cons.inj hinner).1

theorem Writes.dropBlanks_append (hw : Writes w v) (rest : List Char) :
    dropBlanks (w ++ rest) = w ++ rest := by
  cases hw with
  | text _ => exact dropBlanks_of_isBlank_eq (by decide) _
  | @integer n _ =>
      obtain ⟨c, s, hdigits, hc⟩ := Numeral.exists_digits_eq_cons n
      have hbare : isBareKeyChar c = true := by
        simp [isBareKeyChar, Text.isAsciiAlphanumeric, hc]
      rw [hdigits]
      exact dropBlanks_of_isBlank_eq (isStart_of_isBareKeyChar hbare).isBlank_eq _

theorem pair_of_writes (hname : IsBareName name) (hw : Writes w v) (hrest : EndsLine rest) :
    pair (value maxDepth) (pairLine name w ++ rest) = .ok (([name], v), rest) := by
  have hline : pairLine name w ++ rest = name.toList ++ ' ' :: '=' :: ' ' :: (w ++ rest) := by
    simp [pairLine]
  have hsign : dropBlanks (' ' :: '=' :: ' ' :: (w ++ rest)) = '=' :: ' ' :: (w ++ rest) := rfl
  have hvalue : dropBlanks (' ' :: (w ++ rest)) = w ++ rest := hw.dropBlanks_append rest
  rw [hline, pair, key_of_bareName hname (by decide) (by simp [hsign]), Outcome.bind_ok, hsign]
  change (value maxDepth (dropBlanks (' ' :: (w ++ rest)))).map _ = _
  rw [hvalue, value_of_writes hw hrest, Outcome.map_ok]

theorem statement_pair (hname : IsBareName name) (hw : Writes w v) (hrest : EndsLine rest)
    (st : State) :
    statement st (pairLine name w ++ rest) = (st.addPair [name] v).map (·, rest) := by
  obtain ⟨c, t, hcons, hc⟩ := hname.exists_cons
  have hbracket : ∀ inner, pairLine name w ++ rest ≠ '[' :: inner := by
    intro inner hinner
    rw [pairLine, hcons] at hinner
    exact ne_of_isBareKeyChar hc (by decide) (List.cons.inj hinner).1
  rw [statement]
  · rw [pair_of_writes hname hw hrest, Outcome.bind_ok]
  · exact fun inner => hbracket ('[' :: inner)
  · exact hbracket

theorem exists_start_of_line (hline : Line l st next) (hl : l ≠ []) (hrest : EndsLine rest) :
    ∃ c t, l ++ rest = c :: t ∧ IsStart c ∧ statement st (c :: t) = .ok (next, rest) := by
  cases hline with
  | empty => contradiction
  | header hname hopened =>
      refine ⟨'[', _, rfl, ⟨rfl, by decide, by decide⟩, ?_⟩
      have hstatement := statement_header hname st rest
      rwa [hopened] at hstatement
  | @pair name w _ _ _ hname hw hadded =>
      obtain ⟨c, t, hcons, hc⟩ := hname.exists_cons
      have hall : pairLine name w ++ rest = c :: (t ++ ' ' :: '=' :: ' ' :: (w ++ rest)) := by
        simp [pairLine, hcons]
      refine ⟨c, _, hall, isStart_of_isBareKeyChar hc, ?_⟩
      have hstatement := statement_pair hname hw hrest st
      rwa [hall, hadded] at hstatement

theorem lines_of_start {c : Char} {t : List Char} {rest? : Option (List Char)} (hc : IsStart c)
    (hstatement : statement st (c :: t) = .ok (next, rest)) (hend : lineEnd rest = .ok rest?)
    (fuel : Nat) :
    lines (fuel + 1) st (c :: t) = rest?.elim (.ok next) (lines fuel next) := by
  rw [lines, dropBlanks_of_isBlank_eq hc.isBlank_eq]
  split
  · contradiction
  · next h => exact absurd (List.cons.inj h).1 hc.ne_newline
  · next h =>
      obtain ⟨rfl, rfl⟩ := List.cons.inj h
      simp only [if_neg hc.ne_comment, hstatement, Outcome.bind_ok, hend]
      cases rest? with
      | none => rfl
      | some rest => rfl

theorem Line.eq_of_nil (hline : Line l st next) (hl : l = []) : st = next := by
  cases hline with
  | empty => rfl
  | header _ _ => exact absurd hl (List.cons_ne_nil _ _)
  | pair _ _ _ => exact absurd hl (List.append_ne_nil_of_right_ne_nil _ (List.cons_ne_nil _ _))

theorem lines_last (hline : Line l st next) : lines (fuel + 1) st l = .ok next := by
  by_cases hl : l = []
  · rw [← hline.eq_of_nil hl, hl]
    rfl
  · obtain ⟨c, t, hcons, hc, hstatement⟩ := exists_start_of_line hline hl (.inl rfl)
    rw [List.append_nil] at hcons
    rw [hcons, lines_of_start hc hstatement rfl]
    rfl

theorem lines_cons (hline : Line l st next) (rest : List Char) :
    lines (fuel + 1) st (l ++ '\n' :: rest) = lines fuel next rest := by
  by_cases hl : l = []
  · rw [← hline.eq_of_nil hl, hl]
    rfl
  · obtain ⟨c, t, hcons, hc, hstatement⟩ := exists_start_of_line hline hl (.inr ⟨rest, rfl⟩)
    rw [hcons, lines_of_start hc hstatement rfl]
    rfl

/-- Reading a document does to its state what its lines do, if there is fuel for each of them. -/
theorem lines_join (h : Lines (l :: ls) st last) (hfuel : ls.length < fuel) :
    lines fuel st (Text.join '\n' (l :: ls)) = .ok last := by
  -- The last line has no line end, so the induction is on the lines after the first.
  induction ls generalizing l st fuel with
  | nil =>
      obtain ⟨fuel, rfl⟩ : ∃ n, fuel = n + 1 := ⟨fuel - 1, by omega⟩
      cases h with
      | cons first rest =>
          cases rest
          rw [Text.join_singleton]
          exact lines_last first
  | cons l' ls ih =>
      cases h with
      | @cons _ _ _ next _ first rest =>
          rw [List.length_cons] at hfuel
          obtain ⟨fuel, rfl⟩ : ∃ n, fuel = n + 1 := ⟨fuel - 1, by omega⟩
          rw [Text.join_cons_cons, lines_cons first]
          exact ih rest (by omega)

theorem le_toNat_of_isBareKeyChar {c : Char} (hc : isBareKeyChar c = true) : 0x20 ≤ c.toNat := by
  simp only [isBareKeyChar, Text.isAsciiAlphanumeric, Text.isAsciiLetter, Text.isAsciiDigit,
    Bool.or_eq_true, Bool.and_eq_true, decide_eq_true_eq, beq_iff_eq, Text.char_le_iff,
    Char.reduceToNat] at hc
  obtain (hascii | rfl) | rfl := hc
  · omega
  · decide
  · decide

/-- No control character, and so no line end, stands in a line. -/
theorem Line.le_toNat_of_mem (hline : Line l st next) : ∀ c ∈ l, 0x20 ≤ c.toNat := by
  have hbare : ∀ {name : String}, IsBareName name → ∀ c ∈ name.toList, 0x20 ≤ c.toNat :=
    fun hname c hc => le_toNat_of_isBareKeyChar (hname.bare c hc)
  cases hline with
  | empty => exact List.forall_mem_nil _
  | header hname _ =>
      refine List.forall_mem_cons.mpr ⟨by decide, List.forall_mem_append.mpr ⟨hbare hname, ?_⟩⟩
      exact List.forall_mem_singleton.mpr (by decide)
  | pair hname hw _ =>
      refine List.forall_mem_append.mpr ⟨hbare hname, ?_⟩
      simp only [List.forall_mem_cons]
      exact ⟨by decide, by decide, by decide, hw.le_toNat_of_mem⟩

theorem Lines.le_toNat_of_mem (h : Lines ls st last) : ∀ l ∈ ls, ∀ c ∈ l, 0x20 ≤ c.toNat := by
  induction h with
  | nil => exact List.forall_mem_nil _
  | cons first _ ih => exact List.forall_mem_cons.mpr ⟨first.le_toNat_of_mem, ih⟩

theorem Lines.notMem {c : Char} (hc : c.toNat < 0x20) (h : Lines ls st last) :
    ∀ l ∈ ls, c ∉ l := by
  intro l hl hmem
  have hle := h.le_toNat_of_mem l hl c hmem
  omega

theorem parse_of_lines {text : String} (h : Lines (Text.split '\n' text.toList) {} last) :
    parse text = .ok last.entries := by
  have hjoin := Text.join_split '\n' text.toList
  have hreturn : '\r' ∉ text.toList := by
    rw [← hjoin]
    exact Text.notMem_join (by decide) (h.notMem (by decide))
  obtain ⟨l, ls, hsplit⟩ := List.exists_cons_of_ne_nil (Text.split_ne_nil '\n' text.toList)
  have hfuel := Text.length_le_length_join '\n' l ls
  rw [hsplit] at h hjoin
  rw [hjoin] at hfuel
  have hlines := lines_join h (Nat.lt_succ_of_le hfuel)
  rw [hjoin] at hlines
  simp only [parse, unifyNewlines_of_notMem hreturn, hlines, Outcome.map_ok]

end BuildVersion.Toml
