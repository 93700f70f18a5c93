import BuildVersion.Proofs.Text.Hexadecimal
import BuildVersion.Toml.Text

namespace BuildVersion.Toml

/-- Letters after a backslash, and the characters that they name. -/
def namedEscapes : List (Char × Char) :=
  [('b', '\x08'), ('t', '\t'), ('n', '\n'), ('f', '\x0c'), ('r', '\r'), ('"', '"'), ('\\', '\\')]

inductive Spelling : (w : List Char) → (c : Char) → Prop
  | plain {c : Char} (hquote : c ≠ '"') (hbackslash : c ≠ '\\') (hcontrol : 0x20 ≤ c.toNat)
      (hdelete : c.toNat ≠ 0x7F) : Spelling [c] c
  | named {letter c : Char} (hnamed : (letter, c) ∈ namedEscapes) : Spelling ['\\', letter] c
  | short {ds : List Char} {c : Char} (hlength : ds.length = 4) (hds : Hexadecimal ds c.toNat) :
      Spelling ('\\' :: 'u' :: ds) c
  | long {ds : List Char} {c : Char} (hlength : ds.length = 8) (hds : Hexadecimal ds c.toNat) :
      Spelling ('\\' :: 'U' :: ds) c

inductive Spells : (w s : List Char) → Prop
  | nil : Spells [] []
  | cons {v w : List Char} {c : Char} {s : List Char} (first : Spelling v c) (rest : Spells w s) :
      Spells (v ++ w) (c :: s)

variable {v w s ds : List Char} {c : Char}

/-- A spelling of a character: its name, itself, or its code point, the first of them that it
has. -/
def spellChar (c : Char) : List Char :=
  match namedEscapes.find? fun p => p.2 = c with
  | some (letter, _) => ['\\', letter]
  | none =>
    if 0x20 ≤ c.toNat ∧ c.toNat ≠ 0x7F then [c]
    else '\\' :: 'u' :: Text.Quoted.hexadecimal 4 c.toNat

theorem spelling_spellChar (c : Char) : Spelling (spellChar c) c := by
  unfold spellChar
  split
  · next letter d hfind =>
      have hsame := List.find?_some hfind
      obtain rfl : d = c := of_decide_eq_true hsame
      exact .named (List.mem_of_find?_eq_some hfind)
  · next hfind =>
      have hunnamed : ∀ p ∈ namedEscapes, p.2 ≠ c := by simpa using hfind
      split
      · next hplain =>
          have hquote : c ≠ '"' := (hunnamed ('"', '"') (by decide)).symm
          have hbackslash : c ≠ '\\' := (hunnamed ('\\', '\\') (by decide)).symm
          exact .plain hquote hbackslash hplain.1 hplain.2
      · next hcontrol =>
          have hsmall : c.toNat < 16 ^ 4 := by omega
          exact .short (Text.Quoted.length_hexadecimal 4 c.toNat)
            (Text.Quoted.hexadecimal_of_lt hsmall)

theorem spells_flatMap_spellChar (s : List Char) : Spells (s.flatMap spellChar) s := by
  induction s with
  | nil => exact .nil
  | cons c s ih => exact .cons (spelling_spellChar c) ih

theorem Spelling.le_toNat_of_mem (hv : Spelling v c) : ∀ d ∈ v, 0x20 ≤ d.toNat := by
  cases hv with
  | plain _ _ hcontrol _ => exact List.forall_mem_singleton.mpr hcontrol
  | named hnamed =>
      have hall : ∀ p ∈ namedEscapes, 0x20 ≤ p.1.toNat := by decide
      exact List.forall_mem_cons.mpr ⟨by decide, List.forall_mem_singleton.mpr (hall _ hnamed)⟩
  | short _ hds =>
      exact List.forall_mem_cons.mpr
        ⟨by decide, List.forall_mem_cons.mpr ⟨by decide, hds.le_toNat_of_mem⟩⟩
  | long _ hds =>
      exact List.forall_mem_cons.mpr
        ⟨by decide, List.forall_mem_cons.mpr ⟨by decide, hds.le_toNat_of_mem⟩⟩

theorem Spells.le_toNat_of_mem (hw : Spells w s) : ∀ d ∈ w, 0x20 ≤ d.toNat := by
  induction hw with
  | nil => exact List.forall_mem_nil _
  | cons hv _ ih => exact List.forall_mem_append.mpr ⟨hv.le_toNat_of_mem, ih⟩

theorem Spelling.exists_cons (hv : Spelling v c) : ∃ d t, v = d :: t ∧ d ≠ '"' := by
  cases hv with
  | plain hquote _ _ _ => exact ⟨c, [], rfl, hquote⟩
  | named _ => exact ⟨_, _, rfl, by decide⟩
  | short _ _ => exact ⟨_, _, rfl, by decide⟩
  | long _ _ => exact ⟨_, _, rfl, by decide⟩

theorem codePoint_of_hexadecimal {width : Nat} (hlength : ds.length = width)
    (hds : Hexadecimal ds c.toNat) (rest : List Char) :
    codePoint width (ds ++ rest) = .ok (c, rest) := by
  have hvalid : c.toNat.isValidChar := c.valid
  rw [codePoint, List.take_left' hlength, List.drop_left' hlength, if_pos hlength,
    Text.hexNumber?_of_hexadecimal hds]
  dsimp only
  rw [if_pos hvalid, Char.ofNat_toNat]

theorem quotedChars_escape {multiline : Bool} {rest after : List Char} {c? : Option Char}
    (hescape : escape multiline rest = .ok (c?, after)) :
    quotedChars multiline ('\\' :: rest) =
      (quotedChars multiline after).map fun (cs, rest) => (c?.toList ++ cs, rest) := by
  rw [quotedChars, if_neg (by decide), if_pos rfl]
  split
  · next hsame =>
      rw [hescape] at hsame
      cases hsame
      rfl
  · next hother =>
      rw [hescape] at hother
      contradiction
  · next hother =>
      rw [hescape] at hother
      contradiction

theorem isControl_eq_false (hcontrol : 0x20 ≤ c.toNat) (hdelete : c.toNat ≠ 0x7F) :
    isControl c = false := by
  have hlow : ¬c.toNat < 0x20 := by omega
  simp [isControl, hlow, hdelete]

theorem quotedChars_spelling (hv : Spelling v c) (rest : List Char) :
    quotedChars false (v ++ rest) =
      (quotedChars false rest).map fun (cs, rest) => (c :: cs, rest) := by
  cases hv with
  | plain hquote hbackslash hcontrol hdelete =>
      rw [List.singleton_append, quotedChars, if_neg hquote, if_neg hbackslash,
        isControl_eq_false hcontrol hdelete]
      rfl
  | @named letter _ hnamed =>
      have hescape : escape false (letter :: rest) = .ok (some c, rest) := by
        simp only [namedEscapes, List.mem_cons, Prod.mk.injEq, List.not_mem_nil, or_false] at hnamed
        obtain ⟨rfl, rfl⟩ | ⟨rfl, rfl⟩ | ⟨rfl, rfl⟩ | ⟨rfl, rfl⟩ | ⟨rfl, rfl⟩ | ⟨rfl, rfl⟩ |
          ⟨rfl, rfl⟩ := hnamed
        all_goals rfl
      exact quotedChars_escape hescape
  | @short ds _ hlength hds =>
      have hescape : escape false ('u' :: (ds ++ rest)) = .ok (some c, rest) := by
        rw [escape, codePoint_of_hexadecimal hlength hds, Outcome.map_ok]
      exact quotedChars_escape hescape
  | @long ds _ hlength hds =>
      have hescape : escape false ('U' :: (ds ++ rest)) = .ok (some c, rest) := by
        rw [escape, codePoint_of_hexadecimal hlength hds, Outcome.map_ok]
      exact quotedChars_escape hescape

theorem quotedChars_spells (hw : Spells w s) (rest : List Char) :
    quotedChars false (w ++ '"' :: rest) = .ok (s, rest) := by
  induction hw with
  | nil =>
      rw [List.nil_append, quotedChars, if_pos rfl]
      rfl
  | cons hv _ ih => rw [List.append_assoc, quotedChars_spelling hv, ih, Outcome.map_ok]

theorem text_of_one_mark (hs : ¬['"', '"'] <+: s) :
    text ('"' :: s) = (quotedChars false s).map fun (cs, rest) => (String.ofList cs, rest) := by
  rw [text]
  rintro rest rfl
  exact hs (List.prefix_append ['"', '"'] rest)

/-- Three marks in a row would open a text in several lines, so an empty text may not be followed
by a mark. -/
theorem text_spells (hw : Spells w s) {rest : List Char} (hrest : rest.head? ≠ some '"') :
    text ('"' :: (w ++ '"' :: rest)) = .ok (String.ofList s, rest) := by
  have hmarks : ¬['"', '"'] <+: w ++ '"' :: rest := by
    rintro ⟨after, hafter⟩
    cases hw with
    | nil =>
        obtain ⟨-, rfl⟩ := List.cons.inj hafter
        exact hrest rfl
    | cons hv _ =>
        obtain ⟨d, t, rfl, hd⟩ := hv.exists_cons
        obtain ⟨rfl, -⟩ := List.cons.inj hafter
        contradiction
  rw [text_of_one_mark hmarks, quotedChars_spells hw, Outcome.map_ok]

end BuildVersion.Toml
