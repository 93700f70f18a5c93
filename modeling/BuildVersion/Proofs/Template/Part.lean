import BuildVersion.Proofs.Template.Expand
import BuildVersion.Proofs.Text.Digit

namespace BuildVersion.Template

/-- A part of a template without conversions, layouts and steps. -/
inductive Part
  | text (s : List Char)
  | openingBrace
  | closingBrace
  | field (name : List Char)
  deriving DecidableEq, Repr

namespace Part

def written : Part → List Char
  | text s => s
  | openingBrace => ['{', '{']
  | closingBrace => ['}', '}']
  | field name => '{' :: (name ++ ['}'])

def shown (branch : List Char) : Part → List Char
  | text s => s
  | openingBrace => ['{']
  | closingBrace => ['}']
  | field _ => branch

def isNameStart (c : Char) : Bool :=
  Text.isAsciiLetter c || c = '_'

def isNameChar (c : Char) : Bool :=
  isNameStart c || Text.isAsciiDigit c

/-- A letter or a low line, then letters, digits and low lines. -/
def IsName (name : List Char) : Prop :=
  ∃ c rest, name = c :: rest ∧ isNameStart c = true ∧ ∀ d ∈ rest, isNameChar d = true

def WellFormed : Part → Prop
  | text s => '{' ∉ s ∧ '}' ∉ s
  | openingBrace => True
  | closingBrace => True
  | field name => IsName name

/-- The field that holds a name and nothing else. -/
def plainField (name : List Char) : Field := ⟨name, none, [], false⟩

def pieces : Part → List Piece
  | text s => s.map .literal
  | openingBrace => [.literal '{']
  | closingBrace => [.literal '}']
  | field name => [.field (plainField name)]

end Part

open BuildVersion.Template.Part (IsName isNameChar isNameStart plainField)

theorem isNameChar_of_isNameStart {c : Char} (hc : isNameStart c = true) : isNameChar c = true := by
  rw [isNameChar, hc, Bool.true_or]

theorem IsName.isNameChar_of_mem {name : List Char} (hname : IsName name) :
    ∀ c ∈ name, isNameChar c = true := by
  obtain ⟨c, rest, rfl, hc, hrest⟩ := hname
  exact List.forall_mem_cons.mpr ⟨isNameChar_of_isNameStart hc, hrest⟩

theorem isName_knownName : IsName knownName.toList :=
  ⟨'b', "ranch".toList, rfl, by decide, List.all_eq_true.mp (by decide)⟩

theorem digitValue?_of_isNameStart {c : Char} (hc : isNameStart c = true) :
    Text.digitValue? c = none := by
  rw [isNameStart, Bool.or_eq_true, decide_eq_true_eq] at hc
  rcases hc with hletter | rfl
  · exact Option.isNone_iff_eq_none.mp
      (by simpa [Text.isDigit] using Text.isDigit_of_isAsciiLetter hletter)
  · decide

theorem reference?_of_isNameChar {name : List Char} (hname : ∀ c ∈ name, isNameChar c = true)
    (rest : List Char) : reference? (name ++ '}' :: rest) = some (name, '}', rest) := by
  induction name with
  | nil => rw [List.nil_append, reference?, if_neg (by decide), if_pos (by decide)]
  | cons c name ih =>
      obtain ⟨hc, hname⟩ := List.forall_mem_cons.mp hname
      have hmark : c ≠ '{' ∧ ¬(c = '}' ∨ c = ':' ∨ c = '!') ∧ c ≠ '[' := by
        refine ⟨?_, ?_, ?_⟩
        · rintro rfl
          contradiction
        · rintro (rfl | rfl | rfl) <;> contradiction
        · rintro rfl
          contradiction
      rw [List.cons_append, reference?, if_neg hmark.1, if_neg hmark.2.1, if_neg hmark.2.2,
        ih hname, Option.map_some]

theorem field?_of_isName {name : List Char} (hname : IsName name) (rest : List Char) :
    field? (name ++ '}' :: rest) = some (plainField name, rest) := by
  rw [field?, reference?_of_isNameChar (IsName.isNameChar_of_mem hname)]
  rfl

theorem pieces_nil : pieces [] = [] := by
  rw [pieces]

theorem pieces_openingBrace (rest : List Char) :
    pieces ('{' :: '{' :: rest) = .literal '{' :: pieces rest := by
  rw [pieces]

theorem pieces_closingBrace (rest : List Char) :
    pieces ('}' :: '}' :: rest) = .literal '}' :: pieces rest := by
  rw [pieces]

theorem pieces_field {s rest : List Char} {f : Field} (hs : s.head? ≠ some '{')
    (hfield : field? s = some (f, rest)) : pieces ('{' :: s) = .field f :: pieces rest := by
  rw [pieces.eq_def]
  split
  · contradiction
  · next h =>
      obtain ⟨-, rfl⟩ := List.cons.inj h
      exact absurd rfl hs
  · next h => exact absurd (List.cons.inj h).1 (by decide)
  · next h => exact absurd (List.cons.inj h).1 (by decide)
  · next h =>
      obtain ⟨-, rfl⟩ := List.cons.inj h
      split
      · next hnone =>
          rw [hfield] at hnone
          contradiction
      · next hsome =>
          rw [hfield] at hsome
          cases hsome
          rfl
  · next hopening h => exact absurd (List.cons.inj h).1.symm (by simpa using hopening)

theorem pieces_literal {c : Char} (hopening : c ≠ '{') (hclosing : c ≠ '}') (rest : List Char) :
    pieces (c :: rest) = .literal c :: pieces rest := by
  rw [pieces.eq_def]
  split
  · contradiction
  · next h => exact absurd (List.cons.inj h).1 hopening
  · next h => exact absurd (List.cons.inj h).1 hclosing
  · next h => exact absurd (List.cons.inj h).1 hclosing
  · next h => exact absurd (List.cons.inj h).1 hopening
  · next h =>
      cases h
      rfl

theorem pieces_text_append {s : List Char} (hopening : '{' ∉ s) (hclosing : '}' ∉ s)
    (rest : List Char) : pieces (s ++ rest) = s.map .literal ++ pieces rest := by
  induction s with
  | nil => rfl
  | cons c s ih =>
      rw [List.mem_cons, not_or] at hopening hclosing
      rw [List.cons_append, pieces_literal (Ne.symm hopening.1) (Ne.symm hclosing.1),
        ih hopening.2 hclosing.2, List.map_cons, List.cons_append]

theorem pieces_written_append {part : Part} (hpart : part.WellFormed) (rest : List Char) :
    pieces (part.written ++ rest) = part.pieces ++ pieces rest := by
  cases part with
  | text s => exact pieces_text_append hpart.1 hpart.2 rest
  | openingBrace => exact pieces_openingBrace rest
  | closingBrace => exact pieces_closingBrace rest
  | field name =>
      have hfield := field?_of_isName hpart rest
      obtain ⟨c, tail, rfl, hc, -⟩ := hpart
      rw [Part.written, List.cons_append, List.append_assoc, List.singleton_append]
      refine pieces_field ?_ hfield
      rintro hbrace
      obtain rfl : c = '{' := Option.some.inj hbrace
      contradiction

variable {parts : List Part}

theorem pieces_flatMap_written (hparts : ∀ part ∈ parts, part.WellFormed) :
    pieces (parts.flatMap Part.written) = parts.flatMap Part.pieces := by
  induction parts with
  | nil => exact pieces_nil
  | cons part parts ih =>
      obtain ⟨hpart, hparts⟩ := List.forall_mem_cons.mp hparts
      rw [List.flatMap_cons, pieces_written_append hpart, ih hparts, List.flatMap_cons]

theorem broken_notMem_flatMap_pieces (parts : List Part) :
    Piece.broken ∉ parts.flatMap Part.pieces := by
  rw [List.mem_flatMap]
  rintro ⟨part, -, hbroken⟩
  cases part with
  | text s => simp [Part.pieces] at hbroken
  | _ => simp [Part.pieces] at hbroken

theorem field_mem_flatMap_pieces {f : Field} :
    .field f ∈ parts.flatMap Part.pieces ↔ ∃ name, .field name ∈ parts ∧ f = plainField name := by
  rw [List.mem_flatMap]
  constructor
  · rintro ⟨part, hpart, hf⟩
    cases part with
    | field name =>
        exact ⟨name, hpart, Piece.field.inj (List.mem_singleton.mp hf)⟩
    | _ => simp [Part.pieces] at hf
  · rintro ⟨name, hname, rfl⟩
    exact ⟨.field name, hname, List.mem_singleton.mpr rfl⟩

theorem flatMap_substituted (branch : List Char) (parts : List Part) :
    (parts.flatMap Part.pieces).flatMap (substituted branch) =
      parts.flatMap (Part.shown branch) := by
  rw [List.flatMap_assoc]
  refine List.flatMap_congr fun part _ => ?_
  cases part with
  | text s =>
      rw [Part.pieces, List.flatMap_map]
      exact List.flatMap_singleton' s
  | openingBrace => rfl
  | closingBrace => rfl
  | field name => exact List.append_nil branch

theorem isPlain_plainField_iff {name : List Char} :
    (plainField name).IsPlain ↔ name = knownName.toList := by
  rw [Field.IsPlain, plainField, Field.mk.injEq]
  simp

/-- A name that is not known cannot be resolved. -/
theorem resolve_of_ne {name : List Char} (hname : IsName name) (hne : name ≠ knownName.toList)
    (branch : List Char) :
    resolve branch name = .error (.missingName (String.ofList name)) := by
  have hwhole : name.takeWhile (fun c => c ≠ '.' ∧ c ≠ '[') = name := by
    rw [List.takeWhile_eq_self_iff]
    intro c hc
    have hchar := IsName.isNameChar_of_mem hname c hc
    rw [decide_eq_true_eq]
    constructor
    · rintro rfl
      contradiction
    · rintro rfl
      contradiction
  have hposition : position name 0 = .ok none := by
    obtain ⟨c, rest, rfl, hc, -⟩ := hname
    rw [position, digitValue?_of_isNameStart hc]
  have hunknown : String.ofList name ≠ knownName := by
    intro h
    rw [← h, String.toList_ofList] at hne
    contradiction
  rw [resolve]
  simp only [hwhole, hposition]
  rw [if_neg hunknown]
  rfl

section Template

variable (hparts : ∀ part ∈ parts, part.WellFormed)

include hparts

theorem mem_fields_written {f : Field} :
    f ∈ fields (String.ofList (parts.flatMap Part.written)) ↔
      ∃ name, .field name ∈ parts ∧ f = plainField name := by
  rw [mem_fields, String.toList_ofList, pieces_flatMap_written hparts, field_mem_flatMap_pieces]

theorem forall_fields_isPlain_iff :
    (∀ f ∈ fields (String.ofList (parts.flatMap Part.written)), f.IsPlain) ↔
      ∀ name, .field name ∈ parts → name = knownName.toList := by
  constructor
  · intro h name hname
    exact isPlain_plainField_iff.mp (h _ ((mem_fields_written hparts).mpr ⟨name, hname, rfl⟩))
  · intro h f hf
    obtain ⟨name, hname, rfl⟩ := (mem_fields_written hparts).mp hf
    exact isPlain_plainField_iff.mpr (h name hname)

/-- Braces that are written twice are shown once, and fields show the branch. -/
theorem expand_written (hknown : ∀ name, .field name ∈ parts → name = knownName.toList)
    (branch : String) :
    expand (String.ofList (parts.flatMap Part.written)) branch =
      .ok (String.ofList (parts.flatMap (Part.shown branch.toList))) := by
  rw [expand_of_plain ((forall_fields_isPlain_iff hparts).mpr hknown), String.toList_ofList,
    pieces_flatMap_written hparts, flatMap_substituted]
  rw [String.toList_ofList, pieces_flatMap_written hparts]
  exact broken_notMem_flatMap_pieces parts

theorem exists_expand_written_iff {branch : String} :
    (∃ text, expand (String.ofList (parts.flatMap Part.written)) branch = .ok text) ↔
      ∀ name, .field name ∈ parts → name = knownName.toList := by
  constructor
  · intro hexpand name hname
    by_contra hne
    have hpiece := exists_expand_iff.mp hexpand (.field (plainField name)) (by
      rw [String.toList_ofList, pieces_flatMap_written hparts, field_mem_flatMap_pieces]
      exact ⟨name, hname, rfl⟩)
    obtain ⟨text, htext⟩ := hpiece
    have hresolve := resolve_of_ne (hparts _ hname) hne branch.toList
    rw [expandPiece, plainField, hresolve] at htext
    contradiction
  · intro hknown
    exact ⟨_, expand_written hparts hknown branch⟩

theorem injective_shown (hknown : ∀ name, .field name ∈ parts → name = knownName.toList)
    (hfield : ∃ name, .field name ∈ parts) :
    Function.Injective fun branch : String =>
      String.ofList (parts.flatMap (Part.shown branch.toList)) := by
  obtain ⟨name, hname⟩ := hfield
  have hbroken : .broken ∉ pieces (String.ofList (parts.flatMap Part.written)).toList := by
    rw [String.toList_ofList, pieces_flatMap_written hparts]
    exact broken_notMem_flatMap_pieces parts
  have hinjective := (expand_injective_iff ((forall_fields_isPlain_iff hparts).mpr hknown)
    hbroken).mpr (List.ne_nil_of_mem ((mem_fields_written hparts).mpr ⟨name, hname, rfl⟩))
  intro branch branch' hsame
  refine hinjective ?_
  rw [expand_written hparts hknown, expand_written hparts hknown]
  exact congrArg Except.ok hsame

end Template

end BuildVersion.Template
