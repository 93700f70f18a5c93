import BuildVersion.Outcome
import BuildVersion.Text.Digit

namespace BuildVersion.Toml

/-- A document that breaks the rules of the format. -/
structure Illformed where
  deriving DecidableEq, Repr

/-- What a reader gives: a value, and what follows it. -/
abbrev Reading (α : Type) := Outcome Illformed (α × List Char)

abbrev Reader (α : Type) := List Char → Reading α

def illformed {α : Type} : Outcome Illformed α := .err ⟨⟩

def isBlank (c : Char) : Bool :=
  c == ' ' || c == '\t'

def isBlankOrNewline (c : Char) : Bool :=
  isBlank c || c == '\n'

def dropBlanks (s : List Char) : List Char :=
  s.dropWhile isBlank

/-- A control character other than the tab. -/
def isControl (c : Char) : Bool :=
  (c.toNat < 0x20 && c != '\t') || c.toNat == 0x7F

/-- What follows the text of a comment, from its line end on. -/
def afterComment : List Char → Outcome Illformed (List Char)
  | [] => .ok []
  | c :: rest =>
    if c = '\n' then .ok (c :: rest)
    else if isControl c then illformed
    else afterComment rest

/-- What follows a comment, if there is one. -/
def skipComment : List Char → Outcome Illformed (List Char)
  | '#' :: rest => afterComment rest
  | s => .ok s

theorem length_le_of_afterComment {s rest : List Char} (h : afterComment s = .ok rest) :
    rest.length ≤ s.length := by
  induction s with
  | nil =>
      obtain rfl := Outcome.ok.inj h
      exact Nat.le_refl _
  | cons c s ih =>
      rw [afterComment] at h
      split at h
      · obtain rfl := Outcome.ok.inj h
        exact Nat.le_refl _
      · split at h
        · contradiction
        · exact Nat.le_succ_of_le (ih h)

/-- What follows blanks, line ends and comments. -/
def skipFiller (s : List Char) : Outcome Illformed (List Char) :=
  match _h : s.dropWhile isBlankOrNewline with
  | '#' :: rest =>
    match _hc : afterComment rest with
    | .ok rest => skipFiller rest
    | .err e => .err e
    | .aborted fault => .aborted fault
  | s => .ok s
termination_by s.length
decreasing_by
  have hcomment := length_le_of_afterComment _hc
  have hfiller : (s.dropWhile isBlankOrNewline).length ≤ s.length :=
    (List.dropWhile_suffix _).length_le
  rw [_h, List.length_cons] at hfiller
  omega

/-- Digits for which `p` holds, with single underscores between them, and what follows them. -/
def digits (p : Char → Bool) : List Char → List Char × List Char
  | '_' :: c :: rest =>
    if p c then (c :: (digits p rest).1, (digits p rest).2) else ([], '_' :: c :: rest)
  | c :: rest => if p c then (c :: (digits p rest).1, (digits p rest).2) else ([], c :: rest)
  | [] => ([], [])

end BuildVersion.Toml
