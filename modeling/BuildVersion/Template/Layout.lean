import BuildVersion.Text.Digit

namespace BuildVersion.Template

/-- Where the text stands in a field that is wider than the text. -/
inductive Alignment
  | left
  | right
  | centre
  deriving DecidableEq, Repr

structure Layout where
  fill : Char := ' '
  alignment : Alignment := .left
  width : Nat := 0
  precision : Option Nat := none
  deriving DecidableEq, Repr

namespace Layout

/-- The greatest number that a layout or a position may name. -/
def maxNumber : Nat := 0x7FFFFFFFFFFFFFFF

/-- The widest field that is filled. -/
def maxWidth : Nat := 0x200000000

def alignment? : Char → Option Alignment
  | '<' => some .left
  | '>' => some .right
  | '^' => some .centre
  | _ => none

/-- The number at the beginning, if there is one, and what follows it; `none` if the number is
too great. -/
def number? (s : List Char) : Option (Option Nat × List Char) :=
  let digits := s.takeWhile Text.isDigit
  let n := digits.foldl (fun n c => n * 10 + (Text.digitValue? c).getD 0) 0
  if digits.isEmpty then some (none, s)
  else if n ≤ maxNumber then some (some n, s.dropWhile Text.isDigit)
  else none

/-- A zero in front of the width is a fill character. -/
def zeroFill (layout : Layout) : List Char → Layout × List Char
  | '0' :: rest => ({ layout with fill := '0' }, rest)
  | s => (layout, s)

/-- An alignment without a fill character, and what follows it. -/
def bareAlignment : List Char → Layout × List Char
  | a :: rest =>
    match alignment? a with
    | some alignment => zeroFill { alignment := alignment } rest
    | none => zeroFill {} (a :: rest)
  | [] => ({}, [])

/-- The fill character and the alignment, and what follows them. -/
def opening : List Char → Layout × List Char
  | fill :: a :: rest =>
    match alignment? a with
    | some alignment => ({ fill := fill, alignment := alignment }, rest)
    | none => bareAlignment (fill :: a :: rest)
  | s => bareAlignment s

/-- The precision after a dot, and what follows it. -/
def precision? : List Char → Option (Option Nat × List Char)
  | '.' :: rest =>
    match number? rest with
    | some (some n, rest) => some (some n, rest)
    | _ => none
  | s => some (none, s)

def parse (s : List Char) : Option Layout :=
  let (layout, s) := opening s
  match number? s with
  | none => none
  | some (width, s) =>
    match precision? s with
    | none => none
    | some (precision, s) =>
      if s = [] ∨ s = ['s'] then
        some { layout with width := width.getD 0, precision := precision }
      else none

/-- The text cut to the precision, with fill characters around it up to the width. -/
def apply (layout : Layout) (s : List Char) : List Char :=
  let s := match layout.precision with
    | some n => s.take n
    | none => s
  let missing := layout.width - s.length
  let before := match layout.alignment with
    | .left => 0
    | .right => missing
    | .centre => missing / 2
  List.replicate before layout.fill ++ s ++ List.replicate (missing - before) layout.fill

end Layout

end BuildVersion.Template
