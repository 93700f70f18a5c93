import BuildVersion.Fault
import BuildVersion.Text.Blank
import BuildVersion.Text.CellWidth

/-!
Strips: text that is laid out in lines of a terminal. A tab leads to the next column that is a
multiple of eight. A line that is too wide is broken between words, and inside of a word only if
the word is too wide for a line; the blanks that reach beyond the end of a line are dropped.
Spans of a strip are stretches whose appearance cannot be shown; one that becomes empty when its
strip is cut is gone.
-/

namespace BuildVersion.Console

/-- A stretch of text with an appearance at fault. -/
structure Span where
  start : Nat
  stop : Nat
  fault : Fault
  deriving DecidableEq, Repr

structure Strip where
  text : List Char
  spans : List Span := []
  deriving DecidableEq, Repr

namespace Strip

/-- The part of a span between two places, if it is not empty. -/
def clip? (start stop : Nat) (span : Span) : Option Span :=
  let first := max span.start start
  let last := min span.stop stop
  if first < last then some { span with start := first - start, stop := last - start } else none

def piece (s : Strip) (start stop : Nat) : Strip :=
  ⟨(s.text.drop start).take (stop - start), s.spans.filterMap (clip? start stop)⟩

/-- The pieces of a strip from a place on, which end at the given places and at its end. -/
def piecesFrom (s : Strip) (start : Nat) : List Nat → List Strip
  | [] => [s.piece start s.text.length]
  | stop :: rest => s.piece start stop :: piecesFrom s stop rest

/-- Cuts a strip at places in ascending order; without any it stays as it is. -/
def cut (s : Strip) (places : List Nat) : List Strip :=
  if places.isEmpty then [s] else s.piecesFrom 0 places

def append (s t : Strip) : Strip :=
  ⟨s.text ++ t.text, s.spans ++ t.spans.map fun span =>
    { span with start := span.start + s.text.length, stop := span.stop + s.text.length }⟩

def join (strips : List Strip) : Strip :=
  strips.foldl append ⟨[], []⟩

def placesOf (c : Char) (s : List Char) : List Nat :=
  s.zipIdx.filterMap fun (d, place) => if d = c then some place else none

/-- The lines of a strip, without the line feeds between them. -/
def lines (s : Strip) : List Strip :=
  (s.cut ((placesOf '\n' s.text).flatMap fun place => [place, place + 1])).filter
    fun line => line.text ≠ ['\n']

/-- The columns from one stop of the tabulator to the next. -/
def tabSize : Nat := 8

/-- A piece that ends in a tab and begins in a column, with blanks in place of the tab. A span
that reaches up to the tab takes the blanks in. -/
def widen (column : Nat) (s : Strip) : Strip :=
  let text := s.text.dropLast ++ [' ']
  let blanks := (tabSize - (column + Text.cells text) % tabSize) % tabSize
  ⟨text ++ List.replicate blanks ' ', s.spans.map fun span =>
    if span.stop < text.length then span else { span with stop := span.stop + blanks }⟩

/-- Pieces that begin in a column, those that end in a tab widened. -/
def widenAll (column : Nat) : List Strip → List Strip
  | [] => []
  | s :: rest =>
    let s := if s.text.getLast? = some '\t' then s.widen column else s
    s :: widenAll (column + Text.cells s.text) rest

/-- A line with blanks in place of its tabs. -/
def withoutTabs (s : Strip) : Strip :=
  if s.text.contains '\t' then
    join (widenAll 0 (s.cut ((placesOf '\t' s.text).map (· + 1))))
  else s

/-- A word and the blanks after it, and what follows them; blanks at the very beginning belong to
the word. -/
def word? (s : List Char) : Option (List Char × List Char) :=
  let lead := s.takeWhile Text.isBlank
  let rest := s.drop lead.length
  let body := rest.takeWhile fun c => !Text.isBlank c
  let tail := (rest.drop body.length).takeWhile Text.isBlank
  if body.isEmpty then none
  else some (lead ++ body ++ tail, rest.drop (body.length + tail.length))

/-- The words of a text, each with the blanks after it, at most `fuel` of them. -/
def wordsIn : (fuel : Nat) → List Char → List (List Char)
  | 0, _ => []
  | fuel + 1, s =>
    match word? s with
    | none => []
    | some (word, rest) => word :: wordsIn fuel rest

/-- Chops a text into lines that take at most `width` cells; `used` cells of the first line and
the characters of `line`, the last one first, are taken already. -/
def chop (width used : Nat) (line : List Char) : List Char → List (List Char)
  | [] => [line.reverse]
  | c :: rest =>
    if width < used + Text.cellWidth c then line.reverse :: chop width (Text.cellWidth c) [c] rest
    else chop width (used + Text.cellWidth c) (c :: line) rest

/-- The places before the chopped lines of a word that begins at a place; none at the beginning of
the text. -/
def chopPlaces (start : Nat) : List (List Char) → List Nat
  | [] => []
  | line :: rest =>
    (if start = 0 then [] else [start]) ++ chopPlaces (start + line.length) rest

/-- The places where words are put on a new line, from a place on and with `used` cells of its
line taken. -/
def breaks (width : Nat) : (start used : Nat) → List (List Char) → List Nat
  | _, _, [] => []
  | start, used, word :: rest =>
    let next := start + word.length
    let needed := Text.cells (Text.trimEnd word)
    if used + needed ≤ width then breaks width next (used + Text.cells word) rest
    else if width < needed then
      let chopped := chop width 0 [] word
      chopPlaces start chopped ++
        breaks width next (Text.cells (chopped.getLast?.getD [])) rest
    else start :: breaks width next (Text.cells word) rest

/-- A strip without what stands from a place on. -/
def cropped (s : Strip) (stop : Nat) : Strip :=
  ⟨s.text.take stop, (s.spans.filter (·.start < stop)).map fun span =>
    { span with stop := min stop span.stop }⟩

/-- Drops blanks at the end that reach beyond the width. -/
def withoutOverhang (width : Nat) (s : Strip) : Strip :=
  let stop := max width (Text.trimEnd s.text).length
  if stop < s.text.length then s.cropped stop else s

/-- The characters that fit into so many cells. -/
def fitting (width : Nat) : List Char → List Char
  | [] => []
  | c :: rest =>
    if Text.cellWidth c ≤ width then c :: fitting (width - Text.cellWidth c) rest else []

/-- Drops what reaches beyond the width; half a wide character becomes a blank. -/
def fitted (width : Nat) (s : Strip) : Strip :=
  if width < Text.cells s.text then
    let kept := fitting width s.text
    let s := s.cropped (kept.length + (width - Text.cells kept))
    { s with text := kept ++ List.replicate (width - Text.cells kept) ' ' }
  else s

/-- The lines that a strip takes on a terminal of a width. -/
def wrapped (width : Nat) (s : Strip) : List Strip :=
  s.lines.flatMap fun line =>
    let line := line.withoutTabs
    (line.cut (breaks width 0 0 (wordsIn line.text.length line.text))).map fun line =>
      (line.withoutOverhang width).fitted width

end Strip

end BuildVersion.Console
