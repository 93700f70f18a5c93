import BuildVersion.Number.Numeral
import BuildVersion.Text.Alphanumeric
import BuildVersion.Text.Split

namespace BuildVersion.Console.Action

inductive Token
  | number (imaginary : Bool)
  /-- A text of characters or, if `bytes`, of bytes. -/
  | text (bytes : Bool)
  | word (name : List Char)
  | mark (c : Char)
  | ellipsis
  | lineEnd
  deriving DecidableEq, Repr

/-- How deep brackets may stand in brackets. -/
def maxDepth : Nat := 200

/-- Digits after a first one, with single underscores before them, and what follows them. -/
def moreDigits (p : Char → Bool) : List Char → List Char × List Char
  | '_' :: c :: rest =>
    if p c then (c :: (moreDigits p rest).1, (moreDigits p rest).2) else ([], '_' :: c :: rest)
  | c :: rest =>
    if p c then (c :: (moreDigits p rest).1, (moreDigits p rest).2) else ([], c :: rest)
  | [] => ([], [])

/-- Digits with single underscores between them, and what follows them. -/
def groupedDigits (p : Char → Bool) : List Char → List Char × List Char
  | [] => ([], [])
  | c :: rest =>
    if p c then (c :: (moreDigits p rest).1, (moreDigits p rest).2) else ([], c :: rest)

/-- The base that a mark after a leading zero announces, as the digits that it has. -/
def baseDigits? (c : Char) : Option (Char → Bool) :=
  match c.toLower with
  | 'x' => some Text.isHex
  | 'o' => some fun c => '0' ≤ c && c ≤ '7'
  | 'b' => some fun c => c == '0' || c == '1'
  | _ => none

/-- What follows the digits of a whole number in another base than ten. -/
def afterBase? : List Char → Option (List Char)
  | '0' :: mark :: rest =>
    (baseDigits? mark).bind fun p =>
      let rest := match rest with
        | '_' :: rest => rest
        | rest => rest
      let (digits, after) := groupedDigits p rest
      if digits.isEmpty then none else some after
  | _ => none

def afterExponent? : List Char → Option (List Char)
  | e :: rest =>
    if e.toLower != 'e' then none
    else
      let rest := match rest with
        | '+' :: rest => rest
        | '-' :: rest => rest
        | rest => rest
      let (digits, after) := groupedDigits Text.isAsciiDigit rest
      if digits.isEmpty then none else some after
  | [] => none

/-- What follows a point and a fraction, which may be empty. -/
def afterFraction? : List Char → Option (List Char)
  | '.' :: rest => some (groupedDigits Text.isAsciiDigit rest).2
  | _ => none

/-- Whether digits may write a whole number: none begins with a zero but zero itself. -/
def isWhole (digits : List Char) : Bool :=
  (digits.head? != some '0' || digits.all (· == '0')) && digits.length ≤ Numeral.maxDigits

/-- Reads a decimal number: its digits, a fraction, an exponent and the mark `j`. -/
def decimal? (s : List Char) : Option (Token × List Char) :=
  let (digits, rest) := groupedDigits Text.isAsciiDigit s
  let fraction := afterFraction? rest
  let rest := fraction.getD rest
  let exponent := afterExponent? rest
  let rest := exponent.getD rest
  match rest with
  | 'j' :: rest => some (.number true, rest)
  | 'J' :: rest => some (.number true, rest)
  | rest =>
    if fraction.isSome || exponent.isSome || isWhole digits then some (.number false, rest)
    else none

/-- Reads a number; no letter, digit or underscore may follow it. -/
def number? (s : List Char) : Option (Token × List Char) :=
  let reading :=
    match afterBase? s with
    | some rest => some (Token.number false, rest)
    | none => decimal? s
  reading.filter fun (_, rest) => !(rest.head?.any Text.isWordCharacter)

/-- What follows an escape in a text of characters, after its backslash. The name of a character
consists of capital letters, digits, spaces and hyphens. -/
def afterEscape? : List Char → Option (List Char)
  | [] => none
  | 'x' :: rest => hexadecimal 2 rest
  | 'u' :: rest => hexadecimal 4 rest
  | 'U' :: rest => hexadecimal 8 rest
  | 'N' :: rest =>
    match rest with
    | '{' :: rest =>
      match rest.dropWhile fun c => Text.isAsciiAlphanumeric c || c == ' ' || c == '-' with
      | '}' :: after => if rest.head? = some '}' then none else some after
      | _ => none
    | _ => none
  | _ :: rest => some rest
where
  /-- What follows so many hexadecimal digits, which write a code point. -/
  hexadecimal (count : Nat) (s : List Char) : Option (List Char) :=
    let digits := s.take count
    if digits.length = count && (Text.hexNumber? digits).any (· ≤ 0x10FFFF) then
      some (s.drop count)
    else none

/-- What follows an escape in a text of bytes, after its backslash. -/
def afterByteEscape? : List Char → Option (List Char)
  | [] => none
  | 'x' :: rest => afterEscape?.hexadecimal 2 rest
  | _ :: rest => some rest

structure Quoting where
  quote : Char
  /-- The quotes stand three times, and the text may hold line ends. -/
  long : Bool
  /-- Backslashes stand for themselves. -/
  raw : Bool
  bytes : Bool
  deriving DecidableEq, Repr

/-- What follows a text, after its opening quotes, in at most `fuel` steps. -/
def afterText? (q : Quoting) : (fuel : Nat) → List Char → Option (List Char)
  | 0, _ => none
  | _, [] => none
  | fuel + 1, c :: rest =>
    if c = q.quote && !q.long then some rest
    else if c = q.quote && [c, c].isPrefixOf rest then some (rest.drop 2)
    else if c = '\n' && !q.long then none
    else if q.bytes && 0x80 ≤ c.toNat then none
    else if c = '\\' then
      let after :=
        if q.bytes && rest.head?.any (0x80 ≤ ·.toNat) then none
        else if q.raw then rest.tail?
        else if q.bytes then afterByteEscape? rest
        else afterEscape? rest
      after.bind (afterText? q fuel)
    else afterText? q fuel rest

/-- The marks before a text: it is raw, or of bytes, or both. -/
def textMarks : List (String × Bool × Bool) :=
  [("", false, false), ("u", false, false), ("r", true, false), ("b", false, true),
   ("br", true, true), ("rb", true, true)]

/-- Reads a text that begins with its quotes, after its marks. -/
def text? (marks : List Char) (s : List Char) : Option (Token × List Char) := do
  let quote ← s.head?
  let (raw, bytes) ← textMarks.lookup (String.ofList (marks.map Char.toLower))
  let long := [quote, quote, quote].isPrefixOf s
  let rest ← afterText? ⟨quote, long, raw, bytes⟩ s.length (s.drop (if long then 3 else 1))
  some (.text bytes, rest)

def isQuote (c : Char) : Bool :=
  c == '\'' || c == '"'

/-- Reads a word, or a text with marks before it. -/
def word? (s : List Char) : Option (Token × List Char) :=
  let name := s.takeWhile Text.isWordCharacter
  let rest := s.drop name.length
  if rest.head?.any isQuote then text? name rest else some (.word name, rest)

/-- Reads one token that is neither blank nor a line end. -/
def token? (s : List Char) : Option (Token × List Char) :=
  match s with
  | [] => none
  | c :: rest =>
    if isQuote c then text? [] s
    else if Text.isAsciiDigit c then number? s
    else if c = '.' && rest.head?.any Text.isAsciiDigit then number? s
    else if "...".toList.isPrefixOf s then some (.ellipsis, s.drop 3)
    else if Text.isWordCharacter c then word? s
    else if "(){},:+-".toList.contains c then some (.mark c, rest)
    else none

/-- How deep the rest stands in brackets after a token. -/
def depthAfter (depth : Nat) (t : Token) : Nat :=
  if t = .mark '(' || t = .mark '{' then depth + 1
  else if t = .mark ')' || t = .mark '}' then depth - 1
  else depth

/-- The tokens of a text inside so many brackets, in at most `fuel` steps. Line ends inside of
brackets are blank, as are comments; a backslash takes a line end away. -/
def tokensIn? : (fuel depth : Nat) → List Char → Option (List Token)
  | _, _, [] => some []
  | 0, _, _ => none
  | fuel + 1, depth, c :: rest =>
    if c = ' ' || c = '\t' || c = '\x0c' then tokensIn? fuel depth rest
    else if c = '#' then tokensIn? fuel depth (rest.dropWhile (· ≠ '\n'))
    else if c = '\n' then
      let line := if depth = 0 then [.lineEnd] else []
      (tokensIn? fuel depth rest).map (line ++ ·)
    else if c = '\\' then
      if rest.head? = some '\n' && rest.length ≠ 1 then tokensIn? fuel depth rest.tail else none
    else do
      let (t, rest) ← token? (c :: rest)
      if maxDepth < depthAfter depth t then none
      (tokensIn? fuel (depthAfter depth t) rest).map (t :: ·)

def tokens? (s : List Char) : Option (List Token) :=
  if s.contains '\x00' then none else tokensIn? s.length 0 (Text.unifyLineEnds s)

end BuildVersion.Console.Action
