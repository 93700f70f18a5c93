import BuildVersion.Text.Digit
import BuildVersion.Text.Split

/-!
Release builds: texts of the form `v1.18.0-alpha.1.1234+0123abc-dirty`, that is three numbers,
tags after hyphens, dots, a number, a commit description and a mark for local changes, of which
only the three numbers are required. The parts overlap, so the recogniser tries every way to
divide the text: each matcher takes what follows it as a continuation and succeeds if some
beginning of the text fits and the continuation accepts the rest.
-/

namespace BuildVersion.Version.Release

/-- What a continuation accepts. -/
abbrev Accepts := List Char → Bool

/-- Any number of digits. -/
def digits (k : Accepts) : Accepts
  | [] => k []
  | c :: rest => k (c :: rest) || (Text.isAsciiDigit c && digits k rest)

/-- At least one digit. -/
def someDigits (k : Accepts) : Accepts
  | [] => false
  | c :: rest => Text.isAsciiDigit c && digits k rest

/-- A number without leading zeros. -/
def number (k : Accepts) : Accepts
  | [] => false
  | c :: rest => if c = '0' then k rest else Text.isAsciiDigit c && digits k rest

def character (c : Char) (k : Accepts) : Accepts
  | [] => false
  | d :: rest => c == d && k rest

def literal : (pattern : List Char) → (k : Accepts) → Accepts
  | [], k => k
  | c :: pattern, k => character c (literal pattern k)

/-- What `m` matches, or nothing. -/
def optional (m : Accepts → Accepts) (k : Accepts) : Accepts :=
  fun s => m k s || k s

/-- The rest of a tag that has begun, and any number of further tags. -/
def tagRest (k : Accepts) : Accepts
  | [] => k []
  | c :: rest =>
    k (c :: rest) || (Text.isAsciiAlphanumeric c && tagRest k rest) ||
      (match rest with
        | [] => false
        | d :: rest => c == '-' && Text.isAsciiAlphanumeric d && tagRest k rest)

/-- Any number of tags, each a hyphen and at least one letter or digit. -/
def tags (k : Accepts) : Accepts
  | c :: d :: rest =>
    k (c :: d :: rest) || (c == '-' && Text.isAsciiAlphanumeric d && tagRest k rest)
  | s => k s

def dots (k : Accepts) : Accepts
  | [] => k []
  | c :: rest => k (c :: rest) || (c == '.' && dots k rest)

/-- Between `low` and `low + extra` hexadecimal digits. -/
def hash : (low extra : Nat) → (k : Accepts) → Accepts
  | 0, 0, k => k
  | 0, _ + 1, k => fun
    | [] => k []
    | c :: rest => k (c :: rest) || (Text.isLowerHex c && hash 0 ‹Nat› k rest)
  | low + 1, extra, k => fun
    | [] => false
    | c :: rest => Text.isLowerHex c && hash low extra k rest

/-- How many commits a build lies past its tag, and which commit it is. -/
def description (k : Accepts) : Accepts :=
  character '.' (someDigits (character '+' (hash 5 35 k)))

def dirtyMark : List Char := "-dirty".toList

def release : Accepts :=
  character 'v' <| number <| character '.' <| number <| character '.' <| number <|
    tags <| dots <| optional number <| optional description <| optional (literal dirtyMark)
      List.isEmpty

/-- Whether the text, as a whole, is a release build. -/
def isValid (build : String) : Bool :=
  release build.toList

/-- Whether the text says that it was built from a tree with local changes. -/
def isDirty (build : String) : Bool :=
  Text.contains "dirty" build

end BuildVersion.Version.Release
