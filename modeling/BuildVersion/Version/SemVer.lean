import BuildVersion.Number.Numeral
import BuildVersion.Outcome
import BuildVersion.Text.Split
import BuildVersion.Version.Error

/-!
Strict semantic versions: three numbers between dots, pre-release identifiers after a hyphen and
build identifiers after a plus sign. Neither hyphens before the pre-release nor plus signs before
the build part can belong to another part, so the text is cut at the first of each.
-/

namespace BuildVersion.Version

structure SemVer where
  major : Int
  minor : Int
  patch : Int
  prerelease : List String := []
  build : List String := []
  deriving DecidableEq, Repr

namespace SemVer

/-- A number of the core: `0`, or digits of any script of which the first is `1` to `9`. -/
def isNumber : List Char → Bool
  | [] => false
  | c :: rest => if c = '0' then rest.isEmpty else Text.isAsciiDigit c && rest.all Text.isDigit

/-- Letters, digits and hyphens, all of ASCII. -/
def isWordChar (c : Char) : Bool :=
  Text.isAsciiAlphanumeric c || c == '-'

def isBuildIdentifier (s : List Char) : Bool :=
  !s.isEmpty && s.all isWordChar

/-- Digits of any script up to a letter or hyphen of ASCII, and only ASCII from there on. -/
def isMixedIdentifier (s : List Char) : Bool :=
  let rest := s.dropWhile Text.isDigit
  isBuildIdentifier rest

def isPrereleaseIdentifier (s : List Char) : Bool :=
  isNumber s || isMixedIdentifier s

/-- The identifiers of an optional part. Without the part there are none; with it all have to
pass `accept`. -/
def identifiers? (accept : List Char → Bool) : Option (List Char) → Option (List String)
  | none => some []
  | some part =>
    let fields := Text.split '.' part
    if fields.all accept then some (fields.map String.ofList) else none

/-- The texts of a version's parts: three numbers, and the identifiers. -/
structure Parts where
  major : List Char
  minor : List Char
  patch : List Char
  prerelease : List String
  build : List String

def parts? (text : List Char) : Option Parts :=
  let (front, buildPart) := Text.cut '+' text
  let (core, prereleasePart) := Text.cut '-' front
  match Text.split '.' core with
  | [major, minor, patch] =>
    if isNumber major && isNumber minor && isNumber patch then
      match identifiers? isPrereleaseIdentifier prereleasePart,
          identifiers? isBuildIdentifier buildPart with
      | some prerelease, some build => some ⟨major, minor, patch, prerelease, build⟩
      | _, _ => none
    else none
  | _ => none

/-- The value of a numeral, unless it is too long. -/
def number {ε : Type} (digits : List Char) : Outcome ε Int :=
  if digits.length ≤ Numeral.maxDigits then .ok (Numeral.value digits)
  else .aborted .overlongNumeral

def emptyMessage : String := "version string is empty"

def strictMessage : String := "not a valid semantic version"

def parse (text : String) : Outcome FormatError SemVer :=
  if text = "" then .err ⟨text, emptyMessage⟩
  else
    match parts? text.toList with
    | none => .err ⟨text, strictMessage⟩
    | some p =>
      (number p.major).bind fun major =>
      (number p.minor).bind fun minor =>
      (number p.patch).bind fun patch =>
      .ok ⟨major, minor, patch, p.prerelease, p.build⟩

/-- One optional part of the written form, after the character that opens it. -/
def renderPart (mark : Char) (identifiers : List String) : List Char :=
  if identifiers.isEmpty then [] else mark :: Text.join '.' (identifiers.map String.toList)

/-- The written form of a number, unless it is too long. -/
def numeral {ε : Type} (n : Int) : Outcome ε (List Char) :=
  if (Numeral.digits n.natAbs).length ≤ Numeral.maxDigits then .ok (Numeral.signedDigits n)
  else .aborted .overlongNumeral

def render {ε : Type} (v : SemVer) : Outcome ε String :=
  (numeral v.major).bind fun major =>
  (numeral v.minor).bind fun minor =>
  (numeral v.patch).bind fun patch =>
  .ok (String.ofList (major ++ '.' :: minor ++ '.' :: patch ++ renderPart '-' v.prerelease ++
    renderPart '+' v.build))

end SemVer

/-- Removes one leading `v` and writes the version canonically. -/
def normalize (text : String) : Outcome FormatError String :=
  (SemVer.parse (String.ofList (Text.removeLeading ['v'] text.toList))).bind SemVer.render

end BuildVersion.Version
