import BuildVersion.Console.Colour
import BuildVersion.Text.Blank
import BuildVersion.Text.Lowercase

namespace BuildVersion.Console

structure Appearance where
  /-- Attributes that are given (`true`) or taken away, the latest first. -/
  attributes : List (String × Bool) := []
  colour : Option (List Char) := none
  background : Option (List Char) := none
  link : Option (List Char) := none
  deriving DecidableEq, Repr

namespace Appearance

/-- The attributes, in the order of the canonical text. -/
def attributeNames : List String :=
  ["bold", "dim", "italic", "underline", "blink", "blink2", "reverse", "conceal", "strike",
   "underline2", "frame", "encircle", "overline"]

def shortNames : List (String × String) :=
  [("b", "bold"), ("c", "conceal"), ("d", "dim"), ("i", "italic"), ("o", "overline"),
   ("r", "reverse"), ("s", "strike"), ("u", "underline"), ("uu", "underline2")]

def attribute? (word : List Char) : Option String :=
  let word := String.ofList word
  if attributeNames.contains word then some word else shortNames.lookup word

/-- Reads words on top of an appearance; an error if they tell none. Of two words that decide the
same thing the later one holds. -/
def ofWords (a : Appearance) : List (List Char) → Outcome Unit Appearance
  | [] => .ok a
  | word :: rest =>
    let small := Text.lower word
    if small = "on".toList then
      match rest with
      | [] => .err ()
      | colour :: rest =>
        (Colour.parse colour).bind fun name => ofWords { a with background := some name } rest
    else if small = "not".toList then
      match rest with
      | [] => .err ()
      | word :: rest =>
        match attribute? word with
        | some name => ofWords { a with attributes := (name, false) :: a.attributes } rest
        | none => .err ()
    else if small = "link".toList then
      match rest with
      | [] => .err ()
      | address :: rest => ofWords { a with link := some address } rest
    else
      match attribute? small with
      | some name => ofWords { a with attributes := (name, true) :: a.attributes } rest
      | none => (Colour.parse small).bind fun name => ofWords { a with colour := some name } rest

/-- Reads an appearance; `none` stands for one that asks for nothing. -/
def parse (s : List Char) : Outcome Unit Appearance :=
  if Text.trim s = "none".toList then .ok {} else ofWords {} (Text.words s)

def words (a : Appearance) : List (List Char) :=
  let attributes := attributeNames.flatMap fun name =>
    match a.attributes.lookup name with
    | some true => [name.toList]
    | some false => ["not".toList, name.toList]
    | none => []
  attributes ++ a.colour.toList ++
    (a.background.toList.flatMap fun colour => ["on".toList, colour]) ++
    a.link.toList.flatMap fun address => ["link".toList, address]

def text (a : Appearance) : List Char :=
  if a.words.isEmpty then "none".toList else Text.join ' ' a.words

/-- One text for all texts of an appearance; a text that tells no appearance is trimmed and
written in small letters. -/
def normalize (s : List Char) : Except Fault (List Char) :=
  match parse s with
  | .ok a => .ok a.text
  | .err () => .ok (Text.lower (Text.trim s))
  | .aborted fault => .error fault

/-- The fault that reading an appearance meets, if it meets one. -/
def fault? (s : List Char) : Option Fault :=
  match parse s with
  | .aborted fault => some fault
  | _ => none

end Appearance

end BuildVersion.Console
