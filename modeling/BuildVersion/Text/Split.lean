import BuildVersion.Text.Blank

namespace BuildVersion.Text

/-- The fields between occurrences of `separator`; a text without one is a single field. -/
def split (separator : Char) : List Char → List (List Char)
  | [] => [[]]
  | c :: rest =>
    if c = separator then [] :: split separator rest
    else
      match split separator rest with
      | [] => [[c]]
      | field :: fields => (c :: field) :: fields

/-- The fields with one `separator` between neighbours. -/
def join (separator : Char) (fields : List (List Char)) : List Char :=
  List.intercalate [separator] fields

/-- The text before the first `separator`, and the text after it if there is one. -/
def cut (separator : Char) : List Char → List Char × Option (List Char)
  | [] => ([], none)
  | c :: rest =>
    if c = separator then ([], some rest)
    else ((c :: (cut separator rest).1), (cut separator rest).2)

/-- The words of a text: what stands between its blank characters. -/
def words : List Char → List (List Char)
  | [] => []
  | c :: rest =>
    if isBlank c then words rest
    else if rest.head?.all isBlank then [c] :: words rest
    else
      match words rest with
      | [] => [[c]]
      | word :: others => (c :: word) :: others

/-- Whether `pattern` stands somewhere in the text. -/
def occursIn (pattern : List Char) : List Char → Bool
  | [] => pattern.isEmpty
  | c :: rest => pattern.isPrefixOf (c :: rest) || occursIn pattern rest

def contains (pattern s : String) : Bool :=
  occursIn pattern.toList s.toList

/-- Removes one leading `pattern`, if the text starts with it. -/
def removeLeading (pattern s : List Char) : List Char :=
  if pattern.isPrefixOf s then s.drop pattern.length else s

/-- Line ends as single line feeds: a carriage return becomes one, together with the line feed
after it if there is one. -/
def unifyLineEnds : List Char → List Char
  | '\r' :: '\n' :: rest => '\n' :: unifyLineEnds rest
  | '\r' :: rest => '\n' :: unifyLineEnds rest
  | c :: rest => c :: unifyLineEnds rest
  | [] => []

end BuildVersion.Text
