import BuildVersion.Toml.Moment

namespace BuildVersion.Toml

open Settings (Key Value)

/-- A key with dots: the names on its way. -/
abbrev DottedKey := List String

abbrev Entries := List (Key × Value)

/-- Letters, digits, hyphens and underscores. -/
def isBareKeyChar (c : Char) : Bool :=
  Text.isAsciiAlphanumeric c || c == '-' || c == '_'

/-- One name of a key: bare, or a text in one line. -/
def keyName : Reader String := fun s =>
  let name := s.takeWhile isBareKeyChar
  if name.isEmpty then lineText s else .ok (String.ofList name, s.drop name.length)

/-- The names of a key with dots between them, at most `fuel` of them. -/
def keyNames : (fuel : Nat) → Reader DottedKey
  | 0, _ => illformed
  | fuel + 1, s =>
    (keyName s).bind fun (name, rest) =>
      match dropBlanks rest with
      | '.' :: rest =>
        (keyNames fuel (dropBlanks rest)).map fun (names, rest) => (name :: names, rest)
      | rest => .ok ([name], rest)

def key : Reader DottedKey := fun s => keyNames (s.length + 1) s

/-- Changes the table that a key leads to. Tables that are missing on the way are made, and of an
array of tables the last one is meant. -/
def update (f : Entries → Option Entries) : DottedKey → Entries → Option Entries
  | [], entries => f entries
  | name :: names, entries =>
    match entries.lookup (.text name) with
    | none => (update f names []).map fun inner => entries ++ [(.text name, .table inner)]
    | some (.table inner) =>
      (update f names inner).map fun inner => replace name (.table inner) entries
    | some (.list items) =>
      match items.getLast? with
      | some (.table inner) =>
        (update f names inner).map fun inner =>
          replace name (.list (items.dropLast ++ [.table inner])) entries
      | _ => none
    | some _ => none
where
  /-- The entries with another value under a name. -/
  replace (name : String) (v : Value) (entries : Entries) : Entries :=
    entries.map fun (k, w) => if k = .text name then (k, v) else (k, w)

/-- Adds an entry to a table that has none of its name. -/
def addEntry (name : String) (v : Value) (entries : Entries) : Option Entries :=
  if (entries.lookup (.text name)).isSome then none else some (entries ++ [(.text name, v)])

/-- Puts a value where a key leads to. -/
def put (names : DottedKey) (v : Value) (entries : Entries) : Option Entries :=
  match names.getLast? with
  | none => none
  | some name => update (addEntry name v) names.dropLast entries

/-- Whether a key leads into one of the places, or to it. -/
def leadsInto (places : List DottedKey) (names : DottedKey) : Bool :=
  places.any fun place => place.isPrefixOf names

/-- Arrays and inline tables; nothing can be added to them where they end. -/
def isNested : Value → Bool
  | .list _ => true
  | .table _ => true
  | _ => false

/-- A key, an equals sign and a value. -/
def pair (value : Reader Value) : Reader (DottedKey × Value) := fun s =>
  (key s).bind fun (names, rest) =>
    match rest with
    | '=' :: rest => (value (dropBlanks rest)).map fun (v, rest) => ((names, v), rest)
    | _ => illformed

/-- The values of an array after its opening bracket or a comma, at most `fuel` of them. -/
def items (value : Reader Value) : (fuel : Nat) → Reader (List Value)
  | 0, _ => illformed
  | fuel + 1, s =>
    (skipFiller s).bind fun
      | ']' :: rest => .ok ([], rest)
      | s =>
        (value s).bind fun (v, rest) =>
        (skipFiller rest).bind fun
          | ']' :: rest => .ok ([v], rest)
          | ',' :: rest => (items value fuel rest).map fun (vs, rest) => (v :: vs, rest)
          | _ => illformed

/-- The pairs of an inline table after its opening brace or a comma, at most `fuel` of them, added
to `entries`; `closed` are the places that nothing can be added to. -/
def pairs (value : Reader Value) :
    (fuel : Nat) → (closed : List DottedKey) → (entries : Entries) → Reader Entries
  | 0, _, _, _ => illformed
  | fuel + 1, closed, entries, s =>
    (pair value s).bind fun ((names, v), rest) =>
      if leadsInto closed names then illformed
      else
        match put names v entries with
        | none => illformed
        | some entries =>
          match dropBlanks rest with
          | '}' :: rest => .ok (entries, rest)
          | ',' :: rest =>
            pairs value fuel (if isNested v then names :: closed else closed) entries
              (dropBlanks rest)
          | _ => illformed

/-- How deep the reader descends, in units of its own steps. -/
def maxDepth : Nat := 986

/-- A value that nests at most so deep: an array takes two steps, an inline table three. -/
def value (depth : Nat) (s : List Char) : Reading Value :=
  match s with
  | '[' :: rest =>
    if h : 2 ≤ depth then
      (items (fun s => value (depth - 2) s) (rest.length + 1) rest).map fun (vs, rest) =>
        (.list vs, rest)
    else .aborted .tooDeep
  | '{' :: rest =>
    match dropBlanks rest with
    | '}' :: rest => .ok (.table [], rest)
    | rest =>
      if h : 3 ≤ depth then
        (pairs (fun s => value (depth - 3) s) (rest.length + 1) [] [] rest).map
          fun (entries, rest) => (.table entries, rest)
      else .aborted .tooDeep
  | s =>
    if s.head? = some '"' ∨ s.head? = some '\'' then
      (text s).map fun (t, rest) => (.text t, rest)
    else if "true".toList.isPrefixOf s then .ok (.flag true, s.drop 4)
    else if "false".toList.isPrefixOf s then .ok (.flag false, s.drop 5)
    else
      match moment? s with
      | some reading => reading
      | none => number s
termination_by depth

end BuildVersion.Toml
