import BuildVersion.Toml.Value

/-!
TOML documents: a sequence of statements, one a line. A header names the table that the pairs
below it belong to, or adds a table to an array of tables. A table is opened by one header at
most, and arrays and inline tables are complete where they are written.
-/

namespace BuildVersion.Toml

open Settings (Value)

/-- What is known of a document after some of its statements. -/
structure State where
  entries : Entries := []
  /-- The table that pairs belong to. -/
  header : DottedKey := []
  /-- Places of arrays and inline tables. -/
  closed : List DottedKey := []
  /-- Tables that no header may open and no key with dots may extend. -/
  opened : List DottedKey := []
  /-- Tables that are opened from the next header on. -/
  pending : List DottedKey := []

/-- The ways to the tables in which a key with dots ends, without the last one. -/
def tablesOnTheWay (header names : DottedKey) : List DottedKey :=
  (List.range (names.length - 1)).map fun i => header ++ names.take (i + 1)

/-- Adds a table to the array of tables under a name. -/
def addTable (name : String) (entries : Entries) : Option Entries :=
  match entries.lookup (.text name) with
  | none => some (entries ++ [(.text name, .list [.table []])])
  | some (.list items) => some (update.replace name (.list (items ++ [.table []])) entries)
  | some _ => none

namespace State

def addPair (st : State) (names : DottedKey) (v : Value) : Outcome Illformed State :=
  let way := tablesOnTheWay st.header names
  if way.any st.opened.contains then illformed
  else if leadsInto st.closed (st.header ++ names.dropLast) then illformed
  else
    match put (st.header ++ names) v st.entries with
    | none => illformed
    | some entries =>
      .ok { st with
        entries
        pending := way ++ st.pending
        closed := if isNested v then (st.header ++ names) :: st.closed else st.closed }

/-- The state with the pending tables opened. -/
def settle (st : State) : State :=
  { st with opened := st.pending ++ st.opened, pending := [] }

/-- The state after the header of a table. -/
def openTable (st : State) (names : DottedKey) : Outcome Illformed State :=
  let st := st.settle
  if st.opened.contains names || leadsInto st.closed names then illformed
  else
    match update some names st.entries with
    | none => illformed
    | some entries => .ok { st with entries, header := names, opened := names :: st.opened }

/-- The state after the header of a table in an array of tables. What was said of the table before
it does not hold of this one. -/
def appendTable (st : State) (names : DottedKey) : Outcome Illformed State :=
  let st := st.settle
  if leadsInto st.closed names then illformed
  else
    match names.getLast? with
    | none => illformed
    | some name =>
      match update (addTable name) names.dropLast st.entries with
      | none => illformed
      | some entries =>
        .ok { st with
          entries
          header := names
          closed := st.closed.filter (!names.isPrefixOf ·)
          opened := names :: st.opened.filter (!names.isPrefixOf ·) }

end State

/-- A statement other than an empty line or a comment: the state after it, and what follows. -/
def statement (st : State) : List Char → Reading State
  | '[' :: '[' :: rest =>
    (key (dropBlanks rest)).bind fun (names, rest) =>
    (st.appendTable names).bind fun st =>
      match rest with
      | ']' :: ']' :: rest => .ok (st, rest)
      | _ => illformed
  | '[' :: rest =>
    (key (dropBlanks rest)).bind fun (names, rest) =>
    (st.openTable names).bind fun st =>
      match rest with
      | ']' :: rest => .ok (st, rest)
      | _ => illformed
  | s =>
    (pair (value maxDepth) s).bind fun ((names, v), rest) =>
    (st.addPair names v).map fun st => (st, rest)

/-- The rest of a line after its statement, and the lines after it. -/
def lineEnd (s : List Char) : Outcome Illformed (Option (List Char)) :=
  (skipComment (dropBlanks s)).bind fun
    | [] => .ok none
    | '\n' :: rest => .ok (some rest)
    | _ => illformed

/-- Reads lines, at most `fuel` of them. -/
def lines : (fuel : Nat) → State → List Char → Outcome Illformed State
  | 0, _, _ => illformed
  | fuel + 1, st, s =>
    match dropBlanks s with
    | [] => .ok st
    | '\n' :: rest => lines fuel st rest
    | c :: rest =>
      (if c = '#' then .ok (st, c :: rest) else statement st (c :: rest)).bind fun (st, rest) =>
      (lineEnd rest).bind fun
        | none => .ok st
        | some rest => lines fuel st rest

/-- A carriage return before a line feed is no character of a document. -/
def unifyNewlines : List Char → List Char
  | '\r' :: '\n' :: rest => '\n' :: unifyNewlines rest
  | c :: rest => c :: unifyNewlines rest
  | [] => []

def parse (document : String) : Outcome Illformed Entries :=
  let s := unifyNewlines document.toList
  (lines (s.length + 1) {} s).map State.entries

end BuildVersion.Toml
