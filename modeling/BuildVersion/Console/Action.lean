import BuildVersion.Console.Action.Token

namespace BuildVersion.Console.Action

/-- What is read of a value. -/
inductive Form
  | number (imaginary : Bool)
  | signed (imaginary : Bool)
  /-- The word `set`, which is a value when brackets follow it. -/
  | setName
  /-- Any other value; it may be a key unless it holds a set or a table. -/
  | value (isKey : Bool)
  deriving DecidableEq, Repr

/-- Whether a form is a value, and whether that value may be a key. -/
def Form.isKey? : Form → Option Bool
  | .number _ => some true
  | .signed _ => some true
  | .setName => none
  | .value isKey => some isKey

abbrev Reader (α : Type) := List Token → Option (α × List Token)

/-- Reads values up to a closing bracket, with commas between them and perhaps after them, at most
`fuel` of them; tells for each whether it may be a key. -/
def items (value : Reader Form) (closing : Char) : (fuel : Nat) → Reader (List Bool)
  | 0, _ => none
  | fuel + 1, tokens =>
    match tokens with
    | .mark c :: rest => if c = closing then some ([], rest) else next fuel tokens
    | _ => next fuel tokens
where
  next (fuel : Nat) (tokens : List Token) : Option (List Bool × List Token) := do
    let (form, rest) ← value tokens
    let isKey ← form.isKey?
    match rest with
    | .mark ',' :: rest =>
      let (others, rest) ← items value closing fuel rest
      some (isKey :: others, rest)
    | .mark c :: rest => if c = closing then some ([isKey], rest) else none
    | _ => none

/-- Reads the pairs of a table up to the closing brace, at most `fuel` of them. -/
def pairs (value : Reader Form) : (fuel : Nat) → Reader Unit
  | 0, _ => none
  | _ + 1, .mark '}' :: rest => some ((), rest)
  | fuel + 1, tokens => do
    let (key, rest) ← value tokens
    if key.isKey? ≠ some true then none
    match rest with
    | .mark ':' :: rest =>
      let (form, rest) ← value rest
      if form.isKey?.isNone then none
      match rest with
      | .mark ',' :: rest => pairs value fuel rest
      | .mark '}' :: rest => some ((), rest)
      | _ => none
    | _ => none

/-- Reads what follows an opening bracket: the empty tuple, a value in brackets, or a tuple. -/
def bracketed (value : Reader Form) : Reader Form := fun tokens =>
  match tokens with
  | .mark ')' :: rest => some (.value true, rest)
  | _ => do
    let (form, rest) ← value tokens
    match rest with
    | .mark ')' :: rest => some (form, rest)
    | .mark ',' :: rest =>
      let isKey ← form.isKey?
      let (others, rest) ← items value ')' (rest.length + 1) rest
      some (.value (isKey && others.all id), rest)
    | _ => none

/-- Reads what follows an opening brace: a table, or a set with at least one member. -/
def braced (value : Reader Form) : Reader Form := fun tokens =>
  match tokens with
  | .mark '}' :: rest => some (.value false, rest)
  | _ => do
    let (_, rest) ← value tokens
    match rest with
    | .mark ':' :: _ =>
      let (_, rest) ← pairs value (tokens.length + 1) tokens
      some (.value false, rest)
    | _ =>
      let (members, rest) ← items value '}' (tokens.length + 1) tokens
      if members.all id then some (.value false, rest) else none

/-- What follows the texts at the beginning; neighbours are one text if they are of one kind. -/
def afterTexts (bytes : Bool) : List Token → List Token
  | .text b :: rest => if b = bytes then afterTexts bytes rest else .text b :: rest
  | tokens => tokens

def wordForm? (name : List Char) : Option Form :=
  if name = "set".toList then some .setName
  else if ["None", "True", "False"].contains (String.ofList name) then some (.value true)
  else none

def plain (value : Reader Form) : Reader Form := fun tokens => do
  let (form, rest) ←
    match tokens with
    | .number imaginary :: rest => some (.number imaginary, rest)
    | .text bytes :: rest => some (.value true, afterTexts bytes rest)
    | .ellipsis :: rest => some (.value true, rest)
    | .word name :: rest => (wordForm? name).map fun form => (form, rest)
    | .mark '(' :: rest => bracketed value rest
    | .mark '{' :: rest => braced value rest
    | _ => none
  match form, rest with
  | .setName, .mark '(' :: .mark ')' :: rest => some (.value false, rest)
  | form, rest => some (form, rest)

def signed (value : Reader Form) : Reader Form := fun tokens =>
  let number (rest : List Token) : Option (Form × List Token) :=
    match plain value rest with
    | some (.number imaginary, rest) => some (.signed imaginary, rest)
    | _ => none
  match tokens with
  | .mark '+' :: rest => number rest
  | .mark '-' :: rest => number rest
  | tokens => plain value tokens

/-- Reads a value: one with a sign, or a real number and an imaginary one after it. -/
def term (value : Reader Form) : Reader Form := fun tokens => do
  let (form, rest) ← signed value tokens
  let complex (rest : List Token) : Option (Form × List Token) :=
    match form, plain value rest with
    | .number false, some (.number true, rest) => some (.value true, rest)
    | .signed false, some (.number true, rest) => some (.value true, rest)
    | _, _ => none
  match rest with
  | .mark '+' :: rest => complex rest
  | .mark '-' :: rest => complex rest
  | rest => some (form, rest)

/-- Reads a value that stands in brackets at most so deep. -/
def value : (depth : Nat) → Reader Form
  | 0 => fun _ => none
  | depth + 1 => term (value depth)

/-- Whether tokens are values with commas between them and perhaps after them, and then line ends
alone; at most `fuel` values. -/
def areValues : (fuel : Nat) → List Token → Bool
  | 0, _ => false
  | fuel + 1, tokens =>
    match value (maxDepth + 1) tokens with
    | none => false
    | some (form, rest) =>
      form.isKey?.isSome &&
        match rest with
        | .mark ',' :: rest => rest.all (· = .lineEnd) || areValues fuel rest
        | rest => rest.all (· = .lineEnd)

def isReadable (s : List Char) : Bool :=
  match tokens? s with
  | none => false
  | some tokens => areValues tokens.length (tokens.dropWhile (· = .lineEnd))

/-- Whether a text is a name with dots, and then perhaps a pair of brackets in the same line with
anything between them; gives what stands from the opening bracket on. -/
def call? (s : List Char) : Option (List Char) :=
  let rest := s.dropWhile fun c => c == '.' || Text.isWordCharacter c
  match rest with
  | [] => some []
  | '(' :: _ => if rest.getLast? = some ')' && !rest.contains '\n' then some rest else none
  | _ => none

/-- Whether an action can be read: the values of its call, or the whole of it if it is none. -/
def isValid (s : List Char) : Bool :=
  let s := Text.trim s
  match call? s with
  | some [] => true
  | some values => isReadable values
  | none => isReadable s

end BuildVersion.Console.Action
