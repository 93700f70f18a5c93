import BuildVersion.Fault
import BuildVersion.Files.Path
import BuildVersion.Text.Utf8

/-!
File trees: files with contents and modification times, directories, and symbolic links, by their
places from the root. A path is walked component by component, and links on the way are followed,
at most `maxLinks` of them. Nothing is found in a directory that is closed.
-/

namespace BuildVersion.Files

/-- Where a node is: the names from the root. -/
abbrev Place := List String

/-- What is at a place; times are in nanoseconds. -/
inductive Node
  | file (bytes : List UInt8) (mtime : Int)
  | directory (mtime : Int)
  | link (target : String)
  deriving DecidableEq, Repr

/-- The time of the last modification; a link has none of its own. -/
def Node.mtime : Node → Int
  | .file _ mtime => mtime
  | .directory mtime => mtime
  | .link _ => 0

structure Tree where
  nodes : List (Place × Node) := []
  /-- The place of the working directory. -/
  here : Place := []
  /-- The files that may not be read and the directories that may be neither read nor searched. -/
  closed : List Place := []
  /-- Whether no file may be read. -/
  locked : Bool := false
  deriving DecidableEq, Repr

def maxNameBytes : Nat := 255

def maxPathBytes : Nat := 4095

/-- How many links a walk follows. -/
def maxLinks : Nat := 40

/-- The steps of a link. A slash at its end asks for a directory. -/
def linkSteps (target : String) : List String :=
  let s := target.toList
  ((Text.split '/' s).filter (· ≠ [])).map String.ofList ++
    if s.getLast? = some '/' then ["."] else []

namespace Tree

/-- The node at a place, without following a link. -/
def node? (t : Tree) (place : Place) : Option Node :=
  if place = [] then some (.directory 0) else t.nodes.lookup place

/-- Walks along names from a place, following links. -/
def walk (t : Tree) (links : Nat) (place : Place) (names : List String) :
    Except FileFault (Place × Node) :=
  match names with
  | [] =>
    match t.node? place with
    | some node => .ok (place, node)
    | none => .error .notFound
  | name :: rest =>
    match t.node? place with
    | some (.directory _) =>
      if place ∈ t.closed then .error .denied
      else if name = "." then walk t links place rest
      else if name = ".." then walk t links place.dropLast rest
      else if maxNameBytes < name.utf8ByteSize then .error .nameTooLong
      else
        match t.node? (place ++ [name]) with
        | none => .error .notFound
        | some (.link target) =>
          match links with
          | 0 => .error .linkLoop
          | links + 1 =>
            walk t links (if target.startsWith "/" then [] else place) (linkSteps target ++ rest)
        | some _ => walk t links (place ++ [name]) rest
    | _ => .error .notDirectory
termination_by (links, names.length)

/-- The place where a walk along a path begins. -/
def start (t : Tree) (path : Path) : Place :=
  if path.anchor = .relative then t.here else []

/-- The place that a path leads to and the node there, which is no link. -/
def reach (t : Tree) (path : Path) : Except FileFault (Place × Node) :=
  let text := path.toString
  if text.toList.contains '\x00' then .error .zeroCharacter
  else if maxPathBytes < text.utf8ByteSize then .error .nameTooLong
  else t.walk maxLinks (t.start path) path.steps

def stat (t : Tree) (path : Path) : Except FileFault Node :=
  (t.reach path).map (·.2)

def read (t : Tree) (path : Path) : Except FileFault (List UInt8) :=
  if t.locked then .error .denied
  else
    match t.reach path with
    | .error fault => .error fault
    | .ok (place, node) =>
      if place ∈ t.closed then .error .denied
      else
        match node with
        | .file bytes _ => .ok bytes
        | _ => .error .isDirectory

/-- Puts a node at a place, in place of what is there. -/
def insert (t : Tree) (place : Place) (node : Node) : Tree :=
  { t with nodes := (place, node) :: t.nodes.filter (·.1 ≠ place) }

/-- Walks as `walk` does and makes a directory, as old as `time`, for every name that names
nothing. -/
def makeDirectories (t : Tree) (time : Int) (links : Nat) (place : Place) (names : List String) :
    Tree × Place :=
  match names with
  | [] => (t, place)
  | name :: rest =>
    if name = "." then makeDirectories t time links place rest
    else if name = ".." then makeDirectories t time links place.dropLast rest
    else
      match t.node? (place ++ [name]) with
      | none =>
        makeDirectories (t.insert (place ++ [name]) (.directory time)) time links
          (place ++ [name]) rest
      | some (.link target) =>
        match links with
        | 0 => (t, place)
        | links + 1 =>
          makeDirectories t time links (if target.startsWith "/" then [] else place)
            (linkSteps target ++ rest)
      | some _ => makeDirectories t time links (place ++ [name]) rest
termination_by (links, names.length)

/-- The place that a path names, in directories that are made where they are missing; a link at
the place itself is not followed. -/
def prepare (t : Tree) (path : Path) (time : Int) : Tree × Place :=
  let (t, place) := t.makeDirectories time maxLinks (t.start path) path.components.dropLast
  match path.components.getLast? with
  | none => (t, place)
  | some ".." => (t, place.dropLast)
  | some name => (t, place ++ [name])

def putDirectory (t : Tree) (path : Path) (time : Int) : Tree :=
  (t.makeDirectories time maxLinks (t.start path) path.components).1

def putLink (t : Tree) (path : Path) (target : String) (time : Int) : Tree :=
  let (t, place) := t.prepare path time
  t.insert place (.link target)

/-- The place that a link at a place leads to, through further links. -/
def target (t : Tree) : (links : Nat) → Place → Place
  | 0, place => place
  | links + 1, place =>
    match t.node? place with
    | some (.link text) =>
      let start := if text.startsWith "/" then [] else place.dropLast
      let steps := linkSteps text
      let (_, directory) := t.makeDirectories 0 maxLinks start steps.dropLast
      match steps.getLast? with
      | none => place
      | some name => target t links (directory ++ [name])
    | _ => place

/-- Puts a file at a path, or where the link at the path leads; `time` is the time of the
directories that have to be made. -/
def putFile (t : Tree) (path : Path) (bytes : List UInt8) (mtime time : Int) : Tree :=
  let (t, place) := t.prepare path time
  t.insert (t.target maxLinks place) (.file bytes mtime)

/-- Sets the time of the node that a path leads to. -/
def touch (t : Tree) (path : Path) (mtime : Int) : Except FileFault Tree :=
  match t.walk maxLinks (t.start path) path.components with
  | .ok (place, .file bytes _) => .ok (t.insert place (.file bytes mtime))
  | .ok (place, .directory _) => .ok (t.insert place (.directory mtime))
  | .ok (_, .link _) => .ok t
  | .error fault => .error fault

/-- Takes out whatever is at a place or below it. -/
def prune (t : Tree) (place : Place) : Tree :=
  { t with nodes := t.nodes.filter fun (p, _) => !place.isPrefixOf p }

/-- Removes the file or link at a path, or the directory with all that is in it. -/
def remove (t : Tree) (path : Path) : Except FileFault Tree :=
  match path.components.getLast? with
  | none => .error .isDirectory
  | some name =>
    match t.walk maxLinks (t.start path) path.components.dropLast with
    | .error fault => .error fault
    | .ok (place, _) =>
      match t.node? (place ++ [name]) with
      | none => .error .notFound
      | some _ => .ok (t.prune (place ++ [name]))

end Tree

end BuildVersion.Files
