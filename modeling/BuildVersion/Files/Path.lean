import BuildVersion.Text.Split

namespace BuildVersion.Files

inductive Anchor
  | relative
  | root
  | doubleRoot
  deriving DecidableEq, Repr

structure Path where
  anchor : Anchor
  components : List String
  deriving DecidableEq, Repr

namespace Path

def anchorOf : List Char → Anchor
  | '/' :: '/' :: '/' :: _ => .root
  | '/' :: '/' :: _ => .doubleRoot
  | '/' :: _ => .root
  | _ => .relative

/-- The components between slashes that name something. -/
def componentsOf (s : List Char) : List String :=
  ((Text.split '/' s).filter fun c => c ≠ [] ∧ c ≠ ['.']).map String.ofList

def ofString (s : String) : Path :=
  ⟨anchorOf s.toList, componentsOf s.toList⟩

def Anchor.text : Anchor → String
  | .relative => ""
  | .root => "/"
  | .doubleRoot => "//"

/-- The text of a path; a path without anchor and components is `.`. -/
def toString (p : Path) : String :=
  if p.anchor = .relative ∧ p.components = [] then "."
  else Anchor.text p.anchor ++ "/".intercalate p.components

/-- The names to walk along; a path without anchor and components asks for the directory itself. -/
def steps (p : Path) : List String :=
  if p.anchor = .relative ∧ p.components = [] then ["."] else p.components

/-- The path `q` as seen from `p`: an anchored path is where it is. -/
def join (p q : Path) : Path :=
  if q.anchor = .relative then ⟨p.anchor, p.components ++ q.components⟩ else q

end Path

end BuildVersion.Files
