namespace BuildVersion.Tar

abbrev Name := List UInt8

namespace Name

def slash : UInt8 := 0x2F

def dot : UInt8 := 0x2E

/-- The bytes before the first zero. -/
def untilZero (bytes : List UInt8) : Name :=
  bytes.takeWhile (· ≠ 0)

def dropSlashes (name : Name) : Name :=
  (name.reverse.dropWhile (· = slash)).reverse

def dropSlash (name : Name) : Name :=
  if name.getLast? = some slash then name.dropLast else name

/-- The parts between slashes. -/
def parts : Name → List Name
  | [] => [[]]
  | b :: rest =>
    if b = slash then [] :: parts rest
    else
      match parts rest with
      | [] => [[b]]
      | part :: more => (b :: part) :: more

/-- The name of the directory that holds the named entry, empty if none is named. -/
def directory (name : Name) : Name :=
  let head := (name.reverse.dropWhile (· ≠ slash)).reverse
  if head.all (· = slash) then head else dropSlashes head

def within (directory name : Name) : Name :=
  if directory = [] then name
  else if name = [] then directory
  else directory ++ slash :: name

/-- The slashes that a normal form starts with: two stay two, three or more are one. -/
def leading (name : Name) : Name :=
  match (name.takeWhile (· = slash)).length with
  | 0 => []
  | 2 => [slash, slash]
  | _ => [slash]

/-- Adds a part to the parts before it, the last of which comes first. -/
def pushPart (anchored : Bool) (done : List Name) (part : Name) : List Name :=
  if part = [] ∨ part = [dot] then done
  else if part ≠ [dot, dot] then part :: done
  else
    match done with
    | [] => if anchored then [] else [part]
    | last :: before => if last = [dot, dot] then part :: done else before

/-- The normal form; a name without parts is a single dot. -/
def normalize (name : Name) : Name :=
  let start := leading name
  let kept := (parts name).foldl (pushPart (start ≠ [])) []
  let text := start ++ List.intercalate [slash] kept.reverse
  if text = [] then [dot] else text

end Name

end BuildVersion.Tar
