import BuildVersion.Deflate.Bits

/-!
Canonical codes. A code is given by the lengths of its code words: words of one length are
consecutive numbers in the order of their symbols, and shorter words come first. The code keeps
the symbols of each length, and a word is read by counting how far it lies beyond the words that
are shorter.
-/

namespace BuildVersion.Deflate

/-- The symbols whose words have one, two, three … bits. -/
structure Code where
  levels : List (Array Nat)
  deriving DecidableEq, Repr

namespace Code

/-- The symbols whose words have `n` bits. -/
def symbolsOfLength (lengths : List Nat) (n : Nat) : Array Nat :=
  (lengths.zipIdx.filterMap fun (length, symbol) =>
    if length = n then some symbol else none).toArray

/-- How many words of the greatest length are left over after `room`, or nothing if there are
too few. -/
def spare (room : Nat) : List (Array Nat) → Option Nat
  | [] => some room
  | level :: deeper =>
    if 2 * room < level.size then none else spare (2 * room - level.size) deeper

/-- The code with these word lengths; zero stands for no word. Words may be left over only if
there are no words at all, or if `lone` and the only word is a single bit. -/
def ofLengths? (lone : Bool) (lengths : List Nat) : Option Code :=
  let longest := lengths.foldl max 0
  let levels := (List.range (max longest 1)).map fun n => symbolsOfLength lengths (n + 1)
  match spare 1 levels with
  | none => none
  | some left => if left = 0 ∨ longest = 0 ∨ (lone ∧ longest = 1) then some ⟨levels⟩ else none

/-- Reads a word that lies `excess` words beyond the shorter ones. -/
def scanFrom : List (Array Nat) → (excess : Nat) → Scan Nat
  | [], _ => Scan.refuse
  | level :: deeper, excess => do
    let bit ← Scan.number 1
    let value := 2 * excess + bit
    if h : value < level.size then pure level[value]
    else scanFrom deeper (value - level.size)

def scan (code : Code) : Scan Nat :=
  scanFrom code.levels 0

/-- The code of bytes, block ends and lengths where a block brings none of its own. -/
def fixedLiterals : Code :=
  let lengths := List.replicate 144 8 ++ List.replicate 112 9 ++ List.replicate 24 7 ++
    List.replicate 8 8
  ⟨(List.range 9).map fun n => symbolsOfLength lengths (n + 1)⟩

/-- The code of distances where a block brings none of its own. -/
def fixedDistances : Code :=
  ⟨[#[], #[], #[], #[], (List.range 32).toArray]⟩

end Code

end BuildVersion.Deflate
