import BuildVersion.Fault
import BuildVersion.Number.Rounded
import BuildVersion.Template.Layout

namespace BuildVersion.Template

/-- Where an integer stands in a field that is wider than the integer. -/
inductive Placement
  | aligned (alignment : Alignment)
  /-- The fill characters stand behind the sign. -/
  | behindSign
  deriving DecidableEq, Repr

structure NumberLayout where
  fill : Char := ' '
  placement : Placement := .aligned .right
  /-- The character in front of numbers that are not negative. -/
  sign : Option Char := none
  /-- Whether a zero may not be negative. -/
  positiveZero : Bool := false
  /-- Whether the base is shown, or the point if no digits follow it. -/
  marked : Bool := false
  width : Nat := 0
  grouping : Option Char := none
  precision : Option Nat := none
  letter : Char := 'd'
  deriving DecidableEq, Repr

namespace NumberLayout

def placement? (c : Char) : Option Placement :=
  if c = '=' then some .behindSign else (Layout.alignment? c).map .aligned

/-- A zero in front of the width is a fill character. If no placement was given, it stands behind
the sign. -/
def zeroFill (layout : NumberLayout) (placed : Bool) : List Char → NumberLayout × List Char
  | '0' :: rest =>
    ({ layout with
      fill := '0'
      placement := if placed then layout.placement else .behindSign }, rest)
  | s => (layout, s)

/-- The placement of a layout, and what stands before it and what follows it. -/
def opening : List Char → Option Char × Option Placement × List Char
  | fill :: p :: rest =>
    match placement? p with
    | some placement => (some fill, some placement, rest)
    | none =>
      match placement? fill with
      | some placement => (none, some placement, p :: rest)
      | none => (none, none, fill :: p :: rest)
  | [p] =>
    match placement? p with
    | some placement => (none, some placement, [])
    | none => (none, none, [p])
  | [] => (none, none, [])

/-- A character at the beginning that belongs to a set, and what follows it. -/
def optional (set : String) : List Char → Option Char × List Char
  | c :: rest => if set.toList.contains c then (some c, rest) else (none, c :: rest)
  | [] => (none, [])

def parse (s : List Char) : Option NumberLayout := do
  let (fill, placement, s) := opening s
  let (sign, s) := optional "+- " s
  let (zero, s) := optional "z" s
  let (mark, s) := optional "#" s
  let layout : NumberLayout :=
    { fill := fill.getD ' ', placement := placement.getD (.aligned .right) }
  let (layout, s) := if fill.isNone then zeroFill layout placement.isSome s else (layout, s)
  let (width, s) ← Layout.number? s
  let (grouping, s) := optional ",_" s
  let (precision, s) ← Layout.precision? s
  let (letter, s) := optional "bcdnoxXeEfFgG%" s
  if !s.isEmpty then none
  some { layout with
    sign
    positiveZero := zero.isSome
    marked := mark.isSome
    width := width.getD 0
    grouping
    precision
    letter := letter.getD 'd' }

/-- Whether a letter stands for a numeral with digits behind a point. -/
def isPointed (letter : Char) : Bool :=
  "eEfFgG%".toList.contains letter

def base (letter : Char) : Nat :=
  match letter with
  | 'b' => 2
  | 'o' => 8
  | 'x' => 16
  | 'X' => 16
  | _ => 10

/-- Digits from the last one to the first, with a character between groups. -/
def group (mark : Char) (size : Nat) (room : Nat) : List Char → List Char
  | [] => []
  | c :: rest =>
    if room = 0 then mark :: c :: group mark size (size - 1) rest
    else c :: group mark size (room - 1) rest

/-- Digits with the character of the layout between groups: of three digits in base ten, of four
in other bases. -/
def grouped (layout : NumberLayout) (digits : List Char) : List Char :=
  match layout.grouping with
  | none => digits
  | some mark =>
    let size := if base layout.letter = 10 then 3 else 4
    (group mark size size digits.reverse).reverse

/-- The greatest count of digits behind a point. -/
def maxPrecision : Nat := 0x7FFFFFFF

/-- Whether the parts of a layout go together: only numerals with a point take a precision, an
exact character takes no further marks, and only the low line groups digits of other bases than
ten. -/
def isConsistent (layout : NumberLayout) : Bool :=
  if isPointed layout.letter then layout.precision.all (· ≤ maxPrecision)
  else
    layout.precision.isNone && !layout.positiveZero &&
      match layout.letter with
      | 'c' => layout.sign.isNone && !layout.marked && layout.grouping.isNone
      | 'n' => layout.grouping.isNone
      | 'd' => true
      | _ => layout.grouping != some ','

/-- What stands in front of the digits. -/
def lead (layout : NumberLayout) (n : Int) : List Char :=
  let sign := if n < 0 then ['-'] else (layout.sign.filter (· ≠ '-')).toList
  let mark := if layout.marked && base layout.letter ≠ 10 then ['0', layout.letter] else []
  sign ++ mark

/-- The numeral of a natural number in the way of the letter, or the character that it counts. -/
def numeral (layout : NumberLayout) (n : Nat) : Numeral.Divided :=
  let precision := layout.precision.getD 6
  match layout.letter with
  | 'c' => ⟨[Char.ofNat n], []⟩
  | 'X' => ⟨(Nat.toDigits 16 n).map Char.toUpper, []⟩
  | 'e' => Numeral.scientific layout.marked 'e' precision n
  | 'E' => Numeral.scientific layout.marked 'E' precision n
  | 'f' => Numeral.fixed layout.marked precision n
  | 'F' => Numeral.fixed layout.marked precision n
  | 'g' => Numeral.general layout.marked 'e' precision n
  | 'G' => Numeral.general layout.marked 'E' precision n
  | '%' =>
    let numeral := Numeral.fixed layout.marked precision (n * 100)
    { numeral with rest := numeral.rest ++ ['%'] }
  | letter => ⟨Nat.toDigits (base letter) n, []⟩

/-- Digits with zeros before them, so many that they take `room` characters once they are grouped;
`fuel` bounds their number. -/
def filled (layout : NumberLayout) (room : Nat) : (fuel : Nat) → List Char → List Char
  | 0, digits => layout.grouped digits
  | fuel + 1, digits =>
    let shown := layout.grouped digits
    if room ≤ shown.length then shown else filled layout room fuel ('0' :: digits)

def apply (layout : NumberLayout) (n : Int) : List Char :=
  let lead := layout.lead n
  let ⟨whole, rest⟩ := layout.numeral n.natAbs
  let room := layout.width - lead.length - rest.length
  match layout.placement with
  | .behindSign =>
    if layout.fill = '0' then lead ++ layout.filled room layout.width whole ++ rest
    else
      let whole := layout.grouped whole
      lead ++ List.replicate (room - whole.length) layout.fill ++ whole ++ rest
  | .aligned alignment =>
    ({ fill := layout.fill, alignment, width := layout.width } : Layout).apply
      (lead ++ layout.grouped whole ++ rest)

/-- An integer fitted into a written layout. -/
def fit (n : Int) (written : List Char) : Except TemplateFault (List Char) :=
  match parse written with
  | none => .error .malformed
  | some layout =>
    if !layout.isConsistent then .error .malformed
    else if layout.letter = 'c' ∧ ¬ n.toNat.isValidChar then .error .noCharacter
    else if Layout.maxWidth < layout.width then .error .tooWide
    else .ok (layout.apply n)

end NumberLayout

end BuildVersion.Template
