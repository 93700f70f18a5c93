import BuildVersion.Text.Digit
import BuildVersion.Text.Split

namespace BuildVersion.Fetch.Internet

/-- A number up to 255 without leading zeros. -/
def isOctet (s : List Char) : Bool :=
  1 ≤ s.length && s.length ≤ 3 && s.all Text.isAsciiDigit &&
    (s.length = 1 || s.head? ≠ some '0') &&
    s.foldl (fun n c => n * 10 + (c.toNat - '0'.toNat)) 0 ≤ 255

def isVersion4 (s : List Char) : Bool :=
  let octets := Text.split '.' s
  octets.length = 4 && octets.all isOctet

/-- One to four hexadecimal digits. -/
def isGroup (s : List Char) : Bool :=
  1 ≤ s.length && s.length ≤ 4 && s.all Text.isHex

/-- The groups of an address with those of an address of version 4 at its end, if it has one;
nothing if that is none. -/
def expand? (groups : List (List Char)) : Option (List (List Char)) :=
  match groups.getLast? with
  | some last =>
    if last.contains '.' then
      if isVersion4 last then some (groups.dropLast ++ [['0'], ['0']]) else none
    else some groups
  | none => some groups

/-- Whether groups on one side of two colons are written out; the empty group of a colon at the
end of the address stands there alone. -/
def isSide (groups : List (List Char)) : Bool :=
  groups = [[]] || groups.all isGroup

def written (groups : List (List Char)) : Nat :=
  (groups.filter (· ≠ [])).length

/-- Whether groups make up an address: all eight, or fewer with one empty place inside. -/
def areGroups (groups : List (List Char)) : Bool :=
  let inner := (groups.drop 1).dropLast
  if inner.contains [] then
    let before := (inner.takeWhile (· ≠ [])).length + 1
    let high := groups.take before
    let low := groups.drop (before + 1)
    isSide high && isSide low && written high + written low ≤ 7
  else groups.length = 8 && groups.all isGroup

def isVersion6 (s : List Char) : Bool :=
  let (address, zone) := Text.cut '%' s
  let groups := Text.split ':' address
  !s.contains '/' && zone.all (fun zone => !zone.isEmpty && !zone.contains '%') &&
    3 ≤ groups.length && (expand? groups).any areGroups

end BuildVersion.Fetch.Internet
