import BuildVersion.Gzip.Chain

/-!
Reading a chain in portions. A portion is asked for with a limit and read from a window of
compressed bytes; a breach that lies inside the window takes the whole portion with it, while one
beyond the window leaves the portion as it is. The flow only counts the bytes: which bytes they
are, the chain says.
-/

namespace BuildVersion.Gzip

/-- The number of compressed bytes that are looked at together. -/
def windowSize : Nat := 8192

/-- The bytes that positions in bits take, the last of them perhaps in part. -/
def bytesOfBits (n : Nat) : Nat := (n + 7) / 8

/-- A member that is being read: how many bytes it has given, and how many bytes of the file were
taken for them. -/
structure Course where
  content : Deflate.Content
  given : Nat
  taken : Nat
  deriving DecidableEq, Repr

structure Flow where
  /-- The member that is being read, if it has not come to its end. -/
  course : Option Course
  ahead : Chain
  deriving DecidableEq, Repr

namespace Course

/-- The first of the emissions `i … stop` that is not due after `bits` bits. -/
def dueUpTo (emissions : Array Deflate.Emission) (bits stop i : Nat) : Nat :=
  if h : i < stop ∧ i < emissions.size then
    if emissions[i].due ≤ bits then dueUpTo emissions bits stop (i + 1) else i
  else i
termination_by emissions.size - i

/-- What reading comes upon after the bytes of a portion. -/
inductive Prospect
  /-- The end of the member. -/
  | finish
  | breach
  /-- More of the member, after so many bytes of the file. -/
  | more (taken : Nat)
  deriving DecidableEq, Repr

/-- What comes after the bytes that were given, as far as a window up to `window` bytes shows;
`full` tells that the portion has come to its limit. -/
def prospect (course : Course) (window : Nat) (full : Bool) : Prospect :=
  match course.content.emissions[course.given]? with
  | some emission =>
    if full ∧ emission.noticed ≤ 8 * window then .more (bytesOfBits emission.noticed)
    else .more window
  | none =>
    match course.content.ending with
    | .finished position => if position ≤ 8 * window then .finish else .more window
    | .corrupt position => if position ≤ 8 * window then .breach else .more window
    | .outOfReach position =>
      if 8 * window < position then .more window
      else if full then .more (bytesOfBits position)
      else .breach
    | .starved => .more window

/-- Reads a portion of at most `limit` bytes from a file of `size` bytes: how many bytes it has,
and the member unless it is complete. Windows that yield nothing are passed over. -/
def read (size limit : Nat) (course : Course) : Except Breach (Nat × Option Course) :=
  let window := min (course.taken + windowSize) size
  let upTo := dueUpTo course.content.emissions (8 * window) (course.given + limit) course.given
  let n := upTo - course.given
  let after := { course with given := upTo }
  match after.prospect window (n = limit) with
  | .finish => .ok (n, none)
  | .breach => .error .corrupt
  | .more taken =>
    if n ≠ 0 then .ok (n, some { after with taken := taken })
    else if _h : course.taken < window then read size limit { course with taken := window }
    else .error .unfinished
termination_by size - course.taken
decreasing_by simp only [window] at *; omega

end Course

namespace Flow

def ofChain (chain : Chain) : Flow := ⟨none, chain⟩

/-- Reads a portion from the first member that yields a byte. -/
def readAhead (size limit : Nat) : Chain → Except Breach (Nat × Flow)
  | .done => .ok (0, ⟨none, .done⟩)
  | .broken breach => .error breach
  | .member start content rest =>
    match Course.read size limit ⟨content, 0, start⟩ with
    | .error breach => .error breach
    | .ok (0, none) => readAhead size limit rest
    | .ok (n, course) => .ok (n, ⟨course, rest⟩)

/-- Reads a portion of at most `limit` bytes: how many bytes it has, and the flow after it. It has
none only at the end of the file. -/
def read (size limit : Nat) (flow : Flow) : Except Breach (Nat × Flow) :=
  match flow.course with
  | none => readAhead size limit flow.ahead
  | some course =>
    match course.read size limit with
    | .error breach => .error breach
    | .ok (0, none) => readAhead size limit flow.ahead
    | .ok (n, course) => .ok (n, ⟨course, flow.ahead⟩)

end Flow

end BuildVersion.Gzip
