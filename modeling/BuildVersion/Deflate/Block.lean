import BuildVersion.Deflate.Code

namespace BuildVersion.Deflate

inductive Body
  | stored (length : Nat)
  | coded (literals distances : Code)
  deriving DecidableEq, Repr

namespace Body

/-- The order in which the word lengths of the code for word lengths are written. -/
def lengthOrder : List Nat :=
  [16, 17, 18, 0, 8, 7, 9, 6, 10, 5, 11, 4, 12, 3, 13, 2, 14, 1, 15]

/-- The word lengths of the code for word lengths, `count` of which are written. -/
def scanOuter (count : Nat) : Scan (List Nat) := do
  let written ← (lengthOrder.take count).mapM fun symbol => do
    let length ← Scan.number 3
    pure (symbol, length)
  pure ((List.range 19).map fun symbol => (written.lookup symbol).getD 0)

/-- How often a symbol above 15 repeats which length; `before` is the last length. -/
def scanRepeat (symbol : Nat) (before : Option Nat) : Scan (Nat × Nat) :=
  match symbol with
  | 16 => do
    let n ← Scan.number 2
    match before with
    | some length => pure (n + 3, length)
    | none => Scan.refuse
  | 17 => do
    let n ← Scan.number 3
    pure (n + 3, 0)
  | _ => do
    let n ← Scan.number 7
    pure (n + 11, 0)

/-- Reads `missing` word lengths after those in `done`, the last of which comes first. -/
def scanLengths (code : Code) (fuel missing : Nat) (done : List Nat) : Scan (List Nat) :=
  match fuel, missing with
  | _, 0 => pure done.reverse
  | 0, _ => Scan.refuse
  | fuel + 1, missing => do
    let symbol ← code.scan
    if symbol < 16 then scanLengths code fuel (missing - 1) (symbol :: done)
    else
      let (n, length) ← scanRepeat symbol done.head?
      if missing < n then Scan.refuse
      else scanLengths code fuel (missing - n) (List.replicate n length ++ done)

def endSymbol : Nat := 256

def scanCodes : Scan Body := do
  let literalCount := (← Scan.number 5) + 257
  let distanceCount := (← Scan.number 5) + 1
  let outerCount := (← Scan.number 4) + 4
  if 286 < literalCount ∨ 30 < distanceCount then Scan.refuse
  else
    match Code.ofLengths? false (← scanOuter outerCount) with
    | none => Scan.refuse
    | some code => do
      let count := literalCount + distanceCount
      let lengths ← scanLengths code count count []
      if lengths[endSymbol]?.getD 0 = 0 then Scan.refuse
      else
        match Code.ofLengths? true (lengths.take literalCount),
          Code.ofLengths? true (lengths.drop literalCount) with
        | some literals, some distances => pure (.coded literals distances)
        | _, _ => Scan.refuse

/-- Reads the length of a stored block, which is written twice, the second time inverted. -/
def scanStored : Scan Body := do
  Scan.align
  let length ← Scan.number 16
  let inverse ← Scan.number 16
  if length + inverse = 65535 then pure (.stored length) else Scan.refuse

/-- Reads the heading of a block: whether it is the last, and what stands in it. -/
def scanHeading : Scan (Bool × Body) := do
  let last ← Scan.number 1
  let kind ← Scan.number 2
  let body ←
    match kind with
    | 0 => scanStored
    | 1 => pure (.coded Code.fixedLiterals Code.fixedDistances)
    | 2 => scanCodes
    | _ => Scan.refuse
  pure (last = 1, body)

end Body

/-- The least lengths of the length symbols from 257 on, with the number of further bits. -/
def lengthSymbols : List (Nat × Nat) :=
  [(3, 0), (4, 0), (5, 0), (6, 0), (7, 0), (8, 0), (9, 0), (10, 0), (11, 1), (13, 1), (15, 1),
    (17, 1), (19, 2), (23, 2), (27, 2), (31, 2), (35, 3), (43, 3), (51, 3), (59, 3), (67, 4),
    (83, 4), (99, 4), (115, 4), (131, 5), (163, 5), (195, 5), (227, 5), (258, 0)]

/-- The least distances of the distance symbols, with the number of further bits. -/
def distanceSymbols : List (Nat × Nat) :=
  [(1, 0), (2, 0), (3, 0), (4, 0), (5, 1), (7, 1), (9, 2), (13, 2), (17, 3), (25, 3), (33, 4),
    (49, 4), (65, 5), (97, 5), (129, 6), (193, 6), (257, 7), (385, 7), (513, 8), (769, 8),
    (1025, 9), (1537, 9), (2049, 10), (3073, 10), (4097, 11), (6145, 11), (8193, 12),
    (12289, 12), (16385, 13), (24577, 13)]

/-- A number that a symbol begins and further bits complete. -/
def scanExtended (table : List (Nat × Nat)) (symbol : Nat) : Scan Nat :=
  match table[symbol]? with
  | none => Scan.refuse
  | some (least, extra) => do
    let more ← Scan.number extra
    pure (least + more)

/-- The length and the distance of a repetition that a length symbol begins. -/
def scanRepetition (distances : Code) (symbol : Nat) : Scan (Nat × Nat) := do
  let length ← scanExtended lengthSymbols (symbol - 257)
  let distance ← scanExtended distanceSymbols (← distances.scan)
  pure (length, distance)

end BuildVersion.Deflate
