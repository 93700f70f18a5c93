import BuildVersion.Toml.Reader

namespace BuildVersion.Toml

/-- The character whose code point stands in the next `width` hexadecimal digits. -/
def codePoint (width : Nat) (s : List Char) : Reading Char :=
  if (s.take width).length = width then
    match Text.hexNumber? (s.take width) with
    | some n => if n.isValidChar then .ok (Char.ofNat n, s.drop width) else illformed
    | none => illformed
  else illformed

/-- What follows the blanks and line ends after a backslash that ends a line. -/
def skipLineEnd (s : List Char) : Outcome Illformed (List Char) :=
  match dropBlanks s with
  | [] => .ok []
  | '\n' :: rest => .ok (rest.dropWhile isBlankOrNewline)
  | _ => illformed

/-- The character of an escape, none if it escapes a line end, and what follows. -/
def escape (multiline : Bool) : List Char → Reading (Option Char)
  | 'b' :: rest => .ok (some '\x08', rest)
  | 't' :: rest => .ok (some '\t', rest)
  | 'n' :: rest => .ok (some '\n', rest)
  | 'f' :: rest => .ok (some '\x0c', rest)
  | 'r' :: rest => .ok (some '\r', rest)
  | '"' :: rest => .ok (some '"', rest)
  | '\\' :: rest => .ok (some '\\', rest)
  | 'u' :: rest => (codePoint 4 rest).map fun (c, rest) => (some c, rest)
  | 'U' :: rest => (codePoint 8 rest).map fun (c, rest) => (some c, rest)
  | c :: rest =>
    if multiline && isBlankOrNewline c then (skipLineEnd (c :: rest)).map (none, ·)
    else illformed
  | [] => illformed

theorem length_le_of_codePoint {width : Nat} {s rest : List Char} {c : Char}
    (h : codePoint width s = .ok (c, rest)) : rest.length ≤ s.length := by
  unfold codePoint at h
  split at h
  · split at h
    · split at h
      · obtain ⟨-, rfl⟩ := Prod.mk.inj (Outcome.ok.inj h)
        exact (List.drop_suffix width s).length_le
      · contradiction
    · contradiction
  · contradiction

theorem length_le_of_skipLineEnd {s rest : List Char} (h : skipLineEnd s = .ok rest) :
    rest.length ≤ s.length := by
  have hblanks : (dropBlanks s).length ≤ s.length := (List.dropWhile_suffix _).length_le
  unfold skipLineEnd at h
  split at h
  · rw [← Outcome.ok.inj h]
    exact Nat.zero_le _
  · next after hafter =>
      have hrest : (after.dropWhile isBlankOrNewline).length ≤ after.length :=
        (List.dropWhile_suffix _).length_le
      rw [hafter, List.length_cons] at hblanks
      rw [← Outcome.ok.inj h]
      omega
  · contradiction

theorem length_le_of_escape {multiline : Bool} {s rest : List Char} {c : Option Char}
    (h : escape multiline s = .ok (c, rest)) : rest.length ≤ s.length := by
  unfold escape at h
  split at h
  case h_1 | h_2 | h_3 | h_4 | h_5 | h_6 | h_7 =>
    obtain ⟨-, rfl⟩ := Prod.mk.inj (Outcome.ok.inj h)
    exact Nat.le_succ _
  case h_8 | h_9 =>
    obtain ⟨⟨d, after⟩, hpoint, hpair⟩ := Outcome.map_eq_ok_iff.mp h
    obtain ⟨-, rfl⟩ := Prod.mk.inj hpair
    exact Nat.le_succ_of_le (length_le_of_codePoint hpoint)
  case h_10 =>
    split at h
    · obtain ⟨after, hend, hpair⟩ := Outcome.map_eq_ok_iff.mp h
      obtain ⟨-, rfl⟩ := Prod.mk.inj hpair
      exact length_le_of_skipLineEnd hend
    · contradiction
  case h_11 => contradiction

/-- The characters up to the closing quotes, and what follows them. -/
def quotedChars (multiline : Bool) (s : List Char) : Reading (List Char) :=
  match s with
  | [] => illformed
  | c :: rest =>
    if c = '"' then
      if !multiline then .ok ([], rest)
      else if ['"', '"'].isPrefixOf rest then .ok ([], rest.drop 2)
      else (quotedChars multiline rest).map fun (cs, rest) => (c :: cs, rest)
    else if c = '\\' then
      match _h : escape multiline rest with
      | .ok (c?, rest) =>
        (quotedChars multiline rest).map fun (cs, rest) => (c?.toList ++ cs, rest)
      | .err e => .err e
      | .aborted fault => .aborted fault
    else if isControl c && !(multiline && c == '\n') then illformed
    else (quotedChars multiline rest).map fun (cs, rest) => (c :: cs, rest)
termination_by s.length
decreasing_by
  · exact Nat.lt_succ_self _
  · exact Nat.lt_succ_of_le (length_le_of_escape _h)
  · exact Nat.lt_succ_self _

/-- The characters up to the closing apostrophes, and what follows them. -/
def literalChars (multiline : Bool) : Reader (List Char)
  | [] => illformed
  | c :: rest =>
    if c = '\'' ∧ (!multiline || ['\'', '\''].isPrefixOf rest) then
      .ok ([], if multiline then rest.drop 2 else rest)
    else if isControl c && !(multiline && c == '\n') then illformed
    else (literalChars multiline rest).map fun (cs, rest) => (c :: cs, rest)

/-- A text in several lines may end with up to two of its own marks. -/
def closingMarks (mark : Char) : List Char × List Char → List Char × List Char
  | (cs, a :: b :: rest) =>
    if a = mark then
      if b = mark then (cs ++ [mark, mark], rest) else (cs ++ [mark], b :: rest)
    else (cs, a :: b :: rest)
  | (cs, [a]) => if a = mark then (cs ++ [mark], []) else (cs, [a])
  | (cs, []) => (cs, [])

/-- A line end right after the opening marks is no part of the text. -/
def dropFirstNewline : List Char → List Char
  | '\n' :: rest => rest
  | s => s

/-- A text in quotes or apostrophes, in one line or in several. -/
def text : Reader String
  | '"' :: '"' :: '"' :: rest =>
    (quotedChars true (dropFirstNewline rest)).map fun p =>
      let (cs, rest) := closingMarks '"' p
      (String.ofList cs, rest)
  | '\'' :: '\'' :: '\'' :: rest =>
    (literalChars true (dropFirstNewline rest)).map fun p =>
      let (cs, rest) := closingMarks '\'' p
      (String.ofList cs, rest)
  | '"' :: rest => (quotedChars false rest).map fun (cs, rest) => (String.ofList cs, rest)
  | '\'' :: rest => (literalChars false rest).map fun (cs, rest) => (String.ofList cs, rest)
  | _ => illformed

/-- A text in quotes or apostrophes in one line. -/
def lineText : Reader String
  | '"' :: rest => (quotedChars false rest).map fun (cs, rest) => (String.ofList cs, rest)
  | '\'' :: rest => (literalChars false rest).map fun (cs, rest) => (String.ofList cs, rest)
  | _ => illformed

end BuildVersion.Toml
