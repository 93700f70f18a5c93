/-!
White space and trimming. A character is blank when Unicode gives it the property `White_Space`
or when it is one of the four ASCII information separators; a zero-width space and a byte order
mark are not blank.
-/

namespace BuildVersion.Text

def isBlank (c : Char) : Bool :=
  let n := c.toNat
  (0x9 ≤ n && n ≤ 0xD) || (0x1C ≤ n && n ≤ 0x20) || n == 0x85 || n == 0xA0 || n == 0x1680 ||
    (0x2000 ≤ n && n ≤ 0x200A) || n == 0x2028 || n == 0x2029 || n == 0x202F || n == 0x205F ||
    n == 0x3000

def trimStart (s : List Char) : List Char :=
  s.dropWhile isBlank

def trimEnd (s : List Char) : List Char :=
  (s.reverse.dropWhile isBlank).reverse

/-- Removes the blank characters at both ends and no others. -/
def trim (s : List Char) : List Char :=
  trimEnd (trimStart s)

/-- `trim` on strings. -/
def trimmed (s : String) : String :=
  String.ofList (trim s.toList)

@[simp] theorem trimmed_toList (s : String) : (trimmed s).toList = trim s.toList := by
  simp [trimmed]

theorem dropWhile_isBlank_of_forall {s : List Char} (hs : ∀ c ∈ s, isBlank c = false) :
    s.dropWhile isBlank = s := by
  cases s with
  | nil => rfl
  | cons c s => rw [List.dropWhile_cons_of_neg (by simp [hs c])]

theorem trim_of_forall {s : List Char} (hs : ∀ c ∈ s, isBlank c = false) : trim s = s := by
  rw [trim, trimStart, dropWhile_isBlank_of_forall hs, trimEnd,
    dropWhile_isBlank_of_forall (by simpa using hs), List.reverse_reverse]

end BuildVersion.Text
