/-!
Templates as pieces. A template is literal text in which braces are written twice, and fields
between single braces: a reference, then a conversion after an exclamation mark, then a layout
after a colon, which may hold fields of its own. Reading never fails; where the text is broken,
the last piece says so.
-/

namespace BuildVersion.Template

structure Field where
  /-- The text that says which value is meant. -/
  reference : List Char
  conversion : Option Char
  layout : List Char
  /-- Whether the layout holds fields. -/
  nested : Bool
  deriving DecidableEq, Repr

inductive Piece
  | literal (c : Char)
  | field (f : Field)
  | broken
  deriving DecidableEq, Repr

/-- The text up to a closing bracket, the bracket included, and what follows it. -/
def throughBracket : List Char → List Char × List Char
  | [] => ([], [])
  | c :: rest =>
    if c = ']' then ([c], rest)
    else (c :: (throughBracket rest).1, (throughBracket rest).2)

theorem length_throughBracket_le (s : List Char) : (throughBracket s).2.length ≤ s.length := by
  induction s with
  | nil => exact Nat.le_refl _
  | cons c s ih =>
      rw [throughBracket]
      split
      · exact Nat.le_succ _
      · exact Nat.le_succ_of_le ih

/-- The reference of a field, the character that ends it and what follows that; `none` if no
character ends it. Between brackets any character may stand. -/
def reference? (s : List Char) : Option (List Char × Char × List Char) :=
  match s with
  | [] => none
  | c :: rest =>
    if c = '{' then none
    else if c = '}' ∨ c = ':' ∨ c = '!' then some ([], c, rest)
    else if c = '[' then
      (reference? (throughBracket rest).2).map fun (r, e, after) =>
        (c :: (throughBracket rest).1 ++ r, e, after)
    else (reference? rest).map fun (r, e, after) => (c :: r, e, after)
termination_by s.length
decreasing_by
  · exact Nat.lt_succ_of_le (length_throughBracket_le rest)
  · exact Nat.lt_succ_self _

/-- The layout up to the brace that closes the field at `depth` open braces, whether it holds
braces, and what follows it. -/
def layout? (depth : Nat) : List Char → Option (List Char × Bool × List Char)
  | [] => none
  | c :: rest =>
    if c = '{' then
      (layout? (depth + 1) rest).map fun (l, _, after) => (c :: l, true, after)
    else if c = '}' then
      match depth with
      | 0 => some ([], false, rest)
      | depth + 1 => (layout? depth rest).map fun (l, nested, after) => (c :: l, nested, after)
    else (layout? depth rest).map fun (l, nested, after) => (c :: l, nested, after)

/-- A field after its opening brace, and what follows the field. -/
def field? (s : List Char) : Option (Field × List Char) :=
  match reference? s with
  | none => none
  | some (reference, '}', rest) => some (⟨reference, none, [], false⟩, rest)
  | some (reference, '!', rest) =>
    match rest with
    | c :: '}' :: rest => some (⟨reference, some c, [], false⟩, rest)
    | c :: ':' :: rest =>
      (layout? 0 rest).map fun (layout, nested, rest) =>
        (⟨reference, some c, layout, nested⟩, rest)
    | _ => none
  | some (reference, _, rest) =>
    (layout? 0 rest).map fun (layout, nested, rest) => (⟨reference, none, layout, nested⟩, rest)

theorem length_lt_of_reference? {s : List Char} {found : List Char × Char × List Char}
    (h : reference? s = some found) : found.2.2.length < s.length := by
  fun_induction reference? s generalizing found with
  | case1 => contradiction
  | case2 => contradiction
  | case3 c rest hopen hend =>
      rw [← Option.some.inj h]
      exact Nat.lt_succ_self _
  | case4 rest hopen hend ih =>
      obtain ⟨inner, hinner, rfl⟩ := Option.map_eq_some_iff.mp h
      have hlt : inner.2.2.length < (throughBracket rest).2.length := ih hinner
      exact Nat.lt_succ_of_lt (Nat.lt_of_lt_of_le hlt (length_throughBracket_le rest))
  | case5 c rest hopen hend hbracket ih =>
      obtain ⟨inner, hinner, rfl⟩ := Option.map_eq_some_iff.mp h
      have hlt : inner.2.2.length < rest.length := ih hinner
      exact Nat.lt_succ_of_lt hlt

theorem length_lt_of_layout? {depth : Nat} {s : List Char} {found : List Char × Bool × List Char}
    (h : layout? depth s = some found) : found.2.2.length < s.length := by
  induction s generalizing depth found with
  | nil => contradiction
  | cons c s ih =>
      -- Whatever is put in front, what follows is that of the rest.
      have hmap {depth : Nat} {f : List Char × Bool × List Char → List Char × Bool × List Char}
          (h : (layout? depth s).map f = some found) (hf : ∀ inner, (f inner).2.2 = inner.2.2) :
          found.2.2.length < (c :: s).length := by
        obtain ⟨inner, hinner, rfl⟩ := Option.map_eq_some_iff.mp h
        rw [hf]
        exact Nat.lt_succ_of_lt (ih hinner)
      unfold layout? at h
      split at h
      · exact hmap h fun _ => rfl
      · split at h
        · split at h
          · rw [← Option.some.inj h]
            exact Nat.lt_succ_self _
          · exact hmap h fun _ => rfl
        · exact hmap h fun _ => rfl

theorem length_lt_of_field? {s rest : List Char} {f : Field} (h : field? s = some (f, rest)) :
    rest.length < s.length := by
  unfold field? at h
  split at h
  · contradiction
  · next reference after hreference =>
      obtain ⟨-, rfl⟩ := Prod.mk.inj (Option.some.inj h)
      exact length_lt_of_reference? hreference
  · next reference after hreference =>
      have hafter : after.length < s.length := length_lt_of_reference? hreference
      split at h
      · next c closed =>
          obtain ⟨-, rfl⟩ := Prod.mk.inj (Option.some.inj h)
          exact Nat.lt_of_le_of_lt (Nat.le_add_right _ 2) hafter
      · next c layout =>
          obtain ⟨inner, hinner, hpair⟩ := Option.map_eq_some_iff.mp h
          obtain ⟨-, rfl⟩ := Prod.mk.inj hpair
          have hlayout : inner.2.2.length < layout.length := length_lt_of_layout? hinner
          exact Nat.lt_trans (Nat.lt_add_right 2 hlayout) hafter
      · contradiction
  · next reference after hreference =>
      obtain ⟨inner, hinner, hpair⟩ := Option.map_eq_some_iff.mp h
      obtain ⟨-, rfl⟩ := Prod.mk.inj hpair
      exact Nat.lt_trans (length_lt_of_layout? hinner) (length_lt_of_reference? hreference)

def pieces (s : List Char) : List Piece :=
  match s with
  | [] => []
  | '{' :: '{' :: rest => .literal '{' :: pieces rest
  | '}' :: '}' :: rest => .literal '}' :: pieces rest
  | '}' :: _ => [.broken]
  | '{' :: rest =>
    match _h : field? rest with
    | none => [.broken]
    | some (f, after) => .field f :: pieces after
  | c :: rest => .literal c :: pieces rest
termination_by s.length
decreasing_by
  · exact Nat.lt_succ_of_lt (Nat.lt_succ_self _)
  · exact Nat.lt_succ_of_lt (Nat.lt_succ_self _)
  · exact Nat.lt_succ_of_lt (length_lt_of_field? _h)
  · exact Nat.lt_succ_self _

end BuildVersion.Template
