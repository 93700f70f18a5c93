import Mathlib.Data.List.TakeWhile
import BuildVersion.Template.NumberLayout

namespace BuildVersion.Template

/-- The characters that mean something in a layout, other than digits. -/
def layoutMarks : List Char :=
  "<>^=+- z#,_.sbcdnoxXeEfFgG%".toList

/-- Whether a character means nothing in a layout. -/
def isForeign (c : Char) : Bool :=
  !Text.isDigit c && !layoutMarks.contains c

def IsNative (s : List Char) : Prop :=
  ∀ c ∈ s, isForeign c = false

instance (s : List Char) : Decidable (IsNative s) :=
  List.decidableBAll (fun c => isForeign c = false) s

namespace IsNative

variable {s : List Char} {c : Char}

theorem nil : IsNative [] := List.forall_mem_nil _

theorem cons (hc : isForeign c = false) (hs : IsNative s) : IsNative (c :: s) :=
  List.forall_mem_cons.mpr ⟨hc, hs⟩

theorem tail (hs : IsNative (c :: s)) : IsNative s :=
  (List.forall_mem_cons.mp hs).2

theorem of_dropWhile (hs : IsNative (s.dropWhile Text.isDigit)) : IsNative s := by
  intro c hc
  rw [← List.takeWhile_append_dropWhile (p := Text.isDigit) (l := s), List.mem_append] at hc
  obtain hdigit | hrest := hc
  · simp [isForeign, List.mem_takeWhile_imp hdigit]
  · exact hs c hrest

end IsNative

namespace Layout

variable {s rest : List Char} {layout : Layout}

theorem isNative_of_number? {n : Option Nat} (h : number? s = some (n, rest))
    (hrest : IsNative rest) : IsNative s := by
  simp only [number?] at h
  split at h
  · obtain ⟨-, rfl⟩ := Prod.mk.inj (Option.some.inj h)
    exact hrest
  · split at h
    · obtain ⟨-, rfl⟩ := Prod.mk.inj (Option.some.inj h)
      exact hrest.of_dropWhile
    · contradiction

theorem isNative_of_precision? {n : Option Nat} (h : precision? s = some (n, rest))
    (hrest : IsNative rest) : IsNative s := by
  unfold precision? at h
  split at h
  · split at h
    · next hnumber =>
        obtain ⟨-, rfl⟩ := Prod.mk.inj (Option.some.inj h)
        exact .cons rfl (isNative_of_number? hnumber hrest)
    · contradiction
  · obtain ⟨-, rfl⟩ := Prod.mk.inj (Option.some.inj h)
    exact hrest

theorem isNative_of_zeroFill (h : IsNative (zeroFill layout s).2) : IsNative s := by
  unfold zeroFill at h
  split at h
  · exact .cons rfl h
  · exact h

theorem isForeign_of_alignment? {c : Char} {alignment : Alignment}
    (h : alignment? c = some alignment) : isForeign c = false := by
  unfold alignment? at h
  split at h
  · rfl
  · rfl
  · rfl
  · contradiction

theorem isNative_of_bareAlignment (h : IsNative (bareAlignment s).2) : IsNative s := by
  unfold bareAlignment at h
  split at h
  · split at h
    · next halignment => exact .cons (isForeign_of_alignment? halignment) (isNative_of_zeroFill h)
    · exact isNative_of_zeroFill h
  · exact .nil

/-- The width, the precision and the letter at the end of a layout. -/
def parseEnd (layout : Layout) (s : List Char) : Option Layout :=
  match number? s with
  | none => none
  | some (width, s) =>
    match precision? s with
    | none => none
    | some (precision, s) =>
      if s = [] ∨ s = ['s'] then
        some { layout with width := width.getD 0, precision := precision }
      else none

theorem parse_eq_parseEnd (s : List Char) :
    parse s = parseEnd (opening s).1 (opening s).2 := rfl

theorem isNative_of_parseEnd {result : Layout} (h : parseEnd layout s = some result) :
    IsNative s := by
  unfold parseEnd at h
  split at h
  · contradiction
  · next hnumber =>
      split at h
      · contradiction
      · next hprecision =>
          split at h
          · next hend =>
              refine isNative_of_number? hnumber (isNative_of_precision? hprecision ?_)
              obtain rfl | rfl := hend
              · exact .nil
              · exact .cons rfl .nil
          · contradiction

theorem parseEnd_eq_map (layout other : Layout) (s : List Char) :
    parseEnd other s = (parseEnd layout s).map fun l =>
      { other with width := l.width, precision := l.precision } := by
  unfold parseEnd
  split
  · rfl
  · split
    · rfl
    · split <;> rfl

theorem opening_of_alignment? {a : Char} {alignment : Alignment}
    (ha : alignment? a = some alignment) (c : Char) (rest : List Char) :
    opening (c :: a :: rest) = ({ fill := c, alignment := alignment }, rest) := by
  simp only [opening, ha]

theorem opening_of_none {a : Char} (ha : alignment? a = none) (c : Char) (rest : List Char) :
    opening (c :: a :: rest) = bareAlignment (c :: a :: rest) := by
  simp only [opening, ha]

/-- A character that means nothing stands at most in front, where it is the fill character. -/
theorem parse_cons {c : Char} {result : Layout} (h : parse (c :: s) = some result) :
    IsNative s ∧ (isForeign c = true → ∀ d, ∃ result', parse (d :: s) = some result' ∧
      result'.width = result.width) := by
  rw [parse_eq_parseEnd] at h
  by_cases halignment : ∃ a rest alignment, s = a :: rest ∧ alignment? a = some alignment
  · obtain ⟨a, rest, alignment, rfl, ha⟩ := halignment
    rw [opening_of_alignment? ha] at h
    refine ⟨.cons (isForeign_of_alignment? ha) (isNative_of_parseEnd h), fun _ d => ?_⟩
    rw [parse_eq_parseEnd, opening_of_alignment? ha, parseEnd_eq_map, h]
    exact ⟨_, rfl, rfl⟩
  · have hopening : opening (c :: s) = bareAlignment (c :: s) := by
      cases s with
      | nil => rfl
      | cons a rest =>
          cases ha : alignment? a with
          | none => exact opening_of_none ha c rest
          | some alignment => exact absurd ⟨a, rest, alignment, rfl, ha⟩ halignment
    rw [hopening] at h
    have hnative := isNative_of_bareAlignment (isNative_of_parseEnd h)
    refine ⟨hnative.tail, fun hforeign => ?_⟩
    rw [hnative c List.mem_cons_self] at hforeign
    contradiction

end Layout

namespace NumberLayout

variable {s rest : List Char}

theorem isNative_of_optional {set : String} (hset : IsNative set.toList)
    (h : IsNative (optional set s).2) : IsNative s := by
  unfold optional at h
  split at h
  · split at h
    · next hmem => exact .cons (hset _ (by simpa using hmem)) h
    · exact h
  · exact .nil

theorem isForeign_of_placement? {c : Char} {placement : Placement}
    (h : placement? c = some placement) : isForeign c = false := by
  unfold placement? at h
  split at h
  · next hc => rw [hc]; rfl
  · obtain ⟨alignment, halignment, -⟩ := Option.map_eq_some_iff.mp h
    exact Layout.isForeign_of_alignment? halignment

theorem isNative_of_zeroFill {layout : NumberLayout} {placed : Bool}
    (h : IsNative (zeroFill layout placed s).2) : IsNative s := by
  unfold zeroFill at h
  split at h
  · exact .cons rfl h
  · exact h

/-- What follows the fill character and the placement in a layout. -/
def parseEnd (fill : Option Char) (placement : Option Placement) (s : List Char) :
    Option NumberLayout := do
  let (sign, s) := optional "+- " s
  let (zero, s) := optional "z" s
  let (mark, s) := optional "#" s
  let layout : NumberLayout :=
    { fill := fill.getD ' ', placement := placement.getD (.aligned .right) }
  let (layout, s) := if fill.isNone then zeroFill layout placement.isSome s else (layout, s)
  let (width, s) ← Layout.number? s
  let (grouping, s) := optional ",_" s
  let (precision, s) ← Layout.precision? s
  let (letter, s) := optional "bcdnoxXeEfFgG%" s
  if !s.isEmpty then none
  some { layout with
    sign
    positiveZero := zero.isSome
    marked := mark.isSome
    width := width.getD 0
    grouping
    precision
    letter := letter.getD 'd' }

theorem parse_eq_parseEnd (s : List Char) :
    parse s = parseEnd (opening s).1 (opening s).2.1 (opening s).2.2 := rfl

theorem isNative_of_parseEnd {fill : Option Char} {placement : Option Placement}
    {result : NumberLayout} (h : parseEnd fill placement s = some result) : IsNative s := by
  simp only [parseEnd, Option.bind_eq_bind, Option.bind_eq_some_iff] at h
  obtain ⟨⟨width, s'⟩, hnumber, ⟨precision, s''⟩, hprecision, hend⟩ := h
  -- Backwards from the end of the text, which holds nothing.
  have hletter : IsNative (optional "bcdnoxXeEfFgG%" s'').2 := by
    split at hend
    · contradiction
    · next hempty =>
        rw [show (optional "bcdnoxXeEfFgG%" s'').2 = [] by simpa using hempty]
        exact .nil
  have hgrouping : IsNative s' := isNative_of_optional (by decide)
    (Layout.isNative_of_precision? hprecision (isNative_of_optional (by decide) hletter))
  have hmarks : IsNative (optional "#" (optional "z" (optional "+- " s).2).2).2 := by
    split at hnumber
    · exact isNative_of_zeroFill (Layout.isNative_of_number? hnumber hgrouping)
    · exact Layout.isNative_of_number? hnumber hgrouping
  exact isNative_of_optional (by decide)
    (isNative_of_optional (by decide) (isNative_of_optional (by decide) hmarks))

theorem parseEnd_some_eq_map (c d : Char) (placement : Option Placement) (s : List Char) :
    parseEnd (some d) placement s =
      (parseEnd (some c) placement s).map fun l => { l with fill := d } := by
  simp only [parseEnd, Option.isNone_some, Bool.false_eq_true, if_false, Option.bind_eq_bind]
  cases Layout.number? (optional "#" (optional "z" (optional "+- " s).2).2).2 with
  | none => rfl
  | some found =>
      simp only [Option.bind_some]
      cases Layout.precision? (optional ",_" found.2).2 with
      | none => rfl
      | some found =>
          simp only [Option.bind_some]
          split <;> rfl

theorem opening_of_placement? {a : Char} {placement : Placement}
    (ha : placement? a = some placement) (c : Char) (rest : List Char) :
    opening (c :: a :: rest) = (some c, some placement, rest) := by
  simp only [opening, ha]

theorem isNative_of_opening (hfill : (opening s).1 = none) (h : IsNative (opening s).2.2) :
    IsNative s := by
  unfold opening at hfill h
  split at hfill
  · split at hfill
    · contradiction
    · simp only [*] at h
      split at h
      · next hplacement => exact .cons (isForeign_of_placement? hplacement) h
      · exact h
  · simp only at h
    split at h
    · next hplacement => exact .cons (isForeign_of_placement? hplacement) .nil
    · exact h
  · exact .nil

theorem parse_cons {c : Char} {result : NumberLayout} (h : parse (c :: s) = some result) :
    IsNative s ∧ (isForeign c = true → ∀ d, parse (d :: s) = some { result with fill := d }) := by
  rw [parse_eq_parseEnd] at h
  by_cases hplacement : ∃ a rest placement, s = a :: rest ∧ placement? a = some placement
  · obtain ⟨a, rest, placement, rfl, ha⟩ := hplacement
    rw [opening_of_placement? ha] at h
    refine ⟨.cons (isForeign_of_placement? ha) (isNative_of_parseEnd h), fun _ d => ?_⟩
    rw [parse_eq_parseEnd, opening_of_placement? ha, parseEnd_some_eq_map c d, h]
    rfl
  · have hfill : (opening (c :: s)).1 = none := by
      cases s with
      | nil => cases hc : placement? c <;> simp only [opening, hc]
      | cons a rest =>
          cases ha : placement? a with
          | none => cases hc : placement? c <;> simp only [opening, ha, hc]
          | some placement => exact absurd ⟨a, rest, placement, rfl, ha⟩ hplacement
    have hnative := isNative_of_opening hfill (isNative_of_parseEnd h)
    refine ⟨hnative.tail, fun hforeign => ?_⟩
    rw [hnative c List.mem_cons_self] at hforeign
    contradiction

/-- A layout into which an integer is fitted holds a character that means nothing at most in front,
and there any character fits as well. -/
theorem fit_cons {n : Int} {c : Char} {z : List Char} (h : fit n (c :: s) = .ok z) :
    IsNative s ∧ (isForeign c = true → ∀ d, ∃ z', fit n (d :: s) = .ok z') := by
  unfold fit at h
  split at h
  · contradiction
  · next layout hparse =>
      obtain ⟨hnative, hother⟩ := parse_cons hparse
      refine ⟨hnative, fun hforeign d => ⟨NumberLayout.apply { layout with fill := d } n, ?_⟩⟩
      rw [fit, hother hforeign d]
      split at h
      · contradiction
      · next hconsistent =>
          split at h
          · contradiction
          · next hcharacter =>
              split at h
              · contradiction
              · next hwidth =>
                  exact (if_neg hconsistent).trans ((if_neg hcharacter).trans (if_neg hwidth))

end NumberLayout

end BuildVersion.Template
