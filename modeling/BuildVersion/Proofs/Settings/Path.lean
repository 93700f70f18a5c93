import BuildVersion.Proofs.Number.Units
import BuildVersion.Settings.Value

namespace BuildVersion

namespace Settings

variable {t : Table}

theorem textEntries_eq_some_iff {entries : List (Key × Value)} :
    entries.mapM textEntry? = some t ↔ entries = t.map fun (k, v) => (.text k, v) := by
  induction entries generalizing t with
  | nil => cases t <;> simp
  | cons entry rest ih =>
      rw [List.mapM_cons]
      simp only [Option.bind_eq_bind, Option.bind_eq_some_iff, Option.pure_def, Option.some.injEq,
        ih]
      constructor
      · rintro ⟨⟨k, v⟩, hentry, u, rfl, rfl⟩
        obtain ⟨key, w⟩ := entry
        cases key with
        | text s =>
            obtain ⟨rfl, rfl⟩ := Prod.mk.inj (Option.some.inj hentry)
            rfl
        | _ => contradiction
      · intro hmap
        rcases t with _ | ⟨first, u⟩
        · simp at hmap
        · obtain ⟨rfl, rfl⟩ := List.cons.inj hmap
          exact ⟨first, rfl, u, rfl, rfl⟩

theorem Value.table?_eq_some_iff {v : Value} : v.table? = some t ↔ v = .ofTable t := by
  cases v <;> simp [Value.table?, Value.ofTable, textEntries_eq_some_iff]

namespace Table

/-- A value stands at a path of keys. All keys but the last lead to tables whose keys are texts. -/
def Holds : Table → List String → Value → Prop
  | _, [], _ => False
  | t, [key], v => t.lookup key = some v
  | t, key :: path, v => ∃ u, t.lookup key = some (.ofTable u) ∧ Holds u path v

theorem holds_cons_iff {key : String} {path : List String} {v : Value} (hpath : path ≠ []) :
    t.Holds (key :: path) v ↔ ((t.table? key).getD []).Holds path v := by
  have hempty : ¬ Holds [] path v := by
    match path with
    | [] => exact id
    | [_] => simp [Holds]
    | _ :: _ :: _ => simp [Holds]
  have hunfold : t.Holds (key :: path) v ↔
      ∃ u, t.lookup key = some (.ofTable u) ∧ Holds u path v := by
    rcases path with _ | ⟨next, rest⟩
    · contradiction
    · exact Iff.rfl
  rw [hunfold, table?]
  constructor
  · rintro ⟨u, hlookup, hu⟩
    rw [hlookup, Option.bind_some, Value.table?_eq_some_iff.mpr rfl]
    exact hu
  · intro h
    cases htable : (t.lookup key).bind Value.table? with
    | none =>
        rw [htable] at h
        exact absurd h hempty
    | some u =>
        rw [htable] at h
        obtain ⟨w, hlookup, hw⟩ := Option.bind_eq_some_iff.mp htable
        rw [Value.table?_eq_some_iff.mp hw] at hlookup
        exact ⟨u, hlookup, h⟩

theorem text?_eq_some_iff {key text : String} :
    t.text? key = some text ↔
      ∃ s, t.Holds [key] (.text s) ∧ Text.trimmed s ≠ "" ∧ text = Text.trimmed s := by
  unfold text? Holds
  rw [Option.bind_eq_some_iff]
  constructor
  · rintro ⟨v, hlookup, hv⟩
    cases v with
    | text s =>
        simp only [Value.text?, Option.ite_none_left_eq_some, Option.some.injEq] at hv
        exact ⟨s, hlookup, hv.1, hv.2.symm⟩
    | _ => simp [Value.text?] at hv
  · rintro ⟨s, hlookup, hs, rfl⟩
    exact ⟨_, hlookup, by rw [Value.text?, if_neg hs]⟩

/-- The text at a path, without blanks around it, unless it is blank. -/
def textAt? : Table → List String → Option String
  | _, [] => none
  | t, [key] => t.text? key
  | t, key :: path => textAt? ((t.table? key).getD []) path

theorem textAt?_eq_some_iff {path : List String} {text : String} :
    t.textAt? path = some text ↔
      ∃ s, t.Holds path (.text s) ∧ Text.trimmed s ≠ "" ∧ text = Text.trimmed s := by
  induction path generalizing t with
  | nil => simp [textAt?, Holds]
  | cons key rest ih =>
      by_cases hrest : rest = []
      · subst hrest
        exact text?_eq_some_iff
      · have hstep : t.textAt? (key :: rest) = ((t.table? key).getD []).textAt? rest := by
          rcases rest with _ | ⟨next, rest⟩
          · contradiction
          · rfl
        rw [hstep, ih]
        simp only [holds_cons_iff hrest]

end Table

namespace Value

/-- The number that a value gives: an integer above zero, or a real number that is not known to be
zero or less. -/
inductive Gives : Value → Binary64 → Prop
  | integer {n : Int} (hn : 0 < n) : Gives (.integer n) (.ofInt n)
  | real {x : Binary64} (hx : x = .nan ∨ Binary64.zero.lt x = true) : Gives (.real x) x

theorem gives_unique {v : Value} {x y : Binary64} (hx : v.Gives x) (hy : v.Gives y) : x = y := by
  cases hx <;> cases hy <;> rfl

/-- The integer of a value lies beyond every number. -/
def Overflows (v : Value) : Prop :=
  ∃ n : Int, v = .integer n ∧ (Binary64.overflowBound : Int) ≤ n

theorem exists_gives_of_overflows {v : Value} (h : v.Overflows) : ∃ x, v.Gives x := by
  obtain ⟨n, rfl, hn⟩ := h
  have hpos := Binary64.overflowBound_pos
  exact ⟨_, .integer (by omega)⟩

variable {ε : Type}

theorem number?_of_gives {v : Value} {x : Binary64} (hx : v.Gives x) (hv : ¬ v.Overflows) :
    (v.number? : Outcome ε (Option Binary64)) = .ok (some x) := by
  cases hx with
  | @integer n hn =>
      have hfinite : ∀ sign, Binary64.ofInt n ≠ .infinite sign := by
        intro sign hsign
        have hlarge := (Binary64.ofInt_eq_infinite_iff n).mp ⟨sign, hsign⟩
        exact hv ⟨n, rfl, by omega⟩
      have hpos : ¬ n ≤ 0 := by omega
      simp only [number?, if_neg hpos]
  | real hx => simp [number?, Binary64.isNonpositive_eq_false_iff.mpr hx]

theorem number?_of_not_gives {v : Value} (hv : ∀ x, ¬ v.Gives x) :
    (v.number? : Outcome ε (Option Binary64)) = .ok none := by
  cases v with
  | integer n =>
      have hn : n ≤ 0 := Int.not_lt.mp fun hpos => hv _ (.integer hpos)
      simp only [number?, if_pos hn]
  | real x =>
      have hx : x.isNonpositive = true := by
        rw [← Bool.not_eq_false, Binary64.isNonpositive_eq_false_iff]
        exact fun h => hv x (.real h)
      simp only [number?, hx, if_true]
  | _ => rfl

end Value

end Settings

end BuildVersion
