import BuildVersion.Config.Table
import BuildVersion.Proofs.Template.Field
import BuildVersion.Proofs.Template.Layout

/-!
Layouts that hold fields. Such a layout is another text for every branch, yet a value that takes it
for the empty branch and for the branch on which templates are tried takes it for every branch: the
letters of the latter mean nothing in a layout, so at most one of them is there, in front, where
any other character may stand.
-/

namespace BuildVersion.Template

/-- The characters of the branch on which a template is tried. -/
def trial : List Char := Config.trialBranch.toList

namespace Value

theorem accepts_cons {v : Value} {c : Char} {s : List Char} (h : v.Accepts (c :: s)) :
    IsNative s ∧ (isForeign c = true → ∀ d, v.Accepts (d :: s)) := by
  obtain ⟨z, hz⟩ := h
  cases v with
  | text t =>
      obtain ⟨layout, hparse, hwidth⟩ := accepts_text_iff.mp ⟨z, hz⟩
      obtain ⟨hnative, hother⟩ := Layout.parse_cons hparse
      refine ⟨hnative, fun hforeign d => ?_⟩
      obtain ⟨layout', hparse', hsame⟩ := hother hforeign d
      exact accepts_text_iff.mpr ⟨layout', hparse', hsame.trans_le hwidth⟩
  | integer n => exact NumberLayout.fit_cons hz
  | truth b => exact NumberLayout.fit_cons hz
  | _ => contradiction

theorem inAscii_cons_of_lt {c : Char} (hc : c.toNat < 128) (s : List Char) :
    inAscii (c :: s) = c :: inAscii s := by
  simp [inAscii, hc]

end Value

namespace IsRendering

variable {write : List Char → List Char}

theorem exists_eq_cons (hwrite : IsRendering write) {b : List Char} (hb : b ≠ []) :
    ∃ c s, write b = c :: s := by
  cases hwrite with
  | bare => exact List.exists_cons_of_ne_nil hb
  | quoted => exact ⟨_, _, rfl⟩
  | ascii =>
      have hmark : (Text.Quoted.mark b).toNat < 128 := by
        unfold Text.Quoted.mark
        split <;> decide
      exact ⟨_, _, Value.inAscii_cons_of_lt hmark _⟩

theorem trial_eq (hwrite : IsRendering write) :
    ∃ c d s, write trial = c :: d :: s ∧ isForeign c = true ∧ isForeign d = true := by
  cases hwrite with
  | bare => exact ⟨_, _, _, rfl, by decide, by decide⟩
  | quoted => exact ⟨'\'', 'm', "aster'".toList, by decide, by decide, by decide⟩
  | ascii => exact ⟨'\'', 'm', "aster'".toList, by decide, by decide, by decide⟩

end IsRendering

namespace Layout

/-- The part of a text that is shown. -/
def cut (layout : Layout) (s : List Char) : List Char :=
  match layout.precision with
  | some n => s.take n
  | none => s

/-- The fill characters before and after a text of which `k` characters are shown. -/
def padding (layout : Layout) (k : Nat) : List Char × List Char :=
  let missing := layout.width - k
  let before := match layout.alignment with
    | .left => 0
    | .right => missing
    | .centre => missing / 2
  (List.replicate before layout.fill, List.replicate (missing - before) layout.fill)

theorem cut_of_none {layout : Layout} (h : layout.precision = none) (s : List Char) :
    layout.cut s = s := by
  simp only [cut, h]

theorem cut_of_some {layout : Layout} {n : Nat} (h : layout.precision = some n) (s : List Char) :
    layout.cut s = s.take n := by
  simp only [cut, h]

theorem apply_eq (layout : Layout) (s : List Char) :
    layout.apply s = (layout.padding (layout.cut s).length).1 ++ layout.cut s ++
      (layout.padding (layout.cut s).length).2 := rfl

theorem exists_apply_eq (layout : Layout) (s : List Char) :
    ∃ before after, layout.apply s = before ++ (layout.cut s ++ after) :=
  ⟨_, _, by rw [apply_eq, List.append_assoc]⟩

theorem apply_of_cut_singleton {layout : Layout} {s : List Char} {c : Char}
    (hcut : layout.cut s = [c]) :
    layout.apply s = (layout.padding 1).1 ++ c :: (layout.padding 1).2 := by
  rw [apply_eq, hcut, List.append_assoc, List.singleton_append, List.length_singleton]

end Layout

/-- What is shown for the branches does not change, or it has one character of the branch in front
of what does not change. -/
def FollowsTrial (x : List Char → List Char) : Prop :=
  (∀ b, x b = x trial) ∨
    ∃ c s, isForeign c = true ∧ x trial = c :: s ∧ ∀ b ≠ [], ∃ d, x b = d :: s

namespace IsNative

variable {c d : Char} {s t before : List Char}

theorem append_iff : IsNative (s ++ t) ↔ IsNative s ∧ IsNative t :=
  List.forall_mem_append

theorem of_tail (hs : IsNative s) : IsNative s.tail :=
  fun c hc => hs c (List.mem_of_mem_tail hc)

theorem notMem (hs : IsNative s) (hc : isForeign c = true) : c ∉ s := by
  intro hmem
  rw [hs c hmem] at hc
  contradiction

theorem eq_nil_of_tail (h : IsNative (before ++ c :: s).tail) (hc : isForeign c = true) :
    before = [] := by
  cases before with
  | nil => rfl
  | cons e before => exact absurd (by simp) (h.notMem hc)

theorem not_tail_of_two (hd : isForeign d = true) : ¬IsNative (before ++ c :: d :: s).tail := by
  intro h
  refine h.notMem hd ?_
  cases before <;> simp

end IsNative

theorem FollowsTrial.eq_of_isNative {x : List Char → List Char} (hx : FollowsTrial x)
    (hnative : IsNative (x trial)) (b : List Char) : x b = x trial := by
  obtain hconstant | ⟨c, s, hc, htrial, -⟩ := hx
  · exact hconstant b
  · rw [htrial] at hnative
    exact absurd List.mem_cons_self (hnative.notMem hc)

theorem followsTrial_apply (layout : Layout) {write : List Char → List Char}
    (hwrite : IsRendering write) (hnative : IsNative (layout.apply (write trial)).tail) :
    FollowsTrial fun b => layout.apply (write b) := by
  obtain ⟨c, d, s, htrial, hc, hd⟩ := hwrite.trial_eq
  obtain ⟨before, after, happly⟩ := layout.exists_apply_eq (write trial)
  rcases hprecision : layout.precision with _ | _ | _ | n
  · rw [happly, Layout.cut_of_none hprecision, htrial] at hnative
    exact absurd hnative (IsNative.not_tail_of_two hd)
  · left
    intro b
    simp only [Layout.apply_eq, Layout.cut_of_some hprecision, List.take_zero]
  · -- One character is shown, so the padding is the same for all branches but the empty one.
    have hone : ∀ {b e t}, write b = e :: t →
        layout.apply (write b) = (layout.padding 1).1 ++ e :: (layout.padding 1).2 := by
      intro b e t hwritten
      refine Layout.apply_of_cut_singleton ?_
      rw [Layout.cut_of_some hprecision, hwritten, List.take_succ_cons, List.take_zero]
    rw [hone htrial] at hnative
    have hbefore := hnative.eq_nil_of_tail hc
    simp only [hbefore, List.nil_append] at hone
    refine .inr ⟨c, (layout.padding 1).2, hc, hone htrial, fun b hb => ?_⟩
    obtain ⟨e, t, hwritten⟩ := hwrite.exists_eq_cons hb
    exact ⟨e, hone hwritten⟩
  · rw [happly, Layout.cut_of_some hprecision, htrial, List.take_succ_cons,
      List.take_succ_cons] at hnative
    exact absurd hnative (IsNative.not_tail_of_two hd)

theorem Shows.followsTrial {x : List Char → List Char} (hx : Shows x)
    (hnative : IsNative (x trial).tail) : FollowsTrial x := by
  cases hx with
  | constant s => exact .inl fun _ => rfl
  | branch layout hwrite => exact followsTrial_apply layout hwrite hnative

def joined (xs : List (List Char → List Char)) (b : List Char) : List Char :=
  xs.flatMap (· b)

theorem joined_cons (x : List Char → List Char) (xs : List (List Char → List Char))
    (b : List Char) : joined (x :: xs) b = x b ++ joined xs b := List.flatMap_cons

/-- By induction on the pieces: after a piece that shows something there is nothing of the branch. -/
theorem followsTrial_joined {xs : List (List Char → List Char)} (hxs : ∀ x ∈ xs, Shows x)
    (hnative : IsNative (joined xs trial).tail) : FollowsTrial (joined xs) := by
  induction xs with
  | nil => exact .inl fun _ => rfl
  | cons x xs ih =>
      obtain ⟨hx, hxs⟩ := List.forall_mem_cons.mp hxs
      rw [joined_cons] at hnative
      cases hshown : x trial with
      | nil =>
          rw [hshown, List.nil_append] at hnative
          have hnil : IsNative (x trial) := by
            rw [hshown]
            exact .nil
          have hempty := (hx.followsTrial hnil.of_tail).eq_of_isNative hnil
          have hjoined : joined (x :: xs) = joined xs := by
            funext b
            rw [joined_cons, hempty b, hshown, List.nil_append]
          rw [hjoined]
          exact ih hxs hnative
      | cons e s =>
          rw [hshown, List.cons_append, List.tail_cons, IsNative.append_iff] at hnative
          obtain ⟨hs, hrest⟩ := hnative
          have hconstant := (ih hxs hrest.of_tail).eq_of_isNative hrest
          have htail : IsNative (x trial).tail := by
            rw [hshown]
            exact hs
          obtain hsame | ⟨c, s', hc, htrial, hother⟩ := hx.followsTrial htail
          · exact .inl fun b => by rw [joined_cons, joined_cons, hsame b, hconstant b]
          · refine .inr ⟨c, s' ++ joined xs trial, hc, ?_, fun b hb => ?_⟩
            · rw [joined_cons, htrial, List.cons_append]
            · obtain ⟨d, hd⟩ := hother b hb
              exact ⟨d, by rw [joined_cons, hd, hconstant b, List.cons_append]⟩

/-- A value that takes a layout for the empty branch and for the one of the trial takes it for every
branch. -/
theorem accepts_of_trial {u : List Char → Value} (hu : Value.Displayed u)
    {xs : List (List Char → List Char)} (hxs : ∀ x ∈ xs, Shows x)
    (hempty : (u []).Accepts (joined xs [])) (htrial : (u trial).Accepts (joined xs trial))
    (b : List Char) : (u b).Accepts (joined xs b) := by
  by_cases hb : b = []
  · rw [hb]
    exact hempty
  · have hnative : IsNative (joined xs trial).tail := by
      cases hlayout : joined xs trial with
      | nil => exact .nil
      | cons c s =>
          rw [hlayout] at htrial
          exact (Value.accepts_cons htrial).1
    rw [hu.accepts_iff] at htrial ⊢
    obtain hsame | ⟨c, s, hc, hlayout, hother⟩ := followsTrial_joined hxs hnative
    · rw [hsame b]
      exact htrial
    · rw [hlayout] at htrial
      obtain ⟨d, hd⟩ := hother b hb
      rw [hd]
      exact (Value.accepts_cons htrial).2 hc d

end BuildVersion.Template
