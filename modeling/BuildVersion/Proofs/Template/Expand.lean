import Mathlib.Data.List.Basic
import Mathlib.Tactic.Choose
import BuildVersion.Proofs.Template.NestedLayout

namespace BuildVersion.Template

section Sequence

variable {ε α β : Type} {f : α → Except ε β} {l : List α}

theorem mapM_eq_ok_map {g : α → β} (h : ∀ a ∈ l, f a = .ok (g a)) : l.mapM f = .ok (l.map g) := by
  induction l with
  | nil => rfl
  | cons a l ih =>
      obtain ⟨ha, hl⟩ := List.forall_mem_cons.mp h
      rw [List.mapM_cons, ha, ih hl]
      rfl

theorem exists_mapM_eq_ok_iff : (∃ r, l.mapM f = .ok r) ↔ ∀ a ∈ l, ∃ b, f a = .ok b := by
  constructor
  · rintro ⟨r, hr⟩
    induction l generalizing r with
    | nil => exact List.forall_mem_nil _
    | cons a l ih =>
        rw [List.mapM_cons, bind_eq_ok_iff] at hr
        obtain ⟨b, hb, hrest⟩ := hr
        obtain ⟨bs, hbs, -⟩ := bind_eq_ok_iff.mp hrest
        exact List.forall_mem_cons.mpr ⟨⟨b, hb⟩, ih bs hbs⟩
  · intro h
    induction l with
    | nil => exact ⟨[], rfl⟩
    | cons a l ih =>
        obtain ⟨⟨b, hb⟩, hl⟩ := List.forall_mem_cons.mp h
        obtain ⟨bs, hbs⟩ := ih hl
        exact ⟨b :: bs, by rw [List.mapM_cons, hb, hbs]; rfl⟩

end Sequence

section Pieces

variable {branch template : List Char} {depth : Nat}

theorem expandNested_eq_ok {g : Piece → List Char}
    (h : ∀ p ∈ pieces template, expandPiece branch (expandNested branch depth) p = .ok (g p)) :
    expandNested branch (depth + 1) template = .ok ((pieces template).flatMap g) := by
  rw [expandNested, mapM_eq_ok_map h, Except.map, List.flatMap_def]

theorem exists_expandNested_iff :
    (∃ s, expandNested branch (depth + 1) template = .ok s) ↔
      ∀ p ∈ pieces template, ∃ s, expandPiece branch (expandNested branch depth) p = .ok s := by
  rw [← exists_mapM_eq_ok_iff, expandNested]
  cases (pieces template).mapM (expandPiece branch (expandNested branch depth)) <;>
    simp [Except.map]

/-- The layout of a field, where it can be expanded with the empty branch. -/
theorem exists_shows_of_expandNested (h : ∃ s, expandNested [] 1 template = .ok s) :
    ∃ xs, (∀ x ∈ xs, Shows x) ∧ ∀ b, expandNested b 1 template = .ok (joined xs b) := by
  have hpieces := fun p hp => exists_shows_of_expandPiece (exists_expandNested_iff.mp h p hp)
  choose! g hshows hg using hpieces
  refine ⟨(pieces template).map g, List.forall_mem_map.mpr hshows, fun b => ?_⟩
  rw [expandNested_eq_ok fun p hp => hg p hp b, joined, List.flatMap_map]

end Pieces

/-- A field that can be expanded with the empty branch and with that of the trial can be expanded
with every branch. -/
theorem Field.exists_expandPiece_of_trial {f : Field}
    (hempty : ∃ s, expandPiece [] (expandNested [] 1) (.field f) = .ok s)
    (htrial : ∃ s, expandPiece trial (expandNested trial 1) (.field f) = .ok s) (b : List Char) :
    ∃ s, expandPiece b (expandNested b 1) (.field f) = .ok s := by
  obtain ⟨v, hv⟩ := exists_value hempty
  obtain ⟨u, hu, hvalue⟩ := f.displayed_value hv
  rw [exists_expandPiece_iff (hvalue _)] at hempty htrial ⊢
  obtain ⟨layout, hlayout, haccepts⟩ := hempty
  obtain ⟨layout', hlayout', haccepts'⟩ := htrial
  by_cases hnested : f.nested = true
  · simp only [if_pos hnested] at hlayout hlayout' ⊢
    obtain ⟨xs, hxs, hall⟩ := exists_shows_of_expandNested ⟨layout, hlayout⟩
    obtain rfl : joined xs [] = layout := Except.ok.inj ((hall []).symm.trans hlayout)
    obtain rfl : joined xs trial = layout' := Except.ok.inj ((hall trial).symm.trans hlayout')
    exact ⟨joined xs b, hall b, accepts_of_trial hu hxs haccepts haccepts' b⟩
  · simp only [if_neg hnested, Except.ok.injEq] at hlayout ⊢
    exact ⟨layout, hlayout, (hu.accepts_iff b).mpr haccepts⟩

section Template

variable {template : String}

theorem exists_expand_iff {branch : String} :
    (∃ s, expand template branch = .ok s) ↔
      ∀ p ∈ pieces template.toList,
        ∃ s, expandPiece branch.toList (expandNested branch.toList 1) p = .ok s := by
  rw [← exists_expandNested_iff, expand]
  cases expandNested branch.toList 2 template.toList <;> simp [Except.map]

theorem expand_eq_ok {branch : String} {g : Piece → List Char}
    (h : ∀ p ∈ pieces template.toList,
      expandPiece branch.toList (expandNested branch.toList 1) p = .ok (g p)) :
    expand template branch = .ok (String.ofList ((pieces template.toList).flatMap g)) := by
  rw [expand, expandNested_eq_ok h, Except.map]

theorem forall_exists_expand_iff (htrial : ∃ s, expand template Config.trialBranch = .ok s) :
    (∀ branch, ∃ s, expand template branch = .ok s) ↔ ∃ s, expand template "" = .ok s := by
  refine ⟨fun h => h "", fun hempty branch => ?_⟩
  rw [exists_expand_iff] at htrial hempty ⊢
  intro p hp
  cases p with
  | literal c => exact ⟨[c], rfl⟩
  | broken => exact hempty _ hp
  | field f => exact f.exists_expandPiece_of_trial (hempty _ hp) (htrial _ hp) branch.toList

end Template

/-- What is shown for a branch is not shorter for a longer branch. -/
def IsMonotoneInLength (x : List Char → List Char) : Prop :=
  ∀ b₁ b₂, b₁.length ≤ b₂.length → (x b₁).length ≤ (x b₂).length

namespace IsMonotoneInLength

variable {x : List Char → List Char}

theorem constant (s : List Char) : IsMonotoneInLength fun _ => s :=
  fun _ _ _ => le_rfl

theorem length_eq (hx : IsMonotoneInLength x) {b₁ b₂ : List Char} (h : b₁.length = b₂.length) :
    (x b₁).length = (x b₂).length :=
  le_antisymm (hx b₁ b₂ h.le) (hx b₂ b₁ h.ge)

theorem joined {xs : List (List Char → List Char)} (hxs : ∀ x ∈ xs, IsMonotoneInLength x) :
    IsMonotoneInLength (joined xs) := by
  intro b₁ b₂ h
  induction xs with
  | nil => exact le_rfl
  | cons x xs ih =>
      obtain ⟨hx, hxs⟩ := List.forall_mem_cons.mp hxs
      rw [joined_cons, joined_cons, List.length_append, List.length_append]
      exact Nat.add_le_add (hx b₁ b₂ h) (ih hxs)

end IsMonotoneInLength

theorem Layout.length_apply (layout : Layout) (s : List Char) :
    (layout.apply s).length = max layout.width (layout.cut s).length := by
  rw [apply_eq]
  simp only [padding, List.length_append, List.length_replicate]
  cases layout.alignment <;> simp only <;> omega

theorem Layout.isMonotoneInLength_apply (layout : Layout) : IsMonotoneInLength layout.apply := by
  intro b₁ b₂ h
  rw [length_apply, length_apply]
  cases hprecision : layout.precision with
  | none =>
      rw [cut_of_none hprecision, cut_of_none hprecision]
      omega
  | some n =>
      rw [cut_of_some hprecision, cut_of_some hprecision, List.length_take, List.length_take]
      omega

/-- Where the branch itself is shown and nothing gets shorter for a longer branch, the length of
what is shown tells the length of the branch, and this where the branch begins. -/
theorem joined_injective {xs : List (List Char → List Char)}
    (hxs : ∀ x ∈ xs, IsMonotoneInLength x) (hmem : (fun b => b) ∈ xs) :
    Function.Injective (joined xs) := by
  intro b₁ b₂ h
  obtain ⟨before, after, rfl⟩ := List.append_of_mem hmem
  have hbefore := IsMonotoneInLength.joined fun x hx => hxs x (List.mem_append_left _ hx)
  have hafter := IsMonotoneInLength.joined fun x hx =>
    hxs x (List.mem_append_right _ (List.mem_cons_of_mem _ hx))
  have hsplit : ∀ b, joined (before ++ (fun b => b) :: after) b =
      joined before b ++ (b ++ joined after b) := by
    intro b
    simp [joined]
  rw [hsplit, hsplit] at h
  have hlength := congrArg List.length h
  simp only [List.length_append] at hlength
  have hsame : b₁.length = b₂.length := by
    obtain hle | hle := Nat.le_total b₁.length b₂.length
    · have hfront := hbefore _ _ hle
      have hback := hafter _ _ hle
      omega
    · have hfront := hbefore _ _ hle
      have hback := hafter _ _ hle
      omega
  have hrest := List.append_inj_right h (hbefore.length_eq hsame)
  exact List.append_inj_left hrest hsame

namespace Field

variable {f : Field}

/-- A field that holds the known name and nothing else. -/
def IsPlain (f : Field) : Prop :=
  f = ⟨knownName.toList, none, [], false⟩

/-- A field without a conversion, in whose layout there are no fields. -/
def IsDirect (f : Field) : Prop :=
  f.conversion = none ∧ f.nested = false

instance : Decidable f.IsPlain :=
  inferInstanceAs (Decidable (f = _))

instance : Decidable f.IsDirect :=
  inferInstanceAs (Decidable (_ ∧ _))

theorem IsPlain.isDirect (hf : f.IsPlain) : f.IsDirect := by
  rw [hf]
  exact ⟨rfl, rfl⟩

theorem resolve_knownName (branch : List Char) :
    resolve branch knownName.toList = .ok (.text branch) := by
  have hname : knownName.toList.takeWhile (fun c => c ≠ '.' ∧ c ≠ '[') = knownName.toList := by
    decide
  have hposition : position knownName.toList 0 = .ok none := by decide
  simp only [resolve, hname, hposition, List.drop_length, follow_nil, String.ofList_toList]
  rfl

theorem IsPlain.expandPiece_eq (hf : f.IsPlain) (branch : List Char)
    (inner : List Char → Except TemplateFault (List Char)) :
    expandPiece branch inner (.field f) = .ok branch := by
  rw [expandPiece_field, Field.value, hf, resolve_knownName]
  have hparse : Layout.parse [] = some {} := by decide
  change Value.fitText branch [] = .ok branch
  rw [Value.fitText_of_parse hparse (Nat.zero_le _)]
  simp [Layout.apply]

/-- What a direct field shows for each branch. -/
theorem IsDirect.exists_expandPiece_eq (hf : f.IsDirect)
    {inner : List Char → List Char → Except TemplateFault (List Char)}
    (hempty : ∃ s, expandPiece [] (inner []) (.field f) = .ok s) :
    ∃ x, IsMonotoneInLength x ∧ ∀ b, expandPiece b (inner b) (.field f) = .ok (x b) := by
  obtain ⟨hconversion, hnested⟩ := hf
  have hfield : ∀ b, expandPiece b (inner b) (.field f) =
      resolve b f.reference >>= fun v => v.fit f.layout := by
    intro b
    rw [expandPiece_field, value, hconversion, hnested]
    cases resolve b f.reference <;> rfl
  simp only [hfield] at hempty ⊢
  obtain ⟨s, hs⟩ := hempty
  obtain ⟨v, hv, hfit⟩ := bind_eq_ok_iff.mp hs
  obtain ⟨w, hw, hresolve⟩ := walksUniformly_resolve f.reference v hv
  obtain rfl : w [] = v := Except.ok.inj ((hresolve []).symm.trans hv)
  simp only [hresolve]
  cases hw with
  | constant v => exact ⟨fun _ => s, .constant s, fun _ => hfit⟩
  | branch =>
      obtain ⟨layout, hparse, hwidth⟩ := Value.accepts_text_iff.mp ⟨s, hfit⟩
      exact ⟨layout.apply, layout.isMonotoneInLength_apply, fun b =>
        Value.fitText_of_parse hparse hwidth⟩
  | bound owner m hself =>
      exact ⟨fun _ => s, .constant s, fun b => (hself.fit_bound_eq owner m b).trans hfit⟩

end Field

def fields (template : String) : List Field :=
  (pieces template.toList).filterMap fun
    | .field f => some f
    | _ => none

theorem mem_fields {template : String} {f : Field} :
    f ∈ fields template ↔ .field f ∈ pieces template.toList := by
  rw [fields, List.mem_filterMap]
  constructor
  · rintro ⟨p, hp, hf⟩
    cases p with
    | field g => exact Option.some.inj hf ▸ hp
    | _ => contradiction
  · exact fun hf => ⟨.field f, hf, rfl⟩

section Template

variable {template : String}

/-- A template with a plain field, whose other fields show the branch in a fixed layout or show
something else, gives another text for every branch. -/
theorem expand_injective (hdirect : ∀ f ∈ fields template, f.IsDirect)
    (hplain : ∃ f ∈ fields template, f.IsPlain) (hempty : ∃ s, expand template "" = .ok s) :
    Function.Injective (expand template) := by
  have hpieces : ∀ p ∈ pieces template.toList, ∃ x, IsMonotoneInLength x ∧
      ∀ b, expandPiece b (expandNested b 1) p = .ok (x b) := by
    rw [exists_expand_iff] at hempty
    intro p hp
    cases p with
    | literal c => exact ⟨fun _ => [c], .constant [c], fun _ => rfl⟩
    | broken =>
        obtain ⟨s, hs⟩ := hempty _ hp
        contradiction
    | field f => exact (hdirect f (mem_fields.mpr hp)).exists_expandPiece_eq (hempty _ hp)
  choose! g hmonotone hg using hpieces
  have hexpand : ∀ branch, expand template branch =
      .ok (String.ofList (joined ((pieces template.toList).map g) branch.toList)) := by
    intro branch
    rw [expand_eq_ok fun p hp => hg p hp branch.toList, joined, List.flatMap_map]
  have hinjective : Function.Injective (joined ((pieces template.toList).map g)) := by
    obtain ⟨f, hf, hplain⟩ := hplain
    refine joined_injective (List.forall_mem_map.mpr hmonotone)
      (List.mem_map.mpr ⟨_, mem_fields.mp hf, ?_⟩)
    funext b
    exact Except.ok.inj ((hg _ (mem_fields.mp hf) b).symm.trans (hplain.expandPiece_eq b _))
  intro b₁ b₂ h
  rw [hexpand, hexpand, Except.ok.injEq, String.ofList_inj] at h
  exact String.toList_injective (hinjective h)

/-- A piece with the branch in the place of a field. -/
def substituted (branch : List Char) : Piece → List Char
  | .literal c => [c]
  | .field _ => branch
  | .broken => []

theorem expand_of_plain (hplain : ∀ f ∈ fields template, f.IsPlain)
    (hbroken : .broken ∉ pieces template.toList) (branch : String) :
    expand template branch =
      .ok (String.ofList ((pieces template.toList).flatMap (substituted branch.toList))) := by
  refine expand_eq_ok fun p hp => ?_
  cases p with
  | literal c => rfl
  | field f => exact (hplain f (mem_fields.mpr hp)).expandPiece_eq _ _
  | broken => contradiction

theorem expand_injective_iff (hplain : ∀ f ∈ fields template, f.IsPlain)
    (hbroken : .broken ∉ pieces template.toList) :
    Function.Injective (expand template) ↔ fields template ≠ [] := by
  constructor
  · intro hinjective hnone
    have hsame : (pieces template.toList).flatMap (substituted "".toList) =
        (pieces template.toList).flatMap (substituted "master".toList) := by
      refine List.flatMap_congr fun p hp => ?_
      cases p with
      | literal c => rfl
      | field f =>
          have hf := mem_fields.mpr hp
          rw [hnone] at hf
          contradiction
      | broken => rfl
    have hequal : expand template "" = expand template "master" := by
      rw [expand_of_plain hplain hbroken, expand_of_plain hplain hbroken, hsame]
    exact absurd (hinjective hequal) (by decide)
  · intro hsome
    obtain ⟨f, hf⟩ := List.exists_mem_of_ne_nil _ hsome
    exact expand_injective (fun f hf => (hplain f hf).isDirect) ⟨f, hf, hplain f hf⟩
      ⟨_, expand_of_plain hplain hbroken ""⟩

end Template

end BuildVersion.Template
