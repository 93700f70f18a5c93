import BuildVersion.Text.Pictograph

namespace BuildVersion.Text

variable {s name after sign : List Char} {p : Char → Bool}

/-- The names that are looked up in a text: what stands between two colons, from the left. -/
def pictographNames (s : List Char) : List (List Char) :=
  match s with
  | [] => []
  | c :: rest =>
    if c = ':' then
      match _h : beforeColon? rest with
      | some (name, after) => name :: pictographNames after
      | none => pictographNames rest
    else pictographNames rest
termination_by s.length
decreasing_by
  · exact Nat.lt_succ_of_lt (length_lt_of_beforeColon? _h)
  · exact Nat.lt_succ_self _
  · exact Nat.lt_succ_self _

theorem pictographNames_of_name {rest : List Char} (h : beforeColon? rest = some (name, after)) :
    pictographNames (':' :: rest) = name :: pictographNames after := by
  rw [pictographNames, if_pos rfl, h]

theorem pictographNames_of_none {rest : List Char} (h : beforeColon? rest = none) :
    pictographNames (':' :: rest) = pictographNames rest := by
  rw [pictographNames, if_pos rfl, h]

theorem pictographNames_cons_of_ne {c : Char} (hc : c ≠ ':') (rest : List Char) :
    pictographNames (c :: rest) = pictographNames rest := by
  rw [pictographNames, if_neg hc]

/-- Whether a character means something between tags: colons stand around names, a bracket may
begin a tag, and a backslash may stand before a tag. -/
def isReserved (c : Char) : Bool :=
  c == ':' || c == '[' || c == '\\'

theorem isReserved_pictographs :
    pictographs.all (fun entry : String × List Nat =>
      entry.2.all fun code : Nat => !isReserved (Char.ofNat code)) = true := by
  decide +kernel

theorem isReserved_of_pictograph? (hsign : pictograph? name = some sign) :
    ∀ c ∈ sign, isReserved c = false := by
  obtain ⟨codes, hcodes, rfl⟩ := Option.map_eq_some_iff.mp hsign
  obtain ⟨before, after, hentries, -⟩ := List.lookup_eq_some_iff.mp hcodes
  have hentry := List.all_eq_true.mp isReserved_pictographs (String.ofList (lower name), codes)
    (by rw [hentries]; exact List.mem_append_right before List.mem_cons_self)
  intro c hc
  obtain ⟨code, hcode, rfl⟩ := List.mem_map.mp hc
  simpa using List.all_eq_true.mp hentry code hcode

theorem isReserved_of_sign? (hsign : sign? name = some sign) :
    ∀ c ∈ sign, isReserved c = false := by
  have hvariant : ∀ base (selector : Char), isReserved selector = false →
      (pictograph? base).map (· ++ [selector]) = some sign → ∀ c ∈ sign, isReserved c = false := by
    intro base selector hselector hbase
    obtain ⟨plain, hplain, rfl⟩ := Option.map_eq_some_iff.mp hbase
    intro c hc
    obtain hc | hc := List.mem_append.mp hc
    · exact isReserved_of_pictograph? hplain c hc
    · rw [List.mem_singleton.mp hc, hselector]
  unfold sign? at hsign
  dsimp only at hsign
  split at hsign
  · exact hvariant _ '\uFE0F' (by decide) hsign
  · split at hsign
    · exact hvariant _ '\uFE0E' (by decide) hsign
    · exact isReserved_of_pictograph? hsign

theorem eq_append_of_beforeColon? (h : beforeColon? s = some (name, after)) :
    s = name ++ ':' :: after ∧ ':' ∉ name := by
  induction s generalizing name with
  | nil => contradiction
  | cons c rest ih =>
      rw [beforeColon?] at h
      split at h
      · next hc =>
          obtain ⟨rfl, rfl⟩ : [] = name ∧ rest = after := by simpa using h
          exact ⟨by rw [hc]; rfl, List.not_mem_nil⟩
      · next hc =>
          split at h
          · contradiction
          · obtain ⟨⟨tail, left⟩, htail, hpair⟩ := Option.map_eq_some_iff.mp h
            obtain ⟨rfl, rfl⟩ : c :: tail = name ∧ left = after := by simpa using hpair
            obtain ⟨rfl, hnone⟩ := ih htail
            exact ⟨rfl, by simpa [hnone] using Ne.symm hc⟩

section Replacement

theorem countP_eq_zero_of_reserved (hp : ∀ c, p c = true → isReserved c = true)
    (hsign : sign? name = some sign) : sign.countP p = 0 := by
  refine List.countP_eq_zero.mpr fun c hc hpc => ?_
  exact absurd (hp c hpc) (by simp [isReserved_of_sign? hsign c hc])

/-- Pictographs bring in no reserved characters. -/
theorem countP_withPictographs_le (hp : ∀ c, p c = true → isReserved c = true) (s : List Char) :
    (withPictographs s).countP p ≤ s.countP p := by
  fun_induction withPictographs s with
  | case1 => exact Nat.le_refl _
  | case2 rest name after hname ih =>
      obtain ⟨rfl, -⟩ := eq_append_of_beforeColon? hname
      cases hsign : sign? name with
      | none =>
          simp only [Option.getD_none, List.cons_append, List.countP_cons, List.countP_append,
            List.countP_nil]
          omega
      | some sign =>
          simp only [Option.getD_some, List.countP_cons, List.countP_append,
            countP_eq_zero_of_reserved hp hsign]
          omega
  | case3 rest hname ih =>
      simp only [List.countP_cons]
      omega
  | case4 c rest hc ih =>
      simp only [List.countP_cons]
      omega

/-- How many of the names that are looked up in a text are known. -/
def knownNames (s : List Char) : Nat :=
  (pictographNames s).countP fun name => (sign? name).isSome

theorem knownNames_eq_zero_iff :
    knownNames s = 0 ↔ ∀ name ∈ pictographNames s, sign? name = none := by
  simp [knownNames, List.countP_eq_zero]

theorem count_colon_of_reserved (hsign : sign? name = some sign) : sign.count ':' = 0 :=
  countP_eq_zero_of_reserved (fun c hc => by simp [isReserved, eq_of_beq hc]) hsign

/-- A known name takes both of its colons with it. -/
theorem count_withPictographs (s : List Char) :
    (withPictographs s).count ':' + 2 * knownNames s = s.count ':' := by
  fun_induction withPictographs s with
  | case1 => rw [knownNames, pictographNames]; rfl
  | case2 rest name after hname ih =>
      rw [knownNames] at ih ⊢
      rw [pictographNames_of_name hname]
      obtain ⟨rfl, hcolon⟩ := eq_append_of_beforeColon? hname
      have hcount : name.count ':' = 0 := List.count_eq_zero.mpr hcolon
      cases hsign : sign? name with
      | none =>
          simp only [Option.getD_none, List.cons_append, List.count_cons, List.count_append,
            List.count_nil, List.countP_cons, hsign, Option.isSome_none, hcount, Bool.false_eq_true,
            if_false]
          omega
      | some sign =>
          simp only [Option.getD_some, List.count_cons, List.count_append, List.countP_cons, hsign,
            Option.isSome_some, hcount, count_colon_of_reserved hsign, beq_self_eq_true, if_true]
          omega
  | case3 rest hname ih =>
      rw [knownNames] at ih ⊢
      rw [pictographNames_of_none hname, List.count_cons, List.count_cons]
      omega
  | case4 c rest hc ih =>
      rw [knownNames] at ih ⊢
      rw [pictographNames_cons_of_ne hc, List.count_cons, List.count_cons]
      omega

/-- A text in which no known name is looked up stays as it is. -/
theorem withPictographs_of_unknown (hnames : ∀ name ∈ pictographNames s, sign? name = none) :
    withPictographs s = s := by
  fun_induction withPictographs s with
  | case1 => rfl
  | case2 rest name after hname ih =>
      rw [pictographNames_of_name hname] at hnames
      obtain ⟨hunknown, hafter⟩ := List.forall_mem_cons.mp hnames
      obtain ⟨rfl, -⟩ := eq_append_of_beforeColon? hname
      rw [hunknown, ih hafter]
      simp
  | case3 rest hname ih =>
      rw [pictographNames_of_none hname] at hnames
      rw [ih hnames]
  | case4 c rest hc ih =>
      rw [pictographNames_cons_of_ne hc] at hnames
      rw [ih hnames]

end Replacement

end BuildVersion.Text
