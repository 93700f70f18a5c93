import BuildVersion.Proofs.Tar.Fault

namespace BuildVersion.Tar

def Entry.IsLink (entry : Entry) : Prop :=
  entry.kind = .hardLink ∨ entry.kind = .symbolicLink

instance (entry : Entry) : Decidable entry.IsLink :=
  inferInstanceAs (Decidable (_ ∨ _))

namespace Archive

/-- Following `n` links from one entry to another. -/
inductive Follows (archive : Archive) : (n index last : Nat) → Prop
  | here (index : Nat) : Follows archive 0 index index
  | link {n index next last : Nat} {entry : Entry} (hentry : archive.entries[index]? = some entry)
      (hlink : entry.IsLink) (htarget : archive.target? index entry = some next)
      (hrest : Follows archive n next last) : Follows archive (n + 1) index last

variable {archive : Archive}

theorem lastIndex?_lt {count index : Nat} {fits : Entry → Bool}
    (h : archive.lastIndex? count fits = some index) : index < archive.entries.length := by
  rw [lastIndex?, Option.map_eq_some_iff] at h
  obtain ⟨⟨found, i⟩, hfound, rfl⟩ := h
  have hmem := List.mem_reverse.mp (List.mem_of_find?_eq_some hfound)
  have hlt := List.snd_lt_of_mem_zipIdx hmem
  rw [List.length_take] at hlt
  omega

theorem target?_lt {index next : Nat} {entry : Entry}
    (h : archive.target? index entry = some next) : next < archive.entries.length := by
  rw [target?] at h
  split at h <;> exact lastIndex?_lt h

theorem follow_succ {steps index : Nat} {entry : Entry}
    (hentry : archive.entries[index]? = some entry) :
    archive.follow (steps + 1) index =
      if entry.IsLink then
        match archive.target? index entry with
        | none => .aborted .danglingLink
        | some next => archive.follow steps next
      else .ok entry := by
  rw [follow, hentry]
  rfl

/-- The entry at an index is a link that leads to no entry. -/
def Dangles (archive : Archive) (index : Nat) : Prop :=
  ∃ entry, archive.entries[index]? = some entry ∧ entry.IsLink ∧ archive.target? index entry = none

def Rests (archive : Archive) (index : Nat) (entry : Entry) : Prop :=
  archive.entries[index]? = some entry ∧ ¬ entry.IsLink

theorem Follows.follow_add {n index last : Nat} (h : archive.Follows n index last) (steps : Nat) :
    archive.follow (n + steps) index = archive.follow steps last := by
  induction h with
  | here index => rw [Nat.zero_add]
  | @link n index next last entry hentry hlink htarget _ ih =>
      rw [Nat.add_right_comm, follow_succ hentry, if_pos hlink, htarget]
      exact ih

theorem Follows.follow_eq_linkCycle {steps index last : Nat}
    (h : archive.Follows steps index last) : archive.follow steps index = .aborted .linkCycle :=
  h.follow_add 0

theorem Follows.follow_eq_danglingLink {n steps index last : Nat}
    (h : archive.Follows n index last) (hn : n < steps) (hlast : archive.Dangles last) :
    archive.follow steps index = .aborted .danglingLink := by
  obtain ⟨k, rfl⟩ := Nat.exists_eq_add_of_lt hn
  obtain ⟨entry, hentry, hlink, htarget⟩ := hlast
  rw [Nat.add_assoc, h.follow_add, follow_succ hentry, if_pos hlink, htarget]

theorem Follows.follow_eq_ok {n steps index last : Nat} {entry : Entry}
    (h : archive.Follows n index last) (hn : n < steps) (hlast : archive.Rests last entry) :
    archive.follow steps index = .ok entry := by
  obtain ⟨k, rfl⟩ := Nat.exists_eq_add_of_lt hn
  rw [Nat.add_assoc, h.follow_add, follow_succ hlast.1, if_neg hlast.2]

/-- Following links comes to an end, to a link that dangles, or to too many links. -/
theorem exists_follows (archive : Archive) (steps : Nat) {index : Nat}
    (hindex : index < archive.entries.length) :
    (∃ last, archive.Follows steps index last) ∨
      ∃ n < steps, ∃ last, archive.Follows n index last ∧
        (archive.Dangles last ∨ ∃ entry, archive.Rests last entry) := by
  induction steps generalizing index with
  | zero => exact .inl ⟨index, .here index⟩
  | succ steps ih =>
      have hentry := List.getElem?_eq_getElem hindex
      generalize archive.entries[index] = entry at hentry
      by_cases hlink : entry.IsLink
      · cases htarget : archive.target? index entry with
        | none =>
            exact .inr ⟨0, Nat.succ_pos steps, index, .here index,
              .inl ⟨entry, hentry, hlink, htarget⟩⟩
        | some next =>
            rcases ih (target?_lt htarget) with ⟨last, hrest⟩ | ⟨n, hn, last, hrest, hlast⟩
            · exact .inl ⟨last, .link hentry hlink htarget hrest⟩
            · exact .inr ⟨n + 1, Nat.succ_lt_succ hn, last, .link hentry hlink htarget hrest, hlast⟩
      · exact .inr ⟨0, Nat.succ_pos steps, index, .here index, .inr ⟨entry, hentry, hlink⟩⟩

/-- Why the content of an entry cannot be had. -/
inductive Withheld (archive : Archive) (index : Nat) : Fault → Prop
  | manyLinks {last : Nat} (hfollows : archive.Follows (maxLinks + 1) index last) :
      Withheld archive index .linkCycle
  | dangling {n last : Nat} (hn : n ≤ maxLinks) (hfollows : archive.Follows n index last)
      (hlast : archive.Dangles last) : Withheld archive index .danglingLink
  /-- The size or the stretches of the entry ask for too much. -/
  | declared {n last : Nat} {entry : Entry} {fault : Fault} (hn : n ≤ maxLinks)
      (hfollows : archive.Follows n index last) (hlast : archive.Rests last entry)
      (hkind : entry.kind.hasContent = true)
      (hread : Scan.content entry.size.toNat 0 entry.size.toNat entry.segments archive.course =
        .aborted fault) (hdeclared : Declared fault) : Withheld archive index fault

theorem content?_eq_aborted_iff {index : Nat} {fault : Fault}
    (hindex : index < archive.entries.length) :
    archive.content? index = .aborted fault ↔ archive.Withheld index fault := by
  constructor
  · intro h
    rw [content?] at h
    rcases archive.exists_follows (maxLinks + 1) hindex with
      ⟨last, hfollows⟩ | ⟨n, hn, last, hfollows, hdangles | ⟨entry, hrests⟩⟩
    · rw [hfollows.follow_eq_linkCycle, Outcome.bind_aborted] at h
      rw [← Outcome.aborted.inj h]
      exact .manyLinks hfollows
    · rw [hfollows.follow_eq_danglingLink hn hdangles, Outcome.bind_aborted] at h
      rw [← Outcome.aborted.inj h]
      exact .dangling (Nat.le_of_lt_succ hn) hfollows hdangles
    · rw [hfollows.follow_eq_ok hn hrests, Outcome.bind_ok] at h
      split at h
      · next hkind =>
          dsimp only at h
          split at h
          · contradiction
          · contradiction
          · next cause hread =>
              obtain rfl := Outcome.aborted.inj h
              have hconfined := Scan.confined_content entry.size.toNat 0 entry.size.toNat
                entry.segments archive.course
              exact .declared (Nat.le_of_lt_succ hn) hfollows hrests hkind hread
                (hconfined.of_aborted cause hread)
      · contradiction
  · rintro (⟨hfollows⟩ | ⟨hn, hfollows, hdangles⟩ | ⟨hn, hfollows, hrests, hkind, hread, hdeclared⟩)
    · rw [content?, hfollows.follow_eq_linkCycle, Outcome.bind_aborted]
    · rw [content?, hfollows.follow_eq_danglingLink (Nat.lt_succ_of_le hn) hdangles,
        Outcome.bind_aborted]
    · rw [content?, hfollows.follow_eq_ok (Nat.lt_succ_of_le hn) hrests, Outcome.bind_ok,
        if_pos hkind]
      simp only [hread]

end Archive

end BuildVersion.Tar
