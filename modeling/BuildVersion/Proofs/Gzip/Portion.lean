import BuildVersion.Gzip.Reader
import BuildVersion.Proofs.Gzip.Complete

/-!
Portions of a complete file. Whatever the limit of a portion and the window of compressed bytes, a
portion is read without a breach, and it is empty only at the end of the content.
-/

namespace BuildVersion.Gzip

variable {size : Nat}

namespace Course

theorem dueUpTo_spec {emissions : Array Deflate.Emission} (bits : Nat) {stop i : Nat}
    (hstop : i ≤ stop) (hsize : i ≤ emissions.size) :
    i ≤ dueUpTo emissions bits stop i ∧ dueUpTo emissions bits stop i ≤ stop ∧
      dueUpTo emissions bits stop i ≤ emissions.size ∧
      ∀ emission, emissions[dueUpTo emissions bits stop i]? = some emission →
        dueUpTo emissions bits stop i < stop → bits < emission.due := by
  fun_induction dueUpTo emissions bits stop i with
  | case1 i h hdue ih =>
      obtain ⟨hlow, hhigh, hbound, hnext⟩ := ih (by omega) (by omega)
      exact ⟨by omega, hhigh, hbound, hnext⟩
  | case2 i h hdue =>
      refine ⟨Nat.le_refl i, hstop, hsize, ?_⟩
      intro emission hemission hless
      rw [Array.getElem?_eq_getElem h.2, Option.some.injEq] at hemission
      rw [← hemission]
      omega
  | case3 i h =>
      refine ⟨Nat.le_refl i, hstop, hsize, ?_⟩
      intro emission hemission hless
      obtain ⟨hindex, -⟩ := Array.getElem?_eq_some_iff.mp hemission
      exact absurd ⟨hless, hindex⟩ h

/-- A member of a complete file that is being read. -/
structure Whole (size : Nat) (course : Course) : Prop where
  within : course.content.Within size
  exists_finished : ∃ position, course.content.ending = .finished position
  given_le : course.given ≤ course.content.emissions.size

def remaining (course : Course) : Nat :=
  course.content.emissions.size - course.given

/-- What reading a portion leads to: the number of its bytes, and the member unless it is
complete. -/
structure Leads (size limit : Nat) (course : Course) (n : Nat) (after : Option Course) : Prop where
  le_limit : n ≤ limit
  remaining_eq : course.remaining = n + after.elim 0 remaining
  whole : ∀ c ∈ after, c.Whole size
  progress : n = 0 → after = none

section Prospect

variable {course : Course} {window : Nat} {full : Bool}

theorem size_le_of_finish (h : course.prospect window full = .finish) :
    course.content.emissions.size ≤ course.given := by
  rw [prospect] at h
  split at h
  · split at h <;> contradiction
  · next hnone => exact Array.getElem?_eq_none_iff.mp hnone

theorem Whole.prospect_ne_breach (hcourse : course.Whole size) :
    course.prospect window full ≠ .breach := by
  obtain ⟨position, hfinished⟩ := hcourse.exists_finished
  rw [prospect]
  split
  · split <;> simp
  · rw [hfinished]
    dsimp only
    split <;> simp

/-- When all of the file lies in the window, only bytes beyond the limit can be left. -/
theorem Whole.exists_emission_of_more (hcourse : course.Whole size) {taken : Nat}
    (h : course.prospect size full = .more taken) :
    ∃ emission, course.content.emissions[course.given]? = some emission := by
  obtain ⟨position, hfinished⟩ := hcourse.exists_finished
  have hposition := hcourse.within.finished hfinished
  rw [prospect] at h
  split at h
  · next emission hemission => exact ⟨emission, hemission⟩
  · rw [hfinished] at h
    simp only [if_pos hposition] at h
    contradiction

end Prospect

theorem exists_read {limit : Nat} (hlimit : 0 < limit) {course : Course}
    (hcourse : course.Whole size) :
    ∃ n after, course.read size limit = .ok (n, after) ∧ course.Leads size limit n after := by
  fun_induction course.read size limit with
  | case1 course window upTo n after hprospect =>
      obtain ⟨hlow, hhigh, hbound, -⟩ :=
        dueUpTo_spec (8 * window) (Nat.le_add_right course.given limit) hcourse.given_le
      have hall : course.content.emissions.size ≤ upTo := size_le_of_finish hprospect
      refine ⟨n, none, rfl, ?_, ?_, by simp, by simp⟩
      · show upTo - course.given ≤ limit
        omega
      · show course.content.emissions.size - course.given = upTo - course.given + 0
        omega
  | case2 course window upTo n after hprospect =>
      obtain ⟨-, -, hbound, -⟩ :=
        dueUpTo_spec (8 * window) (Nat.le_add_right course.given limit) hcourse.given_le
      have hafter : after.Whole size := ⟨hcourse.within, hcourse.exists_finished, hbound⟩
      exact absurd hprospect hafter.prospect_ne_breach
  | case3 course window upTo n after taken hprospect hn =>
      obtain ⟨hlow, hhigh, hbound, -⟩ :=
        dueUpTo_spec (8 * window) (Nat.le_add_right course.given limit) hcourse.given_le
      refine ⟨n, _, rfl, ?_, ?_, ?_, fun hzero => absurd hzero hn⟩
      · show upTo - course.given ≤ limit
        omega
      · show course.content.emissions.size - course.given =
          upTo - course.given + (course.content.emissions.size - upTo)
        omega
      · rintro c hc
        obtain rfl := Option.some.inj hc
        exact ⟨hcourse.within, hcourse.exists_finished, hbound⟩
  | case4 course window upTo n after taken hprospect hn hless ih =>
      obtain ⟨n, after, hread, hleads⟩ :=
        ih ⟨hcourse.within, hcourse.exists_finished, hcourse.given_le⟩
      exact ⟨n, after, hread, hleads.le_limit, hleads.remaining_eq, hleads.whole, hleads.progress⟩
  | case5 course window upTo n after taken hprospect hn hless =>
      -- The window ends with the file, so that the next byte would be due.
      obtain ⟨hlow, hhigh, hbound, hnext⟩ :=
        dueUpTo_spec (8 * window) (Nat.le_add_right course.given limit) hcourse.given_le
      have hzero : upTo - course.given = 0 := Decidable.of_not_not hn
      have hwindow : window = size := by
        simp only [window, windowSize] at hless ⊢
        omega
      have hafter : after.Whole size := ⟨hcourse.within, hcourse.exists_finished, hbound⟩
      rw [hwindow] at hprospect
      obtain ⟨emission, hemission⟩ := hafter.exists_emission_of_more hprospect
      have hdue := hcourse.within.due emission (Array.mem_of_getElem? hemission)
      have hlate := hnext emission hemission (by
        show upTo < course.given + limit
        omega)
      omega

end Course

namespace Flow

/-- A complete file that is being read. -/
structure Whole (size : Nat) (flow : Flow) : Prop where
  course : ∀ course ∈ flow.course, course.Whole size
  ahead : flow.ahead.Whole size

def remaining (flow : Flow) : Nat :=
  flow.course.elim 0 Course.remaining + flow.ahead.bytes.length

/-- What reading a portion leads to: the number of its bytes, and the flow after it. -/
structure Leads (size limit : Nat) (before n : Nat) (after : Flow) : Prop where
  le_limit : n ≤ limit
  remaining_eq : before = n + after.remaining
  whole : after.Whole size
  progress : n = 0 → after.remaining = 0

theorem Course.Leads.flow {limit n : Nat} {course : Course} {after : Option Course} {rest : Chain}
    (hleads : course.Leads size limit n after) (hrest : rest.Whole size)
    (hn : n ≠ 0) : Leads size limit (course.remaining + rest.bytes.length) n ⟨after, rest⟩ where
  le_limit := hleads.le_limit
  remaining_eq := by
    rw [hleads.remaining_eq, remaining, Nat.add_assoc]
  whole := ⟨hleads.whole, hrest⟩
  progress := by
    intro hzero
    contradiction

theorem exists_readAhead {limit : Nat} (hlimit : 0 < limit) {chain : Chain}
    (hchain : chain.Whole size) :
    ∃ n after, readAhead size limit chain = .ok (n, after) ∧
      Leads size limit chain.bytes.length n after := by
  induction hchain with
  | done => exact ⟨0, ⟨none, .done⟩, rfl, Nat.zero_le _, rfl, ⟨by simp, .done⟩, fun _ => rfl⟩
  | @member start position content rest hwithin hfinished hrest ih =>
      have hcourse : (⟨content, 0, start⟩ : Course).Whole size :=
        ⟨hwithin, ⟨position, hfinished⟩, Nat.zero_le _⟩
      obtain ⟨n, after, hread, hleads⟩ := Course.exists_read hlimit hcourse
      have hlength : (Chain.member start content rest).bytes.length =
          Course.remaining ⟨content, 0, start⟩ + rest.bytes.length := by
        simp [Chain.bytes, Deflate.Content.bytes, Course.remaining]
      rw [readAhead, hread, hlength]
      by_cases hn : n = 0
      · obtain rfl := hleads.progress hn
        subst hn
        obtain ⟨m, flow, hahead, hflow⟩ := ih
        refine ⟨m, flow, hahead, ?_⟩
        rw [hleads.remaining_eq]
        simpa using hflow
      · refine ⟨n, ⟨after, rest⟩, ?_, Course.Leads.flow hleads hrest hn⟩
        cases n with
        | zero => contradiction
        | succ n => rfl

/-- A portion of a complete file is read without a breach, and it is empty only at the end. -/
theorem exists_read {limit : Nat} (hlimit : 0 < limit) {flow : Flow} (hflow : flow.Whole size) :
    ∃ n after, flow.read size limit = .ok (n, after) ∧
      Leads size limit flow.remaining n after := by
  obtain ⟨course?, ahead⟩ := flow
  cases course? with
  | none =>
      have hahead := exists_readAhead hlimit hflow.ahead
      rw [remaining, Option.elim_none, Nat.zero_add]
      exact hahead
  | some course =>
      obtain ⟨n, after, hread, hleads⟩ := Course.exists_read hlimit (hflow.course course rfl)
      rw [read, remaining, Option.elim_some]
      simp only [hread]
      by_cases hn : n = 0
      · obtain rfl := hleads.progress hn
        subst hn
        rw [hleads.remaining_eq]
        simpa using exists_readAhead hlimit hflow.ahead
      · refine ⟨n, ⟨after, ahead⟩, ?_, Course.Leads.flow hleads hflow.ahead hn⟩
        cases n with
        | zero => contradiction
        | succ n => rfl

end Flow

end BuildVersion.Gzip
