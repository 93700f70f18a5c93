import BuildVersion.Proofs.Outcome
import BuildVersion.Tar.Archive

namespace BuildVersion.Tar

/-- What a declaration inside an archive can do to its reader. -/
inductive Declared : Fault → Prop
  | malformedSize : Declared .malformedSize
  | numberTooLarge : Declared .numberTooLarge
  | outOfMemory : Declared .outOfMemory
  | brokenTable : Declared .brokenTable
  | tooDeep : Declared .tooDeep

namespace Scan

variable {α β : Type}

/-- Only what is declared cuts the scan short. -/
def Confined (scan : Scan α) : Prop :=
  ∀ course, (scan course).Ensures (fun _ => True) Declared

theorem Confined.bind {scan : Scan α} {f : α → Scan β} (hscan : scan.Confined)
    (hf : ∀ a, (f a).Confined) : (scan >>= f).Confined :=
  fun course => (hscan course).bind fun result _ => hf result.1 result.2

theorem Confined.map {scan : Scan α} (hscan : scan.Confined) (f : α → β) :
    (f <$> scan).Confined :=
  fun course => (hscan course).bind fun _ _ => Outcome.ensures_ok trivial

theorem Confined.ite {c : Prop} [Decidable c] {first second : Scan α} (hfirst : first.Confined)
    (hsecond : second.Confined) : (if c then first else second).Confined := by
  split
  · exact hfirst
  · exact hsecond

theorem confined_pure (a : α) : (pure a : Scan α).Confined :=
  fun _ => Outcome.ensures_ok trivial

theorem confined_get : (get : Scan Course).Confined :=
  fun _ => Outcome.ensures_ok trivial

theorem confined_modify (f : Course → Course) : (modify f : Scan PUnit).Confined :=
  fun _ => Outcome.ensures_ok trivial

theorem confined_fail : (fail : Scan α).Confined :=
  fun _ => Outcome.ensures_err _

theorem confined_abort {fault : Fault} (hfault : Declared fault) :
    (abort fault : Scan α).Confined :=
  fun _ => Outcome.ensures_aborted hfault

theorem confined_read (n : Int) : (read n).Confined := by
  intro course
  rw [read]
  split
  · exact Outcome.ensures_aborted .malformedSize
  · split
    · exact Outcome.ensures_aborted .numberTooLarge
    · split
      · exact Outcome.ensures_aborted .outOfMemory
      · split
        · exact Outcome.ensures_ok trivial
        · exact Outcome.ensures_err _

theorem confined_seek (target : Int) : (seek target).Confined := by
  intro course
  rw [seek]
  split
  · exact Outcome.ensures_aborted .malformedSize
  · split
    · exact Outcome.ensures_ok trivial
    · exact Outcome.ensures_err _

theorem confined_place : place.Confined :=
  confined_get.bind fun _ => confined_pure _

theorem confined_setNext (next : Int) : (setNext next).Confined :=
  confined_modify _

theorem ensures_correct (entry : Entry) (record : Record) :
    (entry.correct record : Outcome Failure Entry).Ensures (fun _ => True) Declared := by
  rw [Entry.correct]
  split
  · exact Outcome.ensures_ok trivial
  · split
    · split
      · exact Outcome.ensures_ok trivial
      · exact Outcome.ensures_aborted .malformedSize
    · split
      · exact Outcome.ensures_ok trivial
      · split
        · exact Outcome.ensures_ok trivial
        · split <;> exact Outcome.ensures_ok trivial

theorem ensures_correctAll (entry : Entry) (records : Records) :
    (entry.correctAll records : Outcome Failure Entry).Ensures (fun _ => True) Declared := by
  induction records generalizing entry with
  | nil => exact Outcome.ensures_ok trivial
  | cons record records ih =>
      rw [Entry.correctAll, List.foldlM_cons]
      exact (ensures_correct entry record).bind fun entry _ => ih entry

theorem confined_correctAll (entry : Entry) (records : Records) :
    (correctAll entry records).Confined := by
  intro course
  have hcorrect := ensures_correctAll entry records
  rw [correctAll]
  split
  · exact Outcome.ensures_ok trivial
  · exact Outcome.ensures_err _
  · next fault hfault => exact Outcome.ensures_aborted (hcorrect.of_aborted fault hfault)

theorem confined_plainEntry (header : Header) : (plainEntry header).Confined :=
  confined_place.bind fun _ => (confined_setNext _).bind fun _ => confined_get.bind fun _ =>
    (confined_correctAll _ _).bind fun _ => confined_pure _

theorem confined_furtherStretches (fuel : Nat) (done : Stretches) :
    (furtherStretches fuel done).Confined := by
  induction fuel generalizing done with
  | zero => exact confined_abort .brokenTable
  | succ fuel ih =>
      refine (confined_read _).bind fun block => ?_
      split
      · exact confined_abort .brokenTable
      · exact confined_pure _
      · split
        · dsimp only
          split
          · exact confined_pure _
          · exact ih _
        · exact confined_abort .brokenTable

theorem confined_sparseEntry (header : Header) : (sparseEntry header).Confined := by
  refine confined_get.bind fun course => ?_
  refine .ite ((confined_furtherStretches _ _).bind fun read => ?_)
    ((confined_pure _).bind fun read => ?_)
  all_goals
    dsimp only
    split
    · exact confined_pure _
    · exact confined_place.bind fun _ => (confined_setNext _).bind fun _ => confined_pure _

theorem confined_integerLines (missing : Nat) (bytes : List UInt8) :
    (integerLines missing bytes).Confined := by
  induction missing generalizing bytes with
  | zero => exact confined_pure _
  | succ missing ih =>
      refine .ite ((confined_pure _).bind fun bytes => ?_)
        (((confined_read _).map _).bind fun bytes => ?_)
      all_goals
        dsimp only
        split
        · exact confined_abort .malformedSize
        · split
          · exact confined_abort .malformedSize
          · exact (ih _).bind fun _ => confined_pure _

theorem confined_leadingStretches : leadingStretches.Confined := by
  refine (confined_read _).bind fun block => ?_
  split
  · exact confined_abort .malformedSize
  · split
    · exact confined_abort .malformedSize
    · exact (confined_integerLines _ _).bind fun _ => confined_pure _

theorem confined_describedStretches (own records : Records) (entry : Entry) :
    (describedStretches own records entry).Confined := by
  rw [describedStretches]
  split
  · split
    · exact confined_pure _
    · exact confined_abort .malformedSize
  · split
    · split
      · exact confined_pure _
      · exact confined_pure _
    · split
      · exact confined_leadingStretches.bind fun _ => confined_place.bind fun _ => confined_pure _
      · exact confined_pure _

theorem confined_correctOwn (records : Records) (entry : Entry) :
    (correctOwn records entry).Confined := by
  refine (confined_correctAll _ _).bind fun entry => ?_
  split
  · exact (confined_setNext _).bind fun _ => confined_pure _
  · exact confined_pure _

theorem confined_entry (fuel : Nat) : (entry fuel).Confined := by
  induction fuel with
  | zero => exact confined_abort .tooDeep
  | succ fuel ih =>
      refine (confined_read _).bind fun block => ?_
      split
      · exact confined_pure _
      · next header hblock =>
          split
          case h_1 | h_2 =>
            refine (confined_read _).bind fun text => ih.bind fun found => ?_
            split <;> exact confined_pure _
          case h_3 => exact confined_sparseEntry header
          case h_4 | h_5 =>
            refine (confined_read _).bind fun bytes => ?_
            split
            · exact confined_pure _
            · next own hown =>
                refine confined_get.bind fun course => ?_
                refine .ite ((confined_modify _).bind fun _ => ih.bind fun found => ?_)
                  (ih.bind fun found => ?_)
                all_goals
                  split
                  · exact confined_pure _
                  · refine confined_get.bind fun course =>
                      (confined_describedStretches _ _ _).bind fun found => ?_
                    split
                    · exact confined_pure _
                    · exact .ite ((confined_correctOwn _ _).bind fun _ => confined_pure _)
                        (confined_pure _)
          case h_6 => exact (confined_plainEntry header).bind fun _ => confined_pure _

theorem confined_advance : advance.Confined := by
  refine confined_get.bind fun course => confined_place.bind fun here => ?_
  split
  · exact confined_pure _
  · split
    · exact confined_pure _
    · refine (confined_seek _).bind fun _ => (confined_read _).bind fun bytes => ?_
      split
      · exact confined_fail
      · exact confined_pure _

theorem confined_nextEntry : nextEntry.Confined := by
  refine confined_advance.bind fun more => ?_
  split
  · refine (confined_entry _).bind fun found => ?_
    split
    · exact confined_pure _
    · exact confined_fail
    · exact confined_pure _
    · refine confined_get.bind fun course => ?_
      split
      · exact confined_fail
      · exact confined_pure _
  · exact confined_pure _

theorem confined_entries (fuel : Nat) : (entries fuel).Confined := by
  induction fuel with
  | zero => exact confined_pure _
  | succ fuel ih =>
      refine confined_nextEntry.bind fun found => ?_
      split
      · exact confined_pure _
      · exact ih.bind fun _ => confined_pure _

theorem confined_zeros (n : Nat) : (zeros n).Confined := by
  rw [zeros]
  split
  · exact confined_abort .numberTooLarge
  · split
    · exact confined_abort .outOfMemory
    · exact confined_pure _

theorem confined_content (fuel : Nat) (position : Int) (missing : Nat)
    (segments : List Entry.Segment) : (Scan.content fuel position missing segments).Confined := by
  induction fuel generalizing position missing segments with
  | zero => exact confined_pure _
  | succ fuel ih =>
      cases missing with
      | zero => exact confined_pure _
      | succ missing =>
          rw [Scan.content]
          split
          · exact confined_fail
          · next segment turned hturn =>
              dsimp only
              split
              · exact (confined_zeros _).bind fun _ => (ih _ _ _).bind fun _ => confined_pure _
              · refine (confined_seek _).bind fun _ => (confined_read _).bind fun bytes => ?_
                split
                · exact confined_fail.bind fun _ => (ih _ _ _).bind fun _ => confined_pure _
                · exact (confined_pure _).bind fun _ => (ih _ _ _).bind fun _ => confined_pure _
          · simp

end Scan

/-- Only what an archive declares can cut short that it is read through. -/
theorem Archive.declared_of_ofBytes {bytes : List UInt8} {fault : Fault}
    (h : Archive.ofBytes bytes = .aborted fault) : Declared fault := by
  rw [Archive.ofBytes] at h
  dsimp only at h
  split at h
  · next cause hnext =>
      obtain rfl := Outcome.aborted.inj h
      exact (Scan.confined_nextEntry _).of_aborted cause hnext
  · contradiction
  · contradiction
  · split at h
    · next cause hentries =>
        obtain rfl := Outcome.aborted.inj h
        exact (Scan.confined_entries _ _).of_aborted cause hentries
    · contradiction
    · contradiction

end BuildVersion.Tar
