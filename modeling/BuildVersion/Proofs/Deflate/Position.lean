import BuildVersion.Deflate.Content

namespace BuildVersion.Deflate

/-- Bits of a file of so many bytes, none of which is lost. -/
def Bits.Within (size : Nat) (bits : Bits) : Prop :=
  bits.position + bits.rest.length = 8 * size

theorem Bits.within_ofBytes (skipped : Nat) (bytes : List UInt8) :
    (Bits.ofBytes skipped bytes).Within (skipped + bytes.length) := by
  have hlength : (bytes.flatMap bitsOfByte).length = 8 * bytes.length := by
    induction bytes with
    | nil => rfl
    | cons b bytes ih =>
        rw [List.flatMap_cons, List.length_append, length_bitsOfByte, ih, List.length_cons]
        omega
  rw [Within, ofBytes, hlength, Nat.mul_add]

namespace Scan

variable {α β : Type} {size : Nat}

/-- A scan that loses no bits and does not take the data for finished. -/
structure Keeps (size : Nat) (scan : Scan α) : Prop where
  within : ∀ {bits a after}, bits.Within size → scan bits = .ok (a, after) → after.Within size
  unfinished : ∀ {bits ending}, scan bits = .error ending → ∀ position, ending ≠ .finished position

theorem keeps_pure (a : α) : Keeps size (pure a : Scan α) where
  within := by
    intro bits b after hbits h
    obtain ⟨-, rfl⟩ := Prod.mk.inj (Except.ok.inj h)
    exact hbits
  unfinished := by
    intro bits ending h
    contradiction

theorem keeps_refuse : Keeps size (refuse : Scan α) where
  within := by
    intro bits a after hbits h
    contradiction
  unfinished := by
    intro bits ending h position
    rw [← Except.error.inj h]
    exact Ending.noConfusion

theorem keeps_number (n : Nat) : Keeps size (number n) where
  within := by
    intro bits a after hbits h
    rw [Bits.Within] at hbits ⊢
    simp only [number, List.length_take] at h
    split at h
    · obtain ⟨-, rfl⟩ := Prod.mk.inj (Except.ok.inj h)
      simp only [List.length_drop]
      omega
    · contradiction
  unfinished := by
    intro bits ending h position
    simp only [number] at h
    split at h
    · contradiction
    · rw [← Except.error.inj h]
      exact Ending.noConfusion

/-- The data are whole bytes, so that the bits up to the next byte are there. -/
theorem keeps_align : Keeps size align where
  within := by
    intro bits a after hbits h
    obtain ⟨-, rfl⟩ := Prod.mk.inj (Except.ok.inj h)
    rw [Bits.Within] at hbits ⊢
    simp only [Bits.align, List.length_drop]
    omega
  unfinished := by
    intro bits ending h
    contradiction

theorem Keeps.bind {scan : Scan α} {f : α → Scan β} (hscan : Keeps size scan)
    (hf : ∀ a, Keeps size (f a)) : Keeps size (scan >>= f) where
  within := by
    intro bits b after hbits h
    change (scan bits).bind (fun p => f p.1 p.2) = _ at h
    cases hread : scan bits with
    | error ending =>
        rw [hread] at h
        contradiction
    | ok read =>
        rw [hread] at h
        exact (hf read.1).within (hscan.within hbits hread) h
  unfinished := by
    intro bits ending h
    change (scan bits).bind (fun p => f p.1 p.2) = _ at h
    cases hread : scan bits with
    | error ending' =>
        rw [hread] at h
        rw [← Except.error.inj h]
        exact hscan.unfinished hread
    | ok read =>
        rw [hread] at h
        exact (hf read.1).unfinished h

theorem keeps_mapM {f : α → Scan β} (hf : ∀ a, Keeps size (f a)) (as : List α) :
    Keeps size (as.mapM f) := by
  induction as with
  | nil => exact keeps_pure []
  | cons a as ih =>
      rw [List.mapM_cons]
      exact (hf a).bind fun b => ih.bind fun bs => keeps_pure (b :: bs)

end Scan

open Scan (Keeps keeps_pure keeps_refuse keeps_number keeps_align keeps_mapM)

variable {size : Nat}

theorem Code.keeps_scanFrom (levels : List (Array Nat)) (excess : Nat) :
    Keeps size (scanFrom levels excess) := by
  induction levels generalizing excess with
  | nil => exact keeps_refuse
  | cons level deeper ih =>
      refine (keeps_number 1).bind fun bit => ?_
      dsimp only
      split
      · exact keeps_pure _
      · exact ih _

theorem Code.keeps_scan (code : Code) : Keeps size code.scan :=
  keeps_scanFrom code.levels 0

namespace Body

theorem keeps_scanOuter (count : Nat) : Keeps size (scanOuter count) :=
  (keeps_mapM (fun _ => (keeps_number 3).bind fun _ => keeps_pure _) _).bind fun _ => keeps_pure _

theorem keeps_scanRepeat (symbol : Nat) (before : Option Nat) :
    Keeps size (scanRepeat symbol before) := by
  rw [scanRepeat.eq_def]
  split
  · refine (keeps_number 2).bind fun n => ?_
    cases before with
    | none => exact keeps_refuse
    | some length => exact keeps_pure _
  · exact (keeps_number 3).bind fun n => keeps_pure _
  · exact (keeps_number 7).bind fun n => keeps_pure _

theorem keeps_scanLengths (code : Code) (fuel missing : Nat) (done : List Nat) :
    Keeps size (scanLengths code fuel missing done) := by
  induction fuel generalizing missing done with
  | zero =>
      cases missing with
      | zero => exact keeps_pure _
      | succ missing => exact keeps_refuse
  | succ fuel ih =>
      cases missing with
      | zero => exact keeps_pure _
      | succ missing =>
          refine code.keeps_scan.bind fun symbol => ?_
          split
          · exact ih _ _
          · refine (keeps_scanRepeat symbol done.head?).bind fun repetition => ?_
            obtain ⟨n, length⟩ := repetition
            dsimp only
            split
            · exact keeps_refuse
            · exact ih _ _

theorem keeps_scanCodes : Keeps size scanCodes := by
  refine (keeps_number 5).bind fun literalCount => ?_
  refine (keeps_number 5).bind fun distanceCount => ?_
  refine (keeps_number 4).bind fun outerCount => ?_
  dsimp only
  split
  · exact keeps_refuse
  · refine (keeps_scanOuter _).bind fun lengths => ?_
    split
    · exact keeps_refuse
    · refine (keeps_scanLengths _ _ _ _).bind fun lengths => ?_
      split
      · exact keeps_refuse
      · split
        · exact keeps_pure _
        · exact keeps_refuse

theorem keeps_scanStored : Keeps size scanStored := by
  refine keeps_align.bind fun _ => ?_
  refine (keeps_number 16).bind fun length => ?_
  refine (keeps_number 16).bind fun inverse => ?_
  split
  · exact keeps_pure _
  · exact keeps_refuse

theorem keeps_scanHeading : Keeps size scanHeading := by
  refine (keeps_number 1).bind fun last => ?_
  refine (keeps_number 2).bind fun kind => ?_
  dsimp only
  split
  · exact keeps_scanStored.bind fun body => keeps_pure _
  · exact keeps_pure _
  · exact keeps_scanCodes.bind fun body => keeps_pure _
  · exact keeps_refuse.bind fun body => keeps_pure _

end Body

theorem keeps_scanExtended (table : List (Nat × Nat)) (symbol : Nat) :
    Keeps size (scanExtended table symbol) := by
  rw [scanExtended]
  split
  · exact keeps_refuse
  · exact (keeps_number _).bind fun more => keeps_pure _

theorem keeps_scanRepetition (distances : Code) (symbol : Nat) :
    Keeps size (scanRepetition distances symbol) := by
  refine (keeps_scanExtended _ _).bind fun length => ?_
  refine distances.keeps_scan.bind fun symbol => ?_
  exact (keeps_scanExtended _ _).bind fun distance => keeps_pure _

namespace Content

/-- Bytes that can be written after the bits of so many bytes. -/
def Due (size : Nat) (emissions : Array Emission) : Prop :=
  ∀ emission ∈ emissions, emission.due ≤ 8 * size

theorem Due.push {emissions : Array Emission} (h : Due size emissions) {emission : Emission}
    (hdue : emission.due ≤ 8 * size) : Due size (emissions.push emission) := by
  intro other hother
  rcases Array.mem_push.mp hother with hother | rfl
  · exact h other hother
  · exact hdue

/-- What is read into an array of bytes: the bytes are due inside the data, and no bits are lost. -/
structure Reads (size : Nat) (read : Array Emission × Except Ending Bits) : Prop where
  due : Due size read.1
  within : ∀ {bits}, read.2 = .ok bits → bits.Within size
  unfinished : ∀ {ending}, read.2 = .error ending → ∀ position, ending ≠ .finished position

theorem reads_ok {emissions : Array Emission} {bits : Bits} (hdue : Due size emissions)
    (hbits : bits.Within size) : Reads size (emissions, .ok bits) where
  due := hdue
  within := by
    intro after h
    rw [← Except.ok.inj h]
    exact hbits
  unfinished := by
    intro ending h
    contradiction

theorem reads_error {emissions : Array Emission} {ending : Ending} (hdue : Due size emissions)
    (hending : ∀ position, ending ≠ .finished position) :
    Reads size (emissions, .error ending) where
  due := hdue
  within := by
    intro after h
    contradiction
  unfinished := by
    intro other h
    rw [← Except.error.inj h]
    exact hending

theorem due_copy {distance position n : Nat} {done : Array Emission} (hdone : Due size done)
    (hposition : position ≤ 8 * size) : Due size (copy distance position n done) := by
  induction n generalizing done with
  | zero => exact hdone
  | succ n ih => exact ih (hdone.push hposition)

theorem reads_stored {n : Nat} {done : Array Emission} {bits : Bits} (hdone : Due size done)
    (hbits : bits.Within size) : Reads size (stored n done bits) := by
  induction n generalizing done bits with
  | zero => exact reads_ok hdone hbits
  | succ n ih =>
      rw [stored]
      split
      · next ending hread =>
          have hnumber : Keeps size (Scan.number 8) := keeps_number 8
          exact reads_error hdone (hnumber.unfinished hread)
      · next value after hread =>
          have hafter := (keeps_number 8).within hbits hread
          refine ih (hdone.push ?_) hafter
          rw [Bits.Within] at hafter
          dsimp only
          omega

section Equation

-- Else the equation is looked for inside the tables of lengths and distances.
attribute [local irreducible] scanRepetition

theorem coded_succ (literals distances : Code) (fuel : Nat) (done : Array Emission) (bits : Bits) :
    coded literals distances (fuel + 1) done bits =
      match literals.scan bits with
      | .error ending => (done, .error ending)
      | .ok (symbol, bits) =>
        if symbol < Body.endSymbol then
          coded literals distances fuel
            (done.push ⟨UInt8.ofNat symbol, bits.position, bits.position⟩) bits
        else if symbol = Body.endSymbol then (done, .ok bits)
        else
          match scanRepetition distances symbol bits with
          | .error ending => (done, .error ending)
          | .ok ((length, distance), bits) =>
            if done.size < distance then (done, .error (.outOfReach bits.position))
            else coded literals distances fuel (copy distance bits.position length done) bits :=
  rfl

end Equation

theorem reads_coded {literals distances : Code} {fuel : Nat} {done : Array Emission} {bits : Bits}
    (hdone : Due size done) (hbits : bits.Within size) :
    Reads size (coded literals distances fuel done bits) := by
  induction fuel generalizing done bits with
  | zero => exact reads_error hdone fun position => Ending.noConfusion
  | succ fuel ih =>
      rw [coded_succ]
      split
      · next ending hread =>
          have hliterals : Keeps size literals.scan := literals.keeps_scan
          exact reads_error hdone (hliterals.unfinished hread)
      · next symbol after hread =>
          have hafter := literals.keeps_scan.within hbits hread
          have hposition : after.position ≤ 8 * size := by
            rw [Bits.Within] at hafter
            omega
          split
          · exact ih (hdone.push hposition) hafter
          · split
            · exact reads_ok hdone hafter
            · split
              · next ending hrepetition =>
                  have hkeeps : Keeps size (scanRepetition distances symbol) :=
                    keeps_scanRepetition distances symbol
                  exact reads_error hdone (hkeeps.unfinished hrepetition)
              · next length distance further hrepetition =>
                  have hfurther := (keeps_scanRepetition _ _).within hafter hrepetition
                  split
                  · exact reads_error hdone fun position => Ending.noConfusion
                  · refine ih (due_copy hdone ?_) hfurther
                    rw [Bits.Within] at hfurther
                    omega

/-- A content that lies inside the data. -/
structure Within (size : Nat) (content : Content) : Prop where
  due : Due size content.emissions
  finished : ∀ {position}, content.ending = .finished position → position ≤ 8 * size

/-- One block, and what the data go on with. -/
theorem within_afterBlock {read : Array Emission × Except Ending Bits} (hread : Reads size read)
    {next : Array Emission → Bits → Content}
    (hnext : ∀ {done bits}, Due size done → bits.Within size → (next done bits).Within size)
    (last : Bool) :
    Content.Within size
      (match read with
        | (done, .error ending) => ⟨done, ending⟩
        | (done, .ok bits) =>
          if last then ⟨done, .finished bits.position⟩ else next done bits) := by
  obtain ⟨done, result⟩ := read
  cases result with
  | error ending =>
      refine ⟨hread.due, ?_⟩
      intro position h
      exact absurd h (hread.unfinished rfl position)
  | ok bits =>
      have hbits := hread.within rfl
      cases last with
      | false => exact hnext hread.due hbits
      | true =>
          refine ⟨hread.due, ?_⟩
          intro position h
          rw [← Ending.finished.inj h]
          rw [Bits.Within] at hbits
          omega

theorem within_blocks {fuel : Nat} {done : Array Emission} {bits : Bits} (hdone : Due size done)
    (hbits : bits.Within size) : (blocks fuel done bits).Within size := by
  induction fuel generalizing done bits with
  | zero => exact ⟨hdone, fun h => Ending.noConfusion h⟩
  | succ fuel ih =>
      rw [blocks]
      cases hread : Body.scanHeading bits with
      | error ending =>
          refine ⟨hdone, ?_⟩
          intro position h
          have hheading : Keeps size Body.scanHeading := Body.keeps_scanHeading
          exact absurd h (hheading.unfinished hread position)
      | ok read =>
          obtain ⟨⟨last, body⟩, after⟩ := read
          have hafter := Body.keeps_scanHeading.within hbits hread
          cases body with
          | stored length => exact within_afterBlock (reads_stored hdone hafter) ih last
          | coded literals distances => exact within_afterBlock (reads_coded hdone hafter) ih last

theorem within_ofBits {bits : Bits} (hbits : bits.Within size) : (ofBits bits).Within size :=
  within_blocks (fun emission h => absurd h (Array.not_mem_empty emission)) hbits

end Content

end BuildVersion.Deflate
