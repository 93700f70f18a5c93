import Mathlib.Algebra.Group.Nat.Defs
import BuildVersion.Gzip.Chain
import BuildVersion.Proofs.Deflate.Position

namespace BuildVersion.Gzip

/-- A number in so many bytes, the least significant first. -/
def bytesOf : (width : Nat) → Nat → List UInt8
  | 0, _ => []
  | width + 1, n => UInt8.ofNat (n % 256) :: bytesOf width (n / 256)

@[simp] theorem length_bytesOf (width n : Nat) : (bytesOf width n).length = width := by
  induction width generalizing n with
  | zero => rfl
  | succ width ih => rw [bytesOf, List.length_cons, ih]

theorem littleEndian_bytesOf (width n : Nat) :
    littleEndian (bytesOf width n) = n % 256 ^ width := by
  induction width generalizing n with
  | zero => rw [bytesOf, littleEndian, Nat.pow_zero, Nat.mod_one]
  | succ width ih =>
      have hbyte : (UInt8.ofNat (n % 256)).toNat = n % 256 := by
        simp
      rw [bytesOf, littleEndian, ih, hbyte, Nat.pow_succ', Nat.mod_mul]

theorem littleEndian_bytesOf_of_lt {width n : Nat} (hn : n < 256 ^ width) :
    littleEndian (bytesOf width n) = n := by
  rw [littleEndian_bytesOf, Nat.mod_eq_of_lt hn]

theorem skip_append {n : Nat} {bytes rest : List UInt8} (hbytes : bytes.length = n) :
    skip n (bytes ++ rest) = .ok rest := by
  have hlong : ¬ (bytes ++ rest).length < n := by
    rw [List.length_append]
    omega
  rw [skip, if_neg hlong, ← hbytes, List.drop_left]

/-- What the heading of a member tells besides the data that follow it. -/
structure Heading where
  isText : Bool
  time : List UInt8
  level : UInt8
  system : UInt8
  extra : Option (List UInt8)
  name : Option (List UInt8)
  comment : Option (List UInt8)
  check : Option (List UInt8)
  length_time : time.length = 4
  length_extra : ∀ bytes ∈ extra, bytes.length < 65536
  zero_notMem_name : ∀ bytes ∈ name, 0 ∉ bytes
  zero_notMem_comment : ∀ bytes ∈ comment, 0 ∉ bytes
  length_check : ∀ bytes ∈ check, bytes.length = 2

namespace Heading

/-- Which fields there are. -/
def flags (heading : Heading) : UInt8 :=
  UInt8.ofNat (heading.isText.toNat + 2 * heading.check.isSome.toNat +
    4 * heading.extra.isSome.toNat + 8 * heading.name.isSome.toNat +
    16 * heading.comment.isSome.toNat)

def extraField (heading : Heading) : List UInt8 :=
  heading.extra.elim [] fun bytes => bytesOf 2 bytes.length ++ bytes

def nameField (name : Option (List UInt8)) : List UInt8 :=
  name.elim [] fun bytes => bytes ++ [0]

def written (heading : Heading) : List UInt8 :=
  0x1F :: 0x8B :: (8 :: heading.flags :: (heading.time ++ [heading.level, heading.system]) ++
    (heading.extraField ++ (nameField heading.name ++ (nameField heading.comment ++
      heading.check.getD []))))

theorem testBit_flags (heading : Heading) :
    heading.flags.toNat.testBit 1 = heading.check.isSome ∧
      heading.flags.toNat.testBit 2 = heading.extra.isSome ∧
      heading.flags.toNat.testBit 3 = heading.name.isSome ∧
      heading.flags.toNat.testBit 4 = heading.comment.isSome := by
  rw [flags]
  generalize heading.check.isSome = check
  generalize heading.extra.isSome = extra
  generalize heading.name.isSome = name
  generalize heading.comment.isSome = comment
  revert check extra name comment
  cases heading.isText <;> decide

theorem skipName_append {bytes rest : List UInt8} (hbytes : 0 ∉ bytes) :
    skipName (bytes ++ [0] ++ rest) = rest := by
  have hall : ∀ b ∈ bytes, decide (b ≠ 0) = true := by
    intro b hb
    rw [decide_eq_true_eq]
    rintro rfl
    exact hbytes hb
  rw [skipName, List.append_assoc, List.dropWhile_append_of_pos hall]
  simp

theorem skipExtra_append {bytes rest : List UInt8} (hbytes : bytes.length < 65536) :
    skipExtra (bytesOf 2 bytes.length ++ bytes ++ rest) = .ok rest := by
  have hlength : littleEndian ((bytesOf 2 bytes.length ++ (bytes ++ rest)).take 2) =
      bytes.length := by
    rw [List.take_left' (length_bytesOf 2 _), littleEndian_bytesOf_of_lt hbytes]
  rw [skipExtra, List.append_assoc, skip_append (length_bytesOf 2 _), hlength]
  exact skip_append rfl

section Fields

variable {heading : Heading} {rest : List UInt8} {α : Type} (f : List UInt8 → Except Breach α)

theorem afterExtra :
    (if heading.extra.isSome = true then skipExtra (heading.extraField ++ rest) >>= f
    else pure (heading.extraField ++ rest) >>= f) = f rest := by
  rw [extraField]
  cases hextra : heading.extra with
  | none => rfl
  | some bytes =>
      have hlength := heading.length_extra bytes hextra
      rw [Option.isSome_some, if_pos rfl, Option.elim_some, skipExtra_append hlength]
      rfl

theorem afterName {name : Option (List UInt8)} (hname : ∀ bytes ∈ name, 0 ∉ bytes) :
    (if name.isSome = true then skipName (nameField name ++ rest) else nameField name ++ rest) =
      rest := by
  cases name with
  | none => rfl
  | some bytes =>
      rw [Option.isSome_some, if_pos rfl]
      exact skipName_append (hname bytes rfl)

theorem afterCheck :
    (if heading.check.isSome = true then skip 2 (heading.check.getD [] ++ rest) >>= f
    else pure (heading.check.getD [] ++ rest) >>= f) = f rest := by
  cases hcheck : heading.check with
  | none => rfl
  | some bytes =>
      rw [Option.isSome_some, if_pos rfl, Option.getD_some,
        skip_append (heading.length_check bytes hcheck)]
      rfl

end Fields

theorem ok_bind {α β : Type} (a : α) (f : α → Except Breach β) : (Except.ok a >>= f) = f a := rfl

theorem afterHeading_written (heading : Heading) (data : List UInt8) :
    afterHeading (heading.written ++ data) = .ok (some data) := by
  obtain ⟨hcheck, hextra, hname, hcomment⟩ := heading.testBit_flags
  have hfixed : (8 :: heading.flags :: (heading.time ++ [heading.level, heading.system])).length =
      8 := by
    simp [heading.length_time]
  rw [written, List.cons_append, List.cons_append, List.append_assoc, afterHeading,
    List.take_left' hfixed, skip_append hfixed]
  simp only [ok_bind, List.headD_cons, ne_eq, not_true_eq_false, if_false,
    List.getD_cons_succ, List.getD_cons_zero, hcheck, hextra, hname, hcomment, List.append_assoc,
    afterExtra, afterName heading.zero_notMem_name, afterName heading.zero_notMem_comment,
    afterCheck]
  rfl

end Heading

/-- The check sum and the number of the bytes of a member. -/
def trailer (content : List UInt8) : List UInt8 :=
  bytesOf 4 (checksum content).toNat ++ bytesOf 4 content.length

theorem afterTrailer_trailer (content rest : List UInt8) :
    afterTrailer content (trailer content ++ rest) = .ok rest := by
  have hlength : (trailer content).length = 8 := by
    simp [trailer]
  have hsum : littleEndian (bytesOf 4 (checksum content).toNat) = (checksum content).toNat :=
    littleEndian_bytesOf_of_lt (checksum content).toNat_lt
  have hcount : littleEndian (bytesOf 4 content.length) = content.length % 0x100000000 :=
    littleEndian_bytesOf 4 content.length
  rw [afterTrailer, skip_append hlength, trailer, List.append_assoc,
    List.take_left' (length_bytesOf 4 _), List.drop_left' (length_bytesOf 4 _),
    List.take_left' (length_bytesOf 4 _), hsum, hcount]
  simp

/-- How many bytes of the data are taken when they finish at a position in bits. -/
def taken (start position : Nat) : Nat :=
  (position + 7) / 8 - start

/-- What the rest of a file holds, of which `skipped` bytes are passed: the contents of its members
one after the other. -/
inductive Holds : (skipped : Nat) → (file content : List UInt8) → Prop
  | done (skipped : Nat) : Holds skipped [] []
  | member {skipped zeros position : Nat} (heading : Heading) {data rest more : List UInt8}
      {content : Deflate.Content}
      (hdata : Deflate.Content.ofBits (.ofBytes (skipped + heading.written.length) data) = content)
      (hfinished : content.ending = .finished position)
      (htaken : data.drop (taken (skipped + heading.written.length) position) =
        trailer content.bytes ++ (List.replicate zeros 0 ++ rest))
      (hmore : Holds (skipped + (heading.written ++ data).length - rest.length) rest more) :
      Holds skipped (heading.written ++ data) (content.bytes ++ more)

/-- A chain that comes to its end, with data that lie inside a file of so many bytes. -/
inductive Chain.Whole (size : Nat) : Chain → Prop
  | done : Whole size .done
  | member {start position : Nat} {content : Deflate.Content} {rest : Chain}
      (hwithin : content.Within size) (hfinished : content.ending = .finished position)
      (hrest : rest.Whole size) : Whole size (.member start content rest)

namespace Holds

variable {skipped : Nat} {file content : List UInt8}

theorem dropWhile_zeros (h : Holds skipped file content) (zeros : Nat) :
    (List.replicate zeros 0 ++ file).dropWhile (· = 0) = file := by
  rw [List.dropWhile_append_of_pos (by simp)]
  cases h with
  | done => rfl
  | member => rfl

theorem whole_ofRest (h : Holds skipped file content) {fuel : Nat} (hfuel : file.length < fuel) :
    (Chain.ofRest (skipped + file.length) fuel file).Whole (skipped + file.length) ∧
      (Chain.ofRest (skipped + file.length) fuel file).bytes = content := by
  induction h generalizing fuel with
  | done skipped =>
      cases fuel with
      | zero => exact ⟨.done, rfl⟩
      | succ fuel => exact ⟨.done, rfl⟩
  | @member skipped zeros position heading data rest more content hdata hfinished htaken hmore ih =>
      cases fuel with
      | zero => omega
      | succ fuel =>
          have hlength : (heading.written ++ data).length =
              heading.written.length + data.length := List.length_append
          have hpositive : 2 ≤ heading.written.length := by
            simp [Heading.written]
          have hsuffix : rest.length ≤ data.length := by
            have hdropped := congrArg List.length htaken
            simp only [List.length_drop, List.length_append] at hdropped
            omega
          have hstart : skipped + (heading.written ++ data).length - data.length =
              skipped + heading.written.length := by omega
          have hwithin : content.Within (skipped + (heading.written ++ data).length) := by
            rw [← hdata, hlength, ← Nat.add_assoc]
            exact Deflate.Content.within_ofBits (Deflate.Bits.within_ofBytes _ _)
          have hless : rest.length < fuel := by omega
          have hnext := ih hless
          rw [Nat.sub_add_cancel (by omega)] at hnext
          rw [Chain.ofRest, heading.afterHeading_written]
          simp only [hstart, hdata, hfinished]
          have htail : data.drop ((position + 7) / 8 - (skipped + heading.written.length)) = _ :=
            htaken
          rw [htail, afterTrailer_trailer]
          dsimp only
          rw [hmore.dropWhile_zeros]
          exact ⟨.member hwithin hfinished hnext.1, by rw [Chain.bytes, hnext.2]⟩

theorem whole_ofBytes (h : Holds 0 file content) :
    (Chain.ofBytes file).Whole file.length ∧ (Chain.ofBytes file).bytes = content := by
  have hrest := h.whole_ofRest (Nat.lt_succ_self file.length)
  rw [Nat.zero_add] at hrest
  exact hrest

end Holds

end BuildVersion.Gzip
