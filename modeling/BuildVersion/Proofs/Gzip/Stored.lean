import BuildVersion.Proofs.Gzip.Complete

namespace BuildVersion.Deflate

theorem valueOfBits_append (front rest : List Bool) :
    valueOfBits (front ++ rest) = valueOfBits front + 2 ^ front.length * valueOfBits rest := by
  induction front with
  | nil => simp [valueOfBits]
  | cons b front ih =>
      rw [List.cons_append, valueOfBits, ih, valueOfBits, List.length_cons, Nat.pow_succ',
        Nat.mul_add, Nat.mul_assoc, Nat.add_assoc]

theorem valueOfBits_testBit : ∀ n < 256, valueOfBits ((List.range 8).map n.testBit) = n := by
  decide +kernel

theorem valueOfBits_bitsOfByte (b : UInt8) : valueOfBits (bitsOfByte b) = b.toNat :=
  valueOfBits_testBit b.toNat b.toNat_lt

theorem length_flatMap_bitsOfByte (bytes : List UInt8) :
    (bytes.flatMap bitsOfByte).length = 8 * bytes.length := by
  induction bytes with
  | nil => rfl
  | cons b bytes ih =>
      rw [List.flatMap_cons, List.length_append, ih, length_bitsOfByte, List.length_cons]
      omega

theorem valueOfBits_flatMap (bytes : List UInt8) :
    valueOfBits (bytes.flatMap bitsOfByte) = Gzip.littleEndian bytes := by
  induction bytes with
  | nil => rfl
  | cons b bytes ih =>
      rw [List.flatMap_cons, valueOfBits_append, ih, valueOfBits_bitsOfByte, length_bitsOfByte]
      rfl

theorem Scan.number_append {n position : Nat} {word rest : List Bool} (hword : word.length = n) :
    Scan.number n ⟨position, word ++ rest⟩ = .ok (valueOfBits word, ⟨position + n, rest⟩) := by
  rw [Scan.number]
  simp [List.take_left' hword, List.drop_left' hword, hword]

/-- A number in whole bytes. -/
theorem Scan.number_bytesOf {width n position : Nat} {rest : List UInt8} (hn : n < 256 ^ width) :
    Scan.number (8 * width) ⟨position, (Gzip.bytesOf width n ++ rest).flatMap bitsOfByte⟩ =
      .ok (n, ⟨position + 8 * width, rest.flatMap bitsOfByte⟩) := by
  have hlength : ((Gzip.bytesOf width n).flatMap bitsOfByte).length = 8 * width := by
    rw [length_flatMap_bitsOfByte, Gzip.length_bytesOf]
  rw [List.flatMap_append, Scan.number_append hlength, valueOfBits_flatMap,
    Gzip.littleEndian_bytesOf_of_lt hn]

theorem Scan.bind_of_ok {α β : Type} {x : Scan α} {f : α → Scan β} {bits after : Bits} {a : α}
    (h : x bits = .ok (a, after)) : (x >>= f) bits = f a after := by
  change (x bits).bind (fun result => f result.1 result.2) = f a after
  rw [h]
  rfl

/-- The last block of compressed data, with the content as it is. -/
def storedBlock (content : List UInt8) : List UInt8 :=
  1 :: (Gzip.bytesOf 2 content.length ++ (Gzip.bytesOf 2 (65535 - content.length) ++ content))

variable {content rest : List UInt8} {skipped : Nat}

theorem scanHeading_storedBlock (hcontent : content.length ≤ 65535) :
    Body.scanHeading (.ofBytes skipped (storedBlock content ++ rest)) =
      .ok ((true, .stored content.length),
        .ofBytes (skipped + 5) (content ++ rest)) := by
  have hlength : content.length < 256 ^ 2 := by omega
  have hinverse : 65535 - content.length < 256 ^ 2 := by omega
  let fields := Gzip.bytesOf 2 content.length ++
    (Gzip.bytesOf 2 (65535 - content.length) ++ (content ++ rest))
  have hbits : Bits.ofBytes skipped (storedBlock content ++ rest) =
      ⟨8 * skipped, [true] ++ ([false, false] ++
        (List.replicate 5 false ++ fields.flatMap bitsOfByte))⟩ := by
    have hbyte : bitsOfByte 1 = [true] ++ ([false, false] ++ List.replicate 5 false) := by decide
    rw [Bits.ofBytes, storedBlock, List.cons_append, List.flatMap_cons, hbyte]
    simp only [fields, List.append_assoc]
  have halign : Scan.align ⟨8 * skipped + 1 + 2,
      List.replicate 5 false ++ fields.flatMap bitsOfByte⟩ =
      .ok ((), .ofBytes (skipped + 1) fields) := by
    have hskip : (8 - (8 * skipped + 1 + 2) % 8) % 8 = 5 := by omega
    rw [Scan.align, Bits.align]
    simp only [hskip]
    rw [List.drop_left' List.length_replicate, Bits.ofBytes, Nat.mul_add]
  have hstored : Body.scanStored ⟨8 * skipped + 1 + 2,
      List.replicate 5 false ++ fields.flatMap bitsOfByte⟩ =
      .ok (.stored content.length, .ofBytes (skipped + 5) (content ++ rest)) := by
    rw [Body.scanStored, Scan.bind_of_ok halign, Bits.ofBytes,
      Scan.bind_of_ok (Scan.number_bytesOf hlength),
      Scan.bind_of_ok (Scan.number_bytesOf hinverse), if_pos (by omega)]
    rfl
  rw [Body.scanHeading, hbits, Scan.bind_of_ok (Scan.number_append (n := 1) rfl),
    Scan.bind_of_ok (Scan.number_append (n := 2) rfl)]
  change (Body.scanStored >>= fun body => pure (decide (1 = 1), body)) _ = _
  rw [Scan.bind_of_ok hstored]
  rfl

/-- Stored bytes are read one after the other. -/
theorem Content.exists_stored (content rest : List UInt8) (done : Array Emission) (skipped : Nat) :
    ∃ emissions : Array Emission,
      Content.stored content.length done (.ofBytes skipped (content ++ rest)) =
        (emissions, .ok (.ofBytes (skipped + content.length) rest)) ∧
      emissions.toList.map (·.byte) = done.toList.map (·.byte) ++ content := by
  induction content generalizing done skipped with
  | nil => exact ⟨done, rfl, (List.append_nil _).symm⟩
  | cons b content ih =>
      have hnumber : Scan.number 8 (.ofBytes skipped (b :: (content ++ rest))) =
          .ok (b.toNat, .ofBytes (skipped + 1) (content ++ rest)) := by
        rw [Bits.ofBytes, List.flatMap_cons, Scan.number_append (length_bitsOfByte b),
          valueOfBits_bitsOfByte]
        rfl
      obtain ⟨emissions, hstored, hbytes⟩ := ih
        (done.push ⟨UInt8.ofNat b.toNat, (Bits.ofBytes skipped (b :: (content ++ rest))).position,
          (Bits.ofBytes (skipped + 1) (content ++ rest)).position⟩) (skipped + 1)
      refine ⟨emissions, ?_, ?_⟩
      · rw [List.length_cons, List.cons_append, Content.stored, hnumber]
        simp only [hstored]
        rw [Nat.add_assoc, Nat.add_comm 1]
      · rw [hbytes]
        simp

theorem exists_ofBits_storedBlock (skipped : Nat) (rest : List UInt8)
    (hcontent : content.length ≤ 65535) :
    ∃ found : Content, Content.ofBits (.ofBytes skipped (storedBlock content ++ rest)) = found ∧
      found.bytes = content ∧ found.ending = .finished (8 * (skipped + 5 + content.length)) := by
  obtain ⟨emissions, hstored, hbytes⟩ := Content.exists_stored content rest #[] (skipped + 5)
  refine ⟨⟨emissions, .finished _⟩, ?_, hbytes, rfl⟩
  rw [Content.ofBits, Content.blocks, scanHeading_storedBlock hcontent]
  simp only [hstored, if_true]
  rfl

end BuildVersion.Deflate

namespace BuildVersion.Gzip

/-- A gzip file of one member that stores its content. -/
def storedFile (heading : Heading) (content : List UInt8) : List UInt8 :=
  heading.written ++ (Deflate.storedBlock content ++ trailer content)

theorem holds_storedFile (heading : Heading) {content : List UInt8}
    (hcontent : content.length ≤ 65535) : Holds 0 (storedFile heading content) content := by
  obtain ⟨found, hdata, hbytes, hending⟩ := Deflate.exists_ofBits_storedBlock
    (0 + heading.written.length) (trailer content) hcontent
  have htail : (Deflate.storedBlock content ++ trailer content).drop
      (taken (0 + heading.written.length)
        (8 * (0 + heading.written.length + 5 + content.length))) =
      trailer found.bytes ++ (List.replicate 0 0 ++ []) := by
    have hlength : (Deflate.storedBlock content).length = 5 + content.length := by
      simp [Deflate.storedBlock]
      omega
    have htaken : taken (0 + heading.written.length)
        (8 * (0 + heading.written.length + 5 + content.length)) = 5 + content.length := by
      rw [taken]
      omega
    rw [htaken, List.drop_left' hlength, hbytes]
    simp
  have hholds := Holds.member heading hdata hending htail (.done _)
  rwa [hbytes, List.append_nil] at hholds

end BuildVersion.Gzip
