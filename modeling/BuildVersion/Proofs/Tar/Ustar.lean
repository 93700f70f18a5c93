import Mathlib.Data.List.Basic
import BuildVersion.Proofs.Tar.Octal

namespace BuildVersion.Tar

/-- A number in a field of `width + 1` bytes. -/
def field (width n : Nat) : List UInt8 :=
  octal width n ++ [0]

@[simp] theorem length_field (width n : Nat) : (field width n).length = width + 1 := by
  simp [field]

theorem number?_field {width n : Nat} (hn : n < 8 ^ (width + 1)) :
    Header.number? (field (width + 1) n) = some (n : Int) :=
  number?_octal hn []

def byteSum (bytes : List UInt8) : Nat :=
  (bytes.map UInt8.toNat).sum

theorem foldl_add_toNat (bytes : List UInt8) (n : Int) :
    bytes.foldl (fun (n : Int) b => n + (b.toNat : Int)) n = n + byteSum bytes := by
  induction bytes generalizing n with
  | nil => simp [byteSum]
  | cons b bytes ih =>
      rw [List.foldl_cons, ih, byteSum, byteSum, List.map_cons, List.sum_cons]
      omega

theorem byteSum_le (bytes : List UInt8) : byteSum bytes ≤ 255 * bytes.length := by
  induction bytes with
  | nil => exact Nat.le_refl 0
  | cons b bytes ih =>
      have hb : b.toNat < 256 := b.toNat_lt
      rw [byteSum] at ih
      rw [byteSum, List.map_cons, List.sum_cons, List.length_cons]
      omega

/-- What a header tells of a file besides its name and its size. -/
structure Attributes where
  mode : Fin (8 ^ 7)
  owner : Fin (8 ^ 7)
  group : Fin (8 ^ 7)
  time : Fin (8 ^ 11)
  ownerName : List UInt8
  groupName : List UInt8
  /-- The numbers of a device, which some writers leave out. -/
  device : Option (Fin (8 ^ 7) × Fin (8 ^ 7))
  /-- Whether the type is written as a zero byte, as before ustar. -/
  oldType : Bool
  length_ownerName : ownerName.length = 32
  length_groupName : groupName.length = 32

structure RegularFile where
  name : Name
  content : List UInt8
  attributes : Attributes
  name_ne_nil : name ≠ []
  length_name_le : name.length ≤ 100
  zero_notMem_name : 0 ∉ name
  getLast?_name : name.getLast? ≠ some Name.slash
  length_content_lt : content.length < 8 ^ 11

namespace RegularFile

variable (file : RegularFile)

def typeByte : UInt8 := if file.attributes.oldType then 0 else 0x30

/-- The number of a device, or zeros. -/
def deviceField (number : Option (Fin (8 ^ 7))) : List UInt8 :=
  number.elim (List.replicate 8 0) fun n => field 7 n

/-- The fields before the check sum. -/
def frontFields : List (List UInt8) :=
  [file.name ++ List.replicate (100 - file.name.length) 0, field 7 file.attributes.mode,
    field 7 file.attributes.owner, field 7 file.attributes.group, field 11 file.content.length,
    field 11 file.attributes.time]

/-- The fields behind the check sum: the type, the name of a link, the mark and version of the
format, the names of owner and group, a device, the start of a long name, and the rest. -/
def backFields : List (List UInt8) :=
  [[file.typeByte], List.replicate 100 0, [0x75, 0x73, 0x74, 0x61, 0x72, 0], [0x30, 0x30],
    file.attributes.ownerName, file.attributes.groupName,
    deviceField (file.attributes.device.map (·.1)), deviceField (file.attributes.device.map (·.2)),
    List.replicate 155 0, List.replicate 12 0]

/-- The sum of the header, in which blanks stand in for the sum. -/
def sum : Nat :=
  256 + byteSum (file.frontFields.flatten ++ file.backFields.flatten)

def fields : List (List UInt8) :=
  file.frontFields ++ (octal 6 file.sum ++ [0, 0x20]) :: file.backFields

def header : List UInt8 :=
  file.fields.flatten

/-- How many zeros fill up the last block of the content. -/
def padding : Nat :=
  (blockSize - file.content.length % blockSize) % blockSize

def written : List UInt8 :=
  file.header ++ (file.content ++ List.replicate file.padding 0)

end RegularFile

/-- The files of an archive, without the zeros at its end. -/
def writtenAll (files : List RegularFile) : List UInt8 :=
  files.flatMap RegularFile.written

/-- An archive with two blocks of zeros and more zeros at its end. -/
def archiveOf (files : List RegularFile) (more : Nat) : List UInt8 :=
  writtenAll files ++ List.replicate (2 * blockSize + more) 0

namespace Header

theorem slice_append_of_length_le {a b : List UInt8} {start n : Nat} (ha : a.length ≤ start) :
    slice start n (a ++ b) = slice (start - a.length) n b := by
  rw [slice, slice, List.drop_append, List.drop_of_length_le ha, List.nil_append]

theorem slice_zero_append {a b : List UInt8} {n : Nat} (ha : a.length = n) :
    slice 0 n (a ++ b) = a := by
  rw [slice, List.drop_zero, List.take_left' ha]

/-- Each of several fields stands where those before it end. -/
theorem slice_flatten (fields : List (List UInt8)) {k : Nat} (hk : k < fields.length) :
    slice ((fields.map List.length).take k).sum (fields[k]).length fields.flatten = fields[k] := by
  induction fields generalizing k with
  | nil => contradiction
  | cons first rest ih =>
      cases k with
      | zero => exact slice_zero_append rfl
      | succ k =>
          rw [List.map_cons, List.take_succ_cons, List.sum_cons, List.flatten_cons,
            slice_append_of_length_le (Nat.le_add_right _ _), Nat.add_sub_cancel_left]
          exact ih (Nat.lt_of_succ_lt_succ hk)

theorem getD_eq_of_slice {block : List UInt8} {i : Nat} {b : UInt8} (h : slice i 1 block = [b]) :
    block.getD i 0 = b := by
  have hhead : (block.drop i).head? = some b := by
    have htake := List.head?_take (l := block.drop i) (i := 1)
    rw [if_neg Nat.one_ne_zero] at htake
    rw [slice] at h
    rw [← htake, h, List.head?_singleton]
  rw [List.getD_eq_getElem?_getD, ← List.head?_drop, hhead, Option.getD_some]

end Header

namespace RegularFile

variable (file : RegularFile)

@[simp] theorem length_deviceField (number : Option (Fin (8 ^ 7))) :
    (deviceField number).length = 8 := by
  cases number <;> simp [deviceField]

theorem number?_deviceField (number : Option (Fin (8 ^ 7))) :
    ∃ n, Header.number? (deviceField number) = some n := by
  cases number with
  | none => exact ⟨0, by decide⟩
  | some n => exact ⟨n, number?_field n.isLt⟩

def widths : List Nat := [100, 8, 8, 8, 12, 12, 8, 1, 100, 6, 2, 32, 32, 8, 8, 155, 12]

theorem map_length_fields : file.fields.map List.length = widths := by
  have hname := file.length_name_le
  simp [fields, frontFields, backFields, widths, file.attributes.length_ownerName,
    file.attributes.length_groupName]
  omega

theorem length_header : file.header.length = blockSize := by
  rw [header, List.length_flatten, map_length_fields]
  rfl

theorem slice_header {k start n : Nat} {bytes : List UInt8} (hfield : file.fields[k]? = some bytes)
    (hstart : (widths.take k).sum = start) (hn : widths[k]? = some n) :
    Header.slice start n file.header = bytes := by
  obtain ⟨hk, rfl⟩ := List.getElem?_eq_some_iff.mp hfield
  have hlength : (file.fields[k]).length = n := by
    rw [← map_length_fields file, List.getElem?_map, hfield] at hn
    exact Option.some.inj hn
  have hslice := Header.slice_flatten file.fields hk
  rw [map_length_fields, hstart, hlength] at hslice
  exact hslice

theorem slice_name : Header.slice 0 100 file.header =
    file.name ++ List.replicate (100 - file.name.length) 0 :=
  file.slice_header (k := 0) rfl rfl rfl

theorem slice_size : Header.slice 124 12 file.header = field 11 file.content.length :=
  file.slice_header (k := 4) rfl rfl rfl

theorem slice_sum : Header.slice 148 8 file.header = octal 6 file.sum ++ [0, 0x20] :=
  file.slice_header (k := 6) rfl rfl rfl

theorem getD_type : file.header.getD 156 0 = file.typeByte :=
  Header.getD_eq_of_slice (file.slice_header (k := 7) rfl rfl rfl)

theorem slice_start : Header.slice 345 155 file.header = List.replicate 155 0 :=
  file.slice_header (k := 15) rfl rfl rfl

theorem length_flatten_frontFields : file.frontFields.flatten.length = 148 := by
  have hname := file.length_name_le
  simp [frontFields]
  omega

theorem length_flatten_backFields : file.backFields.flatten.length = 356 := by
  rw [List.length_flatten]
  simp [backFields, file.attributes.length_ownerName, file.attributes.length_groupName]

theorem sums_header : (Header.sums file.header).1 = file.sum := by
  have hfront := file.length_flatten_frontFields
  have hheader : file.header = file.frontFields.flatten ++
      ((octal 6 file.sum ++ [0, 0x20]) ++ file.backFields.flatten) := by
    rw [header, fields, List.flatten_append, List.flatten_cons]
  have htake : file.header.take 148 = file.frontFields.flatten := by
    rw [hheader, List.take_left' hfront]
  have hdrop : file.header.drop 156 = file.backFields.flatten := by
    rw [hheader, ← List.append_assoc, List.drop_left' (by simp [hfront])]
  rw [Header.sums, htake, hdrop]
  dsimp only
  rw [foldl_add_toNat, sum]
  rfl

theorem sum_lt : file.sum < 8 ^ 6 := by
  have hbound := byteSum_le (file.frontFields.flatten ++ file.backFields.flatten)
  rw [List.length_append, length_flatten_frontFields, length_flatten_backFields] at hbound
  rw [sum]
  omega

theorem read?_header : ∃ header, Header.read? file.header = some header ∧
    header.name = file.name ∧ header.kind = .file ∧ header.size = file.content.length := by
  have hname : Name.untilZero (Header.slice 0 100 file.header) = file.name := by
    rw [slice_name, Name.untilZero, List.takeWhile_append_of_pos]
    · cases 100 - file.name.length <;> simp [List.replicate_succ]
    · intro b hb
      rw [decide_eq_true_eq]
      rintro rfl
      exact file.zero_notMem_name hb
  have hstart : Name.untilZero (Header.slice 345 155 file.header) = [] := by
    rw [slice_start]
    rfl
  have hsize :
      Header.number? (Header.slice 124 12 file.header) = some (file.content.length : Int) := by
    rw [slice_size]
    exact number?_field file.length_content_lt
  have hkind : (if file.header.getD 156 0 = 0 ∧ file.name.getLast? = some Name.slash then
      Kind.directory else Kind.ofByte (file.header.getD 156 0)) = .file := by
    rw [if_neg fun h => file.getLast?_name h.2, getD_type, typeByte]
    cases file.attributes.oldType <;> rfl
  obtain ⟨major, hmajor⟩ := number?_deviceField (file.attributes.device.map (·.1))
  obtain ⟨minor, hminor⟩ := number?_deviceField (file.attributes.device.map (·.2))
  have hmode : Header.number? (Header.slice 100 8 file.header) = some _ :=
    (congrArg _ (file.slice_header (k := 1) rfl rfl rfl)).trans
      (number?_field file.attributes.mode.isLt)
  have howner : Header.number? (Header.slice 108 8 file.header) = some _ :=
    (congrArg _ (file.slice_header (k := 2) rfl rfl rfl)).trans
      (number?_field file.attributes.owner.isLt)
  have hgroup : Header.number? (Header.slice 116 8 file.header) = some _ :=
    (congrArg _ (file.slice_header (k := 3) rfl rfl rfl)).trans
      (number?_field file.attributes.group.isLt)
  have htime : Header.number? (Header.slice 136 12 file.header) = some _ :=
    (congrArg _ (file.slice_header (k := 5) rfl rfl rfl)).trans
      (number?_field file.attributes.time.isLt)
  have hfirst : Header.number? (Header.slice 329 8 file.header) = some _ :=
    (congrArg _ (file.slice_header (k := 13) rfl rfl rfl)).trans hmajor
  have hsecond : Header.number? (Header.slice 337 8 file.header) = some _ :=
    (congrArg _ (file.slice_header (k := 14) rfl rfl rfl)).trans hminor
  rw [Header.read?]
  simp only [List.mapM_cons, List.mapM_nil, hmode, howner, hgroup, htime, hfirst, hsecond, hsize,
    hname, hkind, hstart, Option.bind_eq_bind, Option.bind_some, Option.pure_def, reduceCtorEq,
    if_false, ne_eq, not_true_eq_false, false_and]
  exact ⟨_, rfl, rfl, rfl, rfl⟩

/-- The header that a file was written with. -/
theorem ofBlock_header : ∃ header, Header.ofBlock file.header = .ok header ∧
    header.name = file.name ∧ header.kind = .file ∧ header.size = file.content.length := by
  obtain ⟨header, hread, hfile⟩ := file.read?_header
  refine ⟨header, ?_, hfile⟩
  have hlength := file.length_header
  have hempty : file.header ≠ [] := by
    intro hnil
    rw [hnil] at hlength
    contradiction
  -- The blank behind the sum is no zero.
  have hzero : file.header.all (· = 0) = false := by
    have hblank : (0x20 : UInt8) ∈ file.header :=
      List.mem_flatten.mpr ⟨octal 6 file.sum ++ [0, 0x20], by simp [fields], by simp⟩
    rw [List.all_eq_false]
    exact ⟨0x20, hblank, by decide⟩
  have hsum : Header.number? (Header.slice 148 8 file.header) = some (file.sum : Int) := by
    rw [slice_sum]
    exact number?_octal file.sum_lt [0x20]
  rw [Header.ofBlock, if_neg hempty, if_neg (not_not.mpr hlength), hzero, if_neg (by decide), hsum]
  simp only [sums_header, ne_eq, not_true_eq_false, false_and, if_false, hread]

end RegularFile

end BuildVersion.Tar
