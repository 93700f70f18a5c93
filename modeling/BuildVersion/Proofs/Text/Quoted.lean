import Mathlib.Logic.Basic
import Mathlib.Tactic.SplitIfs
import BuildVersion.Proofs.Text.Hexadecimal
import BuildVersion.Proofs.Text.Utf8

namespace BuildVersion.Text

def lineEnds : List Char :=
  ['\n', '\x0b', '\x0c', '\r', '\x1c', '\x1d', '\x1e', '\x85', '\u2028', '\u2029']

/-- Text that is shown on one line, with nothing in it that is not seen. -/
def IsVisible (s : List Char) : Prop :=
  ∀ c ∈ s, isPrintable c = true ∧ c ∉ lineEnds

theorem isPrintable_of_mem_lineEnds {c : Char} (hc : c ∈ lineEnds) : isPrintable c = false := by
  have hall : (lineEnds.all fun c => !isPrintable c) = true := by decide +kernel
  simpa using List.all_eq_true.mp hall c hc

theorem isVisible_iff {s : List Char} : IsVisible s ↔ ∀ c ∈ s, isPrintable c = true := by
  refine forall₂_congr fun c _ => and_iff_left_of_imp fun hc hend => ?_
  rw [isPrintable_of_mem_lineEnds hend] at hc
  contradiction

theorem isVisible_of_all {s : List Char} (hs : s.all isPrintable = true) : IsVisible s :=
  isVisible_iff.mpr (List.all_eq_true.mp hs)

theorem isVisible_append {s t : List Char} : IsVisible (s ++ t) ↔ IsVisible s ∧ IsVisible t :=
  List.forall_mem_append

namespace Quoted

/-- The character whose code point stands in `width` hexadecimal digits, and what follows. -/
def characterAt? (width : Nat) (s : List Char) : Option (Char × List Char) :=
  (hexNumber? (s.take width)).map fun n => (Char.ofNat n, s.drop width)

/-- The first character that a quoted text shows, and what follows what stands for it. -/
def first? : List Char → Option (Char × List Char)
  | '\\' :: 't' :: rest => some ('\t', rest)
  | '\\' :: 'n' :: rest => some ('\n', rest)
  | '\\' :: 'r' :: rest => some ('\r', rest)
  | '\\' :: 'x' :: rest => characterAt? 2 rest
  | '\\' :: 'u' :: rest => characterAt? 4 rest
  | '\\' :: 'U' :: rest => characterAt? 8 rest
  | '\\' :: c :: rest => some (c, rest)
  | c :: rest => some (c, rest)
  | [] => none

/-- The two marks that surround quoted text. -/
def IsMark (quote : Char) : Prop :=
  quote = '\'' ∨ quote = '"'

theorem isMark_mark (s : List Char) : IsMark (mark s) := by
  unfold mark
  split
  · exact .inr rfl
  · exact .inl rfl

variable {quote c : Char} {s t : List Char}

theorem characterAt?_hexadecimal {width : Nat} (hc : c.toNat < 16 ^ width) (rest : List Char) :
    characterAt? width (hexadecimal width c.toNat ++ rest) = some (c, rest) := by
  have hnumber := hexNumber?_of_hexadecimal (hexadecimal_of_lt hc)
  rw [characterAt?, List.take_left' (length_hexadecimal width c.toNat),
    List.drop_left' (length_hexadecimal width c.toNat), hnumber, Option.map_some, Char.ofNat_toNat]

theorem first?_escapeCode (c : Char) (rest : List Char) :
    first? (escapeCode c.toNat ++ rest) = some (c, rest) := by
  have hscalar := Utf8.toNat_lt c
  unfold escapeCode
  split_ifs
  · exact characterAt?_hexadecimal (by omega) rest
  · exact characterAt?_hexadecimal (by omega) rest
  · exact characterAt?_hexadecimal (by omega) rest

theorem first?_of_ne (hc : c ≠ '\\') (rest : List Char) : first? (c :: rest) = some (c, rest) := by
  rw [first?.eq_def]
  split
  case h_1 heq | h_2 heq | h_3 heq | h_4 heq | h_5 heq | h_6 heq | h_7 heq =>
    exact absurd (List.cons.inj heq).1 hc
  case h_8 d after _ _ _ _ _ _ _ heq =>
    obtain ⟨rfl, rfl⟩ := List.cons.inj heq
    rfl
  case h_9 heq => contradiction

theorem first?_escape (hquote : IsMark quote) (c : Char) (rest : List Char) :
    first? (escape quote c ++ rest) = some (c, rest) := by
  unfold escape
  split_ifs with hself htab hfeed hreturn
  · -- A quote or a backslash is no letter that opens another escape.
    have hcases : c = '\\' ∨ c = '\'' ∨ c = '"' := by
      obtain hself | rfl := hself
      · exact .inl hself
      · exact .inr hquote
    obtain rfl | rfl | rfl := hcases <;> rfl
  · rw [htab]
    rfl
  · rw [hfeed]
    rfl
  · rw [hreturn]
    rfl
  · exact first?_of_ne (fun hc => hself (.inl hc)) rest
  · exact first?_escapeCode c rest

theorem escape_ne_nil (quote c : Char) : escape quote c ≠ [] := by
  unfold escape escapeCode
  split_ifs <;> simp

theorem flatMap_escape_injective (hquote : IsMark quote)
    (h : s.flatMap (escape quote) = t.flatMap (escape quote)) : s = t := by
  induction s generalizing t with
  | nil =>
      cases t with
      | nil => rfl
      | cons d t => exact absurd (List.append_eq_nil_iff.mp h.symm).1 (escape_ne_nil quote d)
  | cons c s ih =>
      cases t with
      | nil => exact absurd (List.append_eq_nil_iff.mp h).1 (escape_ne_nil quote c)
      | cons d t =>
          have hfirst := first?_escape hquote c (s.flatMap (escape quote))
          rw [List.flatMap_cons, List.flatMap_cons] at h
          rw [h, first?_escape hquote d] at hfirst
          obtain ⟨rfl, hrest⟩ := Prod.mk.inj (Option.some.inj hfirst)
          rw [ih hrest.symm]

theorem encode_injective : Function.Injective encode := by
  intro s t h
  obtain ⟨hmark, hrest⟩ := List.cons.inj h
  rw [hmark] at hrest
  exact flatMap_escape_injective (isMark_mark t) (List.append_cancel_right hrest)

theorem isPrintable_of_mem_hexadecimal {width n : Nat} (hc : c ∈ hexadecimal width n) :
    isPrintable c = true := by
  induction width generalizing n with
  | zero => contradiction
  | succ width ih =>
      obtain hfront | hlast := List.mem_append.mp hc
      · exact ih hfront
      · have hall : ∀ d : Fin 16, isPrintable (hexDigit d) = true := by decide
        rw [List.mem_singleton.mp hlast]
        exact hall ⟨n % 16, Nat.mod_lt n (by decide)⟩

theorem isPrintable_of_mem_escapeCode {n : Nat} (hc : c ∈ escapeCode n) : isPrintable c = true := by
  have hopened : ∀ {letter : Char} {width : Nat}, isPrintable letter = true →
      c ∈ '\\' :: letter :: hexadecimal width n → isPrintable c = true := by
    intro letter width hletter hmem
    obtain rfl | rfl | hdigit := by simpa only [List.mem_cons] using hmem
    · rfl
    · exact hletter
    · exact isPrintable_of_mem_hexadecimal hdigit
  unfold escapeCode at hc
  split_ifs at hc
  · exact hopened rfl hc
  · exact hopened rfl hc
  · exact hopened rfl hc

theorem isPrintable_of_mem_pair {letter : Char} (hletter : isPrintable letter = true)
    (hc : c ∈ ['\\', letter]) : isPrintable c = true := by
  rw [List.mem_cons, List.mem_singleton] at hc
  obtain rfl | rfl := hc
  · rfl
  · exact hletter

theorem isPrintable_of_isMark (hquote : IsMark quote) : isPrintable quote = true := by
  obtain rfl | rfl := hquote <;> rfl

theorem isPrintable_of_mem_escape (hquote : IsMark quote) {d : Char} (hc : c ∈ escape quote d) :
    isPrintable c = true := by
  unfold escape at hc
  split_ifs at hc with hself _ _ _ hprintable
  · obtain rfl | rfl := hself
    · exact isPrintable_of_mem_pair rfl hc
    · exact isPrintable_of_mem_pair (isPrintable_of_isMark hquote) hc
  · exact isPrintable_of_mem_pair rfl hc
  · exact isPrintable_of_mem_pair rfl hc
  · exact isPrintable_of_mem_pair rfl hc
  · rwa [List.mem_singleton.mp hc]
  · exact isPrintable_of_mem_escapeCode hc

theorem isVisible_encode (s : List Char) : IsVisible (encode s) := by
  rw [isVisible_iff]
  intro c hc
  have hmark := isMark_mark s
  obtain rfl | hc | rfl := by
    simpa only [encode, List.cons_append, List.mem_cons, List.mem_append, List.not_mem_nil,
      or_false] using hc
  · exact isPrintable_of_isMark hmark
  · obtain ⟨d, -, hd⟩ := List.mem_flatMap.mp hc
    exact isPrintable_of_mem_escape hmark hd
  · exact isPrintable_of_isMark hmark

end Quoted

theorem quoted_injective : Function.Injective quoted := by
  intro s t h
  exact String.toList_inj.mp (Quoted.encode_injective (String.ofList_injective h))

theorem isVisible_quoted (s : String) : IsVisible (quoted s).toList := by
  rw [quoted, String.toList_ofList]
  exact Quoted.isVisible_encode s.toList

end BuildVersion.Text
