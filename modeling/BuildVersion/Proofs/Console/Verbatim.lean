import Mathlib.Data.List.Infix
import BuildVersion.Proofs.Console.Layout
import BuildVersion.Proofs.Console.Mark
import BuildVersion.Proofs.Console.Markup

namespace BuildVersion.Console

namespace Markup

variable {s : List Char} {width : Nat}

/-- A text that is shown as it is where it fits: no tag stands in it, no backslash before a
bracket and no name of a pictograph between colons, and none of its characters is hidden. -/
structure IsPlain (s : List Char) : Prop where
  tagless : Tagless s
  escapeless : ¬['\\', '['] <:+: s
  nameless : ∀ name ∈ Text.pictographNames s, Text.sign? name = none
  visible : ∀ c ∈ s, isHidden c = false

theorem isPlain_iff :
    IsPlain s ↔ (s.tails.all fun rest => (tag? rest).isNone) = true ∧ ¬['\\', '['] <:+: s ∧
      (∀ name ∈ Text.pictographNames s, Text.sign? name = none) ∧
        (s.all fun c => !isHidden c) = true := by
  simp only [List.all_eq_true, List.mem_tails, Option.isNone_iff_eq_none, Bool.not_eq_true']
  constructor
  · exact fun h => ⟨h.tagless, h.escapeless, h.nameless, h.visible⟩
  · exact fun ⟨htagless, hescape, hnames, hvisible⟩ => ⟨htagless, hescape, hnames, hvisible⟩

instance (s : List Char) : Decidable (IsPlain s) :=
  decidable_of_iff' _ isPlain_iff

example : IsPlain "[1] at 1:30".toList := by decide +kernel

example : ¬IsPlain "see [tool]".toList := by decide +kernel

theorem shown_of_nameless (hs : ∀ name ∈ Text.pictographNames s, Text.sign? name = none) :
    shown s = s.filter fun c => !isHidden c := by
  rw [shown, Text.withPictographs_of_unknown hs]

theorem IsPlain.shown_eq (hs : IsPlain s) : shown s = s := by
  rw [shown_of_nameless hs.nameless, List.filter_eq_self]
  exact fun c hc => by rw [hs.visible c hc]; rfl

theorem IsPlain.shows_tokens (hs : IsPlain s) : (tokens s).flatMap Token.shows = s := by
  rw [tokens_of_tagless hs.tagless hs.escapeless, List.flatMap_singleton, Token.shows, hs.shown_eq]

theorem isPlain_cons_blank : IsPlain (' ' :: s) ↔ IsPlain s := by
  have htagless : Tagless (' ' :: s) ↔ Tagless s := by
    constructor
    · exact fun h rest hrest => h rest (hrest.trans (List.suffix_cons ' ' s))
    · exact fun h => tagless_cons_of_none h (tag?_of_head_ne (by decide) s)
  have hescape : ['\\', '['] <:+: ' ' :: s ↔ ['\\', '['] <:+: s := by
    simp [List.infix_cons_iff]
  have hnames : Text.pictographNames (' ' :: s) = Text.pictographNames s :=
    Text.pictographNames_cons_of_ne (by decide) s
  constructor
  · intro h
    exact ⟨htagless.mp h.tagless, fun hs => h.escapeless (hescape.mpr hs), hnames ▸ h.nameless,
      (List.forall_mem_cons.mp h.visible).2⟩
  · intro h
    exact ⟨htagless.mpr h.tagless, fun hs => h.escapeless (hescape.mp hs), hnames ▸ h.nameless,
      List.forall_mem_cons.mpr ⟨rfl, h.visible⟩⟩

theorem exists_of_bind_eq_ok {α β : Type} {x : Except Fault α} {f : α → Except Fault β} {b : β}
    (h : x.bind f = .ok b) : ∃ a, x = .ok a ∧ f a = .ok b := by
  cases x with
  | error fault => contradiction
  | ok a => exact ⟨a, rfl, h⟩

theorem text_of_close {p q : Page} {t : OpenTag} (h : p.close t = .ok q) :
    q.strip.text = p.strip.text := by
  unfold Page.close at h
  split at h
  · split at h
    · rw [← Except.ok.inj h]
    · split at h
      · rw [← Except.ok.inj h]
      · contradiction
  · rw [← Except.ok.inj h]

theorem text_of_push {p q : Page} {t : Token} (h : p.push t = .ok q) :
    q.strip.text = p.strip.text ++ t.shows := by
  unfold Page.push at h
  split at h
  · rw [← Except.ok.inj h]
    rfl
  · rw [Token.shows, List.append_nil]
    split at h
    · split at h
      · contradiction
      · exact (text_of_close h).trans rfl
    · obtain ⟨name, -, h⟩ := exists_of_bind_eq_ok h
      split at h
      · contradiction
      · exact (text_of_close h).trans rfl
  · obtain ⟨name, -, h⟩ := exists_of_bind_eq_ok h
    rw [Token.shows, List.append_nil, ← Except.ok.inj h]

theorem text_of_pushAll {p q : Page} {ts : List Token} (h : p.pushAll ts = .ok q) :
    q.strip.text = p.strip.text ++ ts.flatMap Token.shows := by
  induction ts generalizing p with
  | nil =>
      obtain rfl : p = q := Except.ok.inj h
      simp
  | cons t rest ih =>
      obtain ⟨next, hpush, hrest⟩ := exists_of_bind_eq_ok h
      rw [ih hrest, text_of_push hpush, List.flatMap_cons, List.append_assoc]

theorem text_of_read {strip : Strip} (h : read s = .ok strip) :
    strip.text = (tokens s).flatMap Token.shows := by
  rw [read] at h
  cases hpage : Page.pushAll {} (tokens s) with
  | error fault => rw [hpage] at h; contradiction
  | ok page =>
      rw [hpage] at h
      rw [← Except.ok.inj h]
      exact text_of_pushAll hpage

theorem exists_strip_of_lines {rows : List (List Char)} (h : lines width s = .ok rows) :
    ∃ strip, read s = .ok strip ∧ rows = (strip.wrapped width).map Strip.text := by
  obtain ⟨strip, hread, hrows⟩ := exists_of_bind_eq_ok h
  dsimp only at hrows
  split at hrows
  · exact ⟨strip, hread, (Except.ok.inj hrows).symm⟩
  · contradiction

/-- What is printed as it is has nothing in it to be read. -/
theorem isPlain_of_printed_eq {word : List Char} {strip : Strip}
    (htext : strip.text = word ++ (tokens s).flatMap Token.shows)
    (hprinted : strip.printed width = word ++ s ++ ['\n']) : IsPlain s := by
  -- the layout only takes characters away, so the text shows as many of a kind as it has
  have hcount : ∀ p : Char → Bool, p ' ' = false → p '\n' = false →
      s.countP p ≤ ((tokens s).flatMap Token.shows).countP p := by
    intro p hblank hfeed
    have hle := Strip.countP_printed_le hblank hfeed width strip
    rw [hprinted, htext, List.countP_append, List.countP_append, List.countP_append,
      List.countP_singleton, hfeed] at hle
    exact Nat.le_of_add_le_add_left hle
  obtain ⟨htagless, hescape⟩ := tagless_of_countP_le (hcount isMark rfl rfl)
  rw [tokens_of_tagless htagless hescape] at hcount
  simp only [List.flatMap_singleton, Token.shows] at hcount
  have hnames : ∀ name ∈ Text.pictographNames s, Text.sign? name = none := by
    have hcolons : s.count ':' ≤ (Text.withPictographs s).count ':' :=
      Nat.le_trans (hcount (· == ':') rfl rfl) List.filter_sublist.countP_le
    have hknown := Text.count_withPictographs s
    exact Text.knownNames_eq_zero_iff.mp (by omega)
  have hhidden := hcount isHidden rfl rfl
  rw [shown_of_nameless hnames] at hhidden
  have hnone : (s.filter fun c => !isHidden c).countP isHidden = 0 :=
    List.countP_eq_zero.mpr fun c hc => by simpa using (List.mem_filter.mp hc).2
  rw [hnone, Nat.le_zero, List.countP_eq_zero] at hhidden
  exact ⟨htagless, hescape, hnames, fun c hc => Bool.eq_false_iff.mpr (hhidden c hc)⟩

end Markup

/-- The message of a notice, without its level. -/
def Notice.message : Notice → String
  | .plain message _ => message
  | .info message => message
  | .warning message => message
  | .error message => message

namespace Terminal

open Markup

theorem toList_level {level : String} {word : List Char} (hlevel : level.toList = word ++ [' '])
    (message : String) : (level ++ message).toList = word ++ ' ' :: message.toList := by
  rw [String.toList_append, hlevel, List.append_assoc]
  rfl

theorem record_toList (notice : Notice) :
    notice.record.message.toList = word notice ++ body notice := by
  cases notice with
  | plain message style => rfl
  | info message => exact toList_level (by rw [word]; decide) message
  | warning message => exact toList_level (by rw [word]; decide) message
  | error message => exact toList_level (by rw [word]; decide) message

theorem isPlain_body (notice : Notice) : IsPlain (body notice) ↔ IsPlain notice.message.toList := by
  cases notice with
  | plain message style => exact Iff.rfl
  | info message => exact isPlain_cons_blank
  | warning message => exact isPlain_cons_blank
  | error message => exact isPlain_cons_blank

theorem tab_mem_record_iff (notice : Notice) :
    '\t' ∈ notice.record.message.toList ↔ '\t' ∈ notice.message.toList := by
  rw [record_toList]
  cases notice <;> simp [word, body, Notice.message]

theorem shows_source (notice : Notice) :
    (tokens (source notice).toList).flatMap Token.shows =
      word notice ++ (tokens (body notice)).flatMap Token.shows := by
  rw [tokens_source, List.flatMap_append, ← List.nil_append ((front notice).flatMap _)]
  exact congrArg (· ++ _) (text_of_pushAll (pushAll_front notice)).symm

theorem read_of_isPlain {notice : Notice} (h : IsPlain (body notice)) :
    Markup.read (source notice).toList = .ok { text := notice.record.message.toList } := by
  have hpage : Page.pushAll {} (tokens (source notice).toList) =
      .ok { strip := ⟨word notice ++ shown (body notice), []⟩ } := by
    rw [tokens_source, tokens_of_tagless h.tagless h.escapeless, Page.pushAll_append, pushAll_front]
    rfl
  rw [read_eq_ok_of_pushAll hpage rfl rfl, h.shown_eq, record_toList]

theorem written_eq (width : Nat) (notice : Notice) :
    ({ width } : Terminal).written notice =
      (lines width (source notice).toList).map fun rows =>
        String.ofList (rows.flatMap (· ++ ['\n'])) := by
  cases notice <;> rfl

theorem written_of_read {width : Nat} {notice : Notice} {strip : Strip}
    (hread : Markup.read (source notice).toList = .ok strip) (hspans : strip.spans = []) :
    ({ width } : Terminal).written notice = .ok (String.ofList (strip.printed width)) := by
  rw [written_eq, lines_of_read hread hspans, Except.map, List.flatMap_map, Strip.printed]

theorem exists_strip_of_written {width : Nat} {notice : Notice} {text : String}
    (h : ({ width } : Terminal).written notice = .ok text) :
    ∃ strip, Markup.read (source notice).toList = .ok strip ∧
      strip.printed width = text.toList := by
  rw [written_eq] at h
  cases hlines : lines width (source notice).toList with
  | error fault => rw [hlines] at h; contradiction
  | ok rows =>
      rw [hlines] at h
      obtain ⟨strip, hread, rfl⟩ := exists_strip_of_lines hlines
      refine ⟨strip, hread, ?_⟩
      rw [← Except.ok.inj h, String.toList_ofList, List.flatMap_map, Strip.printed]

/-- What a terminal writes for a notice is its record, as it is, and a line feed exactly if its
message is plain and has no tabs, and the lines of the record fit. -/
theorem written_eq_record_iff (width : Nat) (notice : Notice) :
    ({ width } : Terminal).written notice = .ok (notice.record.message ++ "\n") ↔
      IsPlain notice.message.toList ∧ '\t' ∉ notice.message.toList ∧
        ∀ line ∈ Text.split '\n' notice.record.message.toList, Strip.Fits width line := by
  have hrecord := record_toList notice
  have hfeed : (notice.record.message ++ "\n").toList =
      notice.record.message.toList ++ ['\n'] := String.toList_append
  rw [← isPlain_body, ← tab_mem_record_iff]
  constructor
  · intro h
    obtain ⟨strip, hread, hprinted⟩ := exists_strip_of_written h
    have htext := (text_of_read hread).trans (shows_source notice)
    rw [hfeed] at hprinted
    have hplain := isPlain_of_printed_eq htext (hrecord ▸ hprinted)
    rw [hplain.shows_tokens, ← hrecord] at htext
    rw [← htext] at hprinted ⊢
    exact ⟨hplain, Strip.printed_eq_iff.mp hprinted⟩
  · rintro ⟨hplain, hlayout⟩
    have hread := read_of_isPlain hplain
    rw [written_of_read hread rfl, Strip.printed_eq_iff.mpr hlayout, ← hfeed, String.ofList_toList]

/-- A hint loses the names of the tables that it points to, and a closing tag in an address cuts
the message about it off. -/
theorem bracketed_message_not_written :
    ({} : Terminal).written
        (.plain "hint: see the [tool] and [endpoints] tables in the README" .dim) =
        .ok "hint: see the  and  tables in the README\n" ∧
      ({} : Terminal).written (.error "fetch failed: unknown url type: '[/release]'") =
        .error .unmatchedTag ∧
      ¬∀ notice : Notice, ({} : Terminal).written notice = .ok (notice.record.message ++ "\n") := by
  have hhint : ({} : Terminal).written
      (.plain "hint: see the [tool] and [endpoints] tables in the README" .dim) =
      .ok "hint: see the  and  tables in the README\n" := by
    decide +kernel
  have haddress : ({} : Terminal).written (.error "fetch failed: unknown url type: '[/release]'") =
      .error .unmatchedTag := by
    decide +kernel
  refine ⟨hhint, haddress, fun h => ?_⟩
  have hverbatim := h (.error "fetch failed: unknown url type: '[/release]'")
  rw [haddress] at hverbatim
  contradiction

end Terminal

end BuildVersion.Console
