import Mathlib.Control.Monad.Basic
import BuildVersion.Console.Terminal
import BuildVersion.Proofs.Console.Strip
import BuildVersion.Proofs.Console.Tag

namespace BuildVersion.Console

namespace Markup

variable {s : List Char}

/-- The tokens of a word between a tag and its closing tag. -/
def tagged (c : Char) (name word : List Char) : List Token :=
  .text [] :: (tagTokens 0 (c :: name) ++ .text word :: tagTokens 0 ('/' :: c :: name))

theorem tokens_of_word (c : Char) (name word : List Char) (hc : opensTag c = true)
    (hname : ∀ d ∈ c :: name, d ≠ '[' ∧ d ≠ ']') (hword : ∀ d ∈ word, d ≠ '[' ∧ d ≠ '\\')
    (s : List Char) :
    tokens ('[' :: c :: (name ++ ']' :: (word ++ '[' :: '/' :: (c :: name ++ ']' :: s)))) =
      tagged c name word ++ tokens s := by
  have hclosing : tag? ('[' :: '/' :: (c :: name ++ ']' :: s)) = some ('/' :: c :: name, s) :=
    tag?_append rfl hname s
  have hplain : '[' ∉ word := fun h => (hword '[' h).1 rfl
  rw [tokens, tokensAfter_of_tag (tag?_append hc (List.forall_mem_cons.mp hname).2 _),
    tokensAfter_append_of_plain hword, tokensAfter_of_tag hclosing, List.append_nil,
    List.reverse_reverse, unescaped_of_notMem hplain, tagged, List.cons_append, List.append_assoc]
  rfl

theorem Page.pushAll_append (p : Page) (first second : List Token) :
    p.pushAll (first ++ second) = (p.pushAll first).bind fun p => p.pushAll second := by
  induction first generalizing p with
  | nil => rfl
  | cons t rest ih =>
      rw [List.cons_append, pushAll, pushAll]
      cases p.push t with
      | error fault => rfl
      | ok next => exact ih next

theorem lines_of_read {strip : Strip} (hread : read s = .ok strip) (hspans : strip.spans = [])
    (width : Nat) : lines width s = .ok ((strip.wrapped width).map Strip.text) := by
  have hnone : (strip.wrapped width).flatMap Strip.spans = [] :=
    List.flatMap_eq_nil_iff.mpr (Strip.spans_of_mem_wrapped hspans width)
  rw [lines, hread]
  simp only [Except.bind, hnone]

theorem read_eq_ok_of_pushAll {p : Page} (hpage : Page.pushAll {} (tokens s) = .ok p)
    (hinside : p.inside = []) (hspans : p.strip.spans = []) :
    read s = .ok { text := p.strip.text } := by
  rw [read, hpage, Except.map, hinside, hspans, List.filterMap_nil, List.append_nil]

end Markup

namespace Terminal

open Markup

theorem exists_written_of_read {t : Terminal} {notice : Notice} {strip : Strip}
    (hread : read (source notice).toList = .ok strip) (hspans : strip.spans = []) :
    ∃ text, t.written notice = .ok text := by
  rw [written, lines_of_read hread hspans]
  split
  · exact ⟨_, rfl⟩
  · exact ⟨_, rfl⟩

/-- The word of a level, with a colon. -/
def word : Notice → List Char
  | .plain _ _ => []
  | .info _ => ['i', 'n', 'f', 'o', ':']
  | .warning _ => ['w', 'a', 'r', 'n', 'i', 'n', 'g', ':']
  | .error _ => ['e', 'r', 'r', 'o', 'r', ':']

/-- What follows the word of a level: the message, after a blank if there is a word. -/
def body : Notice → List Char
  | .plain message _ => message.toList
  | .info message | .warning message | .error message => ' ' :: message.toList

/-- The tokens of the word of a level in its colour. -/
def front : Notice → List Token
  | .plain _ _ => []
  | notice@(.info _) => tagged 'c' ['y', 'a', 'n'] (word notice)
  | notice@(.warning _) => tagged 'y' ['e', 'l', 'l', 'o', 'w'] (word notice)
  | notice@(.error _) => tagged 'r' ['e', 'd', ' ', 'b', 'o', 'l', 'd'] (word notice)

theorem tokens_level {level : String} {c : Char} {name word : List Char} (hc : opensTag c = true)
    (hname : ∀ d ∈ c :: name, d ≠ '[' ∧ d ≠ ']') (hword : ∀ d ∈ word, d ≠ '[' ∧ d ≠ '\\')
    (hlevel : level.toList =
      '[' :: c :: (name ++ ']' :: (word ++ '[' :: '/' :: (c :: name ++ [']', ' ']))))
    (message : String) :
    tokens (level ++ message).toList = tagged c name word ++ tokens (' ' :: message.toList) := by
  rw [String.toList_append, hlevel, ← tokens_of_word c name word hc hname hword]
  simp

theorem tokens_source (notice : Notice) :
    tokens (source notice).toList = front notice ++ tokens (body notice) := by
  cases notice with
  | plain message style => rfl
  | info message =>
      exact tokens_level rfl (by simp) (by simp [word]) (by rw [word]; decide) message
  | warning message =>
      exact tokens_level rfl (by simp) (by simp [word]) (by rw [word]; decide) message
  | error message =>
      exact tokens_level rfl (by simp) (by simp [word]) (by rw [word]; decide) message

theorem pushAll_front (notice : Notice) :
    Page.pushAll {} (front notice) = .ok { strip := ⟨word notice, []⟩ } := by
  have hinfo : Page.pushAll {} (front (.info "")) = .ok { strip := ⟨word (.info ""), []⟩ } := by
    decide +kernel
  have hwarning : Page.pushAll {} (front (.warning "")) =
      .ok { strip := ⟨word (.warning ""), []⟩ } := by
    decide +kernel
  have herror : Page.pushAll {} (front (.error "")) = .ok { strip := ⟨word (.error ""), []⟩ } := by
    decide +kernel
  cases notice with
  | plain message style => rfl
  | info message => exact hinfo
  | warning message => exact hwarning
  | error message => exact herror

/-- Progress can be shown wherever its message has no opening bracket. -/
theorem exists_written_info_of_notMem (t : Terminal) {message : String}
    (hmessage : '[' ∉ message.toList) : ∃ text, t.written (.info message) = .ok text := by
  have hbody : '[' ∉ body (.info message) := by simpa [body] using hmessage
  have hpage : Page.pushAll {} (tokens (source (.info message)).toList) =
      .ok { strip := ⟨word (.info message) ++ shown (body (.info message)), []⟩ } := by
    rw [tokens_source, tokens_of_notMem hbody, Page.pushAll_append, pushAll_front]
    rfl
  exact exists_written_of_read (read_eq_ok_of_pushAll hpage rfl rfl) rfl

end Terminal

end BuildVersion.Console
