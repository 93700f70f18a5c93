import BuildVersion.Console.Action
import BuildVersion.Console.Appearance
import BuildVersion.Console.Strip
import BuildVersion.Text.Blank
import BuildVersion.Text.Pictograph
import BuildVersion.Text.Split

/-!
Markup. A tag stands between brackets, begins with a small letter, `#`, `@` or `/`, and holds no
further opening bracket. Tags are not shown, whatever their names are, but a closing tag has to
have its opening tag: one whose name tells the same appearance, or the last one if the closing tag
has no name. Of the backslashes before a tag every second one is shown, and if their number is odd
the tag is text. A backslash before a bracket that opens no tag is not shown. In the text between
tags the names of pictographs stand for their pictographs; some control characters are not shown.
-/

namespace BuildVersion.Console.Markup

def opensTag (c : Char) : Bool :=
  ('a' ≤ c && c ≤ 'z') || c == '#' || c == '/' || c == '@'

/-- The text up to a closing bracket, and what follows the bracket. -/
def tagBody? : List Char → Option (List Char × List Char)
  | [] => none
  | c :: rest =>
    if c = ']' then some ([], rest)
    else if c = '[' then none
    else (tagBody? rest).map fun (body, rest) => (c :: body, rest)

/-- The text between the brackets of a tag at the beginning, and what follows the tag. -/
def tag? : List Char → Option (List Char × List Char)
  | '[' :: c :: rest =>
    if opensTag c then (tagBody? rest).map fun (body, rest) => (c :: body, rest) else none
  | _ => none

theorem length_lt_of_tagBody? {s : List Char} {found : List Char × List Char}
    (h : tagBody? s = some found) : found.2.length < s.length := by
  induction s generalizing found with
  | nil => contradiction
  | cons c s ih =>
      rw [tagBody?] at h
      split at h
      · rw [← Option.some.inj h]
        exact Nat.lt_succ_self _
      · split at h
        · contradiction
        · obtain ⟨inner, hinner, rfl⟩ := Option.map_eq_some_iff.mp h
          have hlt : inner.2.length < s.length := ih hinner
          exact Nat.lt_succ_of_lt hlt

theorem length_lt_of_tag? {s : List Char} {found : List Char × List Char}
    (h : tag? s = some found) : found.2.length < s.length := by
  unfold tag? at h
  split at h
  · next c rest =>
      split at h
      · obtain ⟨inner, hinner, rfl⟩ := Option.map_eq_some_iff.mp h
        have hlt : inner.2.length < rest.length := length_lt_of_tagBody? hinner
        exact Nat.lt_add_right 2 hlt
      · contradiction
  · contradiction

/-- Text between tags, or a tag with what stands after its equals sign. -/
inductive Token
  | text (shown : List Char)
  | tag (name : List Char) (parameters : Option (List Char))
  deriving DecidableEq, Repr

def tagTokens (backslashes : Nat) (body : List Char) : List Token :=
  let slashes := List.replicate (backslashes / 2) '\\'
  let (name, parameters) := Text.cut '=' body
  [.text slashes, if backslashes % 2 = 0 then .tag name parameters
    else .text ('[' :: body ++ [']'])]

/-- Text between tags without the backslashes before its brackets. -/
def unescaped : List Char → List Char
  | [] => []
  | c :: rest =>
    if c = '\\' ∧ rest.head? = some '[' then unescaped rest else c :: unescaped rest

/-- The tokens of a text after characters that belong to the same token, the last one first. -/
def tokensAfter (before s : List Char) : List Token :=
  match _h : s with
  | [] => [.text (unescaped before.reverse)]
  | c :: rest =>
    match _ht : tag? (s.dropWhile (· = '\\')) with
    | some (body, after) =>
      .text (unescaped before.reverse) ::
        (tagTokens (s.takeWhile (· = '\\')).length body ++ tokensAfter [] after)
    | none => tokensAfter (c :: before) rest
termination_by s.length
decreasing_by
  · subst _h
    exact Nat.lt_of_lt_of_le (length_lt_of_tag? _ht) (List.dropWhile_suffix _).length_le
  · subst _h
    exact Nat.lt_succ_self _

def tokens (s : List Char) : List Token :=
  tokensAfter [] s

/-- Whether a character is never shown: bell, backspace, vertical tab, form feed and carriage
return. -/
def isHidden (c : Char) : Bool :=
  ['\x07', '\x08', '\x0B', '\x0C', '\r'].contains c

/-- What is shown of text between tags. -/
def shown (s : List Char) : List Char :=
  (Text.withPictographs s).filter fun c => !isHidden c

structure OpenTag where
  name : List Char
  parameters : Option (List Char)
  /-- Where its text begins. -/
  start : Nat
  deriving DecidableEq, Repr

/-- What a tag asks for: its name, and what stands after its equals sign. -/
def OpenTag.text (t : OpenTag) : List Char :=
  match t.parameters with
  | none => t.name
  | some parameters => t.name ++ ' ' :: parameters

/-- The span of a tag whose text ends at a place, if its appearance is at fault. -/
def OpenTag.span? (t : OpenTag) (stop : Nat) : Option Span :=
  (Appearance.fault? t.text).map fun fault => ⟨t.start, stop, fault⟩

/-- What is read of a text: what it shows, and the tags that are open, the last one first. -/
structure Page where
  strip : Strip := ⟨[], []⟩
  inside : List OpenTag := []
  deriving DecidableEq, Repr

/-- Ends the text of a tag, which may ask for an action. -/
def Page.close (p : Page) (t : OpenTag) : Except Fault Page :=
  if t.name.head? = some '@' then
    match t.parameters with
    | none => .ok p
    | some parameters =>
      if parameters.isEmpty || Action.isValid parameters then .ok p else .error .malformedAction
  else
    .ok { p with
      strip := { p.strip with
        spans := p.strip.spans ++ (t.span? p.strip.text.length).toList } }

def Page.push (p : Page) : Token → Except Fault Page
  | .text s => .ok { p with strip := { p.strip with text := p.strip.text ++ shown s } }
  | .tag ('/' :: name) _ =>
    if (Text.trim name).isEmpty then
      match p.inside with
      | [] => .error .unmatchedTag
      | t :: inside => Page.close { p with inside } t
    else do
      let name ← Appearance.normalize (Text.trim name)
      match p.inside.find? (·.name = name) with
      | none => .error .unmatchedTag
      | some t => Page.close { p with inside := p.inside.eraseP (·.name = name) } t
  | .tag name parameters => do
    let name ← Appearance.normalize name
    .ok { p with inside := ⟨name, parameters, p.strip.text.length⟩ :: p.inside }

def Page.pushAll (p : Page) : List Token → Except Fault Page
  | [] => .ok p
  | t :: rest => (p.push t).bind fun p => p.pushAll rest

/-- What a text shows; tags that are open at its end hold up to there. -/
def read (s : List Char) : Except Fault Strip :=
  (Page.pushAll {} (tokens s)).map fun p =>
    { p.strip with
      spans := p.strip.spans ++ p.inside.filterMap (·.span? p.strip.text.length) }

/-- The lines of a text on a terminal of a width; a fault if a span at fault is left in them. -/
def lines (width : Nat) (s : List Char) : Except Fault (List (List Char)) :=
  (read s).bind fun strip =>
    let lines := strip.wrapped width
    match lines.flatMap Strip.spans with
    | [] => .ok (lines.map Strip.text)
    | span :: _ => .error span.fault

end BuildVersion.Console.Markup
