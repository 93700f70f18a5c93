import BuildVersion.Fault
import BuildVersion.Number.Numeral
import BuildVersion.Template.Kind
import BuildVersion.Template.NumberLayout
import BuildVersion.Text.Quoted

/-!
Values that a field of a template can reach: the text that stands for a name, a character of a
text by its position, the members of a value by their names, and what is known of members and
kinds. A member that is computed or stored gives a value; any other one is bound to the value that
it was asked of, unless it was asked of a kind and belongs to the values of that kind.
-/

namespace BuildVersion.Template

inductive Value
  | text (s : List Char)
  | integer (n : Int)
  | truth (b : Bool)
  | nothing
  | kind (k : Kind)
  | kinds (ks : List Kind)
  /-- A kind applied to an argument, which is kept as it is shown. -/
  | applied (k : Kind) (argument : List Char)
  /-- The members of a kind by their names. -/
  | table (k : Kind)
  /-- A member that is bound to no value. -/
  | member (owner : Kind) (m : Member)
  /-- A member that is bound to a value. -/
  | bound (owner : Kind) (m : Member) (self : Value)
  deriving DecidableEq, Repr

inductive Step
  | member (name : List Char)
  | position (n : Nat)
  | key (name : List Char)
  deriving DecidableEq, Repr

def Form.kind : Form → Kind
  | .method => .method
  | .operator => .operator
  | .kindMethod => .kindMethod
  | .free => .free
  | .maker => .function
  | .attribute => .attribute
  | .slot => .slot
  | .constant => .nothing

/-- A text, if there is one. -/
def Value.ofString? (s : Option String) : Value :=
  match s with
  | some s => .text s.toList
  | none => .nothing

namespace Member

/-- Whether a member gives a value that does not depend on a kind. -/
def isData (m : Member) : Bool :=
  m.form = .attribute || m.form = .slot

/-- The member as the table of its kind holds it. -/
def plain (owner : Kind) (m : Member) : Value :=
  match m.form with
  | .maker => .bound owner m (.kind owner)
  | .constant => .ofString? m.description
  | _ => .member owner m

/-- The member as a kind gives it for its own values. -/
def through (owner : Kind) (m : Member) (k : Kind) : Value :=
  match m.form with
  | .kindMethod => .bound owner m (.kind k)
  | .free => .bound owner m (.kind owner)
  | _ => m.plain owner

end Member

namespace Value

def kindOf : Value → Kind
  | .text _ => .text
  | .integer _ => .integer
  | .truth _ => .truth
  | .nothing => .nothing
  | .kind _ => .kind
  | .kinds _ => .tuple
  | .applied _ _ => .kind
  | .table _ => .table
  | .member _ m => m.form.kind
  | .bound _ m _ => if m.form = .operator then .boundOperator else .function

/-- The member as a value of its kind gives it. -/
def bind (owner : Kind) (m : Member) (v : Value) : Value :=
  match m.form with
  | .method => .bound owner m v
  | .operator => .bound owner m v
  | _ => m.through owner v.kindOf

/-- What a kind tells of itself. -/
def ofKind? (k : Kind) (name : String) : Option Value :=
  match name with
  | "__name__" => some (.text k.name.toList)
  | "__qualname__" => some (.text k.name.toList)
  | "__module__" => some (.text "builtins".toList)
  | "__text_signature__" => some (.ofString? k.signature?)
  | "__mro__" => some (.kinds k.line)
  | "__bases__" => some (.kinds k.base?.toList)
  | "__base__" => some (k.base?.elim .nothing .kind)
  | "__dict__" => some (.table k)
  | "__doc__" =>
    match k.description? with
    | some description => some (.text description.toList)
    | none => (k.member? name).map fun (owner, m) => m.plain owner
  | _ => (k.measures.lookup name).map fun n => .integer n

/-- What a member tells of itself. -/
def ofMember? (owner : Kind) (m : Member) (name : String) : Option Value :=
  match name with
  | "__name__" => some (.text m.name.toList)
  | "__qualname__" => some (.text (owner.name ++ "." ++ m.name).toList)
  | "__doc__" => some (.ofString? m.description)
  | "__text_signature__" => some (.ofString? m.signature)
  | "__objclass__" => some (.kind owner)
  | "__func__" => some (.bound owner m (.kind owner))
  | "__wrapped__" => some (.bound owner m (.kind owner))
  | "__isabstractmethod__" => some (.truth false)
  | _ => none

/-- The kind that a bound member is named after. -/
def naming : Value → Kind
  | .kind k => k
  | v => v.kindOf

/-- What a member that is bound to a value tells of itself. -/
def ofBound? (owner : Kind) (m : Member) (self : Value) (name : String) : Option Value :=
  match name with
  | "__self__" => some (if m.form = .free then .nothing else self)
  | "__module__" => some .nothing
  | "__qualname__" =>
    let place := if m.form = .operator then owner else self.naming
    some (.text (place.name ++ "." ++ m.name).toList)
  | _ => ofMember? owner m name

/-- What an integer tells of itself. -/
def ofInteger? (n : Int) (name : String) : Option Value :=
  match name with
  | "real" => some (.integer n)
  | "numerator" => some (.integer n)
  | "imag" => some (.integer 0)
  | "denominator" => some (.integer 1)
  | _ => none

/-- The value of a member that is computed or stored. -/
def data? (v : Value) (name : String) : Option Value :=
  if name = "__class__" then some (.kind v.kindOf)
  else
    match v with
    | .kind k => ofKind? k name
    | .member owner m => ofMember? owner m name
    | .bound owner m self => ofBound? owner m self name
    | .integer n => ofInteger? n name
    | .truth b => ofInteger? (if b then 1 else 0) name
    | _ => none

/-- The member of a name as a kind gives it for its own values, if it has one. -/
def through? (k : Kind) (name : String) : Option Value :=
  (k.member? name).map fun (owner, m) => m.through owner k

/-- The member of a name that a value which is no application has. Those of the kind that a kind is
of come first if they are computed or stored, and last if they are bound. -/
def ownMember? (v : Value) (name : String) : Option Value :=
  match v.kindOf.member? name with
  | some (owner, m) =>
    if m.isData then v.data? name
    else
      match v with
      | .kind k => some ((through? k name).getD (v.bind owner m))
      | _ => some (v.bind owner m)
  | none =>
    match v with
    | .kind k => through? k name
    | _ => none

/-- The member of a name. An applied kind has those of the kind, and knows what it was made of. -/
def member? (v : Value) (name : String) : Option Value :=
  match v with
  | .applied k _ =>
    match name with
    | "__origin__" => some (.kind k)
    | "__parameters__" => some (.kinds [])
    | "__unpacked__" => some (.truth false)
    | _ => (Value.kind k).ownMember? name
  | v => v.ownMember? name

def isApplicable (k : Kind) : Bool :=
  k = .kind || (k.member? "__class_getitem__").isSome

def apply (k : Kind) (argument : List Char) : Except TemplateFault Value :=
  if isApplicable k then .ok (.applied k argument) else .error .notIndexable

def step : Value → Step → Except TemplateFault Value
  | v, .member name =>
    match v.member? (String.ofList name) with
    | some v => .ok v
    | none => .error .noAttribute
  | .text s, .position n =>
    match s[n]? with
    | some c => .ok (.text [c])
    | none => .error .missingPosition
  | .kinds ks, .position n =>
    match ks[n]? with
    | some k => .ok (.kind k)
    | none => .error .missingPosition
  | .table k, .key name =>
    match k.ownMember? (String.ofList name) with
    | some m => .ok (m.plain k)
    | none => .error (.missingName (String.ofList name))
  | .table _, .position _ => .error .missingNumber
  | .kind k, .position n => apply k (Nat.toDigits 10 n)
  | .kind k, .key name => apply k (Text.Quoted.encode name)
  | _, _ => .error .notIndexable

/-- Where a bound member is kept, for want of a better place. -/
def address : String := "0x7f0000000000"

def shownMember (owner : Kind) (m : Member) : String :=
  let place := " '" ++ m.name ++ "' of '" ++ owner.name ++ "' objects>"
  match m.form with
  | .operator => "<slot wrapper" ++ place
  | .attribute => "<attribute" ++ place
  | .slot => "<member" ++ place
  | .free =>
    "<staticmethod(<built-in method " ++ m.name ++ " of type object at " ++ address ++ ">)>"
  | _ => "<method" ++ place

/-- A member that is bound to a value of a kind, as it is shown. -/
def shownBound (m : Member) (self : Kind) : String :=
  let place := " of " ++ self.name ++ " object at " ++ address ++ ">"
  if m.form = .operator then "<method-wrapper '" ++ m.name ++ "'" ++ place
  else "<built-in method " ++ m.name ++ place

def shownKind (k : Kind) : String :=
  "<class '" ++ k.name ++ "'>"

def shownEntry (owner : Kind) (m : Member) : String :=
  let shown :=
    match m.form with
    | .maker => shownBound m .kind
    | .constant => (m.description.map Text.quoted).getD "None"
    | _ => shownMember owner m
  Text.quoted m.name ++ ": " ++ shown

/-- A value as it is shown, a text in quotes. -/
def quoted : Value → List Char
  | .text s => Text.Quoted.encode s
  | .integer n => Numeral.signedDigits n
  | .truth b => (if b then "True" else "False").toList
  | .nothing => "None".toList
  | .kind k => (shownKind k).toList
  | .kinds [k] => ("(" ++ shownKind k ++ ",)").toList
  | .kinds ks => ("(" ++ ", ".intercalate (ks.map shownKind) ++ ")").toList
  | .applied k argument => k.name.toList ++ '[' :: argument ++ [']']
  | .table k =>
    ("mappingproxy(\x7b" ++ ", ".intercalate (k.members.map (shownEntry k)) ++ "\x7d)").toList
  | .member owner m => (shownMember owner m).toList
  | .bound _ m self => (shownBound m self.kindOf).toList

def shown : Value → List Char
  | .text s => s
  | v => v.quoted

/-- A text with every character beyond ASCII escaped. -/
def inAscii (s : List Char) : List Char :=
  s.flatMap fun c => if c.toNat < 128 then [c] else Text.Quoted.escapeCode c.toNat

/-- The value converted as a letter says: quoted, as it is shown, or quoted in ASCII. -/
def convert (v : Value) : Char → Except TemplateFault Value
  | 'r' => .ok (.text v.quoted)
  | 's' => .ok (.text v.shown)
  | 'a' => .ok (.text (inAscii v.quoted))
  | _ => .error .malformed

def fitText (s written : List Char) : Except TemplateFault (List Char) :=
  match Layout.parse written with
  | none => .error .malformed
  | some layout =>
    if Layout.maxWidth < layout.width then .error .tooWide else .ok (layout.apply s)

/-- The value fitted into a layout. Texts and numbers have layouts, other values none. -/
def fit (v : Value) (written : List Char) : Except TemplateFault (List Char) :=
  match v with
  | .text s => fitText s written
  | v =>
    if written.isEmpty then .ok v.shown
    else
      match v with
      | .integer n => NumberLayout.fit n written
      | .truth b => NumberLayout.fit (if b then 1 else 0) written
      | _ => .error .unsupported

end Value

end BuildVersion.Template
