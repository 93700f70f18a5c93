import BuildVersion.Fetch.Internet
import BuildVersion.Text.Quoted

/-!
Authorities: the part of an address between two slashes and the path, which names the host. Brackets
surround a host that is an address of version 6 or of a later version, and nothing stands beside
them but a user in front of an at sign and a port behind a colon. A user with brackets asks for such
a host too. Outside of ASCII, no character may be a form of a character that would end the authority
or divide it. The check is that of the newest corrections of the library; before them a text beside
the brackets was passed over.
-/

namespace BuildVersion.Fetch

inductive Flaw
  /-- Brackets of one kind only, or with a text beside them. -/
  | brackets
  | laterVersion
  | version4InBrackets
  | noInternetAddress (host : String)
  | compatibility (authority : String)
  deriving DecidableEq, Repr

def Flaw.message : Flaw → String
  | .brackets => "Invalid IPv6 URL"
  | .laterVersion => "IPvFuture address is invalid"
  | .version4InBrackets => "An IPv4 address cannot be in brackets"
  | .noInternetAddress host => Text.quoted host ++ " does not appear to be an IPv4 or IPv6 address"
  | .compatibility authority =>
    "netloc '" ++ authority ++ "' contains invalid characters under NFKC normalization"

namespace Authority

/-- Characters that have a slash, a question mark, a number sign, an at sign or a colon in their
compatibility decomposition, of Unicode 14. -/
def lookalikes : List Nat :=
  [0x2047, 0x2048, 0x2049, 0x2100, 0x2101, 0x2105, 0x2106, 0x2A74, 0xFE13, 0xFE16, 0xFE55, 0xFE56,
   0xFE5F, 0xFE6B, 0xFF03, 0xFF0F, 0xFF1A, 0xFF1F, 0xFF20]

/-- What follows the version of an address of a later version: a point and at least one more
character. -/
def isLaterVersion (s : List Char) : Bool :=
  match s.dropWhile Text.isHex with
  | '.' :: _ :: _ => s.head?.any Text.isHex
  | _ => false

/-- What is wrong with a host that stands between brackets. -/
def hostFlaw? (host : List Char) : Option Flaw :=
  match host with
  | 'v' :: rest => if isLaterVersion rest then none else some .laterVersion
  | _ =>
    if Internet.isVersion4 host then some .version4InBrackets
    else if Internet.isVersion6 host then none
    else some (.noInternetAddress (String.ofList host))

/-- What is wrong with an authority that has brackets of both kinds. What stands before an at sign
is no part of the host. -/
def bracketFlaw? (authority : List Char) : Option Flaw :=
  let place := (authority.reverse.takeWhile (· ≠ '@')).reverse
  match Text.cut '[' place with
  | ([], some bracketed) =>
    match Text.cut ']' bracketed with
    | (host, some (c :: _)) => if c = ':' then hostFlaw? host else some .brackets
    | (host, _) => hostFlaw? host
  | (_, some _) => some .brackets
  | (place, none) => hostFlaw? (Text.cut ':' place).1

/-- What is wrong with an authority. -/
def flaw? (authority : List Char) : Option Flaw :=
  let opened := authority.contains '['
  let closed := authority.contains ']'
  if opened ≠ closed then some .brackets
  else
    let flaw := if opened then bracketFlaw? authority else none
    if flaw.isSome then flaw
    else if authority.any fun c => lookalikes.contains c.toNat then
      some (.compatibility (String.ofList authority))
    else none

end Authority

end BuildVersion.Fetch
