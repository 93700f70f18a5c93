import BuildVersion.Fetch.Authority
import BuildVersion.Text.Blank
import BuildVersion.Text.Quoted
import BuildVersion.Text.Split

namespace BuildVersion.Fetch.Url

def unbracket (s : List Char) : List Char :=
  match s, s.getLast? with
  | '<' :: rest, some '>' => Text.trim rest.dropLast
  | _, _ => s

def unwrap (s : List Char) : List Char :=
  let s := unbracket (Text.trim s)
  if "URL:".toList.isPrefixOf s then Text.trim (s.drop 4) else s

/-- The address without a number sign at its end that marks no fragment. -/
def dropEmptyFragment (s : List Char) : List Char :=
  if s.getLast? = some '#' then s.dropLast else s

/-- The address as a request carries it. -/
def full (url : String) : String :=
  String.ofList (dropEmptyFragment (unwrap url.toList))

/-- The address without its fragment, which begins at the last number sign. -/
def withoutFragment (s : List Char) : List Char :=
  if s.contains '#' then ((s.reverse.dropWhile (· ≠ '#')).drop 1).reverse else s

def hasScheme (url : String) : Bool :=
  let s := withoutFragment (unwrap url.toList)
  let scheme := s.takeWhile fun c => c ≠ ':' ∧ c ≠ '/'
  !scheme.isEmpty && (s.drop scheme.length).head? = some ':'

/-- What is wrong with an address that has no scheme. -/
def schemeMessage (url : String) : String :=
  s!"unknown url type: {Text.quoted (full url)}"

/-- Control characters and the space, which do not count at the beginning of an address. -/
def isLeading (c : Char) : Bool :=
  c ≤ ' '

/-- Tabs and line ends, which do not count anywhere in an address. -/
def isIgnored (c : Char) : Bool :=
  c == '\t' || c == '\n' || c == '\r'

def isSchemeChar (c : Char) : Bool :=
  Text.isAsciiAlphanumeric c || c == '+' || c == '-' || c == '.'

/-- What follows the scheme of an address; all of it if it has none that begins with a letter. -/
def afterScheme (s : List Char) : List Char :=
  match Text.cut ':' s with
  | (scheme, some rest) =>
    if scheme.head?.any Text.isAsciiLetter && scheme.all isSchemeChar then rest else s
  | _ => s

/-- The authority of an address, empty if there is none. -/
def authority (url : String) : List Char :=
  let s := ((full url).toList.dropWhile isLeading).filter fun c => !isIgnored c
  match afterScheme s with
  | '/' :: '/' :: rest => rest.takeWhile fun c => c ≠ '/' ∧ c ≠ '?' ∧ c ≠ '#'
  | _ => []

/-- Why an address cannot be asked for, if it cannot. -/
def problem? (url : String) : Option String :=
  if hasScheme url then (Authority.flaw? (authority url)).map Flaw.message
  else some (schemeMessage url)

end BuildVersion.Fetch.Url
