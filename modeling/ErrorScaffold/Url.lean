/-
Addresses of pages.

An address is read generously: blanks around it do not count, nor do tabs and line ends within it,
a backslash is as good as a slash, and there may be any number of them before the host.  What is
read is written in one way only: the scheme and the host in lower case, no port where it is the
usual one, a path without `.` and `..`, and the characters that a part cannot hold percent-encoded.

* `Url.parse?` — the address of a text, if it is one of a page;
* `Url.text` — the one way to write it.
-/
import ErrorScaffold.Text.Split
import ErrorScaffold.Url.Percent

namespace ErrorScaffold

/-- The address of a page. -/
structure Url where
  /-- Whether the connection is encrypted. -/
  secure : Bool
  /-- A name and a password for the server, with the `@` after them. -/
  credentials : String
  host : String
  /-- The port, unless it is the usual one. -/
  port : Option Nat
  /-- The segments of the path, each after a slash. -/
  path : List String
  query : Option String
  fragment : Option String
  deriving DecidableEq, Repr

namespace Url

def scheme (secure : Bool) : String :=
  if secure then "https" else "http"

/-- The port where nothing else is said. -/
def usualPort (secure : Bool) : Nat :=
  if secure then 443 else 80

/-- The text of an address. -/
def text (u : Url) : String :=
  scheme u.secure ++ "://" ++ u.credentials ++ u.host
    ++ (match u.port with
      | some port => ":" ++ toString port
      | none => "")
    ++ "/" ++ "/".intercalate u.path
    ++ (match u.query with
      | some query => "?" ++ query
      | none => "")
    ++ (match u.fragment with
      | some fragment => "#" ++ fragment
      | none => "")

/-! ### The text that counts -/

/-- A blank or a control. -/
def isBlank (c : Char) : Bool :=
  c.toNat ≤ 0x20

/-- The text without what does not count in it. -/
def significant (text : List Char) : List Char :=
  let trimmed := (((text.dropWhile isBlank).reverse).dropWhile isBlank).reverse
  trimmed.filter fun c => c != '\t' && c != '\n' && c != '\r'

def isSlash (c : Char) : Bool :=
  c == '/' || c == '\\'

/-! ### The server -/

/-- Whether a scheme is one of pages, and then whether it is the encrypted one. -/
def secure? (scheme : List Char) : Option Bool :=
  match String.ofList (scheme.map Char.toLower) with
  | "http" => some false
  | "https" => some true
  | _ => none

/-- The name and the password before the last `@`, as they are written, and what follows it. -/
def splitCredentials (authority : List Char) : String × List Char :=
  match authority.reverse.dropWhile (· != '@') with
  | [] => ("", authority)
  | _ :: before =>
    let user := before.reverse
    let name := Part.credentials.encode (user.takeWhile (· != ':'))
    let password := Part.credentials.encode ((user.dropWhile (· != ':')).drop 1)
    let written := name ++ (if password.isEmpty then "" else ":" ++ password)
    (if written.isEmpty then "" else written ++ "@", authority.drop (user.length + 1))

/-- The host, and the text of the port after a colon that does not stand in brackets. -/
def splitPort (inBrackets : Bool) : List Char → List Char × Option (List Char)
  | [] => ([], none)
  | c :: rest =>
    if c == ':' && !inBrackets then ([], some rest)
    else
      let (host, port) := splitPort (c == '[' || (inBrackets && c != ']')) rest
      (c :: host, port)

/-- The visible characters of ASCII that no name of a host has. -/
def hostDelimiters : List Char :=
  ['#', '%', '/', ':', '<', '>', '?', '@', '[', '\\', ']', '^', '|']

/-- A character of a host that is a name; names are in ASCII. -/
def isHostChar (c : Char) : Bool :=
  0x20 < c.toNat && c.toNat < 0x7F && !hostDelimiters.contains c

/-- A character of a numeric host in brackets. -/
def isBracketedChar (c : Char) : Bool :=
  c.isDigit || ('a' ≤ c.toLower && c.toLower ≤ 'f') || c == ':' || c == '.'

/-- A host: a name, or a number in brackets. -/
def host? (text : List Char) : Option String :=
  let sound := match text with
    | '[' :: rest =>
      2 ≤ rest.length && rest.getLast? == some ']' && rest.dropLast.all isBracketedChar
    | _ => !text.isEmpty && text.all isHostChar
  if sound then some (String.ofList (text.map Char.toLower)) else none

/-- The port of a text of digits, `none` where it is the usual one or not given. -/
def port? (secure : Bool) (digits : List Char) : Option (Option Nat) :=
  let port := digits.foldl (fun value c => value * 10 + (c.toNat - '0'.toNat)) 0
  if digits.isEmpty then some none
  else if !digits.all Char.isDigit || 65535 < port then none
  else some (if port = usualPort secure then none else some port)

/-! ### The path -/

/-- The segment that stands for the place itself. -/
def isDot (segment : List Char) : Bool :=
  segment.map Char.toLower ∈ [".".toList, "%2e".toList]

/-- The segment that stands for the place above. -/
def isDoubleDot (segment : List Char) : Bool :=
  segment.map Char.toLower
    ∈ ["..".toList, ".%2e".toList, "%2e.".toList, "%2e%2e".toList]

/-- A letter that names a drive, with the mark after it. -/
def isDrive (segment : String) : Bool :=
  match segment.toList with
  | [letter, mark] => letter.isAlpha && (mark == ':' || mark == '|')
  | _ => false

/-- The place above; there is none above the root and above a drive.  The last segment is first. -/
def above : List String → List String
  | [] => []
  | segment :: before => if isDrive segment then segment :: before else before

/-- The segments of a path, given those `before`, the last of them first.  A path that ends in a
segment of dots ends in a slash. -/
def resolve (before : List String) : List (List Char) → List String
  | [] => before.reverse
  | segment :: rest =>
    let last := if rest.isEmpty then [""] else []
    if isDot segment then resolve (last ++ before) rest
    else if isDoubleDot segment then resolve (last ++ above before) rest
    else resolve (Part.path.encode segment :: before) rest

/-- The path of a text that is empty or starts with a slash. -/
def pathOf (text : List Char) : List String :=
  let slashed := text.map fun c => if isSlash c then '/' else c
  resolve [] ((slashed.drop 1).splitOn '/')

/-! ### The address -/

/-- The address of a page. -/
def parse? (address : String) : Option Url := do
  let (scheme, rest) ← Text.splitAtFirst? [':'] (significant address.toList)
  let secure ← secure? scheme
  let rest := rest.dropWhile isSlash
  let endsServer := fun (c : Char) => isSlash c || c == '?' || c == '#'
  let (credentials, server) := splitCredentials (rest.takeWhile fun c => !endsServer c)
  let (host, port) := splitPort false server
  let host ← host? host
  let port ← port? secure (port.getD [])
  let rest := rest.dropWhile fun c => !endsServer c
  let path := rest.takeWhile fun c => c != '?' && c != '#'
  let rest := rest.dropWhile fun c => c != '?' && c != '#'
  let (query, fragment) := (rest.takeWhile (· != '#'), rest.dropWhile (· != '#'))
  return {
    secure, credentials, host, port
    path := pathOf path
    query := if query.isEmpty then none else some (Part.query.encode (query.drop 1))
    fragment := if fragment.isEmpty then none else some (Part.fragment.encode (fragment.drop 1)) }

end Url

end ErrorScaffold
