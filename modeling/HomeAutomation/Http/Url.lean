/-
  HomeAutomation.Http.Url

  Addresses of requests, in their normal form: the host in lower case and in ASCII, no port that is
  the usual one, no step to the same or the upper level in the path, unsafe characters escaped.
-/
import HomeAutomation.HostName.Address
import HomeAutomation.HostName.Basic
import HomeAutomation.Http.Percent
import HomeAutomation.Text.LowerCase

namespace HomeAutomation

/-- What is wrong with an address. -/
inductive UrlFault
  | tooLong
  | controlCharacter (c : Char) (position : Nat)
  | badOctets (host : String)
  | badGroups (host : String)
  | badName (host : String)
  | badPort (port : String)
  deriving DecidableEq, Repr

/-- The message about a fault. -/
def UrlFault.message : UrlFault → String
  | tooLong => "URL too long"
  | controlCharacter c position =>
    "Invalid non-printable ASCII character in URL, " ++ Text.quote (String.ofList [c])
      ++ " at position " ++ toString position ++ "."
  | badOctets host => "Invalid IPv4 address: " ++ Text.quote host
  | badGroups host => "Invalid IPv6 address: " ++ Text.quote host
  | badName host => "Invalid IDNA hostname: " ++ Text.quote host
  | badPort port => "Invalid port: " ++ Text.quote port

/-- An address. A host that is empty is none. -/
structure Url where
  scheme : String := ""
  user : String := ""
  host : String := ""
  port : Option Int := none
  path : String := ""
  query : Option String := none
  fragment : Option String := none
  deriving DecidableEq, Repr, Inhabited

namespace Url

/-! ## Written form -/

/-- The host with its user and port. -/
def authority (url : Url) : String :=
  (if url.user.isEmpty then "" else url.user ++ "@")
    ++ (if url.host.toList.contains ':' then "[" ++ url.host ++ "]" else url.host)
    ++ (match url.port with
      | some port => ":" ++ toString port
      | none => "")

/-- The text of an address. -/
def text (url : Url) : String :=
  (if url.scheme.isEmpty then "" else url.scheme ++ ":")
    ++ (if url.authority.isEmpty then "" else "//" ++ url.authority)
    ++ url.path
    ++ (match url.query with
      | some query => "?" ++ query
      | none => "")
    ++ (match url.fragment with
      | some fragment => "#" ++ fragment
      | none => "")

/-! ## Parts -/

/-- Splits off a scheme with the colon after it. -/
def splitScheme (cs : List Char) : List Char × List Char :=
  let isPart (c : Char) : Bool := c.isAlphanum || c = '+' || c = '.' || c = '-'
  match cs.dropWhile isPart with
  | ':' :: rest =>
    let scheme := cs.takeWhile isPart
    if scheme.head?.all Char.isAlpha then (scheme, rest) else ([], cs)
  | _ => ([], cs)

/-- Splits off what stands between two slashes and the path, the query or the fragment. -/
def splitAuthority (cs : List Char) : List Char × List Char :=
  let isPart (c : Char) : Bool := c != '/' && c != '?' && c != '#'
  match cs with
  | '/' :: '/' :: rest => (rest.takeWhile isPart, rest.dropWhile isPart)
  | _ => ([], cs)

/-- Splits a user and its sign off an authority. -/
def splitUser (cs : List Char) : List Char × List Char :=
  match cs.reverse.dropWhile (· != '@') with
  | [] => ([], cs)
  | _ :: user => (user.reverse, (cs.reverse.takeWhile (· != '@')).reverse)

/-- Splits an authority without user into a host and the text of a port. -/
def splitPort (cs : List Char) : List Char × List Char :=
  let (host, rest) :=
    match cs, cs.reverse.dropWhile (· != ']') with
    | '[' :: _, ']' :: bracketed =>
      ((']' :: bracketed).reverse, (cs.reverse.takeWhile (· != ']')).reverse)
    | _, _ => (cs.takeWhile (· != ':'), cs.dropWhile (· != ':'))
  match rest with
  | ':' :: port => (host, port)
  | port => (host, port)

/-- A path without steps to the same or the upper level. -/
def withoutSteps (path : List Char) : List Char :=
  let kept := (HostName.splitAt '/' path).foldl (fun kept part =>
    if part = ['.'] then kept
    else if part = ['.', '.'] then if kept = [[]] then kept else kept.dropLast
    else kept ++ [part]) ([] : List (List Char))
  ['/'].intercalate kept

/-- A host in its normal form. -/
def normalHost (host : List Char) : Except UrlFault (List Char) :=
  let inner := (host.drop 1).dropLast
  if HostName.resemblesOctets host then
    if HostName.isOctetAddress host then .ok host else .error (.badOctets (String.ofList host))
  else if host.length ≥ 2 && host.head? == some '[' && host.getLast? == some ']' then
    if HostName.isGroupAddress inner then .ok inner else .error (.badGroups (String.ofList host))
  else if host.all HostName.Punycode.isAscii then
    .ok (Http.percentEncode Http.isHostSafe (host.map Char.toLower))
  else
    match HostName.encode? (Text.lower (String.ofList host)).toList with
    | some name => .ok name
    | none => .error (.badName (String.ofList host))

/-- The usual port of a scheme. -/
def usualPort? : String → Option Int
  | "http" => some 80
  | "https" => some 443
  | _ => none

/-- A port in its normal form. -/
def normalPort (scheme : String) (port : String) : Except UrlFault (Option Int) :=
  if port.isEmpty then .ok none
  else
    match Number.readInteger? port with
    | none => .error (.badPort port)
    | some number => .ok (if usualPort? scheme = some number then none else some number)

/-! ## Reading -/

/-- How many characters an address may have. -/
def lengthLimit : Nat := 65536

/-- Whether a character is a control character of ASCII. -/
def isControl (c : Char) : Bool := c.toNat < 0x20 || c.toNat = 0x7F

/-- Reads an address. -/
def parse (source : String) : Except UrlFault Url := do
  let cs := source.toList
  if lengthLimit < cs.length then throw .tooLong
  match cs.dropWhile (!isControl ·) with
  | c :: _ => throw (.controlCharacter c (cs.takeWhile (!isControl ·)).length)
  | [] => pure ()
  let (scheme, rest) := splitScheme cs
  let (authority, rest) := splitAuthority rest
  let (user, hostPort) := splitUser authority
  let (host, port) := splitPort hostPort
  let path := rest.takeWhile fun c => c != '?' && c != '#'
  let query :=
    match rest.dropWhile fun c => c != '?' && c != '#' with
    | '?' :: query => some (query.takeWhile (· != '#'))
    | _ => none
  let fragment :=
    match rest.dropWhile (· != '#') with
    | _ :: fragment => some fragment
    | [] => none
  let scheme := String.ofList scheme
  let host ← normalHost host
  let port ← normalPort scheme (String.ofList port)
  return {
    scheme, port
    user := String.ofList (Http.percentEncode Http.isUserSafe user)
    host := String.ofList host
    path := String.ofList (Http.percentEncode Http.isPathSafe (withoutSteps path))
    query := query.map fun cs => String.ofList (Http.percentEncode Http.isQuerySafe cs)
    fragment := fragment.map fun cs => String.ofList (Http.percentEncode Http.isFragmentSafe cs) }

/-- The address that a request is made with: one that names no host loses all but its path, which
    starts from the root, and its query. -/
def forRequest (url : Url) : Url :=
  if url.host.isEmpty then
    { path := "/" ++ String.ofList (url.path.toList.dropWhile (· == '/')), query := url.query }
  else url

/-- The path, from the root on, that a target names. Two slashes at its start have a host after
    them. -/
def rootPath (target : String) : String :=
  let below :=
    match target.toList with
    | '/' :: '/' :: rest => rest.dropWhile (· != '/')
    | cs => cs
  String.ofList (withoutSteps ('/' :: below.dropWhile (· == '/')))

end Url

end HomeAutomation
