import SqlBuilder.Url.Ipv6
import SqlBuilder.Url.Path

/-!
# Server URLs

A URL with an authority: user information, a host and a port, followed by a path, a query and a
fragment.  The schemes of database servers have no rules of their own, so a host is either an IPv6
address in brackets or a name that is taken as it stands.

Text that becomes part of a URL is looked at without tabs and line ends, and without control
characters and spaces at its end.
-/
namespace SqlBuilder

/-- Why a text is no URL. -/
inductive UrlError where
  | emptyHost
  | invalidPort
  | invalidIpv6
  | invalidName
deriving DecidableEq

def UrlError.message : UrlError → String
  | emptyHost => "empty host"
  | invalidPort => "invalid port number"
  | invalidIpv6 => "invalid IPv6 address"
  | invalidName => "invalid domain character"

inductive Host where
  /-- A name, encoded; it may be empty. -/
  | name (encoded : List Char)
  | ipv6 (pieces : List Nat)
deriving DecidableEq

namespace Host

/-- The characters that no host name may hold. -/
def isForbidden (c : Char) : Bool :=
  c ∈ ['\x00', '\t', '\n', '\r', ' ', '#', '/', ':', '<', '>', '?', '@', '[', '\\', ']', '^', '|']

def ofText (text : List Char) : Except UrlError Host :=
  if text.head? = some '[' then
    if text.getLast? = some ']' then
      match Ipv6.ofText? (text.drop 1).dropLast with
      | some pieces => .ok (.ipv6 pieces)
      | none => .error .invalidIpv6
    else .error .invalidIpv6
  else if text.any isForbidden then .error .invalidName
  else .ok (.name (Percent.encode Percent.inHost text))

def isEmpty : Host → Bool
  | name encoded => encoded.isEmpty
  | ipv6 _ => false

def render : Host → List Char
  | name encoded => encoded
  | ipv6 pieces => ['['] ++ Ipv6.render pieces ++ [']']

end Host

/-- A URL with an authority.  The user name, the password, the path, the query and the fragment are
encoded; an empty user name or password is not written. -/
structure Url where
  scheme : String
  user : List Char
  password : List Char
  host : Host
  port : Option Nat
  path : List Char
  query : Option (List Char)
  fragment : Option (List Char)

namespace Url

/-! ## Reading -/

def isTrimmed (c : Char) : Bool := c.toNat ≤ 0x20

def isIgnored (c : Char) : Bool := c == '\t' || c == '\n' || c == '\r'

/-- A text as it is looked at. -/
def cleaned (text : List Char) : List Char :=
  ((text.reverse.dropWhile isTrimmed).reverse).filter fun c => !isIgnored c

/-- Where the authority ends. -/
def endsAuthority (c : Char) : Bool := c == '/' || c == '?' || c == '#'

/-- The part before the last `@`, if there is one, and the part behind it. -/
def splitLastAt (text : List Char) : Option (List Char) × List Char :=
  let host := (text.reverse.takeWhile (· ≠ '@')).reverse
  if host.length = text.length then (none, text)
  else (some (text.take (text.length - host.length - 1)), host)

/-- The part before the first colon outside brackets, and the rest. -/
def splitPort (inBrackets : Bool) : List Char → List Char × List Char
  | [] => ([], [])
  | c :: rest =>
      if c = ':' ∧ inBrackets = false then ([], c :: rest)
      else
        let inside := if c = '[' then true else if c = ']' then false else inBrackets
        (c :: (splitPort inside rest).1, (splitPort inside rest).2)

/-- A port behind its colon, and what follows.  Without digits there is none. -/
def readPort (text : List Char) : Except UrlError (Option Nat × List Char) :=
  let digits := text.takeWhile Char.isDigit
  let rest := text.dropWhile Char.isDigit
  let n := digits.foldl (fun n c => n * 10 + (c.toNat - 48)) 0
  if 65535 < n then .error .invalidPort
  else match rest with
    | [] => .ok (if digits.isEmpty then none else some n, [])
    | c :: _ =>
        if endsAuthority c || c == '\\' then .ok (if digits.isEmpty then none else some n, rest)
        else .error .invalidPort

/-- The user name and the password of user information, encoded. -/
def readUserInfo (text : List Char) : List Char × List Char :=
  (Percent.encode Percent.inUserInfo (text.takeWhile (· ≠ ':')),
    Percent.encode Percent.inUserInfo ((text.dropWhile (· ≠ ':')).drop 1))

/-- Path, query and fragment of what follows the authority. -/
def readTail (text : List Char) : List Char × Option (List Char) × Option (List Char) :=
  let path := text.takeWhile fun c => c ≠ '?' && c ≠ '#'
  let behindPath := text.dropWhile fun c => c ≠ '?' && c ≠ '#'
  let path := match path with
    | [] => []
    | '/' :: rest => UrlPath.ofText rest
    | rest => UrlPath.ofText rest
  let fragment := ((behindPath.dropWhile (· ≠ '#')).drop 1)
  let hasFragment := behindPath.contains '#'
  let query := match behindPath with
    | '?' :: rest => some (Percent.encode Percent.inQuery (rest.takeWhile (· ≠ '#')))
    | _ => none
  (path, query, if hasFragment then some (Percent.encode Percent.inFragment fragment) else none)

/-- The URL of a scheme and the text behind the two slashes. -/
def ofAuthority (scheme : String) (text : List Char) : Except UrlError Url := do
  let text := cleaned text
  let authority := text.takeWhile fun c => !endsAuthority c
  let tail := text.dropWhile fun c => !endsAuthority c
  let (info, hostAndPort) := splitLastAt authority
  if info = some [] ∧ hostAndPort = [] ∧ tail ≠ [] then throw .emptyHost
  let (user, password) := readUserInfo (info.getD [])
  let (hostText, behindHost) := splitPort false hostAndPort
  let host ← Host.ofText hostText
  if host.isEmpty ∧ behindHost ≠ [] then throw .emptyHost
  let (port, tail) ←
    if behindHost = [] then pure (none, tail) else readPort (behindHost.drop 1 ++ tail)
  if host.isEmpty ∧ ¬(user = [] ∧ password = []) then throw .emptyHost
  let (path, query, fragment) := readTail tail
  return { scheme, user, password, host, port, path, query, fragment }

/-! ## Changing parts -/

def withPort (url : Url) (port : Option Nat) : Url := { url with port }

def withUser (url : Url) (user : String) : Url :=
  { url with user := Percent.encode Percent.inUserInfo user.toList }

def withPassword (url : Url) (password : String) : Url :=
  { url with password := Percent.encode Percent.inUserInfo password.toList }

/-- Replaces the path by the segments of a text. -/
def withPath (url : Url) (text : String) : Url :=
  { url with path := UrlPath.ofText (text.toList.filter fun c => !isIgnored c) }

/-- Adds options behind the query that is there. -/
def addOptions (url : Url) (options : List (String × String)) : Url :=
  if options.isEmpty then url
  else
    let added := FormQuery.ofOptions options
    { url with query := match url.query with
        | some [] => some added
        | some query => some (query ++ ['&'] ++ added)
        | none => some added }

/-! ## Writing -/

/-- The user information with its `@`, if there is any. -/
def renderUserInfo (url : Url) : List Char :=
  if url.password ≠ [] then url.user ++ [':'] ++ url.password ++ ['@']
  else if url.user ≠ [] then url.user ++ ['@']
  else []

def renderPort (url : Url) : List Char :=
  match url.port with
  | some port => ':' :: (toString port).toList
  | none => []

def renderQuery (url : Url) : List Char :=
  match url.query with
  | some query => '?' :: query
  | none => []

def renderFragment (url : Url) : List Char :=
  match url.fragment with
  | some fragment => '#' :: fragment
  | none => []

/-- The written form of a URL. -/
def render (url : Url) : String :=
  url.scheme ++ String.ofList ("://".toList ++ url.renderUserInfo ++ url.host.render ++
    url.renderPort ++ url.path ++ url.renderQuery ++ url.renderFragment)

end Url

end SqlBuilder
