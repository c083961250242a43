/-!
# Addresses

An address has a scheme and, behind it, either a place on a host or anything
else. A place is a path of steps below an authority: a host with, if they
are given, a port and the name and password of a user. Without an authority
the path may be a plain text that has no steps. A query may follow. The part
of an address behind a number sign only says where to look in a page, so it
is not kept: two addresses that differ there alone are one.

The parts of an address are held as they are written.
-/

namespace Concordance

namespace Url

structure Authority where
  /-- The user with the password and the separators, as written before the host. -/
  userInfo : List Char
  host : List Char
  port? : Option Nat
deriving DecidableEq, Repr

inductive Path where
  /-- Each step is written behind a slash. -/
  | steps (names : List (List Char))
  | plain (text : List Char)
deriving DecidableEq, Repr

/-- Why a text is no address. -/
inductive Fault where
  | emptyHost
  | invalidDomainName
  | invalidPort
  | invalidIpv4
  | invalidIpv6
  | invalidHostCharacter
  | relativeWithoutBase
deriving DecidableEq, Repr

def Fault.message : Fault → String
  | emptyHost => "empty host"
  | invalidDomainName => "invalid international domain name"
  | invalidPort => "invalid port number"
  | invalidIpv4 => "invalid IPv4 address"
  | invalidIpv6 => "invalid IPv6 address"
  | invalidHostCharacter => "invalid domain character"
  | relativeWithoutBase => "relative URL without a base"

end Url

structure Url where
  scheme : List Char
  authority? : Option Url.Authority
  path : Url.Path
  query? : Option (List Char)
deriving DecidableEq, Repr

namespace Url

def Authority.text (authority : Authority) : List Char :=
  authority.userInfo ++ authority.host ++
    match authority.port? with
    | none => []
    | some port => ':' :: Nat.toDigits 10 port

def Path.text : Path → List Char
  | steps names => names.flatMap ('/' :: ·)
  | plain text => text

/-- A path whose first step is empty would look like a host if it stood alone. -/
def looksLikeHost : Path → Bool
  | .steps ([] :: _ :: _) => true
  | _ => false

/-- An address as it is written. -/
def text (url : Url) : List Char :=
  let place := match url.authority? with
    | some authority => '/' :: '/' :: authority.text
    | none => if looksLikeHost url.path then ['/', '.'] else []
  let query := match url.query? with
    | some query => '?' :: query
    | none => []
  url.scheme ++ ':' :: place ++ url.path.text ++ query

def toString (url : Url) : String := .ofList url.text

/-- Whether an address is that of a page on the web. -/
def isHttp (url : Url) : Bool := url.scheme = "http".toList || url.scheme = "https".toList

end Url

end Concordance
