import NoteMarkup.Url.Domain
import NoteMarkup.Url.Path

/-!
# URLs of the web

Absolute references to files on web servers, as browsers read them: forgiving
about slashes and blanks, strict about the host.

- `isHost` and `isAuthority` say which servers can be named;
- `WebUrl` is what of a reference does not name the server;
- `WebUrl.parse?` reads a reference, which must be absolute and start with `http:`
  or `https:`;
- `UrlReader` is any way of reading references, and this is the one that is used.
-/

namespace NoteMarkup

namespace Url

/-! ## Servers -/

/-- The text names a host: by an address in brackets, by a domain name, or by an address that
    could be one. -/
def isHost : List Char → Bool
  | [] => false
  | '[' :: cs => cs.getLast? == some ']' && isIpv6 cs.dropLast
  | cs =>
    match (Percent.decode? cs).bind domainLabels? with
    | none => false
    | some labels => !endsInNumber labels || isIpv4 labels

/-- Cuts a text in front of the first colon that is not in brackets. -/
def spanHost (inBrackets : Bool) : List Char → List Char × List Char
  | [] => ([], [])
  | c :: cs =>
    if c == ':' && !inBrackets then
      ([], c :: cs)
    else
      let (host, rest) := spanHost (c == '[' || (inBrackets && c != ']')) cs
      (c :: host, rest)

def maxPort : Nat := 65535

/-- The text names a port, or none. -/
def isPort (cs : List Char) : Bool :=
  cs.all Char.isDigit && cs.foldl (fun n c => 10 * n + (c.toNat - '0'.toNat)) 0 ≤ maxPort

/-- What follows the last `@` of a text, which separates the name of a user. -/
def afterUser (cs : List Char) : List Char :=
  (cs.reverse.takeWhile (· != '@')).reverse

/-- The text names a server: a host, with a user in front or a port behind. -/
def isAuthority (cs : List Char) : Bool :=
  let (host, rest) := spanHost false (afterUser cs)
  isHost host && isPort rest.tail

/-! ## Parts of a reference -/

/-- The characters that end the name of a server. -/
def endsAuthority (c : Char) : Bool :=
  isSlash c || c == '?' || c == '#'

def isReservedInQuery (c : Char) : Bool :=
  Percent.isAlwaysReserved c || " \"#<>'".contains c

/-- What is read of a reference: blanks and controls around it do not count, nor do tabs and
    line ends in it. -/
def cleaned (cs : List Char) : List Char :=
  let behind := cs.dropWhile (·.toNat ≤ 0x20)
  let inside := (behind.reverse.dropWhile (·.toNat ≤ 0x20)).reverse
  inside.filter fun c => c != '\t' && c != '\n' && c != '\r'

/-- What follows a scheme of the web and its colon. -/
def afterWebScheme? (cs : List Char) : Option (List Char) :=
  let scheme := (cs.takeWhile (· != ':')).map Char.toLower
  match cs.dropWhile (· != ':') with
  | [] => none
  | _ :: rest =>
    if scheme = ['h', 't', 't', 'p'] ∨ scheme = ['h', 't', 't', 'p', 's'] then some rest else none

/-- The encoded query in what follows a path, if there is one. -/
def queryOf? : List Char → Option (List Char)
  | '?' :: cs => some (Percent.encode isReservedInQuery (cs.takeWhile (· != '#')))
  | _ => none

end Url

/-- What of an absolute reference does not name the server. -/
structure WebUrl where
  path : String
  query? : Option String
  deriving Repr, DecidableEq, Inhabited

namespace WebUrl

/-- Reads an absolute reference to a web server. -/
def parse? (reference : String) : Option WebUrl := do
  let cs ← Url.afterWebScheme? (Url.cleaned reference.toList)
  let cs := cs.dropWhile Url.isSlash
  if Url.isAuthority (cs.takeWhile (!Url.endsAuthority ·)) then
    let cs := cs.dropWhile (!Url.endsAuthority ·)
    let path := Url.normalPath (cs.takeWhile fun c => c != '?' && c != '#')
    let query? := Url.queryOf? (cs.dropWhile fun c => c != '?' && c != '#')
    some ⟨String.ofList path, query?.map String.ofList⟩
  else
    none

end WebUrl

/-- A way of reading absolute references to web servers. -/
class UrlReader where
  parse? : String → Option WebUrl

instance : UrlReader := ⟨WebUrl.parse?⟩

end NoteMarkup
