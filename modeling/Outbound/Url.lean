import Outbound.Url.Address
import Outbound.Url.Domain

/-! # Locators

The base of a client and the address of a request on the network are locators. A locator starts with
a scheme. The schemes of the web have a host behind any number of slashes, written forward or
backward; other schemes have one only behind two slashes.

* `Url.parse` reads a locator and says why a text is none. Only what it takes to tell that is kept:
  the scheme, the host and the port. -/

namespace Outbound

/-- Why a text is not a locator. -/
inductive UrlError where
  /-- The text does not start with a scheme. -/
  | relative
  /-- The host is missing. -/
  | emptyHost
  /-- The port is not a number of sixteen bits. -/
  | invalidPort
  /-- The domain ends in a number but is no version 4 address. -/
  | invalidIpv4
  /-- The text in brackets is no version 6 address. -/
  | invalidIpv6
  /-- The domain cannot be folded to a plain one. -/
  | invalidDomain
  /-- A host of another scheme holds a character that separates parts. -/
  | invalidDomainCharacter
  deriving DecidableEq, Repr

/-- The wording of an error. -/
def UrlError.message : UrlError → String
  | .relative => "relative URL without a base"
  | .emptyHost => "empty host"
  | .invalidPort => "invalid port number"
  | .invalidIpv4 => "invalid IPv4 address"
  | .invalidIpv6 => "invalid IPv6 address"
  | .invalidDomain => "invalid international domain name"
  | .invalidDomainCharacter => "invalid domain character"

/-- A locator, as far as it is checked. -/
structure Url where
  /-- The scheme in lower case. -/
  scheme : String
  /-- The host, if there is one. -/
  host : Option (List Char)
  /-- The port, if one is written. -/
  port : Option Nat
  deriving DecidableEq, Repr

namespace Url

/-! ## Schemes -/

/-- The three kinds of schemes, which differ in what follows them. -/
inductive Kind where
  /-- A scheme of the web, which needs a host. -/
  | web
  /-- The scheme of files, in which a host may be left out. -/
  | file
  /-- Any other scheme. -/
  | other
  deriving DecidableEq, Repr

/-- The kind of a scheme in lower case. -/
def kindOf (scheme : List Char) : Kind :=
  if scheme = "file".toList then .file
  else if ["http", "https", "ws", "wss", "ftp"].any fun name => scheme = name.toList then .web
  else .other

/-- Whether a character may stand in a scheme behind its first letter. -/
def isSchemeChar (character : Char) : Bool :=
  character.isAlphanum || character == '+' || character == '-' || character == '.'

/-- The text without controls and blanks at its ends, and without tabs and line ends. -/
def cleaned (text : List Char) : List Char :=
  let isBlank (character : Char) : Bool := character ≤ ' '
  (((text.dropWhile isBlank).reverse.dropWhile isBlank).reverse).filter fun character =>
    character != '\t' && character != '\n' && character != '\r'

/-- The scheme in lower case and what stands behind its colon. -/
def splitScheme? (text : List Char) : Option (List Char × List Char) :=
  match text with
  | first :: _ =>
      if first.isAlpha then
        match text.dropWhile isSchemeChar with
        | ':' :: others => some ((text.takeWhile isSchemeChar).map Char.toLower, others)
        | _ => none
      else none
  | [] => none

/-! ## Hosts -/

/-- Whether a character ends an authority: a slash, a question mark or a number sign, and in the
schemes of the web a backslash. -/
def endsAuthority (web : Bool) (character : Char) : Bool :=
  character == '/' || character == '?' || character == '#' || (web && character == '\\')

/-- The text in the brackets around a version 6 address, if it is one. -/
def bracketed (host : List Char) : Except UrlError (List Char) :=
  if host.getLast? = some ']' ∧ Ipv6.isAddress (host.drop 1).dropLast then .ok host
  else .error .invalidIpv6

/-- Checks the host of a web or file locator. -/
def webHost (host : List Char) : Except UrlError (List Char) :=
  if host.head? = some '[' then bracketed host
  else
    match Domain.ofHost? (String.ofList host) with
    | none => .error .invalidDomain
    | some domain =>
        if domain.isEmpty then .error .emptyHost
        else if Ipv4.endsInNumber domain && !Ipv4.isAddress domain then .error .invalidIpv4
        else .ok domain

/-- The characters that may not stand in the host of another scheme. -/
def separators : List Char := "\x00\t\n\r #/:<>?@[\\]^|".toList

/-- Checks the host of a locator with another scheme. -/
def plainHost (host : List Char) : Except UrlError (List Char) :=
  if host.head? = some '[' then bracketed host
  else if host.any separators.contains then .error .invalidDomainCharacter
  else .ok host

/-! ## Authorities -/

/-- Splits a host from a port: at the first colon that does not stand in brackets. -/
def splitPort (inBrackets : Bool) : List Char → List Char × Option (List Char)
  | [] => ([], none)
  | character :: others =>
      if character == ':' && !inBrackets then ([], some others)
      else
        let (host, port) :=
          splitPort (character == '[' || (inBrackets && character != ']')) others
        (character :: host, port)

/-- Reads a port; a backslash ends it. -/
def readPort (text : List Char) : Except UrlError (Option Nat) :=
  let digits := text.takeWhile (· != '\\')
  if digits.isEmpty then .ok none
  else if digits.all Char.isDigit && decide (numberInBase 10 digits ≤ 65535) then
    .ok (some (numberInBase 10 digits))
  else .error .invalidPort

/-- Splits the user off the front of an authority, at the last at sign. -/
def splitUser (authority : List Char) : Option (List Char) × List Char :=
  let behind := (authority.reverse.takeWhile (· != '@')).reverse
  if behind.length = authority.length then (none, authority)
  else (some (authority.take (authority.length - behind.length - 1)), behind)

/-- Whether a user is written: a name, or a password behind a colon. -/
def namesUser (user : List Char) : Bool :=
  !(user.isEmpty || user == [':'])

/-- Reads the authority at the front of a text. -/
def readAuthority (scheme : List Char) (web : Bool) (text : List Char) : Except UrlError Url := do
  let authority := text.takeWhile fun character => !endsAuthority web character
  let closed := decide (authority.length < text.length)
  let (user, address) := splitUser authority
  if user = some [] ∧ address.isEmpty ∧ closed then .error .emptyHost
  else
    let (host, port) := splitPort false address
    if host.isEmpty && (web || port.isSome) then .error .emptyHost
    else
      let checked ← if web then webHost host else plainHost host
      let number ← (port.map readPort).getD (.ok none)
      if host.isEmpty && (user.map namesUser).getD false then .error .emptyHost
      else .ok ⟨String.ofList scheme, if host.isEmpty then none else some checked, number⟩

/-- Whether a text is the letter of a drive with its colon or bar. -/
def isDrive : List Char → Bool
  | [letter, mark] => letter.isAlpha && (mark == ':' || mark == '|')
  | _ => false

/-- Whether a character is a slash in either direction. -/
def isSlash (character : Char) : Bool := character == '/' || character == '\\'

/-- Reads what follows the scheme of files. -/
def readFile (text : List Char) : Except UrlError Url := do
  match text with
  | first :: second :: others =>
      let host := others.takeWhile fun character => !endsAuthority true character
      if !(isSlash first && isSlash second) || host.isEmpty || isDrive host then
        .ok ⟨"file", none, none⟩
      else
        let checked ← webHost host
        .ok ⟨"file", some checked, none⟩
  | _ => .ok ⟨"file", none, none⟩

/-- Reads a locator. -/
def parse (text : String) : Except UrlError Url :=
  match splitScheme? (cleaned text.toList) with
  | none => .error .relative
  | some (scheme, others) =>
      match kindOf scheme, others with
      | .web, _ => readAuthority scheme true (others.dropWhile isSlash)
      | .file, _ => readFile others
      | .other, '/' :: '/' :: behind => readAuthority scheme false behind
      | .other, _ => .ok ⟨String.ofList scheme, none, none⟩

end Url

end Outbound
