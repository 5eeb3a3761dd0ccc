/-! # Request targets

The target of a request is read character by character: an optional scheme, an authority, a path
and a query. A fragment is dropped. Nothing is decoded and nothing is resolved, so the parts stand
in the target as they were written.

* `Uri.parse` reads a target and says why a text is none.
* `Uri.render` writes it back, and `Uri.path` is the path of a request: `/` where a target with a
  scheme writes none. -/

namespace Outbound

/-- Why a text is not a request target. -/
inductive UriError where
  /-- There is no text, or none behind the scheme. -/
  | empty
  /-- The text is longer than allowed. -/
  | tooLong
  /-- The scheme is longer than allowed. -/
  | schemeTooLong
  /-- A character stands where it must not. -/
  | invalidCharacter
  /-- The authority is not built like one. -/
  | invalidAuthority
  /-- The text is neither a path nor an authority nor a target with a scheme. -/
  | invalidFormat
  deriving DecidableEq, Repr

/-- The wording of an error. -/
def UriError.message : UriError → String
  | .empty => "empty string"
  | .tooLong => "uri too long"
  | .schemeTooLong => "scheme too long"
  | .invalidCharacter => "invalid uri character"
  | .invalidAuthority => "invalid authority"
  | .invalidFormat => "invalid format"

/-- A request target. -/
structure Uri where
  /-- The scheme, in lower case for the web schemes. -/
  scheme : Option String
  /-- The authority as it was written. -/
  authority : Option String
  /-- The path as it was written; it may be empty. -/
  writtenPath : String
  /-- What stands behind the question mark, if there is one. -/
  query : Option String
  deriving DecidableEq, Repr

namespace Uri

/-! ## Character classes -/

/-- Whether a character may stand in a scheme. -/
def isSchemeChar (character : Char) : Bool :=
  character.isAlphanum || character == '+' || character == '-' || character == '.'

/-- Whether a character may stand in an authority; the percent sign has a rule of its own. -/
def isAuthorityChar (character : Char) : Bool :=
  character.isAlphanum || "!$&'()*+,-.:;=@[]_~".toList.contains character

/-- Whether a character may stand in a path. -/
def isPathChar (character : Char) : Bool :=
  let code := character.toNat
  character == '!' || character == '"' || (0x24 ≤ code && code ≤ 0x3B) || character == '='
    || (0x40 ≤ code && code ≤ 0x5F) || (0x61 ≤ code && code ≤ 0x7E) || 0x80 ≤ code

/-- Whether a character may stand in a query. -/
def isQueryChar (character : Char) : Bool :=
  let code := character.toNat
  character == '!' || (0x24 ≤ code && code ≤ 0x3B) || character == '='
    || (0x3F ≤ code && code ≤ 0x7E) || 0x80 ≤ code

/-- Whether a character ends an authority. -/
def endsAuthority (character : Char) : Bool :=
  character == '/' || character == '?' || character == '#'

/-! ## Limits -/

/-- The greatest number of bytes in a target. -/
def maxBytes : Nat := 65534

/-- The greatest number of characters in a scheme. -/
def maxScheme : Nat := 64

/-- The greatest number of colons in a row of authority characters that no bracket or user ends. -/
def maxColons : Nat := 8

/-! ## Scheme -/

/-- Whether a text starts with another one, capital letters aside. -/
def startsWithCaseless (start text : List Char) : Bool :=
  (text.take start.length).map Char.toLower == start

/-- The scheme of a target and what follows the two slashes behind it. -/
def splitScheme (text : List Char) : Except UriError (Option String × List Char) :=
  if startsWithCaseless "http://".toList text then .ok (some "http", text.drop 7)
  else if startsWithCaseless "https://".toList text then .ok (some "https", text.drop 8)
  else
    let scheme := text.takeWhile isSchemeChar
    let others := text.dropWhile isSchemeChar
    if 3 < text.length ∧ others.take 3 = "://".toList then
      if maxScheme < scheme.length then .error .schemeTooLong
      else .ok (some (String.ofList scheme), others.drop 3)
    else .ok (none, text)

/-! ## Authority -/

/-- What is remembered of an authority while it is read. -/
structure AuthorityScan where
  /-- The colons since the last user or bracket ended. -/
  colons : Nat := 0
  /-- Whether a bracket was opened. -/
  opened : Bool := false
  /-- Whether a bracket was closed. -/
  closed : Bool := false
  /-- Whether a percent sign stood behind the last user or bracket. -/
  percent : Bool := false
  /-- Whether the last character ended a user. -/
  endsWithUser : Bool := false

/-- Reads one more character of an authority. -/
def AuthorityScan.step (scan : AuthorityScan) (character : Char) :
    Except UriError AuthorityScan :=
  let scan := { scan with endsWithUser := character == '@' }
  match character with
  | ':' =>
      if maxColons ≤ scan.colons then .error .invalidAuthority
      else .ok { scan with colons := scan.colons + 1 }
  | '[' =>
      if scan.percent || scan.opened then .error .invalidAuthority
      else .ok { scan with opened := true }
  | ']' =>
      if !scan.opened || scan.closed then .error .invalidAuthority
      else .ok { scan with closed := true, colons := 0, percent := false }
  | '@' => .ok { scan with colons := 0, percent := false }
  | '%' => .ok { scan with percent := true }
  | _ => if isAuthorityChar character then .ok scan else .error .invalidCharacter

/-- Whether what was read is an authority: its brackets pair up, at most one colon stands behind
the user and the brackets, something follows the user, and no percent sign is left. -/
def AuthorityScan.isComplete (scan : AuthorityScan) : Bool :=
  scan.opened == scan.closed && decide (scan.colons ≤ 1) && !scan.endsWithUser && !scan.percent

/-- Splits the authority off the front of a text. It may be empty, but the text may not. -/
def splitAuthority (text : List Char) : Except UriError (List Char × List Char) :=
  if text.isEmpty then .error .empty
  else do
    let authority := text.takeWhile fun character => !endsAuthority character
    let scan ← authority.foldlM AuthorityScan.step {}
    if scan.isComplete then .ok (authority, text.drop authority.length)
    else .error .invalidAuthority

/-! ## Path and query -/

/-- The path and the query in which a text ends; a fragment is dropped unread. -/
def splitPath (text : List Char) : Except UriError (String × Option String) :=
  let path := text.takeWhile fun character => character != '?' && character != '#'
  if !path.all isPathChar then .error .invalidCharacter
  else
    match text.drop path.length with
    | '?' :: others =>
        let query := others.takeWhile (· != '#')
        if query.all isQueryChar then .ok (String.ofList path, some (String.ofList query))
        else .error .invalidCharacter
    | _ => .ok (String.ofList path, none)

/-! ## Whole targets -/

/-- Reads a text that is neither a path nor a single character: an authority alone, or a scheme, an
authority and a path. -/
def parseLong (text : List Char) : Except UriError Uri := do
  let (scheme, others) ← splitScheme text
  let (authority, rest) ← splitAuthority others
  match scheme with
  | none =>
      if rest.isEmpty then .ok ⟨none, some (String.ofList authority), "", none⟩
      else .error .invalidFormat
  | some _ =>
      if authority.isEmpty then .error .invalidFormat
      else
        let (path, query) ← splitPath rest
        .ok ⟨scheme, some (String.ofList authority), path, query⟩

/-- Reads a request target. -/
def parse (text : String) : Except UriError Uri :=
  if maxBytes < text.utf8ByteSize then .error .tooLong
  else
    match text.toList with
    | [] => .error .empty
    | ['*'] => .ok ⟨none, none, "*", none⟩
    | '/' :: others => do
        let (path, query) ← splitPath ('/' :: others)
        .ok ⟨none, none, path, query⟩
    | [single] => do
        let (authority, rest) ← splitAuthority [single]
        if rest.isEmpty then .ok ⟨none, some (String.ofList authority), "", none⟩
        else .error .invalidCharacter
    | characters => parseLong characters

/-- The path of a request. A target with a scheme has at least the path `/`. -/
def path (uri : Uri) : String :=
  if uri.writtenPath.isEmpty && uri.scheme.isSome then "/" else uri.writtenPath

/-- Writes a target. -/
def render (uri : Uri) : String :=
  (uri.scheme.map (· ++ "://")).getD "" ++ uri.authority.getD "" ++ uri.path
    ++ (uri.query.map ("?" ++ ·)).getD ""

end Uri

end Outbound
