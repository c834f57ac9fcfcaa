import PartyLine.Json.Problem

/-!
# Addresses

The URL of an endpoint: a scheme, an authority with its host and port, and a
path. Only what matters for connecting is kept; a text that is no such URL has
a fault.

* `Address.parse`: the address of a text;
* `Address.port?`: the port, by the scheme where none is given.
-/

namespace PartyLine

/-- What matters of a URL for connecting to it. -/
structure Address where
  scheme : Option String
  /-- The authority; empty when there is only a path. -/
  authority : String
  deriving DecidableEq

namespace Address

/-- Why a text is no URL. -/
inductive Fault where
  | invalidCharacter
  | invalidAuthority
  | invalidFormat
  | tooLong
  | empty
  | schemeTooLong
  deriving DecidableEq

/-- The wording of a fault. -/
def Fault.message : Fault → String
  | invalidCharacter => "invalid uri character"
  | invalidAuthority => "invalid authority"
  | invalidFormat => "invalid format"
  | tooLong => "uri too long"
  | empty => "empty string"
  | schemeTooLong => "scheme too long"

/-- The characters of a scheme. -/
def isSchemeChar (c : Char) : Bool :=
  c.isAlphanum || ['+', '-', '.', '~'].contains c

/-- The characters of an authority and the marks that end it. -/
def isUrlChar (c : Char) : Bool :=
  c.isAlphanum || "!#$&\x27()*+,-./:;=?@[]_~".toList.contains c

/-- The scheme in front of `://` and what follows, if the text has one. -/
def splitScheme (s : List Char) : Except Fault (Option (List Char) × List Char) :=
  let scheme := s.takeWhile isSchemeChar
  match s.dropWhile isSchemeChar with
  | ':' :: '/' :: '/' :: rest =>
      if s.length ≤ 3 then .ok (none, s)
      else if 64 < scheme.length then .error .schemeTooLong
      else .ok (some scheme, rest)
  | _ => .ok (none, s)

/-- What has been seen of an authority. -/
structure Scan where
  colons : Nat := 0
  opened : Bool := false
  closed : Bool := false
  percent : Bool := false
  /-- Whether the last character was an `@`. -/
  atEnd : Bool := false

/-- Takes one character of an authority into account. -/
def Scan.step (t : Scan) (c : Char) : Except Fault Scan :=
  let t := { t with atEnd := c == '@' }
  if c = ':' then
    if 8 ≤ t.colons then .error .invalidAuthority else .ok { t with colons := t.colons + 1 }
  else if c = '[' then
    if t.percent ∨ t.opened then .error .invalidAuthority else .ok { t with opened := true }
  else if c = ']' then
    if !t.opened ∨ t.closed then .error .invalidAuthority
    else .ok { t with closed := true, colons := 0, percent := false }
  else if c = '@' then .ok { t with colons := 0, percent := false }
  else if c = '%' then .ok { t with percent := true }
  else if isUrlChar c then .ok t
  else .error .invalidCharacter

/-- An authority may not leave a bracket open, give two ports, end in `@` or
    have a percent sign in its host. -/
def Scan.finish (t : Scan) : Except Fault Unit :=
  if t.opened != t.closed ∨ 1 < t.colons ∨ t.atEnd ∨ t.percent then .error .invalidAuthority
  else .ok ()

/-- The authority in front of a text, and the rest. -/
def splitAuthority (s : List Char) : Except Fault (List Char × List Char) := do
  let isEnd (c : Char) : Bool := c == '/' || c == '?' || c == '#'
  let authority := s.takeWhile fun c => !isEnd c
  let t ← authority.foldlM Scan.step {}
  t.finish
  return (authority, s.dropWhile fun c => !isEnd c)

/-- The characters of a path that need no escape, with those tolerated. -/
def isPathChar (c : Char) : Bool :=
  0x7f ≤ c.toNat || (0x21 ≤ c.toNat && !(['#', '<', '>', '?', '\x60'].contains c))

/-- The characters of a query that need no escape. -/
def isQueryChar (c : Char) : Bool :=
  0x7f ≤ c.toNat || (0x21 ≤ c.toNat && !(['"', '#', '<', '>'].contains c))

/-- Checks a path with its query; a fragment is ignored. -/
def checkPath (s : List Char) : Except Fault Unit :=
  let s := s.takeWhile (· != '#')
  let path := s.takeWhile (· != '?')
  let query := (s.dropWhile (· != '?')).drop 1
  if path.all isPathChar && query.all isQueryChar then .ok () else .error .invalidCharacter

/-- The address of a URL that starts with a scheme or an authority. -/
def parseFull (s : List Char) : Except Fault Address := do
  let (scheme, rest) ← splitScheme s
  if rest.isEmpty then throw .empty
  let (authority, path) ← splitAuthority rest
  match scheme with
  | none =>
      if path.isEmpty then return { scheme := none, authority := String.ofList authority }
      else throw .invalidFormat
  | some scheme =>
      if authority.isEmpty then throw .invalidFormat
      checkPath path
      return { scheme := some (String.ofList scheme), authority := String.ofList authority }

/-- The address of a text. -/
def parse (url : String) : Except Fault Address :=
  let s := url.toList
  if 65534 < Json.byteCount s then .error .tooLong
  else
    match s with
    | [] => .error .empty
    | ['*'] => .ok { scheme := none, authority := "" }
    | '/' :: _ => do
        checkPath s
        return { scheme := none, authority := "" }
    | [_] => do
        let (authority, path) ← splitAuthority s
        if path.isEmpty then return { scheme := none, authority := String.ofList authority }
        else throw .invalidCharacter
    | _ => parseFull s

/-- The port that follows the last colon of the authority, if it is one. -/
def givenPort? (a : Address) : Option Nat :=
  let s := a.authority.toList
  let digits := (s.reverse.takeWhile (· != ':')).reverse
  if s.contains ':' ∧ digits.all Char.isDigit ∧ !digits.isEmpty then
    (String.ofList digits).toNat?.filter (· < 0x10000)
  else none

/-- The port of an address: the one given, or the one of its scheme. -/
def port? (a : Address) : Option Nat :=
  a.givenPort? <|> match a.scheme with
    | some "wss" => some 443
    | some "ws" => some 80
    | _ => none

end Address

end PartyLine
