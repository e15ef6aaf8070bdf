import DocScribe.Number.Digits
import DocScribe.Text.Case

/-!
# Addresses of services

A `Url` is a scheme, an authority (user and host), a path, a query and a fragment, with escapes
undone. `Url.read?` takes an address apart and refuses malformed ones; `Url.text` writes it back. A
path or fragment that was escaped in a valid but unusual way keeps its spelling.
-/

namespace DocScribe.Chat

/-- The parts of an address that have escaping rules of their own. -/
inductive Component where
  | user
  | host
  | zone
  | path
  | fragment
deriving DecidableEq, Repr

namespace Component

/-- Letters and digits. -/
def isAlphanumeric (b : UInt8) : Bool :=
  (0x30 ≤ b && b ≤ 0x39) || (0x41 ≤ b && b ≤ 0x5a) || (0x61 ≤ b && b ≤ 0x7a)

/-- Whether a byte is one of these characters. -/
def isOneOf (chars : String) (b : UInt8) : Bool :=
  (Text.ofString chars).contains b

/-- Whether a byte stands for itself in a part of an address. -/
def isLiteral (c : Component) (b : UInt8) : Bool :=
  isAlphanumeric b || isOneOf "-_.~" b ||
    match c with
    | .user => isOneOf "$&+,;=" b
    | .host => isOneOf "!$&'()*+,;=:[]<>\"" b
    | .zone => isOneOf "!$&'()*+,;=:[]<>\"" b
    | .path => isOneOf "$&+,/:;=@" b
    | .fragment => isOneOf "$&+,/:;=?@!()*" b

/-- A byte as it is written in a part of an address. -/
def escapeByte (c : Component) (b : UInt8) : Text :=
  if c.isLiteral b then [b] else 0x25 :: (Number.hex 2 b.toNat).toUpper

/-- A text as it is written in a part of an address. -/
def escape (c : Component) (s : Text) : Text :=
  s.flatMap c.escapeByte

/-- Whether the part may hold an escape of this byte. A host escapes only bytes outside ASCII and
the percent sign, a zone also what a host may hold unescaped. -/
def allowsEscapeOf (c : Component) (b : UInt8) : Bool :=
  match c with
  | .host => 0x80 ≤ b || b == 0x25
  | .zone => b == 0x25 || b == 0x20 || Component.host.isLiteral b
  | _ => true

/-- Whether the part may hold this byte unescaped. -/
def allows (c : Component) (b : UInt8) : Bool :=
  match c with
  | .host => 0x80 ≤ b || c.isLiteral b
  | .zone => 0x80 ≤ b || c.isLiteral b
  | _ => true

/-- The text that a part of an address writes. -/
def unescape? (c : Component) : Text → Option Text
  | [] => some []
  | b :: s =>
    if b == 0x25 then
      match s with
      | x :: y :: rest =>
        match Number.digitsValue? 16 [x, y] with
        | none => none
        | some n =>
          if c.allowsEscapeOf (.ofNat n) then (unescape? c rest).map (.ofNat n :: ·) else none
      | _ => none
    else if c.allows b then (unescape? c s).map (b :: ·)
    else none

/-- Whether a spelling of a path or fragment can be kept. -/
def isKept (c : Component) (s : Text) : Bool :=
  s.all fun b => isOneOf "!$&'()*+,;=:@[]%" b || c.isLiteral b

end Component

/-- The text of a path or fragment and how it is spelt. -/
structure Spelled where
  value : Text := []
  spelling : Text := []
deriving DecidableEq, Repr

/-- Reads a path or fragment. Its own spelling is kept if it is valid. -/
def Spelled.read? (c : Component) (s : Text) : Option Spelled :=
  (c.unescape? s).map fun value => ⟨value, if c.isKept s then s else c.escape value⟩

/-! ## Hosts -/

/-- Whether a text is a number from 0 to 255 without needless zeros. -/
def isOctet (s : Text) : Bool :=
  match Number.digitsValue? 10 s with
  | some n => n ≤ 255 && (s.length == 1 || s.head? != some 0x30)
  | none => false

/-- How many of the eight groups of an address a group between colons stands for; the last may be
written as four octets. -/
def groupWidth? (isLast : Bool) (group : Text) : Option Nat :=
  if (Number.digitsValue? 16 group).isSome && group.length ≤ 4 then some 1
  else
    let octets := group.splitOnByte 0x2e
    if isLast && octets.length == 4 && octets.all isOctet then some 2 else none

/-- How many groups a text stands for; `hasLast` says whether its last group is the last of all. -/
def groupsWidth? (hasLast : Bool) (s : Text) : Option Nat :=
  if s.isEmpty then some 0
  else
    let groups := (s.splitOnByte 0x3a).reverse
    groups.zipIdx.foldl
      (fun total g => do return (← total) + (← groupWidth? (hasLast && g.2 == 0) g.1)) (some 0)

/-- Whether a text is an address of eight groups, where one run of zero groups may be left out. -/
def isGroupAddress (s : Text) : Bool :=
  match Text.cut? "::" s with
  | none => groupsWidth? true s == some 8
  | some (left, right) =>
    match groupsWidth? false left, groupsWidth? true right with
    | some m, some n => m + n ≤ 7
    | _, _ => false

/-- Whether a text is such an address with an optional zone. -/
def isHostAddress (s : Text) : Bool :=
  match Text.cut? "%" s with
  | none => isGroupAddress s
  | some (address, zone) => isGroupAddress address && !zone.isEmpty

/-- The text before and after the last occurrence of a byte. -/
def cutLast? (b : UInt8) (s : Text) : Option (Text × Text) :=
  match (s.splitOnByte b).reverse with
  | last :: next :: rest => some (Text.join [b] (next :: rest).reverse, last)
  | _ => none

/-- Whether a text is empty or a colon and digits. -/
def isHostTail : Text → Bool
  | [] => true
  | b :: s => b == 0x3a && s.all Text.isDigitByte

/-- A host inside brackets without its escapes, where a zone starts at an escaped percent sign. -/
def unescapeBracketed? (s : Text) : Option Text :=
  match Text.cut? "%25" s with
  | none => Component.host.unescape? s
  | some (address, _) => do
    let zone ← Component.zone.unescape? (s.drop address.length)
    return (← Component.host.unescape? address) ++ zone

/-- The host inside brackets, which must be an address. -/
def readBracketed? (s : Text) : Option Text :=
  (unescapeBracketed? s).filter isHostAddress

/-- The host of an authority with the number that may follow it after a colon. -/
def readHost? (s : Text) : Option Text :=
  match cutLast? 0x5b s with
  | some (_, afterOpen) =>
    match cutLast? 0x5d s with
    | none => none
    | some (_, tail) =>
      if isHostTail tail && tail.length + 1 ≤ afterOpen.length then
        (readBracketed? (afterOpen.take (afterOpen.length - tail.length - 1))).map
          fun name => 0x5b :: name ++ 0x5d :: tail
      else none
  | none =>
    match cutLast? 0x3a s with
    | some (_, tail) => if isHostTail (0x3a :: tail) then Component.host.unescape? s else none
    | none => Component.host.unescape? s

/-- The host without a colon that nothing follows. -/
def dropEmptyTail (host : Text) : Text :=
  Text.trimEndOf ":" host

/-! ## Addresses -/

/-- A user and, if one is given, a password. -/
structure User where
  name : Text
  password : Option Text := none
deriving DecidableEq, Repr

/-- The user as it is written. -/
def User.text (u : User) : Text :=
  Component.user.escape u.name ++
    match u.password with
    | some p => 0x3a :: Component.user.escape p
    | none => []

/-- Reads a user. -/
def User.read? (s : Text) : Option User :=
  if s.all fun b => Component.isAlphanumeric b || Component.isOneOf "-._:~!$&'()*+,;=%@" b then
    match Text.cut? ":" s with
    | none => (Component.user.unescape? s).map fun name => ⟨name, none⟩
    | some (name, password) => do
      return ⟨← Component.user.unescape? name, some (← Component.user.unescape? password)⟩
  else none

/-- The address of a service. -/
structure Url where
  scheme : Text := []
  /-- What follows the scheme when it does not start with a slash. -/
  rootless : Text := []
  user : Option User := none
  host : Text := []
  /-- Whether the address has a scheme and a path but no authority. -/
  omitsHost : Bool := false
  path : Spelled := {}
  /-- The query, present but empty for a lone question mark. -/
  query : Option Text := none
  fragment : Spelled := {}
deriving DecidableEq, Repr

namespace Url

/-- The scheme before the first colon, empty if there is none, and the rest. -/
def takeScheme? (s : Text) : Option (Text × Text) :=
  let name := s.takeWhile fun b => Component.isAlphanumeric b || Component.isOneOf "+-." b
  match name, s.drop name.length with
  | [], b :: _ => if b == 0x3a then none else some ([], s)
  | first :: _, b :: rest =>
    if b == 0x3a && !(Text.isDigitByte first || Component.isOneOf "+-." first) then
      some (name, rest)
    else some ([], s)
  | _, [] => some ([], s)

/-- The part before the first question mark, and the query after it. -/
def takeQuery (s : Text) : Text × Option Text :=
  match Text.cut? "?" s with
  | none => (s, none)
  | some (before, query) => (before, some query)

/-- The user and host of an authority. -/
def readAuthority? (s : Text) : Option (Option User × Text) :=
  match cutLast? 0x40 s with
  | none => (readHost? s).map fun host => (none, host)
  | some (user, host) => do
    let host ← readHost? host
    return (some (← User.read? user), host)

/-- The authority after two slashes and the path after it. -/
def takeAuthority (s : Text) : Text × Text :=
  (s.takeWhile (· != Text.slash), s.dropWhile (· != Text.slash))

/-- The text up to the first slash. -/
def firstSegment (s : Text) : Text :=
  s.takeWhile (· != Text.slash)

/-- Reads an address without its fragment. -/
def readBase? (s : Text) : Option Url := do
  if s.any fun b => b < 0x20 || b == 0x7f then none
  else if s == ("*" : Text) then some { path := ⟨s, s⟩ }
  else
    let (name, rest) ← takeScheme? s
    let scheme := name.toLower
    let (rest, query) := takeQuery rest
    let rooted := rest.head? == some Text.slash
    if !rooted && !scheme.isEmpty then some { scheme, rootless := rest, query }
    else if !rooted && (firstSegment rest).contains 0x3a then none
    else if rest.startsWith "//" && !(scheme.isEmpty && rest.startsWith "///") then
      let (authority, path) := takeAuthority (rest.drop 2)
      let (user, host) ← readAuthority? authority
      return { scheme, user, host, query, path := ← Spelled.read? .path path }
    else
      return { scheme, omitsHost := !scheme.isEmpty && rooted, query
               path := ← Spelled.read? .path rest }

/-- Reads an address. -/
def read? (s : Text) : Option Url :=
  match Text.cut? "#" s with
  | none => readBase? s
  | some (base, fragment) => do
    let url ← readBase? base
    return { url with fragment := ← Spelled.read? .fragment fragment }

/-- The authority with the slashes before it. -/
def authorityText (u : Url) : Text :=
  if u.scheme.isEmpty && u.host.isEmpty && u.user.isNone then []
  else if u.omitsHost && u.host.isEmpty && u.user.isNone then []
  else
    let slashes : Text :=
      if u.host.isEmpty && u.path.value.isEmpty && u.user.isNone then "" else "//"
    let user : Text :=
      match u.user with
      | some user => user.text ++ [0x40]
      | none => []
    slashes ++ user ++ Component.host.escape u.host

/-- Everything before the query. -/
def baseText (u : Url) : Text :=
  let scheme : Text := if u.scheme.isEmpty then [] else u.scheme ++ [0x3a]
  if !u.rootless.isEmpty then scheme ++ u.rootless
  else
    let path := u.path.spelling
    let before := scheme ++ u.authorityText
    let separator : Text :=
      if !path.isEmpty && path.head? != some Text.slash && !u.host.isEmpty then "/"
      else if before.isEmpty && (firstSegment path).contains 0x3a then "./"
      else ""
    before ++ separator ++ path

/-- The address as it is written. -/
def text (u : Url) : Text :=
  let query : Text :=
    match u.query with
    | some q => 0x3f :: q
    | none => []
  let fragment : Text :=
    if u.fragment.value.isEmpty then [] else 0x23 :: u.fragment.spelling
  u.baseText ++ query ++ fragment

/-- The address with its password hidden. -/
def maskedText (u : Url) : Text :=
  match u.user with
  | some ⟨name, some password⟩ =>
    match Text.cut? ((⟨name, some password⟩ : User).text ++ [0x40]) u.text with
    | some (before, after) => before ++ name ++ (":***@" : Text) ++ after
    | none => u.text
  | _ => u.text

end Url

end DocScribe.Chat
