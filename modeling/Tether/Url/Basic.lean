import Tether.Url.Domain
import Tether.Url.Percent

/-!
# URLs

A URL is read as the URL standard says, and written in its normal form: the
scheme and the host in lower case, without the default port, and without the
segments `.` and `..` in the path.

* `Url.parse`: reads a URL;
* `Url.write`: writes one.

The schemes of the web are *special*: a host must follow, and a backslash counts
as a slash.
-/

namespace Tether

/-- The host of a URL. -/
inductive Host
  | domain (name : List Char)
  | ipv4 (address : Nat)
  | ipv6 (groups : List Nat)
  deriving DecidableEq, Repr

/-- A URL in its parts. -/
structure Url where
  scheme : List Char
  username : List Char
  password : List Char
  host : Option Host
  port : Option Nat
  path : List Char
  query : Option (List Char)
  fragment : Option (List Char)
  deriving DecidableEq, Repr

namespace Url

/-- Why a text is no URL. -/
inductive Fault
  | noScheme
  | emptyHost
  | invalidPort
  | invalidIpv4
  | invalidIpv6
  | invalidDomain
  | invalidHostCharacter
  deriving DecidableEq, Repr

/-- The words of a fault. -/
def Fault.message : Fault → String
  | noScheme => "relative URL without a base"
  | emptyHost => "empty host"
  | invalidPort => "invalid port number"
  | invalidIpv4 => "invalid IPv4 address"
  | invalidIpv6 => "invalid IPv6 address"
  | invalidDomain => "invalid international domain name"
  | invalidHostCharacter => "invalid domain character"

/-! ## Schemes -/

/-- The kinds of schemes. -/
inductive Kind
  | special
  | file
  | other
  deriving DecidableEq

/-- The kind of a scheme. -/
def Kind.ofScheme (scheme : List Char) : Kind :=
  match String.ofList scheme with
  | "http" | "https" | "ws" | "wss" | "ftp" => special
  | "file" => file
  | _ => other

/-- The port of a special scheme, unless another one is given. -/
def defaultPort? (scheme : List Char) : Option Nat :=
  match String.ofList scheme with
  | "http" | "ws" => some 80
  | "https" | "wss" => some 443
  | "ftp" => some 21
  | _ => none

/-- A slash, or a backslash unless the kind is other. -/
def isSlash (k : Kind) (c : Char) : Bool := c = '/' || (c = '\\' && k ≠ .other)

/-- The scheme at the start of a text, in lower case, and the text after its colon. -/
def splitScheme? (cs : List Char) : Option (List Char × List Char) :=
  let isPart (c : Char) := c.isAlphanum || c = '+' || c = '-' || c = '.'
  match cs.takeWhile isPart, cs.dropWhile isPart with
  | c :: scheme, ':' :: rest => if c.isAlpha then some ((c :: scheme).map Char.toLower, rest) else none
  | _, _ => none

/-! ## Hosts -/

/-- The host of a URL whose scheme is not of the kind other. -/
def parseHost (cs : List Char) : Except Fault Host :=
  match cs with
  | '[' :: cs =>
    if cs.getLast? = some ']' then
      match ipv6? cs.dropLast with
      | some groups => .ok (.ipv6 groups)
      | none => .error .invalidIpv6
    else .error .invalidIpv6
  | cs =>
    match String.fromUTF8? ⟨(percentDecode cs).toArray⟩ with
    | none => .error .invalidDomain
    | some name =>
      match domainToAscii? name.toList with
      | none => .error .invalidDomain
      | some [] => .error .emptyHost
      | some name =>
        if endsInNumber name then
          match ipv4? name with
          | some n => .ok (.ipv4 n)
          | none => .error .invalidIpv4
        else .ok (.domain name)

/-- The host of a URL whose scheme is of the kind other. -/
def parseOpaqueHost (cs : List Char) : Except Fault Host :=
  match cs with
  | '[' :: _ => parseHost cs
  | cs =>
    let isBad (c : Char) :=
      c = '\x00' || c = ' ' || c = '#' || c = '/' || c = ':' || c = '<' || c = '>' || c = '?' ||
        c = '@' || c = '[' || c = '\\' || c = ']' || c = '^' || c = '|'
    if cs.any isBad then .error .invalidHostCharacter
    else .ok (.domain (percentEncode isControl cs))

/-- The host before a port: a colon between brackets belongs to the host. -/
def hostPart (isInBrackets : Bool) : List Char → List Char × List Char
  | [] => ([], [])
  | c :: cs =>
    if c = ':' && !isInBrackets then ([], c :: cs)
    else
      let (host, rest) := hostPart (if c = '[' then true else if c = ']' then false else isInBrackets) cs
      (c :: host, rest)

/-- Reads a port after its colon: gives it and the rest, which can be a path only
    after a backslash. -/
def parsePort (cs : List Char) : Except Fault (Option Nat × List Char) :=
  let ds := cs.takeWhile Char.isDigit
  let rest := cs.dropWhile Char.isDigit
  match numberInBase? 10 ds with
  | none => .error .invalidPort
  | some n =>
    if 65535 < n then .error .invalidPort
    else
      match rest with
      | [] | '\\' :: _ => .ok (if ds.isEmpty then none else some n, rest)
      | _ => .error .invalidPort

/-! ## Paths -/

/-- A segment for the directory itself. -/
def isDot (cs : List Char) : Bool :=
  let cs := cs.map Char.toLower
  cs = ['.'] || cs = ['%', '2', 'e']

/-- A segment for the directory above. -/
def isDoubleDot (cs : List Char) : Bool :=
  let cs := cs.map Char.toLower
  cs = ['.', '.'] || cs = ['.', '%', '2', 'e'] || cs = ['%', '2', 'e', '.'] ||
    cs = ['%', '2', 'e', '%', '2', 'e']

/-- The segments of a path: `before` are the ones so far, in reverse. -/
def resolve (before : List (List Char)) : List (List Char) → List (List Char)
  | [] => before.reverse
  | s :: ss =>
    let before :=
      -- Dots at the end leave the slash before them.
      if isDoubleDot s then if ss.isEmpty then [] :: before.drop 1 else before.drop 1
      else if isDot s then if ss.isEmpty then [] :: before else before
      else percentEncode notInPath s :: before
    resolve before ss

/-- A path from the root, without its first slash. -/
def parsePath (k : Kind) (cs : List Char) : List Char :=
  let segments := Text.splitOn '/' (cs.map fun c => if isSlash k c then '/' else c)
  '/' :: List.intercalate ['/'] (resolve [] segments)

/-- What ends a path. -/
def endsPath (c : Char) : Bool := c = '?' || c = '#'

/-- The URL with the query and the fragment of a text. -/
def withQuery (k : Kind) (u : Url) (cs : List Char) : Url :=
  let query :=
    match cs with
    | '?' :: cs => some (cs.takeWhile (· ≠ '#'))
    | _ => none
  let fragment :=
    match cs.dropWhile (· ≠ '#') with
    | _ :: cs => some cs
    | [] => none
  { u with
    query := query.map (percentEncode (if k = .other then notInQuery else notInSpecialQuery))
    fragment := fragment.map (percentEncode notInFragment) }

/-- The URL with the path, the query and the fragment of a text. -/
def withPath (k : Kind) (u : Url) (cs : List Char) : Url :=
  let path := cs.takeWhile (!endsPath ·)
  let u :=
    match path with
    | [] => { u with path := if k = .other then [] else ['/'] }
    | c :: path => { u with path := parsePath k (if isSlash k c then path else c :: path) }
  withQuery k u (cs.dropWhile (!endsPath ·))

/-! ## Authorities -/

/-- The name of a user and the password. -/
def parseUserinfo (cs : List Char) : List Char × List Char :=
  (percentEncode notInUserinfo (cs.takeWhile (· ≠ ':')),
    percentEncode notInUserinfo ((cs.dropWhile (· ≠ ':')).drop 1))

/-- Reads a URL after the slashes in front of its host. -/
def parseAuthority (k : Kind) (u : Url) (cs : List Char) : Except Fault Url := do
  let isEnd (c : Char) := isSlash k c || endsPath c
  let authority := cs.takeWhile (!isEnd ·)
  let rest := cs.dropWhile (!isEnd ·)
  -- Whatever is before the last `@` tells the user.
  let hostAndPort := (authority.reverse.takeWhile (· ≠ '@')).reverse
  let userinfo? :=
    match authority.reverse.dropWhile (· ≠ '@') with
    | [] => none
    | _ :: before => some before.reverse
  if userinfo? = some [] ∧ hostAndPort = [] ∧ rest ≠ [] then throw .emptyHost
  let (username, password) := parseUserinfo (userinfo?.getD [])
  let (hostText, portText) := hostPart false hostAndPort
  if hostText = [] ∧ (k ≠ .other ∨ portText ≠ [] ∨ username ≠ [] ∨ password ≠ []) then
    throw .emptyHost
  let host ← if k = .other then parseOpaqueHost hostText else parseHost hostText
  let (port, more) ← if portText = [] then pure (none, []) else parsePort (portText.drop 1)
  let u := { u with
    username, password, host
    port := if port = defaultPort? u.scheme then none else port }
  return withPath k u (more ++ rest)

/-- A letter and a colon, which on some systems start a path. -/
def isDriveLetter (cs : List Char) : Bool :=
  match cs with
  | [c, d] => c.isAlpha && (d = ':' || d = '|')
  | _ => false

/-- Reads the URL of a file after its scheme. -/
def parseFile (u : Url) (cs : List Char) : Except Fault Url := do
  match cs with
  | a :: b :: cs =>
    if isSlash .file a && isSlash .file b then
      let isEnd (c : Char) := isSlash .file c || endsPath c
      let hostText := cs.takeWhile (!isEnd ·)
      let rest := cs.dropWhile (!isEnd ·)
      if hostText = [] then return withPath .file { u with host := some (.domain []) } rest
      else if isDriveLetter hostText then
        -- The letter starts the path, and there is no host.
        return withPath .file { u with host := some (.domain []) } cs
      else
        let host ← parseHost hostText
        let host := if host = .domain "localhost".toList then .domain [] else host
        return withPath .file { u with host := some host } rest
    else return withPath .file { u with host := some (.domain []) } (a :: b :: cs)
  | cs => return withPath .file { u with host := some (.domain []) } cs

/-! ## Whole URLs -/

/-- Reads a URL. Blanks around it do not count, nor do line breaks and tabs in it. -/
def parse (text : String) : Except Fault Url :=
  let isOuter (c : Char) := c.toNat ≤ 0x20
  let trimmed := ((text.toList.dropWhile isOuter).reverse.dropWhile isOuter).reverse
  match splitScheme? (trimmed.filter fun c => c ≠ '\t' && c ≠ '\n' && c ≠ '\r') with
  | none => .error .noScheme
  | some (scheme, rest) =>
    let u : Url := ⟨scheme, [], [], none, none, [], none, none⟩
    match Kind.ofScheme scheme with
    | .special => parseAuthority .special u (rest.dropWhile (isSlash .special))
    | .file => parseFile u rest
    | .other =>
      match rest with
      | '/' :: '/' :: rest => parseAuthority .other u rest
      | '/' :: _ => .ok (withPath .other u rest)
      | rest =>
        let path := percentEncode isControl (rest.takeWhile (!endsPath ·))
        .ok (withQuery .other { u with path } (rest.dropWhile (!endsPath ·)))

/-- A host as it is written. -/
def showHost : Host → List Char
  | .domain name => name
  | .ipv4 n => showIpv4 n
  | .ipv6 groups => '[' :: showIpv6 groups ++ [']']

/-- A URL as a text. -/
def write (u : Url) : String :=
  let userinfo :=
    if u.username = [] ∧ u.password = [] then []
    else u.username ++ (if u.password = [] then [] else ':' :: u.password) ++ ['@']
  let authority :=
    match u.host with
    | none => []
    | some host =>
      '/' :: '/' :: userinfo ++ showHost host ++
        ((u.port.map fun p => ':' :: Nat.toDigits 10 p).getD [])
  String.ofList <| u.scheme ++ ':' :: authority ++ u.path ++
    ((u.query.map ('?' :: ·)).getD []) ++ ((u.fragment.map ('#' :: ·)).getD [])

end Url

end Tether
