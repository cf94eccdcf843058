/-
  WorkloadIdentity.Http.Url ──── **ABSOLUTE URLS.**

  A URL is read by the rules of the URL standard: blanks around it and tabs and line breaks inside
  it are dropped, the scheme and host are lowered, the default number of the scheme is left out
  after the host, dot segments are resolved, and characters that may not stand in a part are
  percent-encoded.  **RULE**: an escape that is already there is never touched.

  ✓ `Url.parse` — from a text
  ✓ `Url.text`  — the one written form
-/
import WorkloadIdentity.Http.Host

namespace WorkloadIdentity

/-! ## §1. URLs. -/

/-- Everything between the two slashes and the path. -/
structure Url.Authority where
  /-- The user, percent-encoded. -/
  user : List Char
  /-- The password, percent-encoded. -/
  password : List Char
  /-- The host. -/
  host : Host
  /-- The number after the colon, unless it is the default of the scheme. -/
  portNumber : Option Nat
  deriving DecidableEq

/-- A path. -/
inductive Url.Path where
  /-- A path without slashes of its own, taken as it stands. -/
  | verbatim (text : List Char)
  /-- Segments, each after a slash. -/
  | segments (list : List (List Char))
  deriving DecidableEq

/-- An absolute URL. -/
structure Url where
  /-- In lower case. -/
  scheme : List Char
  /-- Host and what belongs to it. -/
  authority : Option Url.Authority
  /-- The path. -/
  path : Url.Path
  /-- What follows the question mark. -/
  query : Option (List Char)
  /-- What follows the number sign. -/
  fragment : Option (List Char)
  deriving DecidableEq

open Host (splitChars numberIn? percentEncode lowerAscii)

namespace Url

/-! ## §2. Schemes. -/

/-- The schemes that the standard singles out. -/
inductive Scheme where
  /-- Local files. -/
  | file
  /-- A scheme with a host, and the number that may be left out after it. -/
  | special (portNumber : Nat)
  /-- All others. -/
  | other
  deriving DecidableEq

/-- The kind of a scheme. -/
def Scheme.of (scheme : List Char) : Scheme :=
  if scheme = "file".toList then .file
  else if scheme = "http".toList ∨ scheme = "ws".toList then .special 80
  else if scheme = "https".toList ∨ scheme = "wss".toList then .special 443
  else if scheme = "ftp".toList then .special 21
  else .other

/-- The number that may be left out after the host. -/
def Scheme.defaultNumber : Scheme → Option Nat
  | .special portNumber => some portNumber
  | _ => none

/-- Whether a backslash counts as a slash. -/
def Scheme.isSpecial : Scheme → Bool
  | .other => false
  | _ => true

/-- Whether a character separates segments. -/
def Scheme.isSlash (k : Scheme) (c : Char) : Bool := c == '/' || (c == '\\' && k.isSpecial)

/-- Whether a character ends the authority. -/
def Scheme.endsAuthority (k : Scheme) (c : Char) : Bool :=
  c == '/' || c == '?' || c == '#' || (c == '\\' && k.isSpecial)

/-- Whether a letter is an ASCII letter. -/
def isAsciiLetter (c : Char) : Bool := ('a' ≤ c && c ≤ 'z') || ('A' ≤ c && c ≤ 'Z')

/-- Whether a character may stand in a scheme after its first. -/
def isSchemeChar (c : Char) : Bool :=
  isAsciiLetter c || ('0' ≤ c && c ≤ '9') || c == '+' || c == '-' || c == '.'

/-- The scheme of a text, in lower case, and what follows its colon. -/
def splitScheme (input : List Char) : Option (List Char × List Char) :=
  match input with
  | c :: _ =>
    if isAsciiLetter c then
      match input.dropWhile isSchemeChar with
      | ':' :: rest => some ((input.takeWhile isSchemeChar).map lowerAscii, rest)
      | _ => none
    else none
  | [] => none

/-! ## §3. What is percent-encoded where. -/

/-- Encoded in a fragment. -/
def inFragment (c : Char) : Bool := [' ', '"', '<', '>', '\x60'].contains c

/-- Encoded in a query. -/
def inQuery (c : Char) : Bool := [' ', '"', '#', '<', '>'].contains c

/-- Encoded in a query under a scheme that the standard singles out. -/
def inSpecialQuery (c : Char) : Bool := inQuery c || c == '\''

/-- Encoded in a path. -/
def inPath (c : Char) : Bool := inQuery c || ['?', '\x60', '\x7b', '\x7d'].contains c

/-- Encoded in a user or password. -/
def inUser (c : Char) : Bool :=
  inPath c || ['/', ':', ';', '=', '@', '[', '\\', ']', '^', '|'].contains c

/-! ## §4. User and password. -/

/-- The part before the last at-sign and the part after it. -/
def splitLastAt (text : List Char) : Option (List Char × List Char) :=
  match splitChars '@' text with
  | [] => none
  | [_] => none
  | pieces => some (['@'].intercalate pieces.dropLast, pieces.getLast?.getD [])

/-- User and password of the part before the at-sign. -/
def parseUser (text : List Char) : List Char × List Char :=
  ((text.takeWhile (· != ':')).flatMap (percentEncode inUser),
    ((text.dropWhile (· != ':')).drop 1).flatMap (percentEncode inUser))

/-! ## §5. The number after the host. -/

/-- The number of the digits after the colon: without digits there is none, and the default one is
left out. -/
def parseNumber (standard : Option Nat) (digits : List Char) : Except UrlError (Option Nat) :=
  match numberIn? 10 digits with
  | none => .error .portNumber
  | some n =>
    if digits = [] then .ok none
    else if 65535 < n then .error .portNumber
    else .ok (if standard = some n then none else some n)

/-! ## §6. Paths. -/

/-- The pieces of a path between slashes. -/
def splitPath (k : Scheme) : List Char → List (List Char)
  | [] => [[]]
  | c :: rest =>
    if k.isSlash c then [] :: splitPath k rest
    else match splitPath k rest with
      | [] => [[c]]
      | piece :: pieces => (c :: piece) :: pieces

/-- A segment with its escaped dots written as dots. -/
def plainDots : List Char → List Char
  | '%' :: '2' :: 'e' :: rest => '.' :: plainDots rest
  | '%' :: '2' :: 'E' :: rest => '.' :: plainDots rest
  | c :: rest => c :: plainDots rest
  | [] => []

/-- Whether a segment stands for the directory above. -/
def isDoubleDot (piece : List Char) : Bool := plainDots piece == ['.', '.']

/-- Whether a segment stands for the directory itself. -/
def isSingleDot (piece : List Char) : Bool := plainDots piece == ['.']

/-- Whether a segment is a drive letter with a colon. -/
def isDrive : List Char → Bool
  | [c, ':'] => isAsciiLetter c
  | _ => false

/-- A path without its last segment; a lone drive letter of a file stays. -/
def shorten (k : Scheme) (path : List (List Char)) : List (List Char) :=
  match path with
  | [s] => if k = .file ∧ isDrive s then path else []
  | _ => path.dropLast

/-- One more piece on a path; the first piece of a file may be a drive letter with a bar. -/
def addPiece (k : Scheme) (path : List (List Char)) (piece : List Char) : List (List Char) :=
  match path, piece with
  | [], [c, '|'] =>
    if k = .file ∧ isAsciiLetter c then [[c, ':']] else [piece.flatMap (percentEncode inPath)]
  | _, _ => path ++ [piece.flatMap (percentEncode inPath)]

/-- The path of some pieces, given what has been built so far.  Dot segments are resolved; at the
end they leave an empty segment. -/
def resolve (k : Scheme) (path : List (List Char)) : List (List Char) → List (List Char)
  | [] => path
  | [piece] =>
    if isDoubleDot piece then shorten k path ++ [[]]
    else if isSingleDot piece then path ++ [[]]
    else addPiece k path piece
  | piece :: next :: rest =>
    if isDoubleDot piece then resolve k (shorten k path) (next :: rest)
    else if isSingleDot piece then resolve k path (next :: rest)
    else resolve k (addPiece k path piece) (next :: rest)

/-- A path without the empty segments before its first other one. -/
def dropEmptyFront : List (List Char) → List (List Char)
  | [] :: next :: rest => dropEmptyFront (next :: rest)
  | path => path

/-- The path of a text up to its query. -/
def parsePath (k : Scheme) (text : List Char) : List (List Char) :=
  let body := match text with
    | c :: rest => if k.isSlash c then rest else text
    | [] => []
  let path := resolve k [] (splitPath k body)
  if k = .file then dropEmptyFront path else path

/-! ## §7. Whole URLs. -/

/-- The query of what follows the path, and its fragment. -/
def parseTail (k : Scheme) (tail : List Char) : Option (List Char) × Option (List Char) :=
  let fragment (text : List Char) : Option (List Char) :=
    match text with
    | '#' :: rest => some (rest.flatMap (percentEncode inFragment))
    | _ => none
  let reserved := if k.isSpecial then inSpecialQuery else inQuery
  match tail with
  | '?' :: rest =>
    (some ((rest.takeWhile (· != '#')).flatMap (percentEncode reserved)),
      fragment (rest.dropWhile (· != '#')))
  | _ => (none, fragment tail)

/-- Whether a character ends the path. -/
def endsPath (c : Char) : Bool := c == '?' || c == '#'

/-- The URL of its parts. -/
def assemble (scheme : List Char) (authority : Option Authority) (path : Path)
    (tail : List Char) : Url :=
  let (query, fragment) := parseTail (Scheme.of scheme) tail
  ⟨scheme, authority, path, query, fragment⟩

/-- How far a host with brackets reaches: to a colon outside them. -/
def splitHost (inside : Bool) : List Char → List Char × List Char
  | [] => ([], [])
  | c :: rest =>
    if c = ':' ∧ !inside then ([], c :: rest)
    else
      let next := splitHost (if c = '[' then true else if c = ']' then false else inside) rest
      (c :: next.1, next.2)

/-- The authority between the slashes and the path, and what is left of its text: a backslash after
the colon belongs to the path.  Only schemes that the standard singles out have a default number, and
only they must have a host. -/
def parseAuthority (standard : Option Nat) (text : List Char) :
    Except UrlError (Authority × List Char) := do
  let (user, password, place) := match splitLastAt text with
    | none => ([], [], text)
    | some (before, after) => ((parseUser before).1, (parseUser before).2, after)
  let (hostText, afterHost) := splitHost false place
  if hostText = [] ∧ (standard.isSome ∨ afterHost ≠ [] ∨ user ≠ [] ∨ password ≠ []) then
    throw .emptyHost
  let host ← if standard.isSome then Host.parse hostText else Host.parseVerbatim hostText
  let portNumber ← parseNumber standard ((afterHost.drop 1).takeWhile (· != '\\'))
  .ok (⟨user, password, host, portNumber⟩, afterHost.dropWhile (· != '\\'))

/-- The host of a file: the name of this machine is no host. -/
def parseFileHost (text : List Char) : Except UrlError Host :=
  if text = [] then .ok (.name [])
  else do
    let host ← Host.parse text
    .ok (if host = .name "localhost".toList then .name [] else host)

/-- A URL of a file. -/
def parseFile (scheme rest : List Char) : Except UrlError Url :=
  let k := Scheme.file
  match rest with
  | a :: b :: after =>
    if k.isSlash a ∧ k.isSlash b then do
      let place := after.takeWhile (!k.endsAuthority ·)
      let drive := match place with
        | [c, d] => isAsciiLetter c && (d == ':' || d == '|')
        | _ => false
      let host ← if drive then .ok (.name []) else parseFileHost place
      let body := if drive then after else after.dropWhile (!k.endsAuthority ·)
      .ok (assemble scheme (some ⟨[], [], host, none⟩)
        (.segments (parsePath k (body.takeWhile (!endsPath ·)))) (body.dropWhile (!endsPath ·)))
    else .ok (localFile k)
  | _ => .ok (localFile k)
where
  /-- A file without a host. -/
  localFile (k : Scheme) : Url :=
    assemble scheme (some ⟨[], [], .name [], none⟩)
      (.segments (parsePath k (rest.takeWhile (!endsPath ·)))) (rest.dropWhile (!endsPath ·))

/-- A URL whose authority starts here. -/
def parseWithAuthority (k : Scheme) (scheme rest : List Char) : Except UrlError Url := do
  let region := rest.takeWhile (!k.endsAuthority ·)
  let body := rest.dropWhile (!k.endsAuthority ·)
  if region = ['@'] ∧ body ≠ [] then throw .emptyHost
  let (authority, left) ← parseAuthority k.defaultNumber region
  let pathText := left ++ body.takeWhile (!endsPath ·)
  let path := if pathText = [] ∧ !k.isSpecial then [] else parsePath k pathText
  .ok (assemble scheme (some authority) (.segments path) (body.dropWhile (!endsPath ·)))

/-- Characters that are dropped around a URL. -/
def isBlankAround (c : Char) : Bool := c.toNat ≤ 0x20

/-- Characters that are dropped inside a URL. -/
def isBreak (c : Char) : Bool := c == '\t' || c == '\n' || c == '\r'

/-- A text without blanks around it and breaks inside it. -/
def strip (text : List Char) : List Char :=
  (((text.dropWhile isBlankAround).reverse.dropWhile isBlankAround).reverse).filter (!isBreak ·)

/-- **The URL of a text.** -/
def parse (s : String) : Except UrlError Url :=
  match splitScheme (strip s.toList) with
  | none => .error .relative
  | some (scheme, rest) =>
    match Scheme.of scheme, rest with
    | .file, _ => parseFile scheme rest
    | .special standard, _ =>
      parseWithAuthority (.special standard) scheme
        (rest.dropWhile (Scheme.special standard).isSlash)
    | .other, '/' :: '/' :: after => parseWithAuthority .other scheme after
    | .other, '/' :: after =>
      .ok (assemble scheme none (.segments (parsePath .other (after.takeWhile (!endsPath ·))))
        (after.dropWhile (!endsPath ·)))
    | .other, _ =>
      .ok (assemble scheme none
        (.verbatim ((rest.takeWhile (!endsPath ·)).flatMap (percentEncode fun _ => false)))
        (rest.dropWhile (!endsPath ·)))

/-! ## §8. The written form. -/

/-- User, password and at-sign, if there are any. -/
def Authority.userChars (a : Authority) : List Char :=
  if a.user = [] ∧ a.password = [] then []
  else a.user ++ (if a.password = [] then [] else ':' :: a.password) ++ ['@']

/-- An authority after its slashes. -/
def Authority.chars (a : Authority) : List Char :=
  a.userChars ++ a.host.chars ++
    (match a.portNumber with
    | none => []
    | some n => ':' :: Text.decimal n)

/-- A path. -/
def Path.chars : Path → List Char
  | .verbatim text => text
  | .segments list => list.flatMap ('/' :: ·)

/-- The text before the path: an empty first segment without a host is set off by a dot. -/
def frontChars (u : Url) : List Char :=
  match u.authority, u.path with
  | some a, _ => '/' :: '/' :: a.chars
  | none, .segments ([] :: _ :: _) => ['/', '.']
  | none, _ => []

/-- The characters of a URL. -/
def chars (u : Url) : List Char :=
  u.scheme ++ ':' :: u.frontChars ++ u.path.chars ++
    (match u.query with
    | none => []
    | some q => '?' :: q) ++
    (match u.fragment with
    | none => []
    | some f => '#' :: f)

/-- **The written form.** -/
def text (u : Url) : String := String.ofList u.chars

/-- The same URL without its fragment, as it is sent. -/
def withoutFragment (u : Url) : Url := { u with fragment := none }

/-- Whether a host can stand in a request: four characters are fine in a URL but not there. -/
def isSendable (h : Host) : Bool :=
  !h.chars.any ['"', '\x60', '\x7b', '\x7d'].contains

/-- The longest text of a URL in a request. -/
def requestBound : Nat := 65534

/-- Whether the URL can be requested over HTTP. -/
def isHttp (u : Url) : Bool :=
  (u.scheme == "http".toList || u.scheme == "https".toList) &&
    (match u.authority with
    | none => false
    | some a => isSendable a.host) &&
    u.chars.length ≤ requestBound

end Url

end WorkloadIdentity
