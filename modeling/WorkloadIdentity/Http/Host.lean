/-
  WorkloadIdentity.Http.Host ──── **HOSTS OF A URL.**

  A host is a lower-case domain name, an IPv4 or IPv6 address, or, under a scheme that the URL
  standard does not single out, a text that is taken as it stands.  **RULE**: a domain whose last
  label is a number is an IPv4 address or an error.

  Domain names are ASCII here; labels in the ASCII form of an international name are kept.

  ✓ `Host.parse`, `Host.parseVerbatim` — the two ways to read a host
  ✓ `Host.chars`                       — its one written form
-/
import WorkloadIdentity.Text.Digits
import WorkloadIdentity.Text.Utf8

namespace WorkloadIdentity

/-! ## §1. Errors. -/

/-- Why a text is not an absolute URL. -/
inductive UrlError where
  /-- There is no scheme. -/
  | relative
  /-- There is no host where one is due. -/
  | emptyHost
  /-- What follows the colon is not a number below 65536. -/
  | portNumber
  /-- The host ends like an IPv4 address but is none. -/
  | ipv4
  /-- The host is in brackets but no IPv6 address. -/
  | ipv6
  /-- The host is no domain name. -/
  | domain
  /-- The host has a character that may not stand there. -/
  | hostCharacter
  deriving DecidableEq

/-- The wording of an error. -/
def UrlError.message : UrlError → String
  | .relative => "relative URL without a base"
  | .emptyHost => "empty host"
  | .portNumber => "invalid port number"
  | .ipv4 => "invalid IPv4 address"
  | .ipv6 => "invalid IPv6 address"
  | .domain => "invalid international domain name"
  | .hostCharacter => "invalid domain character"

/-! ## §2. Hosts. -/

/-- A host. -/
inductive Host where
  /-- A name, which may be empty. -/
  | name (text : List Char)
  /-- An IPv4 address, as a number. -/
  | ipv4 (address : Nat)
  /-- An IPv6 address, as eight pieces. -/
  | ipv6 (pieces : List Nat)
  deriving DecidableEq

namespace Host

/-- The characters of a list between the places of a mark. -/
def splitChars (mark : Char) : List Char → List (List Char)
  | [] => [[]]
  | c :: rest =>
    if c = mark then [] :: splitChars mark rest
    else match splitChars mark rest with
      | [] => [[c]]
      | piece :: pieces => (c :: piece) :: pieces

/-- The value of a digit in a base up to sixteen. -/
def digitIn? (base : Nat) (c : Char) : Option Nat := do
  let n ← if c.toNat < 128 then Text.hexValue? (UInt8.ofNat c.toNat) else none
  if n < base then some n else none

/-- The value of digits in a base up to sixteen, if all of them are digits. -/
def numberIn? (base : Nat) (digits : List Char) : Option Nat :=
  digits.foldl (fun acc c => do some ((← acc) * base + (← digitIn? base c))) (some 0)

/-! ## §3. IPv4 addresses. -/

/-- A part of an IPv4 address: decimal, octal after a zero, hexadecimal after `0x`. -/
def ipv4Number? : List Char → Option Nat
  | [] => none
  | ['0'] => some 0
  | '0' :: 'x' :: digits => numberIn? 16 digits
  | '0' :: 'X' :: digits => numberIn? 16 digits
  | '0' :: digits => numberIn? 8 digits
  | digits => numberIn? 10 digits

/-- The labels of a domain without the empty one after a last dot. -/
def labels (domain : List Char) : List (List Char) :=
  let parts := splitChars '.' domain
  if parts.length > 1 ∧ parts.getLast? = some [] then parts.dropLast else parts

/-- Whether the last label of a domain makes it an IPv4 address. -/
def endsInNumber (domain : List Char) : Bool :=
  match (labels domain).getLast? with
  | none => false
  | some last =>
    (last ≠ [] && last.all (fun c => (digitIn? 10 c).isSome)) || (ipv4Number? last).isSome

/-- The number of an address of at most four parts; the last part fills what the others leave. -/
def ipv4Value? : List Nat → Option Nat
  | [] => none
  | parts =>
    let front := parts.dropLast
    let last := parts.getLast?.getD 0
    if 4 < parts.length ∨ front.any (255 < ·) ∨ 1 <<< (8 * (4 - front.length)) ≤ last then none
    else some (front.zipIdx.foldl (fun n p => n + p.1 <<< (8 * (3 - p.2))) last)

/-- The IPv4 address of a domain whose last label is a number. -/
def parseIpv4 (domain : List Char) : Except UrlError Host :=
  match (labels domain).mapM ipv4Number? with
  | none => .error .ipv4
  | some parts =>
    match ipv4Value? parts with
    | none => .error .ipv4
    | some n => .ok (.ipv4 n)

/-! ## §4. IPv6 addresses. -/

/-- A piece of an IPv6 address: one to four hexadecimal digits. -/
def ipv6Piece? (digits : List Char) : Option Nat :=
  if digits = [] ∨ 4 < digits.length then none else numberIn? 16 digits

/-- A part of a dotted address inside an IPv6 address: no leading zero, at most 255. -/
def dottedPart? (digits : List Char) : Option Nat :=
  if digits = [] ∨ (digits.length ≠ 1 ∧ digits.head? = some '0') then none
  else do
    let n ← numberIn? 10 digits
    if n < 256 then some n else none

/-- The two pieces of a dotted address. -/
def dottedPieces? (text : List Char) : Option (List Nat) := do
  match ← (splitChars '.' text).mapM dottedPart? with
  | [a, b, c, d] => some [a * 256 + b, c * 256 + d]
  | _ => none

/-- The pieces between colons; the last may be a dotted address if `dotted` allows it. -/
def ipv6Pieces? (dotted : Bool) (text : List Char) : Option (List Nat) :=
  if text = [] then some []
  else
    let parts := splitChars ':' text
    let last := parts.getLast?.getD []
    do
      let front ← parts.dropLast.mapM ipv6Piece?
      let back ← if dotted ∧ last.contains '.' then dottedPieces? last
        else (ipv6Piece? last).map ([·])
      some (front ++ back)

/-- A text before and after its first pair of colons. -/
def splitDoubleColon : List Char → Option (List Char × List Char)
  | ':' :: ':' :: rest => some ([], rest)
  | c :: rest => (splitDoubleColon rest).map fun p => (c :: p.1, p.2)
  | [] => none

/-- The IPv6 address of the text between brackets. -/
def ipv6? (text : List Char) : Option (List Nat) :=
  match splitDoubleColon text with
  | none => do
    let pieces ← ipv6Pieces? true text
    if pieces.length = 8 then some pieces else none
  | some (front, back) => do
    let left ← ipv6Pieces? false front
    let right ← ipv6Pieces? true back
    if left.length + right.length < 8 then
      some (left ++ List.replicate (8 - left.length - right.length) 0 ++ right)
    else none

/-- How many zeros a list starts with. -/
def leadingZeros (pieces : List Nat) : Nat := (pieces.takeWhile (· == 0)).length

/-- Where the longest run of at least two zeros starts, the first of several. -/
def longestZeros (pieces : List Nat) : Option (Nat × Nat) :=
  let runs := (List.range pieces.length).map fun i => (i, leadingZeros (pieces.drop i))
  let best := runs.foldl (fun acc r => if acc.2 < r.2 then r else acc) (0, 0)
  if 2 ≤ best.2 then some best else none

/-- Pieces with colons between them. -/
def joinPieces (pieces : List Nat) : List Char :=
  [':'].intercalate (pieces.map Text.hexadecimal)

/-- The written form of an IPv6 address. -/
def ipv6Chars (pieces : List Nat) : List Char :=
  match longestZeros pieces with
  | none => joinPieces pieces
  | some (start, size) =>
    joinPieces (pieces.take start) ++ [':', ':'] ++ joinPieces (pieces.drop (start + size))

/-! ## §5. Domains. -/

/-- A text with its percent escapes resolved, as bytes. -/
def percentDecode : List UInt8 → List UInt8
  | 37 :: a :: b :: rest =>
    match Text.hexValue? a, Text.hexValue? b with
    | some x, some y => UInt8.ofNat (x * 16 + y) :: percentDecode rest
    | _, _ => 37 :: percentDecode (a :: b :: rest)
  | b :: rest => b :: percentDecode rest
  | [] => []

/-- The characters that may not stand in any host. -/
def forbiddenInHost : List Char :=
  ['\x00', '\t', '\n', '\r', ' ', '#', '/', ':', '<', '>', '?', '@', '[', '\\', ']', '^', '|']

/-- Whether a character may stand in a domain. -/
def isDomainChar (c : Char) : Bool :=
  0x20 < c.toNat && c.toNat < 0x7F && c != '%' && !forbiddenInHost.contains c

/-- An ASCII letter in lower case. -/
def lowerAscii (c : Char) : Char := if 'A' ≤ c ∧ c ≤ 'Z' then Char.ofNat (c.toNat + 32) else c

/-- **The host of a text under a scheme that the standard singles out.** -/
def parse (text : List Char) : Except UrlError Host :=
  match text with
  | '[' :: rest =>
    if rest.getLast? = some ']' then
      match ipv6? rest.dropLast with
      | some pieces => .ok (.ipv6 pieces)
      | none => .error .ipv6
    else .error .ipv6
  | _ =>
    match Utf8.decode? (percentDecode (Utf8.encode (String.ofList text))) with
    | none => .error .domain
    | some decoded =>
      let domain := decoded.toList.map lowerAscii
      if !domain.all isDomainChar then .error .domain
      else if domain = [] then .error .emptyHost
      else if endsInNumber domain then parseIpv4 domain
      else .ok (.name domain)

/-! ## §6. Percent encoding and hosts taken as they stand. -/

/-- A byte as a percent sign and two upper-case digits. -/
def percentByte (b : UInt8) : List Char :=
  ['%', Text.hexDigitUpper (b.toNat / 16), Text.hexDigitUpper (b.toNat % 16)]

/-- A character, percent-encoded if it is not ASCII or `reserved` says so. -/
def percentEncode (reserved : Char → Bool) (c : Char) : List Char :=
  if 0x7E < c.toNat ∨ c.toNat < 0x20 ∨ reserved c then
    (String.utf8EncodeChar c).flatMap percentByte
  else [c]

/-- The host of a text under any other scheme. -/
def parseVerbatim (text : List Char) : Except UrlError Host :=
  match text with
  | '[' :: rest =>
    if rest.getLast? = some ']' then
      match ipv6? rest.dropLast with
      | some pieces => .ok (.ipv6 pieces)
      | none => .error .ipv6
    else .error .ipv6
  | _ =>
    if text.any forbiddenInHost.contains then .error .hostCharacter
    else .ok (.name (text.flatMap (percentEncode fun _ => false)))

/-- **The written form of a host.** -/
def chars : Host → List Char
  | .name text => text
  | .ipv4 n =>
    ['.'].intercalate
      [Text.decimal (n / 16777216), Text.decimal (n / 65536 % 256), Text.decimal (n / 256 % 256),
        Text.decimal (n % 256)]
  | .ipv6 pieces => '[' :: ipv6Chars pieces ++ [']']

end Host

end WorkloadIdentity
