import LspGateway.Text.Utf8

/-!
# URI references

A document is named by a URI reference as RFC 3986 defines it. References are
only checked, never normalised, so two spellings name two documents. A fault
tells the index of the first byte at which the text stops being a reference,
or of the start of the percent sign or bracket that is wrong.
-/

namespace LspGateway.Uri

/-- Why a text is no URI reference. -/
inductive Fault where
  /-- The byte at `index` cannot stand there. -/
  | unexpectedCharacter (index : Nat)
  /-- The percent sign at `index` is not followed by two hexadecimal digits. -/
  | badPercent (index : Nat)
  /-- The bracket at `index` opens no address. -/
  | badAddress (index : Nat)
  deriving DecidableEq, Repr

/-- The wording of a fault. -/
def Fault.message : Fault → String
  | .unexpectedCharacter index => s!"unexpected character at index {index}"
  | .badPercent index => s!"invalid percent-encoded octet at index {index}"
  | .badAddress index => s!"invalid IP literal at index {index}"

/-! ## Byte classes -/

/-- ASCII letters. -/
def isAlpha (b : UInt8) : Bool :=
  (0x41 ≤ b && b ≤ 0x5A) || (0x61 ≤ b && b ≤ 0x7A)

/-- ASCII digits. -/
def isDigit (b : UInt8) : Bool :=
  0x30 ≤ b && b ≤ 0x39

/-- Hexadecimal digits. -/
def isHex (b : UInt8) : Bool :=
  isDigit b || (0x41 ≤ b && b ≤ 0x46) || (0x61 ≤ b && b ≤ 0x66)

/-- Whether a byte is one of the ASCII characters of a text. -/
def isOneOf (characters : String) (b : UInt8) : Bool :=
  characters.toList.any fun c => c.toNat == b.toNat

/-- Bytes that never need an escape. -/
def isUnreserved (b : UInt8) : Bool :=
  isAlpha b || isDigit b || isOneOf "-._~" b

/-- Delimiters inside a component. -/
def isSubDelimiter (b : UInt8) : Bool :=
  isOneOf "!$&'()*+,;=" b

/-- Bytes of a scheme. -/
def isSchemeByte (b : UInt8) : Bool :=
  isAlpha b || isDigit b || isOneOf "+-." b

/-- Bytes of a registered name. -/
def isNameByte (b : UInt8) : Bool :=
  isUnreserved b || isSubDelimiter b

/-- Bytes of the user information and of the port before it is checked. -/
def isUserByte (b : UInt8) : Bool :=
  isNameByte b || b == 0x3A

/-- Bytes of a path segment that may not hold a colon. -/
def isSegmentByte (b : UInt8) : Bool :=
  isNameByte b || b == 0x40

/-- Bytes of a path. -/
def isPathByte (b : UInt8) : Bool :=
  isUserByte b || b == 0x40 || b == 0x2F

/-- Bytes of a query or a fragment. -/
def isQueryByte (b : UInt8) : Bool :=
  isPathByte b || b == 0x3F

/-! ## Scanning -/

/-- A place in the reference: the index reached and the bytes left. -/
structure Cursor where
  /-- The number of bytes read. -/
  index : Nat
  /-- The bytes not yet read. -/
  left : Bytes

/-- Steps over bytes of a class, and over percent-encoded octets. -/
def scanFrom (class_ : UInt8 → Bool) (index : Nat) : Bytes → Except Fault Cursor
  | [] => .ok ⟨index, []⟩
  | 0x25 :: a :: b :: rest =>
    if isHex a && isHex b then scanFrom class_ (index + 3) rest else .error (.badPercent index)
  | b :: rest =>
    if b == 0x25 then .error (.badPercent index)
    else if class_ b then scanFrom class_ (index + 1) rest
    else .ok ⟨index, b :: rest⟩

/-- Steps over bytes of a class, and over percent-encoded octets. -/
def Cursor.scan (at_ : Cursor) (class_ : UInt8 → Bool) : Except Fault Cursor :=
  scanFrom class_ at_.index at_.left

/-- Steps over bytes of a class that admits no percent sign. -/
def Cursor.skip (at_ : Cursor) (class_ : UInt8 → Bool) : Cursor :=
  let run := at_.left.takeWhile class_
  ⟨at_.index + run.length, at_.left.dropWhile class_⟩

/-- Steps over a given byte string, if it comes next. -/
def Cursor.accept? (at_ : Cursor) (expected : Bytes) : Option Cursor :=
  if expected.isPrefixOf at_.left then
    some ⟨at_.index + expected.length, at_.left.drop expected.length⟩
  else none

/-! ## Addresses -/

/-- Groups of an IPv6 address are one to four hexadecimal digits. -/
def isGroup (group : Bytes) : Bool :=
  1 ≤ group.length && group.length ≤ 4 && group.all isHex

/-- Splits at every occurrence of a byte. -/
def splitAt (separator : UInt8) : Bytes → List Bytes
  | [] => [[]]
  | b :: rest =>
    match splitAt separator rest with
    | [] => [[b]]
    | part :: parts => if b == separator then [] :: part :: parts else (b :: part) :: parts

/-- A decimal octet has no leading zero and is at most 255. -/
def isOctet (part : Bytes) : Bool :=
  1 ≤ part.length && part.length ≤ 3 && part.all isDigit &&
    (part.length == 1 || part.head? != some 0x30) &&
    part.foldl (fun n b => n * 10 + (b.toNat - 0x30)) 0 ≤ 255

/-- An IPv4 address: four octets. -/
def isDotted (part : Bytes) : Bool :=
  let octets := splitAt 0x2E part
  octets.length == 4 && octets.all isOctet

/-- How many groups a colon-separated run counts for, an IPv4 address at the
very end counting for two; `none` if it is malformed. -/
def groupCount? (last : Bool) : List Bytes → Option Nat
  | [] => some 0
  | [part] =>
    if isGroup part then some 1 else if last && isDotted part then some 2 else none
  | part :: parts =>
    if isGroup part then (groupCount? last parts).map (· + 1) else none

/-- The bytes before and after the first double colon, if there is one. -/
def atDoubleColon? : Bytes → Option (Bytes × Bytes)
  | 0x3A :: 0x3A :: rest => some ([], rest)
  | b :: rest => (atDoubleColon? rest).map fun (before, after) => (b :: before, after)
  | [] => none

/-- The groups of one side of a double colon, which may be empty. -/
def sideCount? (last : Bool) (side : Bytes) : Option Nat :=
  if side.isEmpty then some 0 else groupCount? last (splitAt 0x3A side)

/-- An IPv6 address: eight groups, or fewer around one double colon. -/
def isIpv6 (address : Bytes) : Bool :=
  match atDoubleColon? address with
  | some (before, after) =>
    match sideCount? false before, sideCount? true after with
    | some a, some b => a + b ≤ 7
    | _, _ => false
  | none => groupCount? true (splitAt 0x3A address) == some 8

/-- Steps over a bracketed address. -/
def Cursor.address (at_ : Cursor) : Except Fault Cursor :=
  let inner := (at_.left.drop 1).takeWhile (· != 0x5D)
  let rest := (at_.left.drop 1).dropWhile (· != 0x5D)
  if !rest.isEmpty && isIpv6 inner then
    .ok ⟨at_.index + inner.length + 2, rest.drop 1⟩
  else .error (.badAddress at_.index)

/-- Steps over a port, if there is one. -/
def Cursor.port (at_ : Cursor) : Cursor :=
  match at_.accept? [0x3A] with
  | some next => next.skip isDigit
  | none => at_

/-- Steps over a host: a bracketed address or a name. -/
def Cursor.host (at_ : Cursor) : Except Fault Cursor :=
  if at_.left.head? == some 0x5B then at_.address else at_.scan isNameByte

/-! ## Components -/

/-- The port of a run of user bytes starts behind its only colon. Its last byte
that is no digit is the one reported; a second colon makes the first one wrong. -/
def checkPort (index : Nat) (run : Bytes) : Except Fault Unit :=
  let host := run.takeWhile (· != 0x3A)
  let port := (run.dropWhile (· != 0x3A)).drop 1
  if port.contains 0x3A then .error (.unexpectedCharacter (index + host.length))
  else
    let digits := port.reverse.takeWhile isDigit
    if digits.length == port.length then .ok ()
    else .error (.unexpectedCharacter (index + run.length - digits.length - 1))

/-- Steps over the query and the fragment and demands the end. -/
def Cursor.queryAndFragment (at_ : Cursor) : Except Fault Unit := do
  let at_ ← match at_.accept? [0x3F] with
    | some next => next.scan isQueryByte
    | none => .ok at_
  let at_ ← match at_.accept? [0x23] with
    | some next => next.scan isQueryByte
    | none => .ok at_
  if at_.left.isEmpty then .ok () else .error (.unexpectedCharacter at_.index)

/-- Steps over a path that follows a scheme. -/
def Cursor.path (at_ : Cursor) : Except Fault Unit := do
  (← at_.scan isPathByte).queryAndFragment

/-- Steps over a path that follows an authority: it is empty or absolute. -/
def Cursor.absolutePath (at_ : Cursor) : Except Fault Unit := do
  let next ← at_.scan isPathByte
  if at_.index < next.index && at_.left.head? != some 0x2F then
    .error (.unexpectedCharacter at_.index)
  else next.queryAndFragment

/-- Steps over a path without scheme: its first segment holds no colon. -/
def Cursor.relativePath (at_ : Cursor) : Except Fault Unit := do
  let next ← at_.scan isSegmentByte
  if next.left.head? == some 0x3A then .error (.unexpectedCharacter next.index)
  else (← next.scan isPathByte).queryAndFragment

/-- Steps over an authority. Its first run is the user information if an at
sign follows, otherwise the host with an optional port. -/
def Cursor.authority (at_ : Cursor) : Except Fault Unit := do
  let run ← at_.scan isUserByte
  if run.left.head? == some 0x40 then
    let host ← Cursor.host ⟨run.index + 1, run.left.drop 1⟩
    host.port.absolutePath
  else if run.index == at_.index then
    if at_.left.head? == some 0x5B then
      let host ← at_.address
      host.port.absolutePath
    else at_.absolutePath
  else
    checkPort at_.index (at_.left.take (run.index - at_.index))
    run.absolutePath

/-- Checks a reference, given by its bytes. -/
def checkBytes (bytes : Bytes) : Except Fault Unit :=
  let start : Cursor := ⟨0, bytes⟩
  let scheme := start.skip isSchemeByte
  match scheme.accept? [0x3A] with
  | some next =>
    if bytes.head?.any isAlpha then
      match next.accept? [0x2F, 0x2F] with
      | some authority => authority.authority
      | none => next.path
    else .error (.unexpectedCharacter 0)
  | none =>
    match start.accept? [0x2F, 0x2F] with
    | some authority => authority.authority
    | none => start.relativePath

/-- Checks that a text is a URI reference. -/
def check (text : String) : Except Fault Unit :=
  checkBytes (Bytes.ofString text)

end LspGateway.Uri
