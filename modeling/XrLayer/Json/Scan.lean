import XrLayer.Json.Value
import XrLayer.Scalar
/-!
Scanning JSON text byte by byte.

A `Scan` reads from a cursor over the UTF-8 bytes of a text and can fail with a
`ReadError`. An error is placed at a byte offset, from which its line and column are
counted: the column is the number of bytes since the last newline. Two placements are
used: at the bytes consumed so far, or at one byte past them when the error concerns the
byte just looked at. The cursor survives a failure, so a caller can still see how far
reading got.

Numbers follow the JSON grammar. An integer that fits 64 bits stays an integer; any
other number is a float computed as the reader does it: the decimal significand, cut off
after the digits that fit 64 bits, is rounded to a float and then multiplied or divided
once by a power of ten.
-/
namespace XrLayer.Json

inductive ErrorCode where
  | eofWhileParsingList
  | eofWhileParsingObject
  | eofWhileParsingString
  | eofWhileParsingValue
  | expectedColon
  | expectedListCommaOrEnd
  | expectedObjectCommaOrEnd
  | expectedSomeIdent
  | expectedSomeValue
  | invalidEscape
  | invalidNumber
  | numberOutOfRange
  | controlCharacterWhileParsingString
  | keyMustBeAString
  | loneLeadingSurrogateInHexEscape
  | trailingComma
  | trailingCharacters
  | unexpectedEndOfHexEscape
  | recursionLimitExceeded
  /-- A complaint about the shape of the document rather than its syntax. -/
  | message (text : String)

def ErrorCode.text : ErrorCode → String
  | .eofWhileParsingList => "EOF while parsing a list"
  | .eofWhileParsingObject => "EOF while parsing an object"
  | .eofWhileParsingString => "EOF while parsing a string"
  | .eofWhileParsingValue => "EOF while parsing a value"
  | .expectedColon => "expected `:`"
  | .expectedListCommaOrEnd => "expected `,` or `]`"
  | .expectedObjectCommaOrEnd => "expected `,` or `\x7d`"
  | .expectedSomeIdent => "expected ident"
  | .expectedSomeValue => "expected value"
  | .invalidEscape => "invalid escape"
  | .invalidNumber => "invalid number"
  | .numberOutOfRange => "number out of range"
  | .controlCharacterWhileParsingString =>
    "control character (\\u0000-\\u001F) found while parsing a string"
  | .keyMustBeAString => "key must be a string"
  | .loneLeadingSurrogateInHexEscape => "lone leading surrogate in hex escape"
  | .trailingComma => "trailing comma"
  | .trailingCharacters => "trailing characters"
  | .unexpectedEndOfHexEscape => "unexpected end of hex escape"
  | .recursionLimitExceeded => "recursion limit exceeded"
  | .message text => text

/-- A failure and the byte offset it is reported at, if it has been placed yet. -/
structure ReadError where
  code : ErrorCode
  offset : Option Nat

/-- Line and column of a byte offset: lines count from one, the column is the number of
bytes since the last newline before the offset. -/
def position (input : List UInt8) (offset : Nat) : Nat × Nat :=
  (input.take offset).foldl (fun lc b => if b == 10 then (lc.1 + 1, 0) else (lc.1, lc.2 + 1)) (1, 0)

def ReadError.render (input : List UInt8) (e : ReadError) : String :=
  match e.offset with
  | none => e.code.text
  | some o =>
    let lc := position input o
    e.code.text ++ " at line " ++ toString lc.1 ++ " column " ++ toString lc.2

structure Cursor where
  rest : List UInt8
  used : Nat

/-- Reading that may fail; the cursor keeps its place across a failure. -/
abbrev Scan := ExceptT ReadError (StateM Cursor)

def Scan.run {α : Type} (s : Scan α) (input : List UInt8) : Except ReadError α × Cursor :=
  (ExceptT.run s).run ⟨input, 0⟩

namespace Scan

def peek : Scan (Option UInt8) := do return (← get).rest.head?

def eat : Scan Unit :=
  modify fun c => match c.rest with
    | [] => c
    | _ :: r => ⟨r, c.used + 1⟩

def next : Scan (Option UInt8) := do
  let b ← peek
  eat
  return b

def advance (k : Nat) : Scan Unit :=
  modify fun c => ⟨c.rest.drop k, c.used + k⟩

def fail {α : Type} (code : ErrorCode) : Scan α := do
  throw ⟨code, some (← get).used⟩

/-- Fail at the byte just looked at: one past the bytes consumed, unless the text ended. -/
def failPeek {α : Type} (code : ErrorCode) : Scan α := do
  let c ← get
  throw ⟨code, some (c.used + if c.rest.isEmpty then 0 else 1)⟩

/-- Fail with a complaint about the document's shape, to be placed where it surfaces. -/
def complain {α : Type} (text : String) : Scan α := throw ⟨.message text, none⟩

/-- Run `x`, giving a failure that has no place yet the place reached when it surfaced. -/
def placed {α : Type} (x : Scan α) : Scan α :=
  tryCatch x fun e => do
    match e.offset with
    | some _ => throw e
    | none => throw { e with offset := some (← get).used }

def observe {α : Type} (x : Scan α) : Scan (Except ReadError α) :=
  tryCatch (Except.ok <$> x) fun e => pure (.error e)

/-- Run `body` and then `close` whatever the body did; the body's failure wins over the
closing one. -/
def closing {α : Type} (body : Scan α) (close : Scan Unit) : Scan α := do
  let r ← observe body
  let c ← observe close
  match r, c with
  | .ok a, .ok () => pure a
  | .error e, _ => throw e
  | .ok _, .error e => throw e

def isBlank (b : UInt8) : Bool := b == 32 || b == 10 || b == 9 || b == 13

def isDigit (b : UInt8) : Bool := 48 ≤ b && b ≤ 57

def digitValue (b : UInt8) : Nat := b.toNat - 48

def skipWhile (p : UInt8 → Bool) : List UInt8 → Nat → List UInt8 × Nat
  | b :: bs, n => if p b then skipWhile p bs (n + 1) else (b :: bs, n)
  | [], n => ([], n)

def skipBytes (p : UInt8 → Bool) : Scan Unit :=
  modify fun c => let (r, k) := skipWhile p c.rest 0; ⟨r, c.used + k⟩

def skipBlank : Scan (Option UInt8) := do
  skipBytes isBlank
  peek

def ident : List UInt8 → Scan Unit
  | [] => pure ()
  | b :: bs => do
    match ← next with
    | none => fail .eofWhileParsingValue
    | some c => if c == b then ident bs else fail .expectedSomeIdent

def u64Max : Nat := 18446744073709551615

def i32Max : Nat := 2147483647

def overflows (acc d bound : Nat) : Bool :=
  acc ≥ bound / 10 && (acc > bound / 10 || d > bound % 10)

/-- Digits added to a significand while it stays within 64 bits: the significand, the
digits taken, and whether a digit was left because it would not fit. -/
def accumulate : List UInt8 → Nat → Nat → Nat × Nat × Bool
  | b :: bs, acc, n =>
    if isDigit b then
      if overflows acc (digitValue b) u64Max then (acc, n, true)
      else accumulate bs (acc * 10 + digitValue b) (n + 1)
    else (acc, n, false)
  | [], acc, n => (acc, n, false)

/-- Exponent digits added while they stay within 32 bits: the exponent, the digits
consumed (the one that would not fit included), and whether one would not fit. -/
def accumulateExponent : List UInt8 → Nat → Nat → Nat × Nat × Bool
  | b :: bs, acc, n =>
    if isDigit b then
      if overflows acc (digitValue b) i32Max then (acc, n + 1, true)
      else accumulateExponent bs (acc * 10 + digitValue b) (n + 1)
    else (acc, n, false)
  | [], acc, n => (acc, n, false)

def pow10 (i : Nat) : Float := Scalar.double (Nat.pow 10 i)

/-- Multiply or divide by `10^e`, dividing by `10^308` first while `e < -308`; `none`
when the product is infinite or `e > 308` with a non-zero value. -/
def scaleTen : Nat → Float → Int → Option Float
  | 0, f, _ => some f
  | fuel + 1, f, e =>
    if e.natAbs ≤ 308 then
      if 0 ≤ e then
        let r := f * pow10 e.toNat
        if r.isInf then none else some r
      else some (f / pow10 e.natAbs)
    else if f == 0 then some f
    else if 0 ≤ e then none
    else scaleTen fuel (f / pow10 308) (e + 308)

def fromParts (positive : Bool) (sig : Nat) (e : Int) : Scan Float :=
  match scaleTen (e.natAbs / 308 + 2) (Scalar.double sig) e with
  | some f => pure (if positive then f else -f)
  | none => fail .numberOutOfRange

def clampI32 (n : Int) : Int := max (-2147483648) (min 2147483647 n)

def exponent (positive : Bool) (sig : Nat) (start : Int) : Scan Float := do
  eat
  let positiveExp ← do
    match ← peek with
    | some 43 => eat; pure true
    | some 45 => eat; pure false
    | _ => pure true
  match ← next with
  | none => fail .eofWhileParsingValue
  | some b =>
    if !isDigit b then fail .invalidNumber
    else
      let c ← get
      let (e, k, overflowed) := accumulateExponent c.rest (digitValue b) 0
      advance k
      -- an exponent past 32 bits: out of range for a non-zero value scaled up, and a signed
      -- zero otherwise, whatever digits follow
      if overflowed then
        if sig != 0 && positiveExp then fail .numberOutOfRange
        else
          skipBytes isDigit
          pure (if positive then 0.0 else -0.0)
      else
        let total := if positiveExp then clampI32 (start + e) else clampI32 (start - e)
        fromParts positive sig total

/-- A fraction part, from its point: digits that fit extend the significand, the others
are skipped; at least one digit must follow the point. -/
def fraction (positive : Bool) (sig : Nat) (before : Int) : Scan Float := do
  eat
  let c ← get
  let (sig', k, overflowed) := accumulate c.rest sig 0
  advance k
  -- each fraction digit taken lowers the exponent by one
  let e := before - k
  if overflowed then
    skipBytes isDigit
    match ← peek with
    | some 101 | some 69 => exponent positive sig' e
    | _ => fromParts positive sig' e
  else if k = 0 then
    match ← peek with
    | some _ => failPeek .invalidNumber
    | none => failPeek .eofWhileParsingValue
  else
    match ← peek with
    | some 101 | some 69 => exponent positive sig' e
    | _ => fromParts positive sig' e

/-- The digits of an integer past 64 bits: each one left over raises the exponent. -/
def longInteger (positive : Bool) (sig : Nat) : Scan Float := do
  let c ← get
  let (r, k) := skipWhile isDigit c.rest 0
  set (Cursor.mk r (c.used + k))
  match r.head? with
  | some 46 => fraction positive sig k
  | some 101 | some 69 => exponent positive sig k
  | _ => fromParts positive sig k

/-- What follows the integer digits: a fraction, an exponent, or nothing. A negative
integer that fits 64 signed bits stays an integer; `-0` and larger magnitudes become
floats. -/
def afterInteger (positive : Bool) (sig : Nat) : Scan Number := do
  match ← peek with
  | some 46 => .double <$> fraction positive sig 0
  | some 101 | some 69 => .double <$> exponent positive sig 0
  | _ =>
    if positive then pure (.nat sig)
    else if sig = 0 then pure (.double (-0.0))
    else if sig ≤ 9223372036854775808 then pure (.int (-(sig : Int)))
    else pure (.double (-(Scalar.double sig)))

def number (positive : Bool) : Scan Number := do
  match ← next with
  | none => fail .eofWhileParsingValue
  | some b =>
    -- a leading zero stands alone: a digit after it is refused where it stands
    if b == 48 then
      match ← peek with
      | some c => if isDigit c then failPeek .invalidNumber else afterInteger positive 0
      | none => afterInteger positive 0
    else if isDigit b then
      let c ← get
      let (sig, k, overflowed) := accumulate c.rest (digitValue b) 0
      advance k
      if overflowed then .double <$> longInteger positive sig else afterInteger positive sig
    else fail .invalidNumber

def skipExponent : Scan Unit := do
  eat
  match ← peek with
  | some 43 | some 45 => eat
  | _ => pure ()
  match ← next with
  | some b => if isDigit b then skipBytes isDigit else fail .invalidNumber
  | none => fail .invalidNumber

def skipFraction : Scan Unit := do
  eat
  match ← peek with
  | some b =>
    if isDigit b then
      skipBytes isDigit
      match ← peek with
      | some 101 | some 69 => skipExponent
      | _ => pure ()
    else failPeek .invalidNumber
  | none => failPeek .invalidNumber

def skipNumber : Scan Unit := do
  let ok ← do
    match ← next with
    | some 48 =>
      match ← peek with
      | some c => if isDigit c then failPeek .invalidNumber else pure true
      | none => pure true
    | some b => if isDigit b then do skipBytes isDigit; pure true else fail .invalidNumber
    | none => fail .invalidNumber
  if ok then
    match ← peek with
    | some 46 => skipFraction
    | some 101 | some 69 => skipExponent
    | _ => pure ()

def hexValue (b : UInt8) : Option Nat :=
  if 48 ≤ b && b ≤ 57 then some (b.toNat - 48)
  else if 65 ≤ b && b ≤ 70 then some (b.toNat - 55)
  else if 97 ≤ b && b ≤ 102 then some (b.toNat - 87)
  else none

def hexEscape : Scan Nat := do
  let c ← get
  match c.rest with
  | a :: b :: d :: e :: _ =>
    advance 4
    match hexValue a, hexValue b, hexValue d, hexValue e with
    | some w, some x, some y, some z => pure (((w * 16 + x) * 16 + y) * 16 + z)
    | _, _, _, _ => fail .invalidEscape
  | _ =>
    advance c.rest.length
    fail .eofWhileParsingString

def utf8 (n : Nat) : List UInt8 :=
  if n < 0x80 then [n.toUInt8]
  else if n < 0x800 then [(0xC0 + n / 64).toUInt8, (0x80 + n % 64).toUInt8]
  else if n < 0x10000 then
    [(0xE0 + n / 4096).toUInt8, (0x80 + n / 64 % 64).toUInt8, (0x80 + n % 64).toUInt8]
  else
    [(0xF0 + n / 262144).toUInt8, (0x80 + n / 4096 % 64).toUInt8,
     (0x80 + n / 64 % 64).toUInt8, (0x80 + n % 64).toUInt8]

def nextInString : Scan UInt8 := do
  match ← next with
  | some b => pure b
  | none => fail .eofWhileParsingString

/-- A `\u` escape, from after the `u`: a code point outside the surrogates, or a leading
surrogate followed by `\u` and a trailing one. -/
def unicodeEscape : Scan (List UInt8) := do
  let n ← hexEscape
  if 0xDC00 ≤ n && n ≤ 0xDFFF then fail .loneLeadingSurrogateInHexEscape
  else if n < 0xD800 || n > 0xDBFF then pure (utf8 n)
  else
    let b ← nextInString
    if b != 92 then fail .unexpectedEndOfHexEscape
    else
      let u ← nextInString
      if u != 117 then fail .unexpectedEndOfHexEscape
      else
        let n2 ← hexEscape
        if n2 < 0xDC00 || n2 > 0xDFFF then fail .loneLeadingSurrogateInHexEscape
        else pure (utf8 (((n - 0xD800) * 1024 + (n2 - 0xDC00)) + 0x10000))

def escape : Scan (List UInt8) := do
  let b ← nextInString
  if b == 34 then pure [34]
  else if b == 92 then pure [92]
  else if b == 47 then pure [47]
  else if b == 98 then pure [8]
  else if b == 102 then pure [12]
  else if b == 110 then pure [10]
  else if b == 114 then pure [13]
  else if b == 116 then pure [9]
  else if b == 117 then unicodeEscape
  else fail .invalidEscape

def isPlain (b : UInt8) : Bool := b != 34 && b != 92 && b ≥ 32

def stringBody (acc : List UInt8) : Nat → Scan (List UInt8)
  | 0 => fail .eofWhileParsingString
  | fuel + 1 => do
    let c ← get
    let (r, k) := skipWhile isPlain c.rest 0
    let acc := acc ++ c.rest.take k
    set (Cursor.mk r (c.used + k))
    match r with
    | [] => fail .eofWhileParsingString
    | b :: _ =>
      if b == 34 then
        eat
        pure acc
      else if b == 92 then
        eat
        let bytes ← escape
        stringBody (acc ++ bytes) fuel
      else
        eat
        fail .controlCharacterWhileParsingString

def string : Scan String := do
  let c ← get
  let bytes ← stringBody [] (c.rest.length + 1)
  pure ((String.fromUTF8? ⟨bytes.toArray⟩).getD "")

def skipEscape : Scan Unit := do
  let b ← nextInString
  if b == 34 || b == 92 || b == 47 || b == 98 || b == 102 || b == 110 || b == 114 || b == 116 then
    pure ()
  else if b == 117 then do
    let _ ← hexEscape
    pure ()
  else fail .invalidEscape

/-- Skip the body of a string after its opening quote; a control byte is reported
before it is consumed. -/
def skipStringBody : Nat → Scan Unit
  | 0 => fail .eofWhileParsingString
  | fuel + 1 => do
    skipBytes isPlain
    match ← peek with
    | none => fail .eofWhileParsingString
    | some b =>
      if b == 34 then eat
      else if b == 92 then
        eat
        skipEscape
        skipStringBody fuel
      else fail .controlCharacterWhileParsingString

def skipString : Scan Unit := do
  let c ← get
  skipStringBody (c.rest.length + 1)

/-- After a skipped value: close brackets and find the next place to continue. Returns
the open brackets left and the innermost one when a further value must be skipped, or
`none` when the outermost bracket has closed. -/
def skipClosers : Nat → List UInt8 → UInt8 → Bool → Scan (Option (List UInt8 × UInt8))
  | 0, _, _, _ => fail .eofWhileParsingValue
  | fuel + 1, stack, frame, acceptComma => do
    match ← skipBlank with
    | some b =>
      if b == 44 && acceptComma then
        eat
        pure (some (stack, frame))
      else if (b == 93 && frame == 91) || (b == 125 && frame == 123) then
        eat
        match stack with
        | [] => pure none
        | f :: fs => skipClosers fuel fs f true
      else if acceptComma then
        failPeek (if frame == 91 then .expectedListCommaOrEnd else .expectedObjectCommaOrEnd)
      else pure (some (stack, frame))
    | none => failPeek (if frame == 91 then .eofWhileParsingList else .eofWhileParsingObject)

def skipKey : Scan Unit := do
  match ← skipBlank with
  | some 34 => eat
  | some _ => failPeek .keyMustBeAString
  | none => failPeek .eofWhileParsingObject
  skipString
  match ← skipBlank with
  | some 58 => eat
  | some _ => failPeek .expectedColon
  | none => failPeek .eofWhileParsingObject

/-- Skip values with an explicit stack of open brackets, so that nesting depth is not
limited: `stack` holds the outer brackets, `enclosing` the innermost open one. -/
def skipLoop : Nat → List UInt8 → Option UInt8 → Scan Unit
  | 0, _, _ => fail .eofWhileParsingValue
  | fuel + 1, stack, enclosing => do
    let opened ← do
      match ← skipBlank with
      | none => failPeek .eofWhileParsingValue
      | some b =>
        if b == 110 then do eat; ident [117, 108, 108]; pure none
        else if b == 116 then do eat; ident [114, 117, 101]; pure none
        else if b == 102 then do eat; ident [97, 108, 115, 101]; pure none
        else if b == 45 then do eat; skipNumber; pure none
        else if isDigit b then do skipNumber; pure none
        else if b == 34 then do eat; skipString; pure none
        else if b == 91 || b == 123 then do eat; pure (some b)
        else failPeek .expectedSomeValue
    let step : Option (List UInt8 × UInt8 × Bool) :=
      match opened, enclosing, stack with
      | some f, some e, _ => some (e :: stack, f, false)
      | some f, none, _ => some (stack, f, false)
      | none, some e, _ => some (stack, e, true)
      | none, none, f :: fs => some (fs, f, true)
      | none, none, [] => none
    match step with
    | none => pure ()
    | some (stack, frame, acceptComma) =>
      let c ← get
      match ← skipClosers (c.rest.length + 1) stack frame acceptComma with
      | none => pure ()
      | some (stack, frame) =>
        if frame == 123 then skipKey
        skipLoop fuel stack (some frame)

def skipValue : Scan Unit := do
  let c ← get
  skipLoop (c.rest.length + 1) [] none

end Scan

end XrLayer.Json
