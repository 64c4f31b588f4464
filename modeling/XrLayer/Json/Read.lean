import XrLayer.Json.Scan
/-!
Reading a whole JSON document.

Arrays and objects may nest 127 deep; the next opening bracket fails with
`recursionLimitExceeded`. Blanks may surround the document and nothing else may follow
it. Object members keep their order, repeated keys included.
-/
namespace XrLayer.Json

open Scan

/-- The largest nesting of brackets a document may have, plus one. -/
def depthLimit : Nat := 128

def bytesOf (s : String) : List UInt8 := s.toUTF8.toList

def endArray : Scan Unit := do
  match ← skipBlank with
  | some 93 => eat
  | some 44 =>
    eat
    match ← skipBlank with
    | some 93 => failPeek .trailingComma
    | _ => failPeek .trailingCharacters
  | some _ => failPeek .trailingCharacters
  | none => failPeek .eofWhileParsingList

def endObject : Scan Unit := do
  match ← skipBlank with
  | some 125 => eat
  | some 44 => failPeek .trailingComma
  | some _ => failPeek .trailingCharacters
  | none => failPeek .eofWhileParsingObject

/-- Whether another array element follows: on `]` none; on `,` after the first, the
separator is consumed. Before the first element a `,` is no separator: the element is
read from it and fails there. -/
def nextElement (first : Bool) : Scan Bool := do
  let b ← do
    match ← skipBlank with
    | some 93 => pure none
    | some 44 =>
      if first then pure (some (some 44))
      else do eat; pure (some (← skipBlank))
    | some b => if first then pure (some (some b)) else failPeek .expectedListCommaOrEnd
    | none => failPeek .eofWhileParsingList
  match b with
  | none => pure false
  | some (some 93) => failPeek .trailingComma
  | some (some _) => pure true
  | some none => failPeek .eofWhileParsingValue

/-- Whether another object member follows; on `true` the cursor is at its key's quote,
consumed. Before the first member a `,` is no separator but a key that is not a string. -/
def nextKey (first : Bool) : Scan Bool := do
  let b ← do
    match ← skipBlank with
    | some 125 => pure none
    | some 44 =>
      if first then pure (some (some 44))
      else do eat; pure (some (← skipBlank))
    | some b => if first then pure (some (some b)) else failPeek .expectedObjectCommaOrEnd
    | none => failPeek .eofWhileParsingObject
  match b with
  | none => pure false
  | some (some 34) => do eat; pure true
  | some (some 125) => failPeek .trailingComma
  | some (some _) => failPeek .keyMustBeAString
  | some none => failPeek .eofWhileParsingValue

def colon : Scan Unit := do
  match ← skipBlank with
  | some 58 => eat
  | some _ => failPeek .expectedColon
  | none => failPeek .eofWhileParsingObject

mutual
/-- A document with `depth` more levels of brackets allowed. -/
def readValue (depth : Nat) : Scan Value := do
  match ← skipBlank with
  | none => failPeek .eofWhileParsingValue
  | some b =>
    placed do
      if b == 110 then do eat; ident (bytesOf "ull"); pure .null
      else if b == 116 then do eat; ident (bytesOf "rue"); pure (.bool true)
      else if b == 102 then do eat; ident (bytesOf "alse"); pure (.bool false)
      else if b == 45 then do eat; pure (.num (← number false))
      else if isDigit b then do pure (.num (← number true))
      else if b == 34 then do eat; pure (.str (← string))
      else if b == 91 then
        match depth with
        | 0 | 1 => failPeek .recursionLimitExceeded
        | d + 2 => do
          eat
          let c ← get
          closing (do pure (.arr (← readItems (d + 1) (c.rest.length + 1) true []))) endArray
      else if b == 123 then
        match depth with
        | 0 | 1 => failPeek .recursionLimitExceeded
        | d + 2 => do
          eat
          let c ← get
          closing (do pure (.obj (← readMembers (d + 1) (c.rest.length + 1) true []))) endObject
      else failPeek .expectedSomeValue
termination_by (depth, 0, 0)

def readItems (depth fuel : Nat) (first : Bool) (acc : List Value) : Scan (List Value) := do
  match fuel with
  | 0 => failPeek .eofWhileParsingList
  | fuel + 1 =>
    if ← nextElement first then
      let v ← readValue depth
      readItems depth fuel false (acc ++ [v])
    else pure acc
termination_by (depth, 1, fuel)

def readMembers (depth fuel : Nat) (first : Bool) (acc : List (String × Value)) :
    Scan (List (String × Value)) := do
  match fuel with
  | 0 => failPeek .eofWhileParsingObject
  | fuel + 1 =>
    if ← nextKey first then
      let k ← string
      colon
      let v ← readValue depth
      readMembers depth fuel false (acc ++ [(k, v)])
    else pure acc
termination_by (depth, 1, fuel)
end

def endOfText : Scan Unit := do
  match ← skipBlank with
  | some _ => failPeek .trailingCharacters
  | none => pure ()

def Value.parse (text : String) : Except String Value :=
  let input := text.toUTF8.toList
  match (do let v ← readValue depthLimit; endOfText; pure v : Scan Value).run input with
  | (.ok v, _) => .ok v
  | (.error e, _) => .error (e.render input)

end XrLayer.Json
