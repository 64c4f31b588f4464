import XrLayer.Config
import XrLayer.Json.Read
import XrLayer.Decimal.Text
import XrLayer.Text.Quote
import XrLayer.Scalar
/-!
Reading a configuration from JSON text.

The text is read in one pass straight into the configuration, so the first problem in
reading order is the one reported, syntax or shape alike, with the line and column where
reading stood. A record is an object of named fields in any order, or an array of its
fields in declaration order; a field may appear once, unknown fields are skipped after a
syntax check, and missing ones keep their defaults. A position or rotation is an array
of exactly three numbers. A number goes to a 32-bit float by rounding the value read.
-/
namespace XrLayer

open Json Json.Scan Linear

def Json.Number.mention : Number → String
  | .nat n => "integer `" ++ toString n ++ "`"
  | .int n => "integer `" ++ toString n ++ "`"
  | .double x => "floating point `" ++ Decimal.messageText x ++ "`"
  | .single x => "floating point `" ++ Decimal.messageText (Scalar.widen x) ++ "`"

def invalidType {α : Type} (found expected : String) : Scan α :=
  complain ("invalid type: " ++ found ++ ", expected " ++ expected)

def wrongValue {α : Type} (expected : String) : Scan α :=
  placed do
    match ← peek with
    | some 110 => do eat; ident (bytesOf "ull"); invalidType "null" expected
    | some 116 => do eat; ident (bytesOf "rue"); invalidType "boolean `true`" expected
    | some 102 => do eat; ident (bytesOf "alse"); invalidType "boolean `false`" expected
    | some 45 => do eat; invalidType (← number false).mention expected
    | some 34 => do eat; invalidType ("string " ++ Text.quote (← string)) expected
    | some 91 => invalidType "sequence" expected
    | some 123 => invalidType "map" expected
    | some b =>
      if isDigit b then do invalidType (← number true).mention expected
      else failPeek .expectedSomeValue
    | none => failPeek .expectedSomeValue

def readBool : Scan Bool :=
  placed do
    match ← skipBlank with
    | none => failPeek .eofWhileParsingValue
    | some 116 => do eat; ident (bytesOf "rue"); pure true
    | some 102 => do eat; ident (bytesOf "alse"); pure false
    | some _ => wrongValue "a boolean"

def Json.Number.toSingle : Number → Float32
  | .nat n => Scalar.single n
  | .int n => Scalar.single n
  | .double x => Scalar.narrow x
  | .single x => x

def readSingle : Scan Float32 :=
  placed do
    match ← skipBlank with
    | none => failPeek .eofWhileParsingValue
    | some 45 => do eat; pure (← number false).toSingle
    | some b =>
      if isDigit b then do pure (← number true).toSingle
      else wrongValue "f32"

def tripleName : String := "an array of length 3"

def tripleElement (i : Nat) (first : Bool) : Scan Float32 := do
  if ← nextElement first then readSingle
  else complain ("invalid length " ++ toString i ++ ", expected " ++ tripleName)

def readTriple : Scan Vec3 :=
  placed do
    match ← skipBlank with
    | none => failPeek .eofWhileParsingValue
    | some 91 => do
      eat
      closing (do
        let x ← tripleElement 0 true
        let y ← tripleElement 1 false
        let z ← tripleElement 2 false
        pure ⟨x, y, z⟩) endArray
    | some _ => wrongValue tripleName

/-- A field of a record: its name and how reading its value updates the record. -/
structure Field (α : Type) where
  name : String
  read : α → Scan α

/-- Fields in declaration order from an array: each element read in turn until the array
ends; the fields after that keep their values. -/
def readFieldsInOrder {α : Type} : List (Field α) → Bool → α → Scan α
  | [], _, r => pure r
  | f :: fs, first, r => do
    if ← nextElement first then
      let r ← f.read r
      readFieldsInOrder fs false r
    else pure r

def fieldIndex {α : Type} (fields : List (Field α)) (k : String) : Option Nat :=
  fields.findIdx? (fun f => f.name == k)

def readMembersInto {α : Type} (fields : List (Field α)) :
    Nat → Bool → List Nat → α → Scan α
  | 0, _, _, r => pure r
  | fuel + 1, first, seen, r => do
    if ← nextKey first then
      let k ← string
      match fieldIndex fields k with
      | some i =>
        if seen.contains i then complain ("duplicate field `" ++ k ++ "`")
        else
          colon
          let r ← match fields[i]? with
            | some f => f.read r
            | none => pure r
          readMembersInto fields fuel false (i :: seen) r
      | none =>
        colon
        skipValue
        readMembersInto fields fuel false seen r
    else pure r

/-- A record called `name` with the given fields, from `init`: an object of its fields
or an array of them in order. -/
def readRecord {α : Type} (name : String) (fields : List (Field α)) (init : α) : Scan α :=
  placed do
    match ← skipBlank with
    | none => failPeek .eofWhileParsingValue
    | some 91 => do
      eat
      closing (readFieldsInOrder fields true init) endArray
    | some 123 => do
      eat
      let c ← get
      closing (readMembersInto fields (c.rest.length + 1) true [] init) endObject
    | some _ => wrongValue ("struct " ++ name)

def ControllerAdjust.fields : List (Field ControllerAdjust) :=
  [⟨"adjust_left_position", fun c => do pure { c with adjustLeftPosition := ← readBool }⟩,
   ⟨"adjust_right_position", fun c => do pure { c with adjustRightPosition := ← readBool }⟩,
   ⟨"adjust_left_rotation", fun c => do pure { c with adjustLeftRotation := ← readBool }⟩,
   ⟨"adjust_right_rotation", fun c => do pure { c with adjustRightRotation := ← readBool }⟩,
   ⟨"left_position", fun c => do pure { c with leftPosition := ← readTriple }⟩,
   ⟨"right_position", fun c => do pure { c with rightPosition := ← readTriple }⟩,
   ⟨"left_rotation", fun c => do pure { c with leftRotation := ← readTriple }⟩,
   ⟨"right_rotation", fun c => do pure { c with rightRotation := ← readTriple }⟩,
   ⟨"adjust_tilt", fun c => do pure { c with adjustTilt := ← readBool }⟩,
   ⟨"tilt", fun c => do pure { c with tilt := ← readSingle }⟩]

def SmoothingConfig.fields : List (Field SmoothingConfig) :=
  [⟨"enabled", fun s => do pure { s with enabled := ← readBool }⟩,
   ⟨"pos_min_cutoff", fun s => do pure { s with posMinCutoff := ← readSingle }⟩,
   ⟨"pos_beta", fun s => do pure { s with posBeta := ← readSingle }⟩,
   ⟨"rot_min_cutoff", fun s => do pure { s with rotMinCutoff := ← readSingle }⟩,
   ⟨"rot_beta", fun s => do pure { s with rotBeta := ← readSingle }⟩]

def Config.fields : List (Field Config) :=
  [⟨"controller", fun c => do
      let controller ← readRecord "ControllerAdjustConfig" ControllerAdjust.fields {}
      pure { c with controller }⟩,
   ⟨"smoothing", fun c => do
      pure { c with smoothing := ← readRecord "SmoothingConfig" SmoothingConfig.fields {} }⟩,
   ⟨"stop_on_soft_abort", fun c => do pure { c with stopOnSoftAbort := ← readBool }⟩]

def Config.ofJson (text : String) : Except String Config :=
  let input := text.toUTF8.toList
  let whole : Scan Config := do
    let c ← readRecord "Config" Config.fields {}
    endOfText
    pure c
  match whole.run input with
  | (.ok c, _) => .ok c
  | (.error e, _) => .error (e.render input)

end XrLayer
