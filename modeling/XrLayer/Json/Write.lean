import XrLayer.Json.Value
import XrLayer.Decimal.Text
/-!
Writing JSON documents.

Strings escape the quote, the backslash and the control characters, the common ones by
their letter and the rest as `\u00xx`; every other character is written as it is. A
float is written with the fewest digits that read back in its own width, and an
infinity or NaN, which JSON cannot hold, as `null`. The compact form has no blanks;
the pretty form puts each element on a line of its own, indented by two spaces a level.
-/
namespace XrLayer.Json

def hexDigit (n : Nat) : Char :=
  if n < 10 then Char.ofNat (48 + n) else Char.ofNat (87 + n)

def escapeChar (c : Char) : List Char :=
  if c = '"' then ['\\', '"']
  else if c = '\\' then ['\\', '\\']
  else if c = '\n' then ['\\', 'n']
  else if c = '\r' then ['\\', 'r']
  else if c = '\t' then ['\\', 't']
  else if c.toNat = 8 then ['\\', 'b']
  else if c.toNat = 12 then ['\\', 'f']
  else if c.toNat < 32 then ['\\', 'u', '0', '0', hexDigit (c.toNat / 16), hexDigit (c.toNat % 16)]
  else [c]

def quote (s : String) : String :=
  String.ofList ('"' :: (s.toList.flatMap escapeChar ++ ['"']))

def Number.text : Number → String
  | .nat n => toString n
  | .int n => toString n
  | .double x => (Decimal.wideText? x).getD "null"
  | .single x => (Decimal.narrowText? x).getD "null"

mutual
def Value.compact : Value → String
  | .null => "null"
  | .bool b => if b then "true" else "false"
  | .num n => n.text
  | .str s => quote s
  | .arr xs => "[" ++ compactItems xs ++ "]"
  | .obj kvs => "\x7b" ++ compactMembers kvs ++ "\x7d"

def compactItems : List Value → String
  | [] => ""
  | [v] => v.compact
  | v :: vs => v.compact ++ "," ++ compactItems vs

def compactMembers : List (String × Value) → String
  | [] => ""
  | [(k, v)] => quote k ++ ":" ++ v.compact
  | (k, v) :: kvs => quote k ++ ":" ++ v.compact ++ "," ++ compactMembers kvs
end

def indent (level : Nat) : String := String.ofList (List.replicate (2 * level) ' ')

mutual
def Value.pretty (level : Nat) : Value → String
  | .arr [] => "[]"
  | .arr xs => "[\n" ++ prettyItems (level + 1) xs ++ "\n" ++ indent level ++ "]"
  | .obj [] => "\x7b\x7d"
  | .obj kvs => "\x7b\n" ++ prettyMembers (level + 1) kvs ++ "\n" ++ indent level ++ "\x7d"
  | .null => "null"
  | .bool b => if b then "true" else "false"
  | .num n => n.text
  | .str s => quote s

def prettyItems (level : Nat) : List Value → String
  | [] => ""
  | [v] => indent level ++ v.pretty level
  | v :: vs => indent level ++ v.pretty level ++ ",\n" ++ prettyItems level vs

def prettyMembers (level : Nat) : List (String × Value) → String
  | [] => ""
  | [(k, v)] => indent level ++ quote k ++ ": " ++ v.pretty level
  | (k, v) :: kvs =>
    indent level ++ quote k ++ ": " ++ v.pretty level ++ ",\n" ++ prettyMembers level kvs
end

end XrLayer.Json
