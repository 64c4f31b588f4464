/-!
JSON documents.

A number keeps the kind it was read or is to be written as: a non-negative integer, a
negative integer, or a binary float of 64 or 32 bits. The kind decides how it is
written (`1` against `1.0`) and which typed fields accept it.
-/
namespace XrLayer.Json

inductive Number where
  | nat (n : Nat)
  | int (n : Int)
  | double (x : Float)
  /-- A 32-bit float, written with the fewest digits that read back in 32 bits. -/
  | single (x : Float32)

/-- A JSON document. Object members keep their order. -/
inductive Value where
  | null
  | bool (b : Bool)
  | num (n : Number)
  | str (s : String)
  | arr (xs : List Value)
  | obj (kvs : List (String × Value))

namespace Value

def double (x : Float) : Value := .num (.double x)

def nat (n : Nat) : Value := .num (.nat n)

def int (n : Int) : Value := if 0 ≤ n then .num (.nat n.toNat) else .num (.int n)

def opt {α : Type} (f : α → Value) : Option α → Value
  | some a => f a
  | none => .null

def optStr (s : Option String) : Value := opt .str s

/-- The member named `k`; of several, the last. -/
def field? (v : Value) (k : String) : Option Value :=
  match v with
  | .obj kvs => (kvs.reverse.find? (fun kv => kv.1 == k)).map (·.2)
  | _ => none

end Value

end XrLayer.Json
