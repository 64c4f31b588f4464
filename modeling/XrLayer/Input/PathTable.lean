import XrLayer.Error
/-!
An in-memory path table that stands in for a runtime's path interning.

It hands out handles either by counting from a start value (wrapping at 2^64) or by
interning: each distinct string gets the next number from one, the first time it is
seen. It can be told to refuse the n-th request, or every request for one path. It keeps
every string it was asked for, in order.
-/
namespace XrLayer

inductive Numbering where
  /-- The next handle to hand out, whatever the string. -/
  | counting (next : Nat)
  /-- The strings seen so far, in the order first seen. -/
  | interning (seen : List String)

structure PathTable where
  numbering : Numbering
  /-- Refuse the request with this number, counting from one. -/
  failAt : Option Nat := none
  failPath : Option String := none
  reason : String := "XR_ERROR_PATH_FORMAT_INVALID"
  asked : List String := []

def positionOf (xs : List String) (s : String) : Option Nat :=
  (xs.findIdx? (· == s)).map (· + 1)

def PathTable.resolve (t : PathTable) (s : String) : Except Error Nat × PathTable :=
  let t := { t with asked := t.asked ++ [s] }
  if t.failAt == some t.asked.length || t.failPath == some s then
    (.error (.pathResolution s t.reason), t)
  else
    match t.numbering with
    | .counting next => (.ok next, { t with numbering := .counting ((next + 1) % Nat.pow 2 64) })
    | .interning seen =>
      match positionOf seen s with
      | some i => (.ok i, t)
      | none => (.ok (seen.length + 1), { t with numbering := .interning (seen ++ [s]) })

end XrLayer
