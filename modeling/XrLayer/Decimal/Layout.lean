import XrLayer.Decimal.Shortest
/-!
How selected decimals are written.

Two layouts are used. `Notation` writes the shortest digits positionally inside a
window of decimal positions and as `d.ddde±x` outside it, the form of numbers in JSON
documents and of numbers quoted in messages. `fixed` writes a value rounded to a number of places, half to
even on the exact value.
-/
namespace XrLayer.Decimal

def zeros (n : Nat) : String := String.ofList (List.replicate n '0')

def padLeft (width : Nat) (s : String) : String :=
  String.ofList (List.replicate (width - s.length) ' ') ++ s

def pointAt (cs : List Char) (n : Nat) : String :=
  String.ofList (cs.take n) ++ "." ++ String.ofList (cs.drop n)

/-- Where shortest digits are written without an exponent. With the value in
`[10^(kk-1), 10^kk)`, the layout is positional exactly when `plainAbove < kk ≤ plainUpTo`;
an integral value then ends in `.0`. Outside the window one digit stands before the
point and the exponent is signed, `e+16` or `e-7`, without padding. -/
structure Notation where
  plainUpTo : Int
  plainAbove : Int

/-- The window for 64-bit values: integers below `10^16`, fractions down to `10^-5`. -/
def Notation.wide : Notation := ⟨16, -5⟩

/-- The window for 32-bit values: integers below `10^13`, fractions down to `10^-6`. -/
def Notation.narrow : Notation := ⟨13, -6⟩

def exponentText (e : Int) : String :=
  (if 0 ≤ e then "+" else "") ++ toString e

def Notation.layout (n : Notation) (d : Dec) : String :=
  let s := toString d.digits
  let cs := s.toList
  let kk : Int := (cs.length : Int) + d.exp
  if 0 ≤ d.exp ∧ kk ≤ n.plainUpTo then s ++ zeros d.exp.toNat ++ ".0"
  else if 0 < kk ∧ kk ≤ n.plainUpTo then pointAt cs kk.toNat
  else if n.plainAbove < kk ∧ kk ≤ 0 then "0." ++ zeros (-kk).toNat ++ s
  else if cs.length = 1 then s ++ "e" ++ exponentText (kk - 1)
  else pointAt cs 1 ++ "e" ++ exponentText (kk - 1)

/-- The text of a finite value of format `f` with bit pattern `bits`: a minus sign when
the sign bit is set, `0.0` for zero, otherwise the shortest digits laid out. Infinities
and NaN have no such text. -/
def Notation.render (n : Notation) (f : Format) (bits : Nat) : Option String :=
  match f.classify bits with
  | .finite neg x =>
    some ((if neg then "-" else "") ++ if x.m = 0 then "0.0" else n.layout x.shortest)
  | _ => none

def fixed (places : Nat) (x : Binary) : String :=
  let scaled :=
    if 0 ≤ x.q then x.m * Nat.pow 2 x.q.toNat * Nat.pow 10 places
    else roundHalfEven (x.m * Nat.pow 10 places) (Nat.pow 2 (-x.q).toNat)
  let whole := toString (scaled / Nat.pow 10 places)
  if places = 0 then whole
  else
    let frac := toString (scaled % Nat.pow 10 places)
    whole ++ "." ++ zeros (places - frac.length) ++ frac

end XrLayer.Decimal
