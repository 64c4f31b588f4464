import XrLayer.Decimal.Binary
/-!
The fewest decimal digits that read back.

The reals that round to a finite binary value form an interval around it, its ends
included exactly when the mantissa is even. `Binary.shortest` tries the decimal grids
`10^(k-1)`, `10^(k-2)`, … in turn, where `10^k` is the least power of ten above the
value, and takes the first grid on which one of the value's two neighbours lies in that
interval; of two such neighbours the nearer, and of two equally near the even one.
-/
namespace XrLayer.Decimal

structure Dec where
  digits : Nat
  exp : Int
deriving Repr, DecidableEq

def cmpScaled (a : Nat) (i : Int) (n : Nat) (j : Int) : Ordering :=
  compare (a * Nat.pow 10 i.toNat * Nat.pow 2 (-j).toNat)
    (n * Nat.pow 2 j.toNat * Nat.pow 10 (-i).toNat)

/-- `d` lies among the reals that round to `x` (to nearest, ties to even). The ends are
`x` less half the gap below and `x` plus half the gap above, counted in quarters of the
last place. -/
def Binary.readsBack (x : Binary) (d : Dec) : Bool :=
  let lo := if x.narrowBelow then 4 * x.m - 1 else 4 * x.m - 2
  let hi := 4 * x.m + 2
  let incl := x.m % 2 == 0
  let cl := cmpScaled d.digits d.exp lo (x.q - 2)
  let ch := cmpScaled d.digits d.exp hi (x.q - 2)
  (cl == .gt || (incl && cl == .eq)) && (ch == .lt || (incl && ch == .eq))

def Binary.below (x : Binary) (k : Int) : Bool :=
  cmpScaled 1 k x.m x.q == .gt

/-- The least `k` with the value below `10^k`, for a non-zero value. The estimate from the
binary logarithm is off by at most one; two exact steps each way settle it. -/
def Binary.scale (x : Binary) : Int :=
  let b : Int := (Nat.log2 x.m : Int) + x.q
  let k0 : Int := b * 78913 / 262144 + 1
  let up := fun k => if x.below k then k else k + 1
  let down := fun k => if x.below (k - 1) then k - 1 else k
  down (down (up (up k0)))

/-- On the grid `10^g`, the neighbour of the value that reads back, if any; the nearer of
two, and the even one of two equally near. -/
def Binary.onGrid (x : Binary) (g : Int) : Option Dec :=
  let num := x.m * Nat.pow 2 x.q.toNat * Nat.pow 10 (-g).toNat
  let den := Nat.pow 2 (-x.q).toNat * Nat.pow 10 g.toNat
  let d := num / den
  let lo : Dec := ⟨d, g⟩
  let hi : Dec := ⟨d + 1, g⟩
  match x.readsBack lo, x.readsBack hi with
  | true, true =>
    match compare (2 * num) ((2 * d + 1) * den) with
    | .lt => some lo
    | .gt => some hi
    | .eq => if d % 2 == 0 then some lo else some hi
  | true, false => some lo
  | false, true => some hi
  | false, false => none

def Binary.exact (x : Binary) : Dec :=
  if 0 ≤ x.q then ⟨x.m * Nat.pow 2 x.q.toNat, 0⟩ else ⟨x.m * Nat.pow 5 (-x.q).toNat, x.q⟩

def Dec.strip (d : Dec) : Dec :=
  if h : d.digits ≠ 0 ∧ d.digits % 10 = 0 then
    Dec.strip ⟨d.digits / 10, d.exp + 1⟩
  else d
termination_by d.digits
decreasing_by exact Nat.div_lt_self (Nat.pos_of_ne_zero h.1) (by decide)

/-- The shortest decimal that reads back as the non-zero value `x`, trailing zeros moved
into the exponent. Seventeen digits always suffice; the exact value stands behind the
search so that the function is total. -/
def Binary.shortest (x : Binary) : Dec :=
  let k := x.scale
  match (List.range 17).findSome? (fun (i : Nat) => x.onGrid (k - 1 - (i : Int))) with
  | some d => d.strip
  | none => x.exact.strip

end XrLayer.Decimal
