/-!
How alike two words are, for suggesting what a mistyped word may have meant.

The measure is the Jaro similarity: characters of the two words match when they are
equal and no further apart than half the longer length less one, each character
matching at most once; with `m` matches and `t` half-transpositions among them it is
`(m/|a| + m/|b| + (m - t)/m) / 3`, and zero without matches. A word is suggested when
its similarity exceeds `0.7`; suggestions are listed from the least to the most alike,
words equally alike in their given order.
-/
namespace XrLayer.Cli

/-- Which characters of `a` and of `b` are matched. Each character of `a` in turn takes the
first character of `b` that is equal to it, not yet taken and at most `range` positions away,
where `range` is half the longer length less one. -/
def matchFlags (a b : List Char) : List Bool × List Bool :=
  let range := max a.length b.length / 2 - 1
  a.zipIdx.foldl (fun (fa, fb) (c, i) =>
    let candidate := fun (((taken, d), j) : (Bool × Char) × Nat) =>
      i - range ≤ j && j < i + range + 1 && !taken && d == c
    match ((fb.zip b).zipIdx.find? candidate) with
    | some (_, j) => (fa ++ [true], fb.set j true)
    | none => (fa ++ [false], fb))
    ([], b.map (fun _ => false))

def flagged (cs : List Char) (flags : List Bool) : List Char :=
  (cs.zip flags).filterMap (fun (c, f) => if f then some c else none)

def jaro (a b : String) : Float :=
  let a := a.toList
  let b := b.toList
  if a.isEmpty && b.isEmpty then 1
  else if a.isEmpty || b.isEmpty then 0
  else
    let (fa, fb) := matchFlags a b
    let ma := flagged a fa
    let mb := flagged b fb
    let m := ma.length
    if m == 0 then 0
    else
      let t := ((ma.zip mb).filter (fun (x, y) => x != y)).length / 2
      let mf := m.toFloat
      (mf / a.length.toFloat + mf / b.length.toFloat + (m - t).toFloat / mf) / 3

def similarTo (word : String) (pool : List String) : List String :=
  let scored := pool.filterMap (fun w =>
    let s := jaro word w
    if s > 0.7 then some (s, w) else none)
  (scored.mergeSort (fun x y => x.1 ≤ y.1)).map (·.2)

end XrLayer.Cli
