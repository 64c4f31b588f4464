/-!
Vectors of 32-bit floats.

Every operation is written out lane by lane in the order the hardware evaluates it, so a
result is fixed to the bit. The four-lane dot product adds the even lanes and the odd
lanes first and then the two sums; the three-lane one adds left to right.
-/
namespace XrLayer.Linear

structure Vec3 where
  x : Float32
  y : Float32
  z : Float32

structure Vec4 where
  x : Float32
  y : Float32
  z : Float32
  w : Float32

namespace Vec3

def zero : Vec3 := ⟨0, 0, 0⟩

def ofList (xs : List Float32) : Vec3 :=
  ⟨xs.getD 0 0, xs.getD 1 0, xs.getD 2 0⟩

def toList (v : Vec3) : List Float32 := [v.x, v.y, v.z]

def scale (v : Vec3) (s : Float32) : Vec3 := ⟨v.x * s, v.y * s, v.z * s⟩

def mul (a b : Vec3) : Vec3 := ⟨a.x * b.x, a.y * b.y, a.z * b.z⟩

/-- `(x·x' + y·y') + z·z'`. -/
def dot (a b : Vec3) : Float32 := a.x * b.x + a.y * b.y + a.z * b.z

def length (v : Vec3) : Float32 := (v.dot v).sqrt

def recip (v : Vec3) : Vec3 := ⟨1 / v.x, 1 / v.y, 1 / v.z⟩

def extend (v : Vec3) (w : Float32) : Vec4 := ⟨v.x, v.y, v.z, w⟩

end Vec3

namespace Vec4

def ofList (xs : List Float32) : Vec4 :=
  ⟨xs.getD 0 0, xs.getD 1 0, xs.getD 2 0, xs.getD 3 0⟩

def toList (v : Vec4) : List Float32 := [v.x, v.y, v.z, v.w]

def add (a b : Vec4) : Vec4 := ⟨a.x + b.x, a.y + b.y, a.z + b.z, a.w + b.w⟩

def sub (a b : Vec4) : Vec4 := ⟨a.x - b.x, a.y - b.y, a.z - b.z, a.w - b.w⟩

def mul (a b : Vec4) : Vec4 := ⟨a.x * b.x, a.y * b.y, a.z * b.z, a.w * b.w⟩

def scale (v : Vec4) (s : Float32) : Vec4 := ⟨v.x * s, v.y * s, v.z * s, v.w * s⟩

/-- `(x·x' + z·z') + (y·y' + w·w')`: even lanes and odd lanes first. -/
def dot (a b : Vec4) : Float32 := (a.x * b.x + a.z * b.z) + (a.y * b.y + a.w * b.w)

def length (v : Vec4) : Float32 := (v.dot v).sqrt

def normalize (v : Vec4) : Vec4 :=
  let l := v.length
  ⟨v.x / l, v.y / l, v.z / l, v.w / l⟩

def xyz (v : Vec4) : Vec3 := ⟨v.x, v.y, v.z⟩

/-- Lane `i`, counting from zero; lanes past the last read as the last. -/
def get (v : Vec4) : Nat → Float32
  | 0 => v.x
  | 1 => v.y
  | 2 => v.z
  | _ => v.w

end Vec4

end XrLayer.Linear
