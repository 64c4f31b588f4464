namespace XrLayer

inductive Hand where
  | left
  | right
deriving DecidableEq, Repr

namespace Hand

def both : List Hand := [.left, .right]

def path : Hand → String
  | .left => "/user/hand/left"
  | .right => "/user/hand/right"

def ofPath? (p : String) : Option Hand :=
  both.find? (fun h => h.path == p)

def index : Hand → Nat
  | .left => 0
  | .right => 1

def name : Hand → String
  | .left => "left"
  | .right => "right"

end Hand

end XrLayer
