import XrLayer.Input.Control
import XrLayer.Input.Geometry
/-!
Interaction profiles: one per physical controller family.

A profile knows which input paths its hardware exposes, how to translate the near-synonyms
legacy applications use, where each legacy control lives, which device properties it
reports in place of the runtime's, and how its grip space differs from the legacy one.

Rewriting (`translate`) leaves a valid path alone; otherwise each table entry, in order,
replaces the first occurrence of its token, and the result is not checked again.
-/
namespace XrLayer

open Linear

inductive Family where
  | oculusTouch
  | indexController
  | viveWand
  | holographic
  | khrSimple
  | reverbG2
deriving DecidableEq, Repr

def Family.name : Family → String
  | .oculusTouch => "OculusTouch"
  | .indexController => "IndexController"
  | .viveWand => "ViveWand"
  | .holographic => "Holographic"
  | .khrSimple => "KhrSimple"
  | .reverbG2 => "ReverbG2"

def Family.all : List Family :=
  [.oculusTouch, .indexController, .viveWand, .holographic, .khrSimple, .reverbG2]

/-- Device properties a family may report in place of the runtime's. -/
inductive TrackedProperty where
  | manufacturerName
  | modelNumber
  | controllerType
  | renderModelName
deriving DecidableEq, Repr

def TrackedProperty.name : TrackedProperty → String
  | .manufacturerName => "ManufacturerName"
  | .modelNumber => "ModelNumber"
  | .controllerType => "ControllerType"
  | .renderModelName => "RenderModelName"

def TrackedProperty.all : List TrackedProperty :=
  [.manufacturerName, .modelNumber, .controllerType, .renderModelName]

def TrackedProperty.ofName? (s : String) : Option TrackedProperty :=
  all.find? (fun p => p.name == s)

/-- A property value: one string for both hands, or one per hand. -/
inductive PropertyValue where
  | shared (value : String)
  | perHand (left right : String)

def PropertyValue.forHand : PropertyValue → Hand → String
  | .shared v, _ => v
  | .perHand l _, .left => l
  | .perHand _ r, .right => r

def replaceFirst (pat rep : List Char) : List Char → Option (List Char)
  | [] => if pat.isEmpty then some rep else none
  | c :: cs =>
    if pat.isPrefixOf (c :: cs) then some (rep ++ (c :: cs).drop pat.length)
    else (replaceFirst pat rep cs).map (c :: ·)

structure Profile where
  family : Family
  path : String
  /-- The controller type legacy applications know the family by. -/
  openvrName : String
  renderModel : Hand → Option String := fun _ => none
  /-- Full input paths, hand prefix included. -/
  validPaths : List String
  synonyms : List (String × String)
  hmdProperties : List (TrackedProperty × String) := []
  controllerProperties : List (TrackedProperty × PropertyValue) := []
  /-- The authored grip correction, without user offsets. -/
  grip : Hand → Mat4 := fun _ => Mat4.identity
  components : Hand → List (String × Mat4) := fun _ => []
  legacy : Hand → LegacyBindings

namespace Profile

def perHand (ps : List String) : List String :=
  Hand.both.flatMap (fun h => ps.map (fun p => h.path ++ "/" ++ p))

def isInputPathValid (p : Profile) (s : String) : Bool := p.validPaths.contains s

def translate (p : Profile) (s : String) : String :=
  if p.synonyms.isEmpty || p.isInputPathValid s then s
  else
    let step (cs : List Char) (entry : String × String) : List Char :=
      (replaceFirst entry.1.toList entry.2.toList cs).getD cs
    String.ofList (p.synonyms.foldl step s.toList)

def hmdProperty (p : Profile) (prop : TrackedProperty) : Option String :=
  p.hmdProperties.lookup prop

def controllerProperty (p : Profile) (prop : TrackedProperty) (hand : Hand) : Option String :=
  (p.controllerProperties.lookup prop).map (·.forHand hand)

def component (p : Profile) (hand : Hand) (name : String) : Option Mat4 :=
  (p.components hand).lookup name

/-- From the runtime's grip space to the legacy controller space, with the user's offset
for the hand; the identity when no hand is known. -/
def gripToLegacy (p : Profile) (adjust : ControllerAdjust) : Option Hand → Mat4
  | some h => adjust.apply h (p.grip h)
  | none => Mat4.identity

def summary (p : Profile) : String :=
  "InteractionProfile \x7b family: " ++ p.family.name ++ ", path: \"" ++ p.path ++
    "\", valid_input_paths: " ++ toString p.validPaths.length ++ ", .. \x7d"

end Profile

end XrLayer
