/-!
Texture formats and the choice of a swapchain format for a source texture.

A format is a raw number of the graphics API; thirteen of them have names. Formats with
an sRGB twin resolve to the twin whenever the application tagged its texture with an
explicit colour space (gamma or linear alike), and to the plain variant when it left the
choice to the bridge. A handful of formats are taken as they are, and every other
format resolves to the unknown format.
-/
namespace XrLayer.Compositor

structure TextureFormat where
  value : Nat
deriving DecidableEq, Repr

namespace TextureFormat

def unknown : TextureFormat := ⟨0⟩
def rgba16Float : TextureFormat := ⟨10⟩
def r11g11b10Float : TextureFormat := ⟨26⟩
def rgba8Typeless : TextureFormat := ⟨27⟩
def rgba8 : TextureFormat := ⟨28⟩
def rgba8Srgb : TextureFormat := ⟨29⟩
def b5g6r5 : TextureFormat := ⟨85⟩
def b5g5r5a1 : TextureFormat := ⟨86⟩
def bgra8 : TextureFormat := ⟨87⟩
def bgrx8 : TextureFormat := ⟨88⟩
def bgra8Srgb : TextureFormat := ⟨91⟩
def bgrx8Srgb : TextureFormat := ⟨93⟩
def bgra4 : TextureFormat := ⟨115⟩

def names : List (Nat × String) :=
  [(0, "UNKNOWN"), (10, "R16G16B16A16_FLOAT"), (26, "R11G11B10_FLOAT"),
   (27, "R8G8B8A8_TYPELESS"), (28, "R8G8B8A8_UNORM"), (29, "R8G8B8A8_UNORM_SRGB"),
   (85, "B5G6R5_UNORM"), (86, "B5G5R5A1_UNORM"), (87, "B8G8R8A8_UNORM"),
   (88, "B8G8R8X8_UNORM"), (91, "B8G8R8A8_UNORM_SRGB"), (93, "B8G8R8X8_UNORM_SRGB"),
   (115, "B4G4R4A4_UNORM")]

def name? (f : TextureFormat) : Option String := names.lookup f.value

def debugText (f : TextureFormat) : String :=
  match f.name? with
  | some n => "DXGI_FORMAT_" ++ n
  | none => "DXGI_FORMAT(" ++ toString f.value ++ ")"

def isSrgb (f : TextureFormat) : Bool :=
  f == rgba8Srgb || f == bgra8Srgb || f == bgrx8Srgb

end TextureFormat

inductive ColorSpace where
  | auto
  | gamma
  | linear
deriving DecidableEq, Repr

namespace TextureFormat

def resolve (f : TextureFormat) (cs : ColorSpace) : TextureFormat :=
  let pick (plain srgb : TextureFormat) := if cs == .auto then plain else srgb
  if [b5g6r5, b5g5r5a1, bgra4, rgba16Float, r11g11b10Float].contains f then f
  else if [rgba8, rgba8Srgb, rgba8Typeless].contains f then pick rgba8 rgba8Srgb
  else if [bgra8, bgra8Srgb].contains f then pick bgra8 bgra8Srgb
  else if [bgrx8, bgrx8Srgb].contains f then pick bgrx8 bgrx8Srgb
  else unknown

end TextureFormat

end XrLayer.Compositor
