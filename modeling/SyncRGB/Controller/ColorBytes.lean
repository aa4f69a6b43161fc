import SyncRGB.Controller.Types
import SyncRGB.VectorEdit.EqualBlocks

/-! The red, green and blue bytes that the drivers send of a color. -/
namespace SyncRGB
open ByteCodec VectorEdit

def rgbGetRValue (rgb : RGBColor) : UInt8 := (rgb &&& 0xFF).toUInt8
def rgbGetGValue (rgb : RGBColor) : UInt8 := (rgb >>> 8 &&& 0xFF).toUInt8
def rgbGetBValue (rgb : RGBColor) : UInt8 := (rgb >>> 16 &&& 0xFF).toUInt8

def rgbBytes (rgb : RGBColor) : Bytes := [rgbGetRValue rgb, rgbGetGValue rgb, rgbGetBValue rgb]

/-- The bytes of all colors, one color after the other. -/
def rgbStream (colors : List RGBColor) : Bytes := colors.flatMap rgbBytes

section
variable (colors : List RGBColor)

@[simp] theorem rgbBytes_length (rgb : RGBColor) : (rgbBytes rgb).length = 3 := rfl

@[simp] theorem rgbStream_nil : rgbStream [] = [] := rfl

theorem rgbStream_cons (color : RGBColor) : rgbStream (color :: colors) = rgbBytes color ++ rgbStream colors := rfl

@[simp] theorem rgbStream_length : (rgbStream colors).length = 3 * colors.length :=
  length_flatMap_of_blocks rgbBytes_length colors

/-- Where the bytes of a color stand in the stream. -/
theorem getElem?_rgbStream (index : Nat) {place : Nat} (inside : place < 3) :
    (rgbStream colors)[3 * index + place]? = colors[index]?.bind fun color => (rgbBytes color)[place]? :=
  getElem?_flatMap_of_blocks rgbBytes_length colors index inside

end
end SyncRGB
