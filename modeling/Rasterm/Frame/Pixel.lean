import Mathlib.Tactic.Common

/-!
Contract: packed pixel formats and how one pixel is read.

Owns the format table (`bytesPerPixel`, `pixelStride`), the encoder's view of a
format (`pixelLayout`) and `readPixel`, with the 16-bit expansions.
-/

set_option autoImplicit false

namespace Rasterm

/-- A byte buffer as seen from a pointer: the byte at every offset. -/
abbrev Memory := Nat → UInt8

/-- Move a pointer forward. -/
def Memory.advance (memory : Memory) (offset : Nat) : Memory :=
  fun index => memory (offset + index)

/-- `unlisted` stands for an integer that names no enumerator. -/
inductive PixelFormat where
  | rgb24 | bgr24 | rgba32 | bgra32 | rgb565 | xrgb1555 | rgba4444
  | unlisted (value : Int)
deriving DecidableEq, Repr

/-- `static_cast<int>(format)`. -/
def PixelFormat.code : PixelFormat → Int
  | .rgb24 => 0
  | .bgr24 => 1
  | .rgba32 => 2
  | .bgra32 => 3
  | .rgb565 => 4
  | .xrgb1555 => 5
  | .rgba4444 => 6
  | .unlisted value => value

def bytesPerPixel : PixelFormat → Nat
  | .rgb24 | .bgr24 => 3
  | .rgba32 | .bgra32 => 4
  | .rgb565 | .xrgb1555 | .rgba4444 => 2
  | .unlisted _ => 0

inductive PixelLayout where
  | rgb | bgr | rgba | bgra | rgb565 | xrgb1555 | rgba4444
deriving DecidableEq, Repr

def pixelStride (layout : PixelLayout) : Nat :=
  if layout = .rgba ∨ layout = .bgra then 4
  else if layout = .rgb ∨ layout = .bgr then 3
  else 2

def pixelLayout : PixelFormat → PixelLayout
  | .rgb24 => .rgb
  | .bgr24 => .bgr
  | .rgba32 => .rgba
  | .bgra32 => .bgra
  | .rgb565 => .rgb565
  | .xrgb1555 => .xrgb1555
  | .rgba4444 => .rgba4444
  | .unlisted _ => .rgb

/-- The encoder steps by the same number of bytes as validation does. -/
theorem pixelStride_pixelLayout {format : PixelFormat} (listed : bytesPerPixel format ≠ 0) :
    pixelStride (pixelLayout format) = bytesPerPixel format := by
  cases format <;> first | rfl | exact absurd rfl listed

structure PixelChannels where
  red : UInt8
  green : UInt8
  blue : UInt8
deriving DecidableEq, Repr, Inhabited

def expand4 (value : UInt16) : UInt8 := ((value <<< 4) ||| value).toUInt8

def expand5 (value : UInt16) : UInt8 := ((value <<< 3) ||| (value >>> 2)).toUInt8

def expand6 (value : UInt16) : UInt8 := ((value <<< 2) ||| (value >>> 4)).toUInt8

/-- The two bytes of a 16-bit pixel, low byte first. -/
def packed16 (pixel : Memory) : UInt16 := (pixel 0).toUInt16 ||| ((pixel 1).toUInt16 <<< 8)

def readPixel (pixel : Memory) (layout : PixelLayout) : PixelChannels :=
  match layout with
  | .rgb | .rgba => ⟨pixel 0, pixel 1, pixel 2⟩
  | .bgr | .bgra => ⟨pixel 2, pixel 1, pixel 0⟩
  | .rgb565 =>
      let packed := packed16 pixel
      ⟨expand5 ((packed >>> 11) &&& 0x1f), expand6 ((packed >>> 5) &&& 0x3f),
        expand5 (packed &&& 0x1f)⟩
  | .xrgb1555 =>
      let packed := packed16 pixel
      ⟨expand5 ((packed >>> 10) &&& 0x1f), expand5 ((packed >>> 5) &&& 0x1f),
        expand5 (packed &&& 0x1f)⟩
  | .rgba4444 =>
      let packed := packed16 pixel
      ⟨expand4 ((packed >>> 12) &&& 0x0f), expand4 ((packed >>> 8) &&& 0x0f),
        expand4 ((packed >>> 4) &&& 0x0f)⟩

/-- A pixel is read from its own bytes only. -/
theorem readPixel_congr {left right : Memory} {layout : PixelLayout}
    (same : ∀ index < pixelStride layout, left index = right index) :
    readPixel left layout = readPixel right layout := by
  have first : left 0 = right 0 := same 0 (by cases layout <;> decide)
  have second : left 1 = right 1 := same 1 (by cases layout <;> decide)
  cases layout <;>
    simp only [readPixel, packed16, first, second] <;>
    rw [same 2 (by decide)]

structure RgbColor where
  red : UInt8 := 0
  green : UInt8 := 0
  blue : UInt8 := 0
deriving DecidableEq, Repr, Inhabited

/-- A 24-bit colour, red in the high byte. -/
def packRgb (red green blue : UInt8) : UInt32 :=
  (red.toUInt32 <<< 16) ||| (green.toUInt32 <<< 8) ||| blue.toUInt32

end Rasterm
