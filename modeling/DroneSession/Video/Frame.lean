import DroneSession.Bytes
import DroneSession.Error
import DroneSession.Field

namespace DroneSession

/-!
# Video frames

A frame holds the pixels of one decoded picture.  `VideoFrame.of` accepts a picture exactly if its
buffer has the size that its geometry and layout call for.
-/

/-- How the colours of a pixel are laid out in bytes. -/
inductive PixelLayout where
  | gray8
  | rgb24
  | bgr24
  | bgra32
  deriving Repr, DecidableEq

namespace PixelLayout

/-- The octets of one pixel. -/
def bytesPerPixel : PixelLayout → Nat
  | .gray8 => 1
  | .rgb24 => 3
  | .bgr24 => 3
  | .bgra32 => 4

/-- The name of a layout. -/
def name : PixelLayout → String
  | .gray8 => "Gray8"
  | .rgb24 => "Rgb24"
  | .bgr24 => "Bgr24"
  | .bgra32 => "Bgra32"

end PixelLayout

/-- The pixels of one picture. -/
structure VideoFrame where
  number : UInt64
  width : UInt32
  height : UInt32
  layout : PixelLayout
  pixels : Bytes
  deriving DecidableEq

namespace VideoFrame

/-- Why the pixels of a picture were refused. -/
inductive Fault where
  | sizeOverflow
  | sizeMismatch
      (width height : UInt32)
      (layout : PixelLayout)
      (needed held : Nat)
  deriving Repr, DecidableEq

/-- The failure that refused pixels raise. -/
def Fault.toError : Fault → SessionError
  | .sizeOverflow => .decoderFailure "frame dimensions overflow"
  | .sizeMismatch width height layout needed held =>
      .decoderFailure
        (toString width.toNat ++ "x" ++ toString height.toNat ++ " " ++ layout.name
          ++ " frame needs " ++ toString needed ++ " bytes, got " ++ toString held)

/-- The exact number of bytes of a picture. -/
def size
    (width height : UInt32)
    (layout : PixelLayout) :
    Nat :=
  width.toNat * height.toNat * layout.bytesPerPixel

/-- Build a frame; a size that needs more than 64 bits is refused whatever the buffer holds. -/
def of
    (number : UInt64)
    (width height : UInt32)
    (layout : PixelLayout)
    (pixels : Bytes) :
    Except Fault VideoFrame :=
  let needed := size width height layout
  if UInt64.size ≤ needed then
    .error .sizeOverflow
  else if pixels.length ≠ needed then
    .error (.sizeMismatch width height layout needed pixels.length)
  else
    .ok
      { number := number
        width := width
        height := height
        layout := layout
        pixels := pixels }

/-- The number of bytes of one row. -/
def stride (frame : VideoFrame) : Nat :=
  frame.width.toNat * frame.layout.bytesPerPixel

/-- The values that a screen shows. -/
def fields (frame : VideoFrame) : List Field :=
  [ .mk "number" (.ofUnsigned frame.number.toNat),
    .mk "width" (.ofUnsigned frame.width.toNat),
    .mk "height" (.ofUnsigned frame.height.toNat),
    .mk "layout" (.text frame.layout.name),
    .mk "bytes" (.ofUnsigned frame.pixels.length) ]

end VideoFrame

end DroneSession
