import VideoRelay.Wire.Encoder
import VideoRelay.Wire.Storage

set_option autoImplicit false

namespace VideoRelay

open Wire

def uploadHeader (totalLength : UInt64) (presetId : String) : EncodeVideoRequest :=
  .header { totalLength, presetId }

def uploadDatagram (offset : UInt64) (payload : Bytes) : EncodeVideoRequest :=
  .datagram { offset, payload }

structure ImageSpec where
  width : UInt32 := 1280
  height : UInt32 := 720
  positionSeconds : UInt32 := 30
deriving DecidableEq, Repr

namespace ImageSpec

def jpeg : Int32 := 0

def header (spec : ImageSpec) (descriptor : Descriptor) : ThumbnailHeader :=
  { totalLength := descriptor.totalLength, outputFormat := jpeg, width := spec.width,
    height := spec.height, position := spec.positionSeconds }

def request (spec : ImageSpec) : Frame -> GenerateThumbnailRequest
  | .header descriptor => .header (spec.header descriptor)
  | .datagram datagram => .datagram datagram

end ImageSpec

end VideoRelay
