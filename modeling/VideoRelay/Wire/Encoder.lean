import VideoRelay.Preset
import VideoRelay.Wire.Message

set_option autoImplicit false

namespace VideoRelay.Wire

instance : Message Preset where
  empty := {}
  fields preset := textField 1 preset.id ++ textField 2 preset.title ++ textField 3 preset.command
  merge preset field :=
    match field.number with
    | 1 => field.value.text?.map fun id => { preset with id }
    | 2 => field.value.text?.map fun title => { preset with title }
    | 3 => field.value.text?.map fun command => { preset with command }
    | _ => some preset

structure ListPresetsRequest where
deriving DecidableEq, Repr

instance : Message ListPresetsRequest where
  empty := {}
  fields _ := []
  merge request _ := some request

structure ListPresetsResponse where
  presets : List Preset := []
deriving DecidableEq, Repr

instance : Message ListPresetsResponse where
  empty := {}
  fields response := response.presets.flatMap fun preset => messageField 1 (Message.fields preset)
  merge response field :=
    match field.number with
    | 1 => (mergeNested ({} : Preset) field.value).map fun preset =>
        { presets := response.presets ++ [preset] }
    | _ => some response

structure EncodeHeader where
  totalLength : UInt64 := 0
  presetId : String := ""
deriving DecidableEq, Repr

instance : Message EncodeHeader where
  empty := {}
  fields header := uint64Field 1 header.totalLength ++ textField 2 header.presetId
  merge header field :=
    match field.number with
    | 1 => field.value.uint64?.map fun totalLength => { header with totalLength }
    | 2 => field.value.text?.map fun presetId => { header with presetId }
    | _ => some header

structure ThumbnailHeader where
  totalLength : UInt64 := 0
  outputFormat : Int32 := 0
  width : UInt32 := 0
  height : UInt32 := 0
  position : UInt32 := 0
deriving DecidableEq, Repr

instance : Message ThumbnailHeader where
  empty := {}
  fields header :=
    uint64Field 1 header.totalLength ++ int32Field 2 header.outputFormat ++ uint32Field 3 header.width ++
      uint32Field 4 header.height ++ uint32Field 5 header.position
  merge header field :=
    match field.number with
    | 1 => field.value.uint64?.map fun totalLength => { header with totalLength }
    | 2 => field.value.int32?.map fun outputFormat => { header with outputFormat }
    | 3 => field.value.uint32?.map fun width => { header with width }
    | 4 => field.value.uint32?.map fun height => { header with height }
    | 5 => field.value.uint32?.map fun position => { header with position }
    | _ => some header

inductive UploadRequest (H : Type) where
  | empty
  | header (header : H)
  | datagram (datagram : Datagram)
deriving DecidableEq, Repr

namespace UploadRequest

variable {H : Type} [Message H]

def headerSoFar : UploadRequest H -> H
  | header head => head
  | _ => Message.empty

def datagramSoFar : UploadRequest H -> Datagram
  | datagram data => data
  | _ => {}

instance : Message (UploadRequest H) where
  empty := empty
  fields
    | empty => []
    | header head => messageField 1 (Message.fields head)
    | datagram data => messageField 2 (Message.fields data)
  merge request field :=
    match field.number with
    | 1 => (mergeNested request.headerSoFar field.value).map header
    | 2 => (mergeNested request.datagramSoFar field.value).map datagram
    | _ => some request

end UploadRequest

abbrev EncodeVideoRequest := UploadRequest EncodeHeader

abbrev GenerateThumbnailRequest := UploadRequest ThumbnailHeader

/-- Answer of a streaming call; a frame without a datagram is skipped by its readers. -/
structure DownloadResponse where
  datagram : Option Datagram := none
deriving DecidableEq, Repr

instance : Message DownloadResponse where
  empty := {}
  fields response := match response.datagram with
    | none => []
    | some datagram => messageField 1 (Message.fields datagram)
  merge response field :=
    match field.number with
    | 1 => (mergeNested (response.datagram.getD {}) field.value).map fun datagram =>
        { datagram := some datagram }
    | _ => some response

abbrev EncodeVideoResponse := DownloadResponse

abbrev GenerateThumbnailResponse := DownloadResponse

end VideoRelay.Wire
