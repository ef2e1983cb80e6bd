import VideoRelay.Wire.Message

set_option autoImplicit false

namespace VideoRelay.Wire

structure Video where
  videoId : String := ""
  providerId : String := ""
  totalLength : UInt64 := 0
  fileName : String := ""
  mimeType : String := ""
  storageId : String := ""
  pathPrefix : String := ""
deriving DecidableEq, Repr

instance : Message Video where
  empty := {}
  fields video :=
    textField 1 video.videoId ++ textField 2 video.providerId ++ uint64Field 3 video.totalLength ++
      textField 4 video.fileName ++ textField 5 video.mimeType ++ textField 6 video.storageId ++
      textField 7 video.pathPrefix
  merge video field :=
    match field.number with
    | 1 => field.value.text?.map fun videoId => { video with videoId }
    | 2 => field.value.text?.map fun providerId => { video with providerId }
    | 3 => field.value.uint64?.map fun totalLength => { video with totalLength }
    | 4 => field.value.text?.map fun fileName => { video with fileName }
    | 5 => field.value.text?.map fun mimeType => { video with mimeType }
    | 6 => field.value.text?.map fun storageId => { video with storageId }
    | 7 => field.value.text?.map fun pathPrefix => { video with pathPrefix }
    | _ => some video

def Video.descriptor (video : Video) : Descriptor :=
  { id := video.videoId, totalLength := video.totalLength, mimeType := video.mimeType,
    fileName := video.fileName }

structure GetVideoRequest where
  videoId : String := ""
deriving DecidableEq, Repr

instance : Message GetVideoRequest where
  empty := {}
  fields request := textField 1 request.videoId
  merge request field :=
    match field.number with
    | 1 => field.value.text?.map fun videoId => { videoId }
    | _ => some request

/-- Part of a stored video; a message of a newer service may carry neither of the two. -/
inductive GetVideoResponse where
  | empty
  | header (video : Video)
  | datagram (datagram : Datagram)
deriving DecidableEq, Repr

namespace GetVideoResponse

def headerSoFar : GetVideoResponse -> Video
  | header video => video
  | _ => {}

def datagramSoFar : GetVideoResponse -> Datagram
  | datagram data => data
  | _ => {}

instance : Message GetVideoResponse where
  empty := empty
  fields
    | empty => []
    | header video => messageField 1 (Message.fields video)
    | datagram data => messageField 2 (Message.fields data)
  merge response field :=
    match field.number with
    | 1 => (mergeNested response.headerSoFar field.value).map header
    | 2 => (mergeNested response.datagramSoFar field.value).map datagram
    | _ => some response

def frame : GetVideoResponse -> Except Violation Frame
  | empty => .error .missingPart
  | header video => .ok (.header video.descriptor)
  | datagram data => .ok (.datagram data)

end GetVideoResponse

end VideoRelay.Wire
