import VideoRelay.Document.Json
import VideoRelay.Gateway.Plan

set_option autoImplicit false

namespace VideoRelay

def Preset.document (preset : Preset) : Document :=
  .table [("presetId", .text preset.id), ("title", .text preset.title), ("command", .text preset.command)]

def Preset.catalogText (catalog : List Preset) : String :=
  (Document.list (catalog.map document)).toJson

namespace Gateway

def ofType (type : String) : ResponseHead :=
  { status := 200, headers := ({} : Headers).insert contentType type }

def catalogResponse (catalog : List Preset) : Response :=
  .whole (ofType "application/json") (Text.utf8Bytes (Preset.catalogText catalog))

def imageResponse (image : Bytes) : Response :=
  if image.isEmpty then { head := { status := 204 } } else .whole (ofType "image/jpeg") image

def orRefusal {A : Type} (response : A -> Response) : Except Fault A -> Response
  | .ok value => response value
  | .error fault => (Refusal.ofFault fault).response

def contentLength : String := "content-length"

def withLength (response : Response) : Response :=
  let length := toString response.body.flatten.length
  { response with head := { response.head with
      headers := response.head.headers.insert contentLength length } }

def Request.seal (request : Request) (response : Response) : Response :=
  let response := withLength response
  if request.isHead then { response with body := [] } else response

end Gateway

end VideoRelay
