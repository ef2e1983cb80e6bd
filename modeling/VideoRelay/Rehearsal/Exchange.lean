import VideoRelay.Gateway.Answer
import VideoRelay.Rehearsal.Imaging

set_option autoImplicit false

namespace VideoRelay.Rehearsal

open Wire Gateway

inductive ExchangeNote where
  | encode (request : EncodeVideoRequest)
  | thumbnail (note : ThumbnailNote)
deriving DecidableEq, Repr

def Record.withNotes {R : Type} (record : Record R) (note : R -> ExchangeNote) : Record ExchangeNote :=
  { record with requests := record.requests.map note }

def streamResponse? (request : Request) : RelayResult -> Option Response
  | .fault fault => some (request.seal (Refusal.ofFault fault).response)
  | .response response relayed => some (if relayed then response else request.seal response)
  | .droppedBeforeHead | .silent => none

def thumbnailResponse? (request : Request) : ThumbnailView -> Option Response
  | .image image => some (request.seal (imageResponse image))
  | .fault fault => some (request.seal (Refusal.ofFault fault).response)
  | .state _ | .silent => none

def exchange (request : Request) (spec : ImageSpec) (peers : Peers) :
    Option Response × Record ExchangeNote :=
  match request.plan with
  | .answer response => (some (request.seal response), {})
  | .stream stream =>
    let (result, record) := relay stream peers .never
    (streamResponse? request result, record.withNotes .encode)
  | .thumbnail videoId =>
    let (views, record) := thumbnail spec [videoId] 1 .never peers
    let result := (views[1]?).getD .silent
    (thumbnailResponse? request result, record.withNotes .thumbnail)
  | .presets =>
    let (contacts, catalog) := peers.services.presets
    (some (request.seal (orRefusal catalogResponse catalog)), .ofContacts ExchangeNote contacts)

end VideoRelay.Rehearsal
