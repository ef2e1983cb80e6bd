import VideoRelay.Proofs.Document.Json
import VideoRelay.Proofs.Gateway.MissingId
import VideoRelay.Proofs.Gateway.Wording
import VideoRelay.Proofs.Wire.Messages
import VideoRelay.Wire.Limit

set_option autoImplicit false

namespace VideoRelay

namespace Wire

def unpack (M : Type) [Message M] (broken : Status) (bytes : Bytes) : Except Status M :=
  if sizeLimit < bytes.length then .error (tooLarge bytes.length)
  else match decode? M bytes with
    | some message => .ok message
    | none => .error broken

theorem unpack_encode {M : Type} [Message M] [LawfulMessage M] (broken : Status) (message : M) :
    unpack M broken (encode message) = receive message := by
  unfold unpack receive
  split
  next large => rw [if_pos (show sizeLimit < encodedSize message from large)]; rfl
  next fits =>
    have short : encodedSize message < numberLimit :=
      Nat.lt_of_le_of_lt (Nat.le_of_not_lt fits) (by decide)
    rw [decode?_encode short, if_neg (show ¬sizeLimit < encodedSize message from fits)]

end Wire

theorem Response.flatten_whole (head : ResponseHead) (body : Bytes) :
    (Response.whole head body).body.flatten = body := by
  simp only [whole]
  split
  next nothing => rw [List.isEmpty_iff.1 nothing]; rfl
  next => exact List.flatten_singleton

def Document.textAt? (document : Document) (key : String) : Option String :=
  match document.get? key with
  | some (.scalar (.text value)) => some value
  | _ => none

namespace Preset

def ofDocument? (document : Document) : Option Preset := do
  let id <- document.textAt? "presetId"
  let title <- document.textAt? "title"
  let command <- document.textAt? "command"
  return { id, title, command }

def ofCatalog? : Document -> Option (List Preset)
  | .list entries => entries.mapM ofDocument?
  | _ => none

theorem ofDocument?_document (preset : Preset) : ofDocument? preset.document = some preset :=
  rfl

theorem textual_document (preset : Preset) (depth : Nat) : preset.document.Textual (depth + 1) := by
  refine .table (by simp) fun entry among => ?_
  simp only [List.mem_cons, List.not_mem_nil, or_false] at among
  rcases among with rfl | rfl | rfl <;> exact .text _

theorem ofCatalog?_catalogText (catalog : List Preset) :
    (Document.ofJson? (catalogText catalog)).bind ofCatalog? = some catalog := by
  have textual : (Document.list (catalog.map document)).Textual Document.maxDepth := by
    refine .list fun entry among => ?_
    obtain ⟨preset, -, rfl⟩ := List.mem_map.1 among
    exact preset.textual_document 125
  rw [catalogText, Document.ofJson?_toJson textual, Option.bind_some, ofCatalog?, mapM_eq_some_iff, List.map_map]
  exact List.map_congr_left fun preset _ => preset.ofDocument?_document

end Preset

namespace Gateway

structure Catalogs (presets : List Preset) (response : Response) : Prop where
  status : response.head.status = 200
  typed : response.head.headers.get? contentType = some "application/json"
  parsed : exists text document, Text.utf8Text? response.body.flatten = some text /\
    Document.ofJson? text = some document /\ Preset.ofCatalog? document = some presets

namespace Request

variable {request : Request}

theorem catalogs_of_seal (present : request.isHead = false) (presets : List Preset) :
    Catalogs presets (request.seal (catalogResponse presets)) := by
  have body : (request.seal (catalogResponse presets)).body.flatten =
      Text.utf8Bytes (Preset.catalogText presets) := by
    rw [seal_body, present]
    exact Response.flatten_whole _ _
  obtain ⟨document, read, known⟩ := Option.bind_eq_some_iff.1 (Preset.ofCatalog?_catalogText presets)
  refine ⟨by rw [seal_status]; rfl, ?_, _, document, ?_, read, known⟩
  next => rw [seal_headers, Headers.get?_insert, if_neg (by decide)]; rfl
  next => rw [body, Text.utf8Text?_utf8Bytes]

/-- The presets that the encoder lists, whatever texts they are made of, are the presets that the client reads. -/
theorem catalog_relayed (gets : request.Gets .presets) (spec : ImageSpec) (course : Course) (broken : Status)
    (presets : List Preset) (dialed : course.services.dialEncoder = .ok ())
    (fits : (Wire.encode { presets : Wire.ListPresetsResponse }).length <= Wire.sizeLimit)
    (listed : course.services.listPresets = (Wire.unpack Wire.ListPresetsResponse broken
      (Wire.encode { presets : Wire.ListPresetsResponse })).map Wire.ListPresetsResponse.presets) :
    exists reply, request.serve spec course = some reply /\ reply.isWhole = true /\
      Catalogs presets reply.response := by
  have arrived : course.services.listPresets = .ok presets := by
    rw [listed, Wire.unpack_encode, Wire.receive, Wire.encodedSize, if_neg (Nat.not_lt.2 fits)]
    rfl
  have catalog : course.services.presets.2 = .ok presets := by
    simp only [Services.presets, dialed, arrived]
    rfl
  have present : request.isHead = false := by
    rw [isHead, gets.method]
    decide
  refine ⟨{ response := request.seal (catalogResponse presets) }, ?_, rfl, catalogs_of_seal present presets⟩
  rw [serve, gets.plan]
  simp only [Plan.forGet, catalog, orRefusal]

def presetsAsked : Request where
  method := "GET"
  target := "/presets"

def crookedPresets : List Preset :=
  [{ id := "a\"b\\", title := "\t\x00\x1f\x7f", command := "-vf \"scale=-2:720\"\r\n" },
    { id := "a\"b\\", title := "größer", command := "🎬 </script>" }, {}]

def crookedCatalog : Course where
  services := { willing with
    listPresets := (Wire.unpack Wire.ListPresetsResponse diskFailure
      (Wire.encode { presets := crookedPresets : Wire.ListPresetsResponse })).map Wire.ListPresetsResponse.presets }

theorem crookedPresets_relayed : exists reply, presetsAsked.serve {} crookedCatalog = some reply /\
    Catalogs crookedPresets reply.response := by
  have gets : presetsAsked.Gets .presets := ⟨rfl, by decide +kernel⟩
  obtain ⟨reply, served, -, catalogs⟩ :=
    catalog_relayed gets {} crookedCatalog diskFailure crookedPresets rfl (by decide +kernel) rfl
  exact ⟨reply, served, catalogs⟩

end Request

end Gateway

end VideoRelay
