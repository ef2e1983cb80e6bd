import VideoRelay.Proofs.Wire.Fields
import VideoRelay.Upload

set_option autoImplicit false

namespace VideoRelay.Wire

def Field.IsPlain (field : Field) : Prop :=
  IsFieldNumber field.number /\ match field.value with
    | .varint value => value < numberLimit
    | .delimited _ => True
    | .fixed64 _ | .fixed32 _ | .group => False

def Plain (fields : List Field) : Prop :=
  forall field, field ∈ fields -> field.IsPlain

section Plain

variable {number : Nat}

theorem plain_nil : Plain [] :=
  fun _ member => nomatch member

theorem plain_append {first second : List Field} : Plain (first ++ second) <-> Plain first /\ Plain second :=
  List.forall_mem_append

theorem plain_ite {condition : Prop} [Decidable condition] {field : Field} (plain : field.IsPlain) :
    Plain (if condition then [] else [field]) := by
  split
  next => exact plain_nil
  next => simpa [Plain] using plain

theorem plain_textField (numbered : IsFieldNumber number) (text : String) : Plain (textField number text) :=
  plain_ite ⟨numbered, trivial⟩

theorem plain_bytesField (numbered : IsFieldNumber number) (bytes : Bytes) : Plain (bytesField number bytes) :=
  plain_ite ⟨numbered, trivial⟩

theorem plain_uint64Field (numbered : IsFieldNumber number) (value : UInt64) : Plain (uint64Field number value) :=
  plain_ite ⟨numbered, value.toNat_lt⟩

theorem plain_uint32Field (numbered : IsFieldNumber number) (value : UInt32) : Plain (uint32Field number value) :=
  plain_ite ⟨numbered, Nat.lt_trans value.toNat_lt (by decide)⟩

theorem plain_int32Field (numbered : IsFieldNumber number) (value : Int32) : Plain (int32Field number value) :=
  plain_ite ⟨numbered, value.toInt64.toUInt64.toNat_lt⟩

theorem plain_messageField (numbered : IsFieldNumber number) (fields : List Field) :
    Plain (messageField number fields) := by
  simpa [messageField, Plain, Field.IsPlain] using numbered

theorem Field.IsPlain.readable {field : Field} (plain : field.IsPlain)
    (short : field.write.length < numberLimit) : field.IsReadable := by
  obtain ⟨number, value⟩ := field
  cases value with
  | varint value => exact plain
  | delimited bytes =>
    refine ⟨plain.1, Nat.lt_of_le_of_lt ?_ short⟩
    simp only [Field.write, List.length_append]
    exact Nat.le_add_left _ _
  | fixed64 | fixed32 | group => exact plain.2.elim

theorem Plain.readFields {fields : List Field} (plain : Plain fields) (limit : Nat)
    (short : (writeFields fields).length < numberLimit) :
    Wire.readFields limit (writeFields fields) = some fields := by
  refine readFields_writeFields limit fun field member => (plain field member).readable ?_
  have part := List.sublist_flatten_of_mem (List.mem_map_of_mem (f := Field.write) member)
  exact Nat.lt_of_le_of_lt part.length_le short

end Plain

section Merge

variable {M : Type} [Message M]

theorem mergeFields_cons (message : M) (field : Field) (rest : List Field) :
    mergeFields message (field :: rest) = (Message.merge message field).bind fun next => mergeFields next rest :=
  rfl

theorem mergeFields_ite {condition : Prop} [Decidable condition] {field : Field} {message next : M}
    (same : condition -> message = next) (merged : Message.merge message field = some next) :
    mergeFields message (if condition then [] else [field]) = some next := by
  split
  next left => rw [same left]; rfl
  next => rw [mergeFields_cons, merged]; rfl

theorem mergeFields_textField (number : Nat) (set : String -> M)
    (merge : forall value, Message.merge (set "") ⟨number, value⟩ = value.text?.map set) (text : String) :
    mergeFields (set "") (textField number text) = some (set text) :=
  mergeFields_ite (fun unset => by rw [String.isEmpty_iff.1 unset])
    (by simp [merge, Value.text?, Text.utf8Text?_utf8Bytes])

theorem mergeFields_bytesField (number : Nat) (set : Bytes -> M)
    (merge : forall value, Message.merge (set []) ⟨number, value⟩ = value.bytes?.map set) (bytes : Bytes) :
    mergeFields (set []) (bytesField number bytes) = some (set bytes) :=
  mergeFields_ite (fun unset => by rw [List.isEmpty_iff.1 unset]) (by simp [merge, Value.bytes?])

theorem mergeFields_uint64Field (number : Nat) (set : UInt64 -> M)
    (merge : forall value, Message.merge (set 0) ⟨number, value⟩ = value.uint64?.map set) (value : UInt64) :
    mergeFields (set 0) (uint64Field number value) = some (set value) :=
  mergeFields_ite (fun unset => by rw [unset]) (by simp [merge, Value.uint64?])

theorem mergeFields_uint32Field (number : Nat) (set : UInt32 -> M)
    (merge : forall value, Message.merge (set 0) ⟨number, value⟩ = value.uint32?.map set) (value : UInt32) :
    mergeFields (set 0) (uint32Field number value) = some (set value) :=
  mergeFields_ite (fun unset => by rw [unset]) (by simp [merge, Value.uint32?])

theorem int32_of_complement (value : Int32) : Int32.ofNat value.toInt64.toUInt64.toNat = value := by
  apply Int32.toBitVec_inj.1
  show BitVec.ofNat 32 (value.toBitVec.signExtend 64).toNat = value.toBitVec
  rw [BitVec.ofNat_toNat]
  refine BitVec.eq_of_getLsbD_eq fun place low => ?_
  rw [BitVec.getLsbD_setWidth, BitVec.getLsbD_signExtend]
  simp only [low, decide_true, Bool.true_and, if_true]
  simp only [Nat.lt_trans low (show 32 < 64 by decide), decide_true, Bool.true_and]

theorem mergeFields_int32Field (number : Nat) (set : Int32 -> M)
    (merge : forall value, Message.merge (set 0) ⟨number, value⟩ = value.int32?.map set) (value : Int32) :
    mergeFields (set 0) (int32Field number value) = some (set value) :=
  mergeFields_ite (fun unset => by rw [unset]) (by simp [merge, Value.int32?, int32_of_complement])

end Merge

/-- Messages that are made of plain fields, and made up again by them. -/
class LawfulMessage (M : Type) [Message M] : Prop where
  plain (message : M) : Plain (Message.fields message)
  merged (message : M) : encodedSize message < numberLimit ->
    mergeFields Message.empty (Message.fields message) = some message

section Lawful

variable {M : Type} [Message M] [LawfulMessage M]

theorem mergeNested_fields {message : M} (short : encodedSize message < numberLimit) :
    mergeNested (Message.empty : M) (.delimited (writeFields (Message.fields message))) = some message := by
  have read := (LawfulMessage.plain message).readFields innerLimit short
  simp [mergeNested, Value.fields?, read, LawfulMessage.merged message short]

theorem decode?_encode {message : M} (short : encodedSize message < numberLimit) :
    decode? M (encode message) = some message := by
  have read := (LawfulMessage.plain message).readFields outerLimit short
  simp [decode?, encode, read, LawfulMessage.merged message short]

theorem length_messageField (number : Nat) (fields : List Field) :
    (writeFields fields).length <= (writeFields (messageField number fields)).length := by
  simp only [messageField, writeFields, List.flatMap_singleton, Field.write, List.length_append]
  exact Nat.le_add_left _ _

end Lawful

section Instances

instance : LawfulMessage Datagram where
  plain datagram := by
    simp (disch := decide) only [Message.fields, plain_append, plain_uint64Field, plain_bytesField, and_self]
  merged datagram _ := by
    simp only [Message.fields, Message.empty, mergeFields_append, Option.bind_some,
      mergeFields_uint64Field 1 (fun offset => ({ offset } : Datagram)) fun _ => rfl,
      mergeFields_bytesField 2 (fun payload => { datagram with payload }) fun _ => rfl]

instance : LawfulMessage Video where
  plain video := by
    simp (disch := decide) only [Message.fields, plain_append, plain_uint64Field, plain_textField, and_self]
  merged video _ := by
    simp only [Message.fields, Message.empty, mergeFields_append, Option.bind_some,
      mergeFields_textField 1 (fun videoId => ({ videoId } : Video)) fun _ => rfl,
      mergeFields_textField 2 (fun providerId => { videoId := video.videoId, providerId : Video }) fun _ => rfl,
      mergeFields_uint64Field 3 (fun totalLength =>
        { videoId := video.videoId, providerId := video.providerId, totalLength : Video }) fun _ => rfl,
      mergeFields_textField 4 (fun fileName =>
        { video with fileName, mimeType := "", storageId := "", pathPrefix := "" }) fun _ => rfl,
      mergeFields_textField 5 (fun mimeType => { video with mimeType, storageId := "", pathPrefix := "" })
        fun _ => rfl,
      mergeFields_textField 6 (fun storageId => { video with storageId, pathPrefix := "" }) fun _ => rfl,
      mergeFields_textField 7 (fun pathPrefix => { video with pathPrefix }) fun _ => rfl]

instance : LawfulMessage GetVideoRequest where
  plain request := by
    simp (disch := decide) only [Message.fields, plain_textField]
  merged request _ := mergeFields_textField 1 (fun videoId => { videoId : GetVideoRequest }) (fun _ => rfl) request.videoId

instance : LawfulMessage Preset where
  plain preset := by
    simp (disch := decide) only [Message.fields, plain_append, plain_textField, and_self]
  merged preset _ := by
    simp only [Message.fields, Message.empty, mergeFields_append, Option.bind_some,
      mergeFields_textField 1 (fun id => ({ id } : Preset)) fun _ => rfl,
      mergeFields_textField 2 (fun title => { preset with title, command := "" }) fun _ => rfl,
      mergeFields_textField 3 (fun command => { preset with command }) fun _ => rfl]

instance : LawfulMessage EncodeHeader where
  plain header := by
    simp (disch := decide) only [Message.fields, plain_append, plain_uint64Field, plain_textField, and_self]
  merged header _ := by
    simp only [Message.fields, Message.empty, mergeFields_append, Option.bind_some,
      mergeFields_uint64Field 1 (fun totalLength => { totalLength : EncodeHeader }) fun _ => rfl,
      mergeFields_textField 2 (fun presetId => { header with presetId }) fun _ => rfl]

instance : LawfulMessage ThumbnailHeader where
  plain header := by
    simp (disch := decide) only [Message.fields, plain_append, plain_uint64Field, plain_int32Field,
      plain_uint32Field, and_self]
  merged header _ := by
    simp only [Message.fields, Message.empty, mergeFields_append, Option.bind_some,
      mergeFields_uint64Field 1 (fun totalLength => { totalLength : ThumbnailHeader }) fun _ => rfl,
      mergeFields_int32Field 2 (fun outputFormat =>
        { totalLength := header.totalLength, outputFormat : ThumbnailHeader }) fun _ => rfl,
      mergeFields_uint32Field 3 (fun width => { header with width, height := 0, position := 0 }) fun _ => rfl,
      mergeFields_uint32Field 4 (fun height => { header with height, position := 0 }) fun _ => rfl,
      mergeFields_uint32Field 5 (fun position => { header with position }) fun _ => rfl]

instance : LawfulMessage ListPresetsRequest where
  plain _ := plain_nil
  merged _ _ := rfl

theorem mergeFields_messageField {M N : Type} [Message M] [Message N] [LawfulMessage N] {message : M}
    {number : Nat} (make : N -> M)
    (merge : forall value, Message.merge message ⟨number, value⟩ = (mergeNested Message.empty value).map make)
    {nested : N} (short : (writeFields (messageField number (Message.fields nested))).length < numberLimit) :
    mergeFields message (messageField number (Message.fields nested)) = some (make nested) := by
  have inner : mergeNested (Message.empty : N) (.delimited (writeFields (Message.fields nested))) = some nested :=
    mergeNested_fields (Nat.lt_of_le_of_lt (length_messageField number _) short)
  rw [messageField, mergeFields_cons, merge, inner]
  rfl

theorem mergeFields_presets (before presets : List Preset)
    (short : encodedSize { presets : ListPresetsResponse } < numberLimit) :
    mergeFields { presets := before : ListPresetsResponse } (Message.fields { presets : ListPresetsResponse }) =
      some { presets := before ++ presets } := by
  induction presets generalizing before with
  | nil => simp [Message.fields, mergeFields]
  | cons preset rest ih =>
    have parts : Message.fields { presets := preset :: rest : ListPresetsResponse } =
      messageField 1 (Message.fields preset) ++ Message.fields { presets := rest : ListPresetsResponse } := rfl
    simp only [encodedSize, encode, parts, writeFields, List.flatMap_append, List.length_append] at short
    have first : mergeFields { presets := before : ListPresetsResponse } (messageField 1 (Message.fields preset)) =
        some { presets := before ++ [preset] } :=
      mergeFields_messageField (fun preset => { presets := before ++ [preset] : ListPresetsResponse }) (fun _ => rfl)
        (Nat.lt_of_le_of_lt (Nat.le_add_right _ _) short)
    have others := ih (before ++ [preset]) (Nat.lt_of_le_of_lt (Nat.le_add_left _ _) short)
    rw [parts, mergeFields_append, first, Option.bind_some, others, List.append_assoc]
    rfl

instance : LawfulMessage ListPresetsResponse where
  plain response := by
    intro field member
    obtain ⟨preset, _, written⟩ := List.mem_flatMap.1 member
    exact plain_messageField (by decide) (Message.fields preset) field written
  merged response := mergeFields_presets [] response.presets

instance {H : Type} [Message H] [LawfulMessage H] : LawfulMessage (UploadRequest H) where
  plain
    | .empty => plain_nil
    | .header head => plain_messageField (by decide) (Message.fields head)
    | .datagram data => plain_messageField (by decide) (Message.fields data)
  merged
    | .empty, _ => rfl
    | .header _, short => mergeFields_messageField UploadRequest.header (fun _ => rfl) short
    | .datagram _, short => mergeFields_messageField UploadRequest.datagram (fun _ => rfl) short

instance : LawfulMessage GetVideoResponse where
  plain
    | .empty => plain_nil
    | .header video => plain_messageField (by decide) (Message.fields video)
    | .datagram data => plain_messageField (by decide) (Message.fields data)
  merged
    | .empty, _ => rfl
    | .header _, short => mergeFields_messageField GetVideoResponse.header (fun _ => rfl) short
    | .datagram _, short => mergeFields_messageField GetVideoResponse.datagram (fun _ => rfl) short

instance : LawfulMessage DownloadResponse where
  plain
    | { datagram := none } => plain_nil
    | { datagram := some data } => plain_messageField (by decide) (Message.fields data)
  merged
    | { datagram := none }, _ => rfl
    | { datagram := some _ }, short =>
      mergeFields_messageField (fun data => { datagram := some data : DownloadResponse }) (fun _ => rfl) short

end Instances

def ReadsBack (M : Type) [Message M] : Prop :=
  forall message : M, encodedSize message < numberLimit -> decode? M (encode message) = some message

theorem readsBack (M : Type) [Message M] [LawfulMessage M] : ReadsBack M :=
  fun _ short => decode?_encode short

theorem frame_of_encode {response : GetVideoResponse} (short : encodedSize response < numberLimit) :
    (decode? GetVideoResponse (encode response)).map GetVideoResponse.frame = some response.frame := by
  rw [decode?_encode short]
  rfl

/-- What one side of a call writes, the other side reads, with all its fields. Lengths have 64 bits on the wire, so that
no longer message can be written at all. -/
theorem messages_read_back :
    (ReadsBack Video /\ ReadsBack GetVideoRequest /\ ReadsBack GetVideoResponse) /\
    (ReadsBack Preset /\ ReadsBack ListPresetsRequest /\ ReadsBack ListPresetsResponse) /\
    (ReadsBack EncodeHeader /\ ReadsBack EncodeVideoRequest /\ ReadsBack EncodeVideoResponse) /\
    (ReadsBack ThumbnailHeader /\ ReadsBack GenerateThumbnailRequest /\ ReadsBack GenerateThumbnailResponse) /\
    ReadsBack Datagram /\
    (forall totalLength presetId, encodedSize (uploadHeader totalLength presetId) < numberLimit ->
      decode? EncodeVideoRequest (encode (uploadHeader totalLength presetId)) =
        some (.header { totalLength, presetId })) /\
    (forall offset payload, encodedSize (uploadDatagram offset payload) < numberLimit ->
      decode? EncodeVideoRequest (encode (uploadDatagram offset payload)) =
        some (.datagram { offset, payload })) /\
    (forall video, encodedSize (GetVideoResponse.header video) < numberLimit ->
      (decode? GetVideoResponse (encode (GetVideoResponse.header video))).map GetVideoResponse.frame =
        some (.ok (.header {
          id := video.videoId
          totalLength := video.totalLength
          mimeType := video.mimeType
          fileName := video.fileName }))) /\
    forall offset payload, encodedSize (GetVideoResponse.datagram { offset, payload }) < numberLimit ->
      (decode? GetVideoResponse (encode (GetVideoResponse.datagram { offset, payload }))).map
        GetVideoResponse.frame = some (.ok (.datagram { offset, payload })) := by
  have encoding : ReadsBack EncodeVideoRequest := readsBack EncodeVideoRequest
  refine ⟨⟨readsBack _, readsBack _, readsBack _⟩, ⟨readsBack _, readsBack _, readsBack _⟩,
    ⟨readsBack _, encoding, readsBack _⟩, ⟨readsBack _, readsBack _, readsBack _⟩, readsBack _, ?_, ?_, ?_, ?_⟩
  next => exact fun totalLength presetId short => encoding (uploadHeader totalLength presetId) short
  next => exact fun offset payload short => encoding (uploadDatagram offset payload) short
  next => exact fun _ short => frame_of_encode short
  next => exact fun _ _ short => frame_of_encode short

def smallPreset : Preset where
  id := "mp4-720"
  title := "MP4 720p"

def unknownImage : ThumbnailHeader where
  totalLength := 0xffffffffffffffff
  outputFormat := -1
  width := 1280

theorem catalog_and_image_read_back :
    decode? ListPresetsResponse (encode { presets := [smallPreset, {}] : ListPresetsResponse }) =
      some { presets := [smallPreset, {}] } /\
    decode? GenerateThumbnailRequest (encode (.header unknownImage : GenerateThumbnailRequest)) =
      some (.header unknownImage) /\
    (decode? GetVideoResponse (encode (GetVideoResponse.datagram {}))).map GetVideoResponse.frame =
      some (.ok (.datagram {})) := by
  obtain ⟨-, ⟨-, -, presets⟩, -, ⟨-, image, -⟩, -, -, -, -, datagram⟩ := messages_read_back
  refine ⟨presets _ ?_, image _ ?_, datagram 0 [] ?_⟩
  all_goals decide +kernel

end VideoRelay.Wire
