import VideoRelay.Proofs.Wire.Grammar
import VideoRelay.Proofs.Wire.Messages

set_option autoImplicit false

namespace VideoRelay.Wire

section Ignored

variable (M : Type) [Message M]

def Ignores (known : List Nat) : Prop :=
  forall (message : M) (field : Field), field.number ∉ known -> Message.merge message field = some message

/-- One field more, of a number that is not known, in any of its spellings and at any place between the others. -/
def HidesUnknown (known : List Nat) : Prop :=
  forall (fields : List Field) (field : Field) (front extra back : Bytes), Spells outerLimit fields front ->
    Spells outerLimit [field] extra -> field.number ∉ known ->
      decode? M (front ++ (extra ++ back)) = decode? M (front ++ back)

def HidesUnknownIn (number : Nat) (known : List Nat) : Prop :=
  forall (fields inner : List Field) (field : Field) (before front extra back longer shorter after : Bytes),
    Spells outerLimit fields before -> Spells innerLimit inner front -> Spells innerLimit [field] extra ->
    field.number ∉ known -> Spells outerLimit [⟨number, .delimited (front ++ (extra ++ back))⟩] longer ->
    Spells outerLimit [⟨number, .delimited (front ++ back)⟩] shorter ->
      decode? M (before ++ (longer ++ after)) = decode? M (before ++ (shorter ++ after))

variable {M}

theorem bind_mergeFields_congr {limit : Nat} {fields first second : List Field} {front text other : Bytes}
    (before : Spells limit fields front) (one : Spells limit first text) (another : Spells limit second other)
    (same : forall message : M, mergeFields message first = mergeFields message second) (message : M) (back : Bytes) :
    (readFields limit (front ++ (text ++ back))).bind (mergeFields message) =
      (readFields limit (front ++ (other ++ back))).bind (mergeFields message) := by
  have swapped (others : List Field) :
      mergeFields message (fields ++ (first ++ others)) = mergeFields message (fields ++ (second ++ others)) := by
    simp only [mergeFields_append, same]
  rw [readFields_append before, readFields_append before, readFields_append one, readFields_append another,
    Option.map_map, Option.map_map, Option.bind_map, Option.bind_map]
  exact Option.bind_congr fun others _ => swapped others

theorem Ignores.mergeFields_single {known : List Nat} (ignores : Ignores M known) {field : Field}
    (unknown : field.number ∉ known) (message : M) : mergeFields message [field] = mergeFields message [] := by
  rw [mergeFields_cons, ignores message field unknown, Option.bind_some]

theorem Ignores.hidesUnknown {known : List Nat} (ignores : Ignores M known) : HidesUnknown M known :=
  fun _ _ _ _ back before added unknown =>
    bind_mergeFields_congr before added .nil (ignores.mergeFields_single unknown) Message.empty back

theorem Ignores.mergeNested_extra {known : List Nat} (ignores : Ignores M known) {fields : List Field} {field : Field}
    {front extra : Bytes} (before : Spells innerLimit fields front) (added : Spells innerLimit [field] extra)
    (unknown : field.number ∉ known) (message : M) (back : Bytes) :
    mergeNested message (.delimited (front ++ (extra ++ back))) = mergeNested message (.delimited (front ++ back)) :=
  bind_mergeFields_congr before added .nil (ignores.mergeFields_single unknown) message back

theorem Ignores.hidesUnknownIn {N : Type} [Message N] {known : List Nat} (ignores : Ignores N known) {number : Nat}
    (nested : M -> N) (make : N -> M)
    (merge : forall message value,
      Message.merge message ⟨number, value⟩ = (mergeNested (nested message) value).map make) :
    HidesUnknownIn M number known := by
  intro fields inner field before front extra back longer shorter after outside inside added unknown long short
  -- The two spellings of the outer field can differ in its length, but they are read as the same nested message.
  refine bind_mergeFields_congr outside long short (fun message => ?_) Message.empty after
  rw [mergeFields_cons, mergeFields_cons, merge, merge, ignores.mergeNested_extra inside added unknown]

end Ignored

section Known

variable {H : Type} [Message H]

theorem ignores_video : Ignores Video [1, 2, 3, 4, 5, 6, 7] := by
  intro message field unknown
  simp only [Message.merge]
  split <;> simp_all

theorem ignores_getVideoRequest : Ignores GetVideoRequest [1] := by
  intro message field unknown
  simp only [Message.merge]
  split <;> simp_all

theorem ignores_getVideoResponse : Ignores GetVideoResponse [1, 2] := by
  intro message field unknown
  simp only [Message.merge]
  split <;> simp_all

theorem ignores_datagram : Ignores Datagram [1, 2] := by
  intro message field unknown
  simp only [Message.merge]
  split <;> simp_all

theorem ignores_preset : Ignores Preset [1, 2, 3] := by
  intro message field unknown
  simp only [Message.merge]
  split <;> simp_all

theorem ignores_listPresetsRequest : Ignores ListPresetsRequest [] :=
  fun _ _ _ => rfl

theorem ignores_listPresetsResponse : Ignores ListPresetsResponse [1] := by
  intro message field unknown
  simp only [Message.merge]
  split <;> simp_all

theorem ignores_encodeHeader : Ignores EncodeHeader [1, 2] := by
  intro message field unknown
  simp only [Message.merge]
  split <;> simp_all

theorem ignores_thumbnailHeader : Ignores ThumbnailHeader [1, 2, 3, 4, 5] := by
  intro message field unknown
  simp only [Message.merge]
  split <;> simp_all

theorem ignores_uploadRequest : Ignores (UploadRequest H) [1, 2] := by
  intro message field unknown
  simp only [Message.merge]
  split <;> simp_all

theorem ignores_downloadResponse : Ignores DownloadResponse [1] := by
  intro message field unknown
  simp only [Message.merge]
  split <;> simp_all

end Known

/-- A field that a message does not know is read over as a whole, of whatever kind it is, and nothing else with it. What
a later storage service sends besides the fields known here changes no frame, whether it stands beside the header or
the datagram or inside of them. -/
theorem unknown_fields_hidden :
    (HidesUnknown Video [1, 2, 3, 4, 5, 6, 7] /\ HidesUnknown GetVideoRequest [1] /\
      HidesUnknown GetVideoResponse [1, 2]) /\
    (HidesUnknown Preset [1, 2, 3] /\ HidesUnknown ListPresetsRequest [] /\ HidesUnknown ListPresetsResponse [1]) /\
    (HidesUnknown EncodeHeader [1, 2] /\ HidesUnknown EncodeVideoRequest [1, 2] /\
      HidesUnknown EncodeVideoResponse [1]) /\
    (HidesUnknown ThumbnailHeader [1, 2, 3, 4, 5] /\ HidesUnknown GenerateThumbnailRequest [1, 2] /\
      HidesUnknown GenerateThumbnailResponse [1]) /\
    HidesUnknown Datagram [1, 2] /\
    (HidesUnknownIn GetVideoResponse 1 [1, 2, 3, 4, 5, 6, 7] /\ HidesUnknownIn GetVideoResponse 2 [1, 2]) /\
    forall (fields : List Field) (field : Field) (front extra back : Bytes), Spells outerLimit fields front ->
      Spells outerLimit [field] extra -> field.number ∉ [1, 2] ->
        (decode? GetVideoResponse (front ++ (extra ++ back))).map GetVideoResponse.frame =
          (decode? GetVideoResponse (front ++ back)).map GetVideoResponse.frame := by
  have response : HidesUnknown GetVideoResponse [1, 2] := ignores_getVideoResponse.hidesUnknown
  refine ⟨⟨ignores_video.hidesUnknown, ignores_getVideoRequest.hidesUnknown, response⟩,
    ⟨ignores_preset.hidesUnknown, ignores_listPresetsRequest.hidesUnknown, ignores_listPresetsResponse.hidesUnknown⟩,
    ⟨ignores_encodeHeader.hidesUnknown, ignores_uploadRequest.hidesUnknown, ignores_downloadResponse.hidesUnknown⟩,
    ⟨ignores_thumbnailHeader.hidesUnknown, ignores_uploadRequest.hidesUnknown, ignores_downloadResponse.hidesUnknown⟩,
    ignores_datagram.hidesUnknown, ⟨?_, ?_⟩, ?_⟩
  next => exact ignores_video.hidesUnknownIn GetVideoResponse.headerSoFar GetVideoResponse.header fun _ _ => rfl
  next => exact ignores_datagram.hidesUnknownIn GetVideoResponse.datagramSoFar GetVideoResponse.datagram fun _ _ => rfl
  next =>
    intro fields field front extra back before added unknown
    rw [response fields field front extra back before added unknown]

def laterOffset : Bytes := [0x12, 2, 0x08, 5]

def laterGroup : Bytes := [0x4b, 0x08, 0x96, 0x80, 0, 0x1b, 0x15, 1, 2, 3, 4, 0x1c, 0x4c]

def laterPayload : Bytes := [0x12, 3, 0x12, 1, 97]

theorem later_datagram_read : Spells outerLimit [⟨2, .delimited [0x08, 5]⟩] laterOffset /\
    Spells outerLimit [⟨9, .group⟩] laterGroup /\
    (decode? GetVideoResponse (laterOffset ++ (laterGroup ++ laterPayload))).map GetVideoResponse.frame =
      some (.ok (.datagram { offset := 5, payload := [97] })) := by
  have offset : Spells outerLimit [⟨2, .delimited [0x08, 5]⟩] laterOffset :=
    readFields_eq_some_iff.1 (by decide +kernel)
  have group : Spells outerLimit [⟨9, .group⟩] laterGroup := readFields_eq_some_iff.1 (by decide +kernel)
  have plain : decode? GetVideoResponse (laterOffset ++ laterPayload) =
      some (.datagram { offset := 5, payload := [97] }) := by decide +kernel
  obtain ⟨-, -, -, -, -, -, frames⟩ := unknown_fields_hidden
  refine ⟨offset, group, ?_⟩
  rw [frames _ _ laterOffset laterGroup laterPayload offset group (by decide), plain]
  rfl

end VideoRelay.Wire
