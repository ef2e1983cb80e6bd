import VideoRelay.Wire.Scalar

set_option autoImplicit false

namespace VideoRelay.Wire

class Message (M : Type) where
  empty : M
  fields : M -> List Field
  merge : M -> Field -> Option M

variable {M : Type} [Message M]

def mergeFields (message : M) (fields : List Field) : Option M :=
  fields.foldlM Message.merge message

def encode (message : M) : Bytes :=
  writeFields (Message.fields message)

def decode? (M : Type) [Message M] (bytes : Bytes) : Option M :=
  (readFields outerLimit bytes).bind (mergeFields Message.empty)

def encodedSize (message : M) : Nat :=
  (encode message).length

def mergeNested (message : M) (value : Value) : Option M :=
  value.fields?.bind (mergeFields message)

theorem mergeFields_append (message : M) (first second : List Field) :
    mergeFields message (first ++ second) =
      (mergeFields message first).bind fun message => mergeFields message second := by
  simp only [mergeFields, List.foldlM_append]
  rfl

instance : Message Datagram where
  empty := {}
  fields datagram := uint64Field 1 datagram.offset ++ bytesField 2 datagram.payload
  merge datagram field :=
    match field.number with
    | 1 => field.value.uint64?.map fun offset => { datagram with offset }
    | 2 => field.value.bytes?.map fun payload => { datagram with payload }
    | _ => some datagram

end VideoRelay.Wire
