import VideoRelay.Proofs.Except
import VideoRelay.Session.Pipeline

set_option autoImplicit false

namespace VideoRelay

namespace Framing

def intact : Bool -> List StorageMessage -> List Bytes
  | false, .ok (.header _) :: rest => intact true rest
  | true, .ok (.datagram datagram) :: rest => datagram.payload :: intact true rest
  | _, _ => []

/-- The fault of the first message that is no frame or stands at the wrong place. -/
def offence? : Bool -> List StorageMessage -> Option Fault
  | _, [] => none
  | _, .error status :: _ => some (.streamTransport status)
  | _, .ok .empty :: _ => some (.ofViolation .missingPart)
  | true, .ok (.header _) :: _ => some (.ofViolation .headerTwice)
  | false, .ok (.datagram _) :: _ => some (.ofViolation .datagramBeforeHeader)
  | false, .ok (.header _) :: rest => offence? true rest
  | true, .ok (.datagram _) :: rest => offence? true rest

def descriptor? : List StorageMessage -> Option Descriptor
  | .ok (.header video) :: _ => some video.descriptor
  | _ => none

def framed (video : Wire.Video) (datagrams : List Datagram) : List StorageMessage :=
  .ok (.header video) :: datagrams.map fun datagram => .ok (.datagram datagram)

@[simp]
theorem intact_nil (headerSeen : Bool) : intact headerSeen [] = [] := by
  cases headerSeen <;> rfl

@[simp]
theorem offence?_nil (headerSeen : Bool) : offence? headerSeen [] = none := by
  cases headerSeen <;> rfl

theorem intact_mono (headerSeen : Bool) (first more : List StorageMessage) :
    intact headerSeen first <+: intact headerSeen (first ++ more) := by
  fun_induction intact headerSeen first with
  | case1 video rest ih => exact ih
  | case2 datagram rest ih => exact (List.prefix_cons_inj datagram.payload).2 ih
  | case3 headerSeen messages _ _ => exact List.nil_prefix

theorem offence?_ne_internal (headerSeen : Bool) (messages : List StorageMessage) (text : String) :
    offence? headerSeen messages ≠ some (.internal text) := by
  fun_induction offence? headerSeen messages with
  | case1 => simp
  | case2 | case3 | case4 | case5 => simp [Fault.ofViolation]
  | case6 _ _ ih | case7 _ _ ih => exact ih

theorem intact_datagrams (datagrams : List Datagram) :
    intact true (datagrams.map fun datagram => .ok (.datagram datagram)) = datagrams.map Datagram.payload := by
  induction datagrams with
  | nil => rfl
  | cons datagram rest ih => simp [intact, ih]

theorem intact_framed (video : Wire.Video) (datagrams : List Datagram) :
    intact false (framed video datagrams) = datagrams.map Datagram.payload :=
  intact_datagrams datagrams

theorem offence?_datagrams (datagrams : List Datagram) :
    offence? true (datagrams.map fun datagram => .ok (.datagram datagram)) = none := by
  induction datagrams with
  | nil => rfl
  | cons datagram rest ih => simpa [offence?] using ih

theorem offence?_framed (video : Wire.Video) (datagrams : List Datagram) :
    offence? false (framed video datagrams) = none :=
  offence?_datagrams datagrams

theorem offence?_of_error {messages : List StorageMessage} {status : Status} (broken : .error status ∈ messages)
    (headerSeen : Bool) : offence? headerSeen messages ≠ none := by
  fun_induction offence? headerSeen messages with
  | case1 => cases broken
  | case2 | case3 | case4 | case5 => simp
  | case6 _ _ ih | case7 _ _ ih => exact ih (by simpa using broken)

theorem offence?_of_append {headerSeen : Bool} {first more : List StorageMessage}
    (clean : offence? headerSeen (first ++ more) = none) : offence? headerSeen first = none := by
  fun_induction offence? headerSeen first <;> simp_all [offence?]

theorem intact_of_offence {headerSeen : Bool} {message : StorageMessage} {fault : Fault}
    (offends : offence? headerSeen [message] = some fault) : intact headerSeen [message] = [] := by
  unfold offence? at offends
  split at offends <;> simp_all [intact]

theorem offence?_append {headerSeen : Bool} {first : List StorageMessage} {fault : Fault}
    (offends : offence? headerSeen first = some fault) (more : List StorageMessage) :
    offence? headerSeen (first ++ more) = some fault /\ intact headerSeen (first ++ more) = intact headerSeen first := by
  fun_induction offence? headerSeen first with
  | case1 => cases offends
  | case2 headerSeen | case3 headerSeen => cases headerSeen <;> exact ⟨offends, rfl⟩
  | case4 | case5 => exact ⟨offends, rfl⟩
  | case6 video rest ih => exact ih offends
  | case7 datagram rest ih => exact (ih offends).imp_right fun same => congrArg (datagram.payload :: ·) same

theorem offence?_eq_none_iff {stream : List StorageMessage} : offence? false stream = none <->
    stream = [] \/ exists video datagrams, stream = framed video datagrams := by
  have behind (rest : List StorageMessage) (clean : offence? true rest = none) :
      exists datagrams : List Datagram, rest = datagrams.map fun datagram => .ok (.datagram datagram) := by
    induction rest with
    | nil => exact ⟨[], rfl⟩
    | cons message rest ih =>
      match message with
      | .ok (.datagram datagram) =>
        obtain ⟨datagrams, same⟩ := ih clean
        exact ⟨datagram :: datagrams, by rw [same]; rfl⟩
      | .ok (.header _) | .ok .empty | .error _ => cases clean
  constructor
  next =>
    intro clean
    match stream with
    | [] => exact .inl rfl
    | .ok (.header video) :: rest =>
      obtain ⟨datagrams, same⟩ := behind rest clean
      exact .inr ⟨video, datagrams, by rw [same]; rfl⟩
    | .ok (.datagram _) :: _ | .ok .empty :: _ | .error _ :: _ => cases clean
  next =>
    rintro (rfl | ⟨video, datagrams, rfl⟩)
    next => rfl
    next => exact offence?_framed video datagrams

theorem descriptor?_append_of_ne_nil {first : List StorageMessage} (something : first ≠ [])
    (more : List StorageMessage) : descriptor? (first ++ more) = descriptor? first := by
  cases first with
  | nil => exact absurd rfl something
  | cons message rest =>
    match message with
    | .ok (.header _) | .ok (.datagram _) | .ok .empty | .error _ => rfl

theorem descriptor?_append {first : List StorageMessage} {descriptor : Descriptor}
    (present : descriptor? first = some descriptor) (more : List StorageMessage) :
    descriptor? (first ++ more) = some descriptor := by
  unfold descriptor? at present
  split at present
  next => exact present
  next => cases present

theorem intact_of_undescribed {messages : List StorageMessage} (bare : descriptor? messages = none) :
    intact false messages = [] := by
  cases messages with
  | nil => rfl
  | cons message rest =>
    cases message with
    | error status => rfl
    | ok response =>
      cases response with
      | header video => cases bare
      | empty | datagram => rfl

end Framing

namespace Forwarder

variable (forwarder : Forwarder) (pipeline : Pipeline)

theorem receive_header (video : Wire.Video) (first : forwarder.order.headerSeen = false)
    (unset : pipeline.slot = none) :
    forwarder.receive pipeline (.ok (.header video)) =
      .ok ({ forwarder with order := { headerSeen := true } },
        { pipeline with slot := some video.descriptor }) := by
  simp [receive, Wire.GetVideoResponse.frame, FrameGate.accept, FrameGate.header, Pipeline.configure, first,
    unset, bind, Except.bind, pure, Except.pure]

theorem receive_datagram (datagram : Datagram) (later : forwarder.order.headerSeen = true) :
    forwarder.receive pipeline (.ok (.datagram datagram)) =
      .ok ({ forwarder with phase := .sending datagram.payload }, pipeline) := by
  simp [receive, Wire.GetVideoResponse.frame, FrameGate.accept_datagram, later, bind,
    Except.bind, pure, Except.pure]

theorem receive_ok {message : StorageMessage} {result : Forwarder × Pipeline}
    (received : forwarder.receive pipeline message = .ok result) :
    (exists video, message = .ok (.header video) /\ forwarder.order.headerSeen = false /\
      pipeline.slot = none /\ result = ({ forwarder with order := { headerSeen := true } },
        { pipeline with slot := some video.descriptor })) \/
    exists datagram, message = .ok (.datagram datagram) /\ forwarder.order.headerSeen = true /\
      result = ({ forwarder with phase := .sending datagram.payload }, pipeline) := by
  cases message with
  | error status => simp [receive, bind, Except.bind] at received
  | ok response =>
    cases response with
    | empty =>
      simp [receive, Wire.GetVideoResponse.frame, bind, Except.bind] at received
    | header video =>
      cases seen : forwarder.order.headerSeen with
      | true =>
        simp [receive, Wire.GetVideoResponse.frame, FrameGate.accept, FrameGate.header, seen,
          bind, Except.bind] at received
      | false =>
        cases slot : pipeline.slot with
        | some descriptor =>
          simp [receive, Wire.GetVideoResponse.frame, FrameGate.accept, FrameGate.header, seen,
            Pipeline.configure, slot, bind, Except.bind] at received
        | none =>
          rw [receive_header _ _ _ seen slot] at received
          cases received
          exact .inl ⟨video, rfl, rfl, rfl, rfl⟩
    | datagram datagram =>
      cases seen : forwarder.order.headerSeen with
      | false =>
        simp [receive, Wire.GetVideoResponse.frame, FrameGate.accept_datagram, seen, bind,
          Except.bind] at received
      | true =>
        rw [receive_datagram _ _ _ seen] at received
        cases received
        exact .inr ⟨datagram, rfl, rfl, rfl⟩

theorem receive_error {message : StorageMessage} {fault : Fault}
    (slotted : pipeline.slot.isSome = forwarder.order.headerSeen)
    (refused : forwarder.receive pipeline message = .error fault) :
    Framing.offence? forwarder.order.headerSeen [message] = some fault := by
  cases message with
  | error status => simpa [receive, bind, Except.bind, Framing.offence?] using refused
  | ok response =>
    cases response with
    | empty =>
      simpa [receive, Wire.GetVideoResponse.frame, bind, Except.bind, Framing.offence?]
        using refused
    | header video =>
      cases seen : forwarder.order.headerSeen with
      | false =>
        -- A filled slot would refuse this header although it does not offend.
        have unset : pipeline.slot = none := by simpa [seen] using slotted
        rw [receive_header _ _ _ seen unset] at refused
        cases refused
      | true =>
        simpa [receive, Wire.GetVideoResponse.frame, FrameGate.accept, FrameGate.header, seen,
          bind, Except.bind, Framing.offence?] using refused
    | datagram datagram =>
      cases seen : forwarder.order.headerSeen with
      | false =>
        simpa [receive, Wire.GetVideoResponse.frame, FrameGate.accept_datagram, seen, bind,
          Except.bind, Framing.offence?] using refused
      | true =>
        rw [receive_datagram _ _ _ seen] at refused
        cases refused

end Forwarder

def clip : Wire.Video where
  fileName := "clip.webm"
  mimeType := "video/webm"
  totalLength := 3

def clipDatagrams : List Datagram :=
  [{ payload := [1, 2] }, { payload := [], offset := 7 }, { payload := [3] }]

def diskFailure : Status where
  code := .unknown
  message := "disk failure"

end VideoRelay
