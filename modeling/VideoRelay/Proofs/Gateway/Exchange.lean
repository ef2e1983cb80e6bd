import VideoRelay.Proofs.Bridge.Errand
import VideoRelay.Proofs.Gateway.Secrecy
import VideoRelay.Rehearsal.Exchange

set_option autoImplicit false

namespace VideoRelay

open Session Gateway

def Head.isStream : Head -> Bool
  | stream _ => true
  | failed _ _ => false

theorem Reader.receiveHead_cases {reader after : Reader} {sink later : Sink} {head : ResponseHead}
    (received : reader.receiveHead sink = some (head, after, later)) :
    reader = .asked /\ exists decided, sink.head = some decided /\ (after == .body) = decided.isStream := by
  unfold receiveHead at received
  split at received
  next decided known =>
    refine ⟨rfl, decided, known, ?_⟩
    cases decided <;> cases received <;> rfl
  next => cases received

namespace Rehearsal

theorem Play.run_holds {S A C : Type} (play : Play S A C) (holds : S -> C -> Prop)
    (kept : forall state cast move next after, holds state cast -> move ∈ play.moves state cast ->
      play.attempt state move = some (next, after) -> holds next after)
    (fuel : Nat) (state : S) (cast : C) (before : holds state cast) :
    holds (play.run fuel state cast).1 (play.run fuel state cast).2 := by
  induction fuel generalizing state cast with
  | zero => exact before
  | succ fuel ih =>
    simp only [run]
    split
    next => exact before
    next next after stepped =>
      obtain ⟨move, among, made⟩ := List.exists_of_findSome?_eq_some stepped
      exact ih _ _ (kept state cast move next after before among made)

structure RelayCast.Notes (actions : List Session.Action) (session : Session) (cast : RelayCast) : Prop where
  stays : cast.departure = .never
  head : headsReceived actions = cast.head.toList
  frames : framesTaken actions = cast.frames
  decided : cast.head ≠ none -> exists decided, session.sink.head = some decided /\ cast.relayed = decided.isStream

namespace RelayCast

variable {emitter : Emitter} {actions : List Session.Action} {session next : Session} {cast after : RelayCast}
  {move : RelayCast.Move}

structure Aside (cast : RelayCast) (move : RelayCast.Move) : Prop where
  silent : forall action, move.1 = some action -> headsReceived [action] = [] /\ framesTaken [action] = []
  departure : move.2.departure = cast.departure
  head : move.2.head = cast.head
  frames : move.2.frames = cast.frames
  relayed : move.2.relayed = cast.relayed

theorem aside_of_own (among : move ∈ cast.own) : Aside cast move := by
  simp only [own, List.map_cons, List.map_nil, List.mem_cons, List.not_mem_nil, or_false] at among
  rcases among with rfl | rfl | rfl | rfl | rfl | rfl | rfl <;>
    exact ⟨fun _ same => (by cases same; exact ⟨rfl, rfl⟩), rfl, rfl, rfl, rfl⟩

theorem aside_of_encode (among : move ∈ cast.encode session) : Aside cast move := by
  unfold encode at among
  split at among
  next => cases among
  next call _ =>
    rcases List.mem_cons.1 among with rfl | turned
    next => exact ⟨fun _ same => (by cases same; exact ⟨rfl, rfl⟩), rfl, rfl, rfl, rfl⟩
    next =>
      obtain ⟨turn, _, rfl⟩ := Option.map_eq_some_iff.1 (Option.mem_toList.1 turned)
      refine ⟨fun action same => ?_, rfl, rfl, rfl, rfl⟩
      obtain ⟨_, _, rfl⟩ := Option.map_eq_some_iff.1 same
      exact ⟨rfl, rfl⟩

theorem aside_of_store (among : move ∈ cast.store session) : Aside cast move := by
  unfold store at among
  split at among
  next => cases among
  next =>
    split at among
    next =>
      cases List.mem_singleton.1 among
      exact ⟨fun _ same => (by cases same; exact ⟨rfl, rfl⟩), rfl, rfl, rfl, rfl⟩
    next => cases among
    next =>
      cases List.mem_singleton.1 among
      exact ⟨fun _ same => (by cases same; exact ⟨rfl, rfl⟩), rfl, rfl, rfl, rfl⟩

namespace Notes

theorem rest (before : Notes actions session cast) (aside : Aside cast (none, after)) :
    Notes actions session after := by
  obtain ⟨-, departure, head, frames, relayed⟩ := aside
  dsimp only at departure head frames relayed
  exact ⟨departure.trans before.stays, head ▸ before.head, frames ▸ before.frames, head ▸ relayed ▸ before.decided⟩

variable (stays : forall head, session.sink.head = some head -> next.sink.head = some head)
include stays

theorem keep (before : Notes actions session cast) {action : Session.Action}
    (aside : Aside cast (some action, after)) : Notes (actions ++ [action]) next after := by
  obtain ⟨silent, departure, head, frames, relayed⟩ := aside
  obtain ⟨unheard, untaken⟩ := silent action rfl
  dsimp only at departure head frames relayed
  refine ⟨departure.trans before.stays, ?_, ?_, ?_⟩
  next => rw [headsReceived_append, unheard, List.append_nil, head]; exact before.head
  next => rw [framesTaken_append, untaken, List.append_nil, frames]; exact before.frames
  next =>
    rw [head, relayed]
    intro got
    obtain ⟨decided, known, same⟩ := before.decided got
    exact ⟨decided, stays decided known, same⟩

theorem receive (before : Notes actions session cast) {head : ResponseHead} {reader : Reader} {sink : Sink}
    (unheard : headsReceived actions = [])
    (received : session.reader.receiveHead session.sink = some (head, reader, sink)) :
    Notes (actions ++ [.receiveHead head]) next { cast with head := some head, relayed := reader == .body } := by
  obtain ⟨-, decided, known, same⟩ := Reader.receiveHead_cases received
  refine ⟨before.stays, ?_, ?_, fun _ => ⟨decided, stays decided known, same⟩⟩
  next => rw [headsReceived_append, unheard]; rfl
  next => rw [framesTaken_append, before.frames]; exact List.append_nil _

theorem take (before : Notes actions session cast) {frame : Bytes} :
    Notes (actions ++ [.takeFrame frame]) next { cast with frames := cast.frames ++ [frame] } := by
  refine ⟨before.stays, ?_, ?_, fun got => ?_⟩
  next => rw [headsReceived_append, before.head]; exact List.append_nil _
  next => rw [framesTaken_append, before.frames]; rfl
  next =>
    obtain ⟨decided, known, same⟩ := before.decided got
    exact ⟨decided, stays decided known, same⟩

omit stays

theorem attempt (before : Notes actions session cast) (fresh : emitter.Fresh)
    (run : Run (start emitter) actions session) (among : move ∈ cast.moves session)
    (made : relayPlay.attempt session move = some (next, after)) :
    exists later, Run (start emitter) (actions ++ later) next /\ Notes (actions ++ later) next after := by
  have going (action : Session.Action) (possible : session.act action = some next) :
      Run (start emitter) (actions ++ [action]) next := run.append (.act possible (.done next))
  -- The head that was decided stays so.
  have decided (action : Session.Action) (possible : session.act action = some next) (head : Head)
      (known : session.sink.head = some head) : next.sink.head = some head :=
    ((step_of_act possible).outlet (answered_of_run fresh run).1).head known
  have others (aside : Aside cast move) :
      exists later, Run (start emitter) (actions ++ later) next /\ Notes (actions ++ later) next after := by
    obtain ⟨_ | action, later⟩ := move
    next =>
      cases made
      exact ⟨[], by simpa using run, by simpa using before.rest aside⟩
    next =>
      obtain ⟨_, possible, same⟩ := Option.map_eq_some_iff.1 made
      cases same
      exact ⟨[action], going action possible, before.keep (decided action possible) aside⟩
  simp only [moves, List.mem_append] at among
  rcases among with ((asked | owned) | encoded) | stored
  next =>
    have stays : cast.wantsToLeave = false := by simp [wantsToLeave, before.stays]
    simp only [client, stays, Bool.false_eq_true, ↓reduceIte] at asked
    split at asked
    next head reader sink received =>
      cases List.mem_singleton.1 asked
      obtain ⟨_, possible, same⟩ := Option.map_eq_some_iff.1 made
      cases same
      -- A client that still asks for the head has not got one.
      have unheard : headsReceived actions = [] := by
        have told := (answered_of_run fresh run).2.told
        rw [show session.outlet.reader = .asked from (Reader.receiveHead_cases received).1] at told
        generalize headsReceived actions = heads, framesTaken actions = frames at told ⊢
        cases told
        rfl
      exact ⟨[.receiveHead head], going _ possible,
        before.receive (decided (.receiveHead head) possible) unheard received⟩
    next =>
      split at asked
      next frame _ _ ready =>
        cases List.mem_singleton.1 asked
        obtain ⟨_, possible, same⟩ := Option.map_eq_some_iff.1 made
        cases same
        exact ⟨[.takeFrame frame], going _ possible, before.take (decided (.takeFrame frame) possible)⟩
      next => cases asked
  next => exact others (aside_of_own owned)
  next => exact others (aside_of_encode encoded)
  next => exact others (aside_of_store stored)

end Notes

theorem notes_of_run {emitter : Emitter} (fresh : emitter.Fresh) (fuel : Nat) {cast : RelayCast}
    (stays : cast.departure = .never) (unheard : cast.head = none) (untaken : cast.frames = []) :
    exists actions, Run (start emitter) actions (relayPlay.run fuel (start emitter) cast).1 /\
      Notes actions (relayPlay.run fuel (start emitter) cast).1 (relayPlay.run fuel (start emitter) cast).2 := by
  refine relayPlay.run_holds (fun session cast => exists actions, Run (start emitter) actions session /\
    Notes actions session cast) (fun session cast move next after before among made => ?_) fuel (start emitter) cast
    ⟨[], .done _, stays, by rw [unheard]; rfl, by rw [untaken]; rfl, fun got => absurd unheard got⟩
  obtain ⟨actions, run, notes⟩ := before
  obtain ⟨later, further, noted⟩ := notes.attempt fresh run among made
  exact ⟨actions ++ later, further, noted⟩

end RelayCast

theorem thumbnail_follows (spec : ImageSpec) (videoId : String) (peers : Peers) :
    exists actions errand, follow Errand.act { bridge := { spec } } (.generate [videoId] :: actions) = some errand /\
      (thumbnail spec [videoId] 1 .never peers).1[1]? = some (.ofResult? errand.bridge.result?) /\
        (thumbnail spec [videoId] 1 .never peers).2.videosAsked = errand.asked.map Wire.GetVideoRequest.videoId := by
  have kept (errand : Errand) (cast : ThumbnailCast) (move : ThumbnailCast.Move) (next : Errand)
      (after : ThumbnailCast)
      (before : exists actions, follow Errand.act { bridge := { spec } } (.generate [videoId] :: actions) = some errand)
      (_ : move ∈ thumbnailPlay.moves errand cast) (made : thumbnailPlay.attempt errand move = some (next, after)) :
      exists actions, follow Errand.act { bridge := { spec } } (.generate [videoId] :: actions) = some next := by
    obtain ⟨actions, reached⟩ := before
    obtain ⟨_ | action, _⟩ := move
    next => cases made; exact ⟨actions, reached⟩
    next =>
      obtain ⟨_, possible, same⟩ := Option.map_eq_some_iff.1 made
      cases same
      exact ⟨actions ++ [action], follow_snoc reached possible⟩
  obtain ⟨actions, reached⟩ := thumbnailPlay.run_holds _ kept peers.fuel
    (Errand.generate { bridge := { spec } } [videoId]).2
    { storage := peers.storage, encoder := { script := peers.encoder } } ⟨[], rfl⟩
  exact ⟨actions, _, reached, rfl, rfl⟩

def Sees (request : Request) (reply : Gateway.Reply) (response : Response) : Prop :=
  response = reply.response \/ reply = request.internalReply /\ response = request.seal { head := .plain 500 }

theorem stream_served {request : Request} {emitter : Emitter} (fresh : emitter.Fresh) (fuel : Nat) {cast : RelayCast}
    (stays : cast.departure = .never) (unheard : cast.head = none) (untaken : cast.frames = []) {response : Response}
    (answered : streamResponse? request (relayPlay.run fuel (start emitter) cast).2.result = some response) :
    exists turns reply,
      (follow Played.take { session := start emitter } turns).bind request.streamReply? = some reply /\
        Sees request reply response := by
  obtain ⟨actions, run, notes⟩ := RelayCast.notes_of_run fresh fuel stays unheard untaken
  generalize relayPlay.run fuel (start emitter) cast = played at answered run notes
  obtain ⟨session, cast⟩ := played
  dsimp only at answered run notes
  refine ⟨actions.map .act, ?_⟩
  rw [Played.follows run, Option.bind_some]
  have heads := notes.head
  cases got : cast.head with
  | none => simp [RelayCast.result, notes.stays, got, streamResponse?] at answered
  | some head =>
    obtain ⟨decided, known, relayed⟩ := notes.decided (by simp [got])
    simp only [RelayCast.result, notes.stays, got, streamResponse?, relayed, Option.some.injEq] at answered
    rw [got] at heads
    obtain ⟨decision, same, told⟩ := heads_of_run fresh run head (by simp [heads])
    cases same.symm.trans known
    subst told
    obtain ⟨-, outlet⟩ := answered_of_run fresh run
    cases decided with
    | stream headers =>
      refine ⟨{
        response := { head := { status := 200, headers }, body := framesTaken actions }
        isWhole := session.isReadUp }, ?_, .inl ?_⟩
      next =>
        simp only [Request.streamReply?, heads, Option.toList_some, known]
        rfl
      next => rw [← answered, notes.frames]; rfl
    | failed status text =>
      obtain ⟨rfl, rfl, -⟩ := outlet.failure status text known
      refine ⟨{ response := request.seal (.plain 500 internalFaultText) }, ?_, ?_⟩
      next => simp only [Request.streamReply?, heads, Option.toList_some, known]
      next =>
        have read : cast.frames <+: [faultText] := by
          rcases outlet.told.got with ⟨fine, -⟩ | ⟨-, read⟩
          next => exact absurd (fine (.plain 500) (by simp [heads, Head.response])) (by decide)
          next => rw [← notes.frames]; exact read
        rcases List.prefix_cons_iff.1 read with unread | ⟨rest, whole, done⟩
        next =>
          refine .inr ⟨Request.seal_discreet (.inr rfl) (by rw [Request.seal_status]; decide), ?_⟩
          rw [← answered, unread]
          rfl
        next =>
          rw [List.prefix_nil.1 done] at whole
          rw [← answered, whole]
          exact .inl rfl

theorem exchange_served {request : Request} {spec : ImageSpec} {peers : Peers} {response : Response}
    (answered : (exchange request spec peers).1 = some response) :
    exists course reply, request.serve spec course = some reply /\ Sees request reply response := by
  unfold exchange at answered
  split at answered
  next known planned =>
    cases answered
    exact ⟨{ services := peers.services }, _, by rw [Request.serve, planned], .inl rfl⟩
  next stream planned =>
    unfold relay at answered
    dsimp only at answered
    split at answered
    next fault refused =>
      cases answered
      exact ⟨{ services := peers.services }, { response := request.seal (Refusal.ofFault fault).response },
        by simp only [Request.serve, planned, refused], .inl rfl⟩
    next session opened =>
      obtain ⟨emitter, fresh, rfl⟩ := Request.start_of_openStream opened
      obtain ⟨turns, reply, served, same⟩ := stream_served fresh peers.fuel rfl rfl rfl answered
      exact ⟨{ services := peers.services, session := turns }, reply,
        by simp only [Request.serve, planned, opened, served], same⟩
  next videoId planned =>
    obtain ⟨actions, errand, followed, viewed, -⟩ := thumbnail_follows spec videoId peers
    have reached := Errand.bridge_of_follow followed
    simp only [viewed, Option.getD_some] at answered
    cases result : errand.bridge.result? with
    | none => simp [result, ThumbnailView.ofResult?, thumbnailResponse?] at answered
    | some outcome =>
      refine ⟨{ services := peers.services, bridge := actions },
        { response := request.seal (orRefusal imageResponse outcome) },
        by simp [Request.serve, planned, reached, result], .inl ?_⟩
      rw [result] at answered
      cases outcome <;> exact (Option.some.inj answered).symm
  next planned =>
    cases answered
    exact ⟨{ services := peers.services }, _, by rw [Request.serve, planned], .inl rfl⟩

end Rehearsal

end VideoRelay
