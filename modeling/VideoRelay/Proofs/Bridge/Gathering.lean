import VideoRelay.Proofs.Bridge.Custody

set_option autoImplicit false

namespace VideoRelay

open Wire

def imageOf (frames : List DownloadResponse) : Bytes :=
  frames.flatMap fun frame => (frame.datagram.map Datagram.payload).getD []

theorem imageOf_snoc (frames : List DownloadResponse) (frame : DownloadResponse) :
    imageOf (frames ++ [frame]) = imageOf frames ++ (frame.datagram.map Datagram.payload).getD [] := by
  simp [imageOf]

namespace Foreground

def image : Foreground -> Bytes
  | collecting image => image
  | _ => []

def hasLeft : Foreground -> Bool
  | joining _ _ | returned _ => true
  | unused | dialing | calling | collecting _ => false

end Foreground

namespace Bridge

def replied (actions : List Action) : List (Except Status DownloadResponse) :=
  actions.filterMap fun action => match action with
    | .onCall (.reply reply) => some reply
    | _ => none

theorem replied_append (before after : List Action) : replied (before ++ after) = replied before ++ replied after :=
  List.filterMap_append

structure Gathers (actions : List Action) (bridge : Bridge) : Prop where
  fresh : bridge.state = .idle -> bridge.foreground = .unused
  raised : bridge.foreground.hasLeft = false -> (bridge.cancelled = true <-> .cancel ∈ actions)
  gathered : bridge.foreground.hasLeft = false -> exists taken, bridge.foreground.image = imageOf taken /\
    replied actions = taken.map .ok ++ bridge.call.replies.items
  answered : forall answer, bridge.call.answer = some answer -> .onCall (.answer answer) ∈ actions
  ended : bridge.call.replies.ended = true -> .onCall .endReplies ∈ actions
  closed : forall front status rest, bridge.call.replies.items = front ++ .error status :: rest -> rest = []

namespace Gathers

variable {done : List Action} {action : Action} {bridge next : Bridge}

theorem keep (before : Gathers done bridge) (fresh : next.state = .idle -> next.foreground = .unused)
    (left : next.foreground.hasLeft = false -> bridge.foreground.hasLeft = false /\
      next.foreground.image = bridge.foreground.image /\ next.cancelled = bridge.cancelled)
    (answer : next.call.answer = bridge.call.answer) (replies : next.call.replies = bridge.call.replies)
    (quiet : replied [action] = []) (uncancelled : action ≠ .cancel) : Gathers (done ++ [action]) next := by
  refine ⟨fresh, fun there => ?_, fun there => ?_, ?_, ?_, ?_⟩
  next =>
    obtain ⟨earlier, -, cancelled⟩ := left there
    rw [cancelled, before.raised earlier]
    simp [uncancelled.symm]
  next =>
    obtain ⟨earlier, image, -⟩ := left there
    rw [image, replies, replied_append, quiet, List.append_nil]
    exact before.gathered earlier
  next => rw [answer]; exact fun given known => List.mem_append_left _ (before.answered given known)
  next => rw [replies]; exact fun ended => List.mem_append_left _ (before.ended ended)
  next => rw [replies]; exact before.closed

theorem leave (before : Gathers done bridge) (fresh : next.state ≠ .idle) (left : next.foreground.hasLeft = true)
    (answer : next.call.answer = bridge.call.answer) (ended : next.call.replies.ended = bridge.call.replies.ended)
    (items : exists taken, bridge.call.replies.items = taken ++ next.call.replies.items) :
    Gathers (done ++ [action]) next := by
  refine ⟨fun idle => absurd idle fresh, fun there => ?_, fun there => ?_, ?_, ?_, ?_⟩
  next => cases left.symm.trans there
  next => cases left.symm.trans there
  next => rw [answer]; exact fun given known => List.mem_append_left _ (before.answered given known)
  next => rw [ended]; exact fun ended => List.mem_append_left _ (before.ended ended)
  next =>
    obtain ⟨taken, same⟩ := items
    intro front status rest split
    rw [split, ← List.append_assoc] at same
    exact before.closed _ status rest same

theorem onCall {move : CallAction ThumbnailHeader} {call : ThumbnailCall} (before : Gathers done bridge)
    (moved : bridge.call.Move move call) : Gathers (done ++ [.onCall move]) { bridge with call } := by
  have raised (there : bridge.foreground.hasLeft = false) :
      bridge.cancelled = true <-> .cancel ∈ done ++ [.onCall move] := by
    simp [before.raised there]
  have answered (given : Except Status Unit) (known : bridge.call.answer = some given) :
      Action.onCall (.answer given) ∈ done ++ [.onCall move] := List.mem_append_left _ (before.answered given known)
  have ended (through : bridge.call.replies.ended = true) : Action.onCall .endReplies ∈ done ++ [.onCall move] :=
    List.mem_append_left _ (before.ended through)
  have silent (quiet : replied [.onCall move] = []) : replied (done ++ [.onCall move]) = replied done := by
    rw [replied_append, quiet, List.append_nil]
  cases moved with
  | takeRequest | closeRequests =>
    exact before.keep before.fresh (fun there => ⟨there, rfl, rfl⟩) rfl rfl rfl (by simp)
  | answer answer =>
    refine ⟨before.fresh, raised, ?_, ?_, ended, before.closed⟩
    next => rw [silent rfl]; exact before.gathered
    next =>
      intro given known
      cases known
      simp
  | endReplies =>
    refine ⟨before.fresh, raised, ?_, answered, fun _ => (by simp), before.closed⟩
    rw [silent rfl]
    exact before.gathered
  | reply reply held intact =>
    refine ⟨before.fresh, raised, ?_, answered, ended, ?_⟩
    next =>
      intro there
      obtain ⟨taken, image, gathered⟩ := before.gathered there
      refine ⟨taken, image, ?_⟩
      rw [replied_append, gathered, List.append_assoc]
      rfl
    next =>
      -- No error waits in front of the new reply, so that nothing can stand behind one.
      intro front status rest split
      rcases List.eq_nil_or_concat rest with empty | ⟨init, final, rfl⟩
      next => exact empty
      next =>
        have shorter : bridge.call.replies.items ++ [reply] = (front ++ .error status :: init) ++ [final] := by
          simpa [Source.push] using split
        have earlier := List.append_inj_left' shorter rfl
        exact absurd (earlier ▸ List.mem_append_right front List.mem_cons_self) (intact status)

theorem act (before : Gathers done bridge) (step : bridge.Step action next) : Gathers (done ++ [action]) next := by
  have working (waits : bridge.foreground.isWorking = true) : bridge.state ≠ .idle := by
    intro idle
    rw [before.fresh idle] at waits
    cases waits
  have aside (state : next.state = bridge.state) (foreground : next.foreground = bridge.foreground)
      (cancelled : next.cancelled = bridge.cancelled) (answer : next.call.answer = bridge.call.answer)
      (replies : next.call.replies = bridge.call.replies) (quiet : replied [action] = [])
      (uncancelled : action ≠ .cancel) : Gathers (done ++ [action]) next := by
    refine before.keep ?_ (fun there => ?_) answer replies quiet uncancelled
    next => rw [state, foreground]; exact before.fresh
    next => rw [foreground] at there ⊢; exact ⟨there, rfl, cancelled⟩
  cases step with
  | abandon waits => exact before.leave (working waits) rfl rfl rfl ⟨[], rfl⟩
  | refused _ calling => exact before.leave (working (by rw [calling]; rfl)) rfl rfl rfl ⟨[], rfl⟩
  | complete _ collecting => exact before.leave (working (by rw [collecting]; rfl)) rfl rfl rfl ⟨[], rfl⟩
  | broken _ status rest collecting _ ready =>
    exact before.leave (working (by rw [collecting]; rfl)) rfl rfl rfl ⟨[.error status], ready⟩
  | settle result byCaller pumped =>
    refine before.leave ?_ rfl rfl rfl ⟨[], rfl⟩
    cases Bridge.settle result pumped <;> cases byCaller <;> simp [finish]
  | unreachable => exact before.leave (by simp [finish]) rfl rfl rfl ⟨[], rfl⟩
  | needless => exact before.leave (by simp) rfl rfl rfl ⟨[], rfl⟩
  | accepted calling =>
    refine before.keep (fun idle => absurd idle (working (by rw [calling]; rfl))) (fun _ => ?_) rfl rfl rfl (by simp)
    rw [calling]
    exact ⟨rfl, rfl, rfl⟩
  | collect image frame rest collecting unfailed ready =>
    have there : bridge.foreground.hasLeft = false := by rw [collecting]; rfl
    have silent : replied (done ++ [.foreground]) = replied done := by
      rw [replied_append, show replied [.foreground] = [] from rfl, List.append_nil]
    refine ⟨fun idle => absurd idle (working (by rw [collecting]; rfl)), fun _ => ?_, fun _ => ?_, ?_, ?_, ?_⟩
    next => simpa [withReplies] using before.raised there
    next =>
      obtain ⟨taken, same, gathered⟩ := before.gathered there
      rw [collecting] at same
      refine ⟨taken ++ [frame], ?_, ?_⟩
      next => rw [imageOf_snoc, ← same]; rfl
      next => rw [silent, gathered, ready]; simp [withReplies]
    next => exact fun given known => List.mem_append_left _ (before.answered given known)
    next => exact fun ended => List.mem_append_left _ (before.ended ended)
    next =>
      intro front status final split
      refine before.closed (.ok frame :: front) status final ?_
      rw [ready, List.cons_append]
      exact congrArg _ split
  | begin _ _ idle =>
    refine before.keep (fun idle => (by cases idle)) (fun _ => ?_) rfl rfl rfl (by simp)
    rw [before.fresh idle]
    exact ⟨rfl, rfl, rfl⟩
  | start dialing =>
    refine before.keep (fun idle => ?_) (fun _ => ?_) rfl rfl rfl (by simp)
    next => cases dialing.symm.trans (before.fresh idle)
    next => rw [dialing]; exact ⟨rfl, rfl, rfl⟩
  | cancel =>
    refine ⟨before.fresh, fun _ => (by simp [Bridge.cancel]), ?_, ?_, ?_, before.closed⟩
    next =>
      rw [replied_append, show replied [.cancel] = [] from rfl, List.append_nil]
      exact before.gathered
    next => exact fun given known => List.mem_append_left _ (before.answered given known)
    next => exact fun ended => List.mem_append_left _ (before.ended ended)
  | again | stop | translate | offend | drain | put | queue | unread | dialed | undialed | opened | unopened | deliver
  | endStream => exact aside rfl rfl rfl rfl rfl rfl (by simp)
  | onCall move call _ acted => exact before.onCall (Call.move_of_act acted)

end Gathers

theorem gathers_of_run {spec : ImageSpec} {bridge : Bridge} {actions : List Action}
    (run : Run { spec } actions bridge) : Gathers actions bridge := by
  refine run.keeps Gathers ?_ fun _ _ _ _ _ before possible => before.act (step_of_act possible)
  exact ⟨fun _ => rfl, fun _ => (by simp), fun _ => ⟨[], rfl, rfl⟩, fun _ known => (by cases known),
    fun ended => (by cases ended), fun front _ _ split => (by cases front <;> cases split)⟩

end Bridge

end VideoRelay
