import VideoRelay.Call
import VideoRelay.Proofs.Channel

set_option autoImplicit false

namespace VideoRelay

open Wire

def CallAction.endsCall {H : Type} : CallAction H -> Bool
  | answer (.error _) | reply (.error _) | endReplies => true
  | answer (.ok _) | reply (.ok _) | takeRequest _ | closeRequests => false

namespace Call

variable {H : Type}

inductive Move (call : Call H) : CallAction H -> Call H -> Prop
  | answer (answer : Except Status Unit) (held : call.held = true) :
      Move call (.answer answer) { call with answer := some answer }
  | takeRequest (request : UploadRequest H) (ready : call.requests.place = some request) :
      Move call (.takeRequest request) { call with requests := call.requests.taken }
  | closeRequests : Move call .closeRequests { call with requests := call.requests.close }
  | reply (reply : Except Status DownloadResponse) (held : call.held = true)
      (intact : forall status, .error status ∉ call.replies.items) :
      Move call (.reply reply) { call with replies := call.replies.push reply }
  | endReplies (held : call.held = true) : Move call .endReplies { call with replies := call.replies.finish }

structure Attended (before after : Call H) : Prop where
  requests : before.requests.Drained after.requests
  senders : after.requests.senders = before.requests.senders
  held : after.held = before.held
  done : after.done = before.done

theorem Move.attended {call after : Call H} {action : CallAction H} (moved : call.Move action after) :
    call.Attended after := by
  cases moved with
  | takeRequest request ready => exact ⟨.taken _ (by simp [ready]), rfl, rfl, rfl⟩
  | closeRequests => exact ⟨.closed rfl rfl, rfl, rfl, rfl⟩
  | answer | reply | endReplies => exact ⟨.same _, rfl, rfl, rfl⟩

theorem accepted_of_canReply {call : Call H} (able : call.canReply = true) : call.answer = some (.ok ()) := by
  simp only [canReply, isOver, isRefused, Bool.and_eq_true, Bool.not_eq_true', Bool.or_eq_false_iff] at able
  obtain ⟨⟨-, answered⟩, ⟨⟨-, unrefused⟩, -⟩, -⟩ := able
  cases answer : call.answer with
  | none => simp [answer] at answered
  | some given =>
    cases given with
    | ok _ => rfl
    | error status => simp [answer] at unrefused

theorem going_of_canReply {call : Call H} (able : call.canReply = true) : call.isOver = false := by
  simp only [canReply, Bool.and_eq_true, Bool.not_eq_true'] at able
  exact able.2

variable [DecidableEq H]

theorem move_of_act {call after : Call H} {action : CallAction H} (acted : call.act action = some after) :
    call.Move action after := by
  unfold act at acted
  split at acted
  next answer =>
    split at acted
    next possible =>
      simp only [Bool.and_eq_true] at possible
      cases acted
      exact .answer answer possible.1
    next => cases acted
  next request =>
    split at acted
    next first requests taken =>
      obtain ⟨ready, rfl⟩ := Channel.take_eq_item_iff.1 taken
      split at acted
      next same => cases acted; exact .takeRequest request (same ▸ ready)
      next => cases acted
    next => cases acted
  next =>
    split at acted
    next => cases acted; exact .closeRequests
    next => cases acted
  next reply =>
    split at acted
    next possible =>
      simp only [canReply, isOver, Bool.and_eq_true, Bool.not_eq_true', Bool.or_eq_false_iff] at possible
      obtain ⟨⟨held, -⟩, -, intact⟩ := possible
      cases acted
      refine .reply reply held fun status broken => ?_
      have found := List.any_eq_false.1 intact _ broken
      simp at found
    next => cases acted
  next =>
    split at acted
    next possible =>
      simp only [canReply, Bool.and_eq_true] at possible
      cases acted
      exact .endReplies possible.1.1
    next => cases acted

theorem unanswered_of_act {call after : Call H} {answer : Except Status Unit}
    (acted : call.act (.answer answer) = some after) : call.answer = none := by
  simp only [act] at acted
  split at acted
  next possible =>
    simp only [Bool.and_eq_true, Option.isNone_iff_eq_none] at possible
    exact possible.2
  next => cases acted

theorem able_of_reply {call after : Call H} {reply : Except Status DownloadResponse}
    (acted : call.act (.reply reply) = some after) : call.canReply = true := by
  simp only [act] at acted
  split at acted
  next able => exact able
  next => cases acted

theorem able_of_endReplies {call after : Call H} (acted : call.act .endReplies = some after) :
    call.canReply = true := by
  simp only [act] at acted
  split at acted
  next able => exact able
  next => cases acted

theorem accepted_of_reply {call after : Call H} {reply : Except Status DownloadResponse}
    (acted : call.act (.reply reply) = some after) :
    call.answer = some (.ok ()) :=
  accepted_of_canReply (able_of_reply acted)

theorem attended_of_act {call after : Call H} {action : CallAction H} (acted : call.act action = some after) :
    call.Attended after :=
  (move_of_act acted).attended

theorem over_of_act {call after : Call H} {action : CallAction H} (acted : call.act action = some after)
    (ceased : call.isOver = true) : after.isOver = true := by
  cases move_of_act acted with
  | takeRequest | closeRequests => exact ceased
  | endReplies => simp [isOver, Source.finish]
  | reply reply =>
    simp only [isOver, isRefused, Source.push, List.any_append, Bool.or_eq_true] at ceased ⊢
    exact ceased.imp_right .inl
  | answer answer =>
    have unanswered := unanswered_of_act acted
    simp only [isOver, isRefused, unanswered, Bool.or_false, Bool.or_eq_true] at ceased ⊢
    exact ceased.imp_left (.imp_left .inl)

theorem over_of_endsCall {call after : Call H} {action : CallAction H} (acted : call.act action = some after)
    (ends : action.endsCall = true) : after.isOver = true := by
  cases move_of_act acted with
  | takeRequest | closeRequests => cases ends
  | endReplies => simp [isOver, Source.finish]
  | reply reply =>
    cases reply with
    | ok _ => cases ends
    | error _ => simp [isOver, Source.push]
  | answer answer =>
    cases answer with
    | ok _ => cases ends
    | error _ => simp [isOver, isRefused]

end Call

end VideoRelay
