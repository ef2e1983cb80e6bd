import VideoRelay.Call
import VideoRelay.Fault

set_option autoImplicit false

namespace VideoRelay

open Wire

def Status.masked (status : Status) : Status where
  code := .unknown
  message := if status.isTornDown then "broken pipe" else ""

def Fault.masked : Fault -> Fault
  | presetNotFound preset => presetNotFound preset
  | invalidInput message => invalidInput message
  | connectionFailure _ | streamProtocol _ | streamTransport _ | config _ | internal _ => internal ""

@[simp]
theorem Status.isTornDown_masked (status : Status) : status.masked.isTornDown = status.isTornDown := by
  cases torn : status.isTornDown <;> simp only [masked, torn] <;> decide

@[simp]
theorem Status.masked_masked (status : Status) : status.masked.masked = status.masked := by
  rw [masked, isTornDown_masked]
  rfl

@[simp]
theorem Fault.masked_masked (fault : Fault) : fault.masked.masked = fault.masked := by
  cases fault <;> rfl

section

variable {A : Type}

def maskStatus (result : Except Status A) : Except Status A :=
  result.mapError Status.masked

def maskFault (result : Except Fault A) : Except Fault A :=
  result.mapError Fault.masked

@[simp]
theorem maskStatus_ok (value : A) : maskStatus (.ok value) = .ok value := rfl

@[simp]
theorem maskStatus_error (status : Status) : maskStatus (.error status : Except Status A) = .error status.masked := rfl

@[simp]
theorem maskFault_ok (value : A) : maskFault (.ok value) = .ok value := rfl

@[simp]
theorem maskFault_error (fault : Fault) : maskFault (.error fault : Except Fault A) = .error fault.masked := rfl

@[simp]
theorem maskStatus_maskStatus (result : Except Status A) : maskStatus (maskStatus result) = maskStatus result := by
  cases result with
  | ok _ => rfl
  | error status => simp

@[simp]
theorem maskFault_maskFault (result : Except Fault A) : maskFault (maskFault result) = maskFault result := by
  cases result with
  | ok _ => rfl
  | error fault => simp

theorem eq_or_faults {first second : Except Fault A} (alike : maskFault first = maskFault second) :
    (exists value, first = .ok value /\ second = .ok value) \/
      exists fault other, first = .error fault /\ second = .error other /\ fault.masked = other.masked := by
  cases first with
  | ok value =>
    cases second with
    | ok other => cases alike; exact .inl ⟨value, rfl, rfl⟩
    | error other => cases alike
  | error fault =>
    cases second with
    | ok value => cases alike
    | error other => exact .inr ⟨fault, other, rfl, rfl, Except.error.inj alike⟩

def Source.masked (source : Source (Except Status A)) : Source (Except Status A) :=
  { source with items := source.items.map maskStatus }

@[simp]
theorem Source.masked_masked (source : Source (Except Status A)) : source.masked.masked = source.masked := by
  simp [masked, Function.comp_def]

theorem Source.push_masked (source : Source (Except Status A)) (item : Except Status A) :
    source.masked.push (maskStatus item) = (source.push item).masked := by
  simp [masked, push]

theorem Source.finish_masked (source : Source (Except Status A)) : source.masked.finish = source.finish.masked := rfl

end

def CallAction.masked {H : Type} : CallAction H -> CallAction H
  | answer result => answer (maskStatus result)
  | reply result => reply (maskStatus result)
  | takeRequest request => takeRequest request
  | closeRequests => closeRequests
  | endReplies => endReplies

@[simp]
theorem CallAction.masked_masked {H : Type} (action : CallAction H) : action.masked.masked = action.masked := by
  cases action <;> simp [masked]

namespace Call

variable {H : Type}

def masked (call : Call H) : Call H :=
  { call with answer := call.answer.map maskStatus, replies := call.replies.masked }

@[simp]
theorem masked_masked (call : Call H) : call.masked.masked = call.masked := by
  simp [masked, Function.comp_def]

@[simp]
theorem isOver_masked (call : Call H) : call.masked.isOver = call.isOver := by
  have refused : call.masked.isRefused = call.isRefused := by
    unfold isRefused masked
    rcases call.answer with - | - | - <;> rfl
  unfold isOver
  rw [refused]
  simp only [masked, Source.masked, List.any_map]
  -- Whether there is a status among the replies does not depend on what it says.
  congr 2
  funext reply
  cases reply <;> rfl

@[simp]
theorem canReply_masked (call : Call H) : call.masked.canReply = call.canReply := by
  rw [canReply, canReply, isOver_masked]
  simp [masked]

variable [DecidableEq H]

theorem act_masked (call : Call H) (action : CallAction H) :
    call.masked.act action.masked = (call.act action).map masked := by
  cases action with
  | answer result =>
    simp only [act, CallAction.masked]
    split
    next possible => simp_all [masked]
    next impossible => simp_all [masked]
  | takeRequest request =>
    simp only [act, CallAction.masked, show call.masked.requests = call.requests from rfl]
    split
    next first requests taken => split <;> rfl
    next => rfl
  | closeRequests =>
    simp only [act, CallAction.masked, isOver_masked, show call.masked.requests = call.requests from rfl]
    split <;> rfl
  | reply result =>
    simp only [act, CallAction.masked, canReply_masked]
    split
    next => simp [masked, Source.push_masked]
    next => rfl
  | endReplies =>
    simp only [act, CallAction.masked, canReply_masked]
    split <;> rfl

end Call

end VideoRelay
