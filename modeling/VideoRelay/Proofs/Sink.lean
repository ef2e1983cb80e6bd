import VideoRelay.Proofs.Session.Moves.Writer

set_option autoImplicit false

namespace VideoRelay

namespace Sink

variable (sink : Sink)

theorem fail_eq (status : Nat) (message : String) : (sink.fail status message).2 = { sink with
    commit := .failed
    head := if sink.commit = .pending then sink.head.or (some (.failed status message)) else sink.head } := by
  obtain ⟨headers, head, commit, written, body⟩ := sink
  cases commit <;> simp [fail, decideHead]

@[simp]
theorem failInternal_headers : sink.failInternal.2.headers = sink.headers := by
  rw [failInternal, fail_eq]

@[simp]
theorem failInternal_body : sink.failInternal.2.body = sink.body := by
  rw [failInternal, fail_eq]

@[simp]
theorem failInternal_written : sink.failInternal.2.written = sink.written := by
  rw [failInternal, fail_eq]

@[simp]
theorem failInternal_commit : sink.failInternal.2.commit = .failed := by
  rw [failInternal, fail_eq]

theorem failInternal_head : sink.failInternal.2.head =
    if sink.commit = .pending then sink.head.or (some (.failed 500 internalFaultText)) else sink.head := by
  rw [failInternal, fail_eq]

theorem dropHandle_eq : sink.dropHandle = { sink with
    body := sink.body.dropSender
    head := if sink.body.senders - 1 = 0 /\ sink.commit = .pending then
        sink.head.or (some (.stream sink.headers))
      else sink.head } := by
  by_cases last : sink.body.senders - 1 = 0 /\ sink.commit = .pending
  next => simp [dropHandle, isCommitted, decideHead, Channel.dropSender, last.1, last.2]
  next => cases commit : sink.commit <;> simp_all [dropHandle, isCommitted, Channel.dropSender]

@[simp]
theorem dropHandle_written : sink.dropHandle.written = sink.written := by
  rw [dropHandle_eq]

@[simp]
theorem dropHandle_headers : sink.dropHandle.headers = sink.headers := by
  rw [dropHandle_eq]

@[simp]
theorem dropHandle_body : sink.dropHandle.body = sink.body.dropSender := by
  rw [dropHandle_eq]

@[simp]
theorem dropHandle_commit : sink.dropHandle.commit = sink.commit := by
  rw [dropHandle_eq]

theorem dropHandle_head_of_shared (shared : sink.body.senders = 2) : sink.dropHandle.head = sink.head := by
  simp [dropHandle_eq, shared]

theorem isCommitted_eq_false_iff : sink.isCommitted = false <-> sink.commit = .pending := by
  simp [isCommitted]

theorem setHeader_settable (name value : String) :
    exists headers, (sink.setHeader name value).2 = { sink with headers } /\
      (headers = sink.headers \/ sink.commit = .pending) := by
  unfold setHeader
  split
  next => exact ⟨sink.headers, rfl, .inl rfl⟩
  next uncommitted =>
    exact ⟨_, rfl, .inr (sink.isCommitted_eq_false_iff.1 (Bool.eq_false_iff.2 uncommitted))⟩

variable {sink} {counted : Sink} {chunk : Bytes}

theorem beginWrite_body (accepted : sink.beginWrite chunk = .ok counted) : counted.body = sink.body := by
  unfold beginWrite at accepted
  split at accepted
  next => cases accepted
  next => cases accepted; rfl
  next => cases accepted; rfl

theorem beginWrite_written (accepted : sink.beginWrite chunk = .ok counted) :
    counted.written = sink.written + .ofNat chunk.length := by
  unfold beginWrite at accepted
  split at accepted
  next => cases accepted
  next => cases accepted; rfl
  next => cases accepted; rfl

theorem beginWrite_cases (accepted : sink.beginWrite chunk = .ok counted) :
    counted.commit = .streaming /\
      (sink.commit = .streaming /\ counted.head = sink.head \/
        sink.commit = .pending /\ counted.head = sink.head.or (some (.stream sink.headers))) := by
  unfold beginWrite at accepted
  split at accepted
  next => cases accepted
  next streaming => cases accepted; exact ⟨streaming, .inl ⟨streaming, rfl⟩⟩
  next pending => cases accepted; exact ⟨rfl, .inr ⟨pending, rfl⟩⟩

structure Released (before after : Sink) : Prop where
  commit : after.commit = before.commit
  written : after.written = before.written
  headers : after.headers = before.headers
  place : after.body.place = before.body.place
  receiving : after.body.receiving = before.body.receiving
  head : after.head = before.head \/
    before.commit = .pending /\ after.head = before.head.or (some (.stream before.headers))

namespace Released

theorem refl : sink.Released sink :=
  ⟨rfl, rfl, rfl, rfl, rfl, .inl rfl⟩

theorem dropHandle : sink.Released sink.dropHandle := by
  refine ⟨by simp, by simp, by simp, by simp [Channel.dropSender], by simp [Channel.dropSender], ?_⟩
  rw [dropHandle_eq]
  dsimp only
  split
  next last => exact .inr ⟨last.2, rfl⟩
  next => exact .inl rfl

theorem withdraw (handle : Nat) : sink.Released { sink with body := sink.body.withdraw handle } := by
  have kept : (sink.body.withdraw handle).place = sink.body.place /\
      (sink.body.withdraw handle).receiving = sink.body.receiving := by
    unfold Channel.withdraw
    split <;> exact ⟨rfl, rfl⟩
  exact ⟨rfl, rfl, rfl, kept.1, kept.2, .inl rfl⟩

theorem trans {middle after : Sink} (first : sink.Released middle) (second : middle.Released after) :
    sink.Released after := by
  refine ⟨second.commit.trans first.commit, second.written.trans first.written,
    second.headers.trans first.headers, second.place.trans first.place,
    second.receiving.trans first.receiving, ?_⟩
  rcases second.head with same | ⟨pending, decided⟩
  next => rw [same]; exact first.head
  next =>
    -- The head is decided by the later of the two, unless the earlier one has done so.
    have pending := first.commit.symm.trans pending
    refine .inr ⟨pending, ?_⟩
    rw [decided, first.headers]
    rcases first.head with same | ⟨-, earlier⟩
    next => rw [same]
    next => rw [earlier]; cases sink.head <;> rfl

end Released

end Sink

theorem Channel.withdraw_senders {A : Type} (channel : Channel A) (sender : Nat) :
    (channel.withdraw sender).senders = channel.senders := by
  unfold Channel.withdraw
  split <;> rfl

end VideoRelay
