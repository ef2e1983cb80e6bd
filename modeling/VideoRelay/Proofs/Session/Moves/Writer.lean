import VideoRelay.Proofs.Channel
import VideoRelay.Response.Sink

set_option autoImplicit false

namespace VideoRelay

def Writer.held : Writer -> List Bytes
  | starting chunk | offering chunk | waiting chunk => [chunk]
  | finished _ => []

namespace Writer

inductive Move (handle : Nat) (sink : Sink) : Writer -> Writer -> Sink -> Prop
  | count (chunk : Bytes) (counted : Sink) (accepted : sink.beginWrite chunk = .ok counted) :
      Move handle sink (starting chunk) (offering chunk) counted
  | refuse (chunk : Bytes) (failed : sink.commit = .failed) :
      Move handle sink (starting chunk) (finished (.error Sink.alreadyFailed)) sink
  | put (writer : Writer) (chunk : Bytes) (offered : writer = offering chunk \/ writer = waiting chunk)
      (unclosed : sink.body.receiving = true)
      (granted : sink.body.promised = some handle \/ sink.body.isFree = true) :
      Move handle sink writer (finished (.ok ()))
        { sink with body := { sink.body with place := some chunk, promised := none } }
  | queue (writer : Writer) (chunk : Bytes) (offered : writer = offering chunk \/ writer = waiting chunk)
      (unclosed : sink.body.receiving = true) (unpromised : sink.body.promised ≠ some handle)
      (taken : sink.body.isFree = false) (fresh : handle ∉ sink.body.waiting) :
      Move handle sink writer (waiting chunk)
        { sink with body := { sink.body with waiting := sink.body.waiting ++ [handle] } }
  | abandon (writer : Writer) (chunk : Bytes) (offered : writer = offering chunk \/ writer = waiting chunk)
      (closed : sink.body.receiving = false) :
      Move handle sink writer (finished (.error Sink.clientGone)) sink

theorem move_of_step {handle : Nat} {writer after : Writer} {sink next : Sink}
    (stepped : writer.step handle sink = some (after, next)) : Move handle sink writer after next := by
  have offers (chunk : Bytes) (offered : writer = offering chunk \/ writer = waiting chunk)
      (stepped : offerTo sink handle chunk = some (after, next)) : Move handle sink writer after next := by
    unfold offerTo at stepped
    split at stepped
    next body taken =>
      obtain ⟨unclosed, granted, rfl⟩ := Channel.offer_eq_taken_iff.1 taken
      cases stepped
      exact .put _ chunk offered unclosed granted
    next body queued =>
      obtain ⟨unclosed, unpromised, taken, fresh, rfl⟩ := Channel.offer_eq_queued_iff.1 queued
      cases stepped
      exact .queue _ chunk offered unclosed unpromised taken fresh
    next closed =>
      cases stepped
      exact .abandon _ chunk offered (Channel.offer_eq_closed_iff.1 closed)
    next => cases stepped
  cases writer with
  | starting chunk =>
    simp only [step] at stepped
    split at stepped
    next counted accepted => cases stepped; exact .count chunk _ accepted
    next fault refused =>
      have failed : sink.commit = .failed /\ fault = Sink.alreadyFailed := by
        unfold Sink.beginWrite at refused
        split at refused <;> simp_all
      cases stepped
      rw [failed.2]
      exact .refuse chunk failed.1
  | offering chunk => exact offers chunk (.inl rfl) stepped
  | waiting chunk => exact offers chunk (.inr rfl) stepped
  | finished outcome => cases stepped

end Writer

end VideoRelay
