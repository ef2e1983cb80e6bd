/-!
Channels with one place. A sender that finds the place taken waits in line; when the receiver takes the item, the
place is promised to the first in line, and nobody else can have it until that sender comes back.
-/

set_option autoImplicit false

namespace VideoRelay

structure Channel (A : Type) where
  place : Option A := none
  promised : Option Nat := none
  waiting : List Nat := []
  senders : Nat := 1
  receiving : Bool := true
deriving Repr, DecidableEq

namespace Channel

variable {A : Type}

inductive Offer (A : Type) where
  | taken (channel : Channel A)
  | queued (channel : Channel A)
  | blocked
  | closed

inductive Take (A : Type) where
  | item (item : A) (channel : Channel A)
  | nothing
  | finished

def isFree (channel : Channel A) : Bool :=
  channel.place.isNone && channel.promised.isNone && channel.waiting.isEmpty

/-- A closed channel refuses also the sender that the place is promised to. -/
def offer (channel : Channel A) (sender : Nat) (item : A) : Offer A :=
  if !channel.receiving then .closed
  else if channel.promised = some sender then
    .taken { channel with place := some item, promised := none }
  else if channel.isFree then .taken { channel with place := some item }
  else if sender ∈ channel.waiting then .blocked
  else .queued { channel with waiting := channel.waiting ++ [sender] }

/-- Takes the item and promises the place to the first in line. -/
def take (channel : Channel A) : Take A :=
  match channel.place with
  | some item =>
    .item item { channel with
      place := none, promised := channel.waiting.head?, waiting := channel.waiting.tail }
  | none => if channel.senders = 0 then .finished else .nothing

def addSender (channel : Channel A) : Channel A :=
  { channel with senders := channel.senders + 1 }

def dropSender (channel : Channel A) : Channel A :=
  { channel with senders := channel.senders - 1 }

/-- Takes a sender out of the line. A place that was promised to it goes to the next. -/
def withdraw (channel : Channel A) (sender : Nat) : Channel A :=
  if channel.promised = some sender then
    { channel with promised := channel.waiting.head?, waiting := channel.waiting.tail }
  else { channel with waiting := channel.waiting.erase sender }

/-- Nobody receives any more: what was left in the place is lost. -/
def close (channel : Channel A) : Channel A :=
  { channel with place := none, promised := none, waiting := [], receiving := false }

theorem offer_closed (channel : Channel A) (sender : Nat) (item : A)
    (closed : channel.receiving = false) : channel.offer sender item = .closed := by
  simp [offer, closed]

end Channel

/-- Items that have arrived and wait to be read, and whether more can come. -/
structure Source (A : Type) where
  items : List A := []
  ended : Bool := false
deriving Repr, DecidableEq

namespace Source

variable {A : Type}

inductive Next (A : Type) where
  | item (item : A) (source : Source A)
  | nothing
  | finished

def next (source : Source A) : Next A :=
  match source.items with
  | item :: rest => .item item { source with items := rest }
  | [] => if source.ended then .finished else .nothing

def push (source : Source A) (item : A) : Source A :=
  { source with items := source.items ++ [item] }

def finish (source : Source A) : Source A :=
  { source with ended := true }

end Source

end VideoRelay
