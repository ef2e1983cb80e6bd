import VideoRelay.Bridge

set_option autoImplicit false

namespace VideoRelay

/-- A bridge whose foreground and storage task run in parallel. In each turn a task looks first whether it has to stop.
What it does afterwards rests on that look, whatever was done to the bridge in the meantime. -/
structure Tasks where
  bridge : Bridge := {}
  pumpLooked : Bool := false
  foregroundLooked : Bool := false

namespace Tasks

inductive Action where
  | lookPump
  | lookForeground
  | move (action : Bridge.Action)

def lookPump (tasks : Tasks) : Option Tasks :=
  if tasks.bridge.pump.isRunning then
    if tasks.bridge.cancelled then
      some { tasks with bridge := tasks.bridge.endPump (.ok ()), pumpLooked := false }
    else some { tasks with pumpLooked := true }
  else none

def lookForeground (tasks : Tasks) : Option Tasks :=
  if tasks.bridge.foreground.isWorking then
    if tasks.bridge.storageFailed then
      some { tasks with bridge := tasks.bridge.leaveCall none, foregroundLooked := false }
    else some { tasks with foregroundLooked := true }
  else none

def movePump (tasks : Tasks) : Option Tasks :=
  if tasks.pumpLooked then
    some { tasks with bridge := tasks.bridge.workPump.getD tasks.bridge, pumpLooked := false }
  else none

/-- The foreground goes on in one turn as long as the encoder has something ready. -/
def moveForeground (tasks : Tasks) : Option Tasks :=
  if tasks.bridge.foreground.isWorking then
    if tasks.foregroundLooked then
      match tasks.bridge.workForeground with
      | some bridge => some { tasks with bridge }
      | none => some { tasks with foregroundLooked := false }
    else none
  else tasks.bridge.join.map fun bridge => { tasks with bridge }

/-- Storage is asked for the video in the turn in which it was dialed. -/
def dialedStorage (tasks : Tasks) (dialed : Except Fault Unit) : Option Tasks :=
  if tasks.pumpLooked then (tasks.bridge.reachStorage dialed).map fun bridge => { tasks with bridge } else none

def openedVideo (tasks : Tasks) (opened : Except Status Unit) : Option Tasks :=
  if tasks.pumpLooked then
    (tasks.bridge.openVideo opened).map fun bridge => { tasks with bridge, pumpLooked := false }
  else none

def act (tasks : Tasks) : Action -> Option Tasks
  | .lookPump => tasks.lookPump
  | .lookForeground => tasks.lookForeground
  | .move .pump => tasks.movePump
  | .move .foreground => tasks.moveForeground
  | .move (.dialedStorage dialed) => tasks.dialedStorage dialed
  | .move (.openedVideo opened) => tasks.openedVideo opened
  | .move action => (tasks.bridge.act action).map fun bridge => { tasks with bridge }

end Tasks

end VideoRelay
