import JobPool.Watch

/-!
Callers that ask a tracker for its greatest sample. A call sends a question with one of the handles, which
waits while the channel is full, and then waits for the answer; it ends with zero if the tracker is gone
when the question is sent, or if the question is thrown away. All else around a tracker goes on as in
`Watch`, one move at a time and in any order, but nobody drops the handle that a call uses.
-/

namespace JobPool

/-- How far a call is. -/
inductive Call where
  /-- It has yet to send its question. -/
  | sending
  /-- Its question was sent, and it waits for the answer. -/
  | waiting
  | returned (greatest : UInt64)
  deriving DecidableEq, Repr

/-- The call has not ended. -/
def Call.isOpen : Call → Bool
  | returned _ => false
  | _ => true

/-- What a call that ended gave. -/
def Call.value? : Call → Option UInt64
  | returned greatest => some greatest
  | _ => none

/-- A tracker and the calls so far; a question bears the number of its call. -/
structure Inquiry where
  tracker : Tracker
  calls : List Call
  deriving DecidableEq, Repr

namespace Inquiry

/-- The moves. -/
inductive Action where
  /-- Whoever holds a handle, or the tracker, moves as if there were no calls. -/
  | watch (action : Watch.Action)
  /-- A call begins. -/
  | call
  /-- A call goes on. -/
  | go (number : Nat)
  deriving DecidableEq, Repr

/-- A tracker that was just started, before the first call. -/
def start : Inquiry := ⟨Watch.start, []⟩

/-- Some call has not ended. -/
def isBusy (s : Inquiry) : Bool := s.calls.any Call.isOpen

/-- Only calls ask, and the last handle stays as long as there is a call that uses it. -/
def admits (s : Inquiry) : Watch.Action → Bool
  | .send (.question _) => false
  | .drop => 1 < s.tracker.handles || !s.isBusy
  | _ => true

/-- Ends the call that is answered. -/
def hear (calls : List Call) : Watch.Event → List Call
  | .done (.answer number greatest) => calls.set number (.returned greatest)
  | _ => calls

/-- A call sends its question. -/
def ask (name : String) (s : Inquiry) (number : Nat) : Option (Inquiry × List Watch.Event) :=
  (Watch.step name s.tracker (.send (.question number))).map fun (tracker, events) =>
    let call : Call := if s.tracker.channel.closed then .returned 0 else .waiting
    (⟨tracker, s.calls.set number call⟩, events)

/-- A call learns that its question was thrown away. -/
def despair (s : Inquiry) (number : Nat) : Option (Inquiry × List Watch.Event) :=
  if .question number ∈ s.tracker.channel.items then none
  else some ({ s with calls := s.calls.set number (.returned 0) }, [])

/-- What a move does; none when it cannot be made now. -/
def step (name : String) (s : Inquiry) : Action → Option (Inquiry × List Watch.Event)
  | .watch action =>
    if s.admits action then
      (Watch.step name s.tracker action).map fun (tracker, events) =>
        (⟨tracker, events.foldl hear s.calls⟩, events)
    else none
  | .call => if s.tracker.handles = 0 then none else some ({ s with calls := s.calls ++ [.sending] }, [])
  | .go number =>
    match s.calls[number]? with
    | some .sending => s.ask name number
    | some .waiting => s.despair number
    | _ => none

end Inquiry

end JobPool
