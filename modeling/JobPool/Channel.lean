import JobPool.Fault

/-!
Bounded channels: messages leave in the order in which they came, a full channel takes none, and a
closed channel takes none for good but still gives out what it holds.
-/

namespace JobPool

/-- A bounded channel. -/
structure Channel (α : Type) where
  capacity : Nat
  items : List α
  closed : Bool
  deriving DecidableEq, Repr

/-- What becomes of a message that is offered to a channel. -/
inductive Offer (α : Type) where
  | taken (channel : Channel α)
  | full
  | closed

namespace Channel

variable {α : Type}

/-- An open channel without messages. -/
def empty (capacity : Nat) : Channel α := ⟨capacity, [], false⟩

/-- The greatest capacity: the slots of a channel, of 24 bytes each, do not reach beyond the signed
64-bit words. -/
def greatestCapacity : Nat := 384307168202282325

/-- A channel can be as large as this. -/
def checkCapacity (capacity : Nat) : Except Fault Unit :=
  if capacity = 0 then .error .noCapacity
  else if greatestCapacity < capacity then .error .capacityOverflow
  else .ok ()

/-- A new channel; it needs room for a message. -/
def create (capacity : Nat) : Except Fault (Channel α) := do
  checkCapacity capacity
  return .empty capacity

/-- There is room for one more message. -/
def hasRoom (c : Channel α) : Bool := c.items.length < c.capacity

/-- The channel with a message at its end. -/
def push (c : Channel α) (a : α) : Channel α := { c with items := c.items ++ [a] }

/-- Offers a message. -/
def offer (c : Channel α) (a : α) : Offer α :=
  if c.closed then .closed else if c.hasRoom then .taken (c.push a) else .full

theorem offer_of_closed {c : Channel α} (closed : c.closed = true) (a : α) : c.offer a = .closed := by
  simp [offer, closed]

theorem offer_of_room {c : Channel α} (unclosed : c.closed = false) (room : c.items.length < c.capacity) (a : α) :
    c.offer a = .taken (c.push a) := by
  simp [offer, hasRoom, unclosed, room]

theorem offer_of_full {c : Channel α} (unclosed : c.closed = false) (full : ¬ c.items.length < c.capacity) (a : α) :
    c.offer a = .full := by
  simp [offer, hasRoom, unclosed, full]

/-- Takes the first message. -/
def take? (c : Channel α) : Option (α × Channel α) :=
  match c.items with
  | [] => none
  | a :: rest => some (a, { c with items := rest })

/-- Closes the channel. -/
def close (c : Channel α) : Channel α := { c with closed := true }

end Channel

end JobPool
