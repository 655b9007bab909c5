import JobPool.Tracker

/-!
What a tracker can do, move by move (`move_of_advance`), and what becomes of an event that is sent
to it (`send_eq_some`).
-/

namespace JobPool.Tracker

/-- A move of a tracker, with what it does for others. -/
inductive Move (name : String) (t : Tracker) : List Effect → Tracker → Prop
  | reset {rest : List Event} (alive : t.status = .alive) (first : t.channel.items = .reset :: rest) :
      Move name t [.log (forgotten name)] { t with channel := { t.channel with items := rest }, greatest := 0 }
  | answer {caller : Nat} {rest : List Event} (alive : t.status = .alive)
      (first : t.channel.items = .question caller :: rest) :
      Move name t [.answer caller t.greatest] { t with channel := { t.channel with items := rest } }
  | raise {busy : UInt64} {rest : List Event} (alive : t.status = .alive)
      (first : t.channel.items = .sample busy :: rest) (greater : t.greatest < busy) :
      Move name t [.log (raised name busy), .gauge busy]
        { t with channel := { t.channel with items := rest }, greatest := busy }
  | die {busy : UInt64} {rest : List Event} (alive : t.status = .alive)
      (first : t.channel.items = .sample busy :: rest) (greater : t.greatest < busy) :
      Move name t [.log (raised name busy), .gauge busy]
        { t with channel := { t.channel with items := rest, closed := true }, greatest := busy, status := .died }
  | skip {busy : UInt64} {rest : List Event} (alive : t.status = .alive)
      (first : t.channel.items = .sample busy :: rest) (least : ¬ t.greatest < busy) :
      Move name t [] { t with channel := { t.channel with items := rest } }
  | retire (alive : t.status = .alive) (empty : t.channel.items = []) (alone : t.handles = 0) :
      Move name t [.log (endedRecord name)] { t with status := .ended, channel := t.channel.close }

/-- What a tracker does is one of its moves. -/
theorem move_of_advance {name : String} {accepts : Bool} {t t' : Tracker} {effects : List Effect}
    (moved : t.advance name accepts = some (t', effects)) : Move name t effects t' := by
  obtain ⟨⟨capacity, items, closed⟩, handles, greatest, status⟩ := t
  unfold advance at moved
  cases status with
  | ended | died => cases moved
  | alive =>
    cases items with
    | nil =>
      simp only [Channel.take?] at moved
      split at moved
      · cases moved; exact .retire rfl rfl (by assumption)
      · cases moved
    | cons event rest =>
      simp only [Channel.take?, Option.some.injEq] at moved
      cases event with
      | reset => cases moved; exact .reset rfl rfl
      | question caller => cases moved; exact .answer rfl rfl
      | sample busy =>
        simp only [handle] at moved
        split at moved
        · split at moved
          · cases moved; exact .raise rfl rfl (by assumption)
          · cases moved; exact .die rfl rfl (by assumption)
        · cases moved; exact .skip rfl rfl (by assumption)

/-- An event enters the channel, or is lost because that is closed. -/
theorem send_eq_some {t t' : Tracker} {event : Event} :
    t.send event = some t' ↔
      (t.channel.closed = true ∧ t' = t) ∨
        (t.channel.closed = false ∧ t.channel.items.length < t.channel.capacity ∧
          t' = { t with channel := t.channel.push event }) := by
  unfold send
  cases closed : t.channel.closed with
  | true => simp [Channel.offer_of_closed closed, eq_comm]
  | false =>
    by_cases room : t.channel.items.length < t.channel.capacity
    · simp [Channel.offer_of_room closed room, room, eq_comm]
    · simp [Channel.offer_of_full closed room, room]

/-- An event has to wait only while the channel is full. -/
theorem send_eq_none {t : Tracker} {event : Event} :
    t.send event = none ↔ t.channel.closed = false ∧ t.channel.capacity ≤ t.channel.items.length := by
  unfold send
  cases closed : t.channel.closed with
  | true => simp [Channel.offer_of_closed closed]
  | false =>
    by_cases room : t.channel.items.length < t.channel.capacity
    · simp [Channel.offer_of_room closed room, room]
    · simp [Channel.offer_of_full closed room, Nat.le_of_not_lt room]

/-- What is written to the gauge, if anything, is the next value; only then does it matter whether the gauge takes it. -/
theorem advance_of_nextGauge (name : String) (accepts : Bool) (t : Tracker) :
    match t.nextGauge? with
    | none => t.advance name accepts = t.advance name true ∧ ∀ t' effects, t.advance name true = some (t', effects) →
        ∀ value, .gauge value ∉ effects
    | some value => ∃ u, t.advance name true = some (u, [.log (raised name value), .gauge value]) ∧
        t.advance name accepts =
          some (if accepts then u else { u with status := .died, channel := u.channel.close },
            [.log (raised name value), .gauge value]) := by
  obtain ⟨⟨capacity, items, closed⟩, handles, greatest, status⟩ := t
  cases status with
  | ended | died => exact ⟨rfl, nofun⟩
  | alive =>
    cases items with
    | nil =>
      refine ⟨rfl, fun t' effects advanced value => ?_⟩
      simp only [advance, Channel.take?] at advanced
      split at advanced
      · cases advanced; simp
      · cases advanced
    | cons event rest =>
      cases event with
      | reset => exact ⟨rfl, fun _ _ advanced _ => by cases advanced; simp⟩
      | question caller => exact ⟨rfl, fun _ _ advanced _ => by cases advanced; simp⟩
      | sample busy =>
        by_cases greater : greatest < busy
        · simp only [nextGauge?, greater, ↓reduceIte]
          refine ⟨_, by simp only [advance, Channel.take?, handle, greater, ↓reduceIte]; rfl, ?_⟩
          cases accepts <;> simp [advance, Channel.take?, handle, greater, Channel.close]
        · simp only [nextGauge?, greater, ↓reduceIte]
          refine ⟨by simp [advance, Channel.take?, handle, greater], fun _ _ advanced _ => ?_⟩
          simp only [advance, Channel.take?, handle, greater, ↓reduceIte] at advanced
          cases advanced
          simp

end JobPool.Tracker
