import JobPool.Proofs.Tracker.Law
import JobPool.Proofs.Tracker.Outlook
import JobPool.Watch

/-!
Runs of a tracker with those who hold handles to it. As long as its sink takes what it is given, no event is lost,
the tracker takes the events in the order in which they were sent, by whomever, and what it says is what these
events decide (`law_of_run`).
-/

namespace JobPool.Watch

open JobPool.Tracker (Told Wired since highest replies records)

/-- The event that entered the channel. -/
def Event.sent? : Event → Option Tracker.Event
  | .sent event => some event
  | _ => none

/-- What the tracker did. -/
def Event.effect? : Event → Option Tracker.Effect
  | .done effect => some effect
  | _ => none

/-- The events that entered the channel, in this order. -/
def sent (events : List Event) : List Tracker.Event := events.filterMap Event.sent?

/-- What the tracker did, in this order. -/
def said (events : List Event) : List Tracker.Effect := events.filterMap Event.effect?

/-- Who was answered, and what, in this order. -/
def answers (events : List Event) : List (Nat × UInt64) := (said events).filterMap Tracker.Effect.answer?

/-- The calls that the tracker made to its sink, in this order. -/
def calls (name : String) (events : List Event) : List Gauge.Call :=
  ((said events).filterMap Tracker.Effect.gauge?).map (Gauge.call name)

/-- A move of whoever holds a handle, or of the tracker. -/
inductive Move (name : String) (t : Tracker) : Action → List Event → Tracker → Prop
  | enter {event : Tracker.Event} (held : t.handles ≠ 0) (unclosed : t.channel.closed = false)
      (room : t.channel.items.length < t.channel.capacity) :
      Move name t (.send event) [.sent event] { t with channel := t.channel.push event }
  | lose {event : Tracker.Event} (held : t.handles ≠ 0) (closed : t.channel.closed = true) :
      Move name t (.send event) [.lost event] t
  | clone (held : t.handles ≠ 0) : Move name t .clone [] t.retain
  | drop (held : t.handles ≠ 0) : Move name t .drop [] t.release
  | tracker {accepts : Bool} {effects : List Tracker.Effect} {u : Tracker} (own : Tracker.Move name t effects u)
      (kept : accepts = true → u.status ≠ .died) : Move name t (.tracker accepts) (effects.map .done) u

/-- What happens in a step is a move of somebody. -/
theorem move_of_step {name : String} {t u : Tracker} {action : Action} {events : List Event}
    (moved : step name t action = some (u, events)) : Move name t action events u := by
  cases action with
  | send event =>
    simp only [step] at moved
    split at moved
    · cases moved
    · rename_i held
      obtain ⟨v, entered, same⟩ := Option.map_eq_some_iff.mp moved
      cases same
      rcases Tracker.send_eq_some.mp entered with ⟨closed, rfl⟩ | ⟨unclosed, room, rfl⟩
      · simp only [closed, ↓reduceIte]
        exact .lose held closed
      · simp only [unclosed, Bool.false_eq_true, ↓reduceIte]
        exact .enter held unclosed room
  | clone =>
    simp only [step] at moved
    split at moved
    · cases moved
    · cases moved; exact .clone (by assumption)
  | drop =>
    simp only [step] at moved
    split at moved
    · cases moved
    · cases moved; exact .drop (by assumption)
  | tracker accepts =>
    obtain ⟨⟨v, effects⟩, advanced, same⟩ := Option.map_eq_some_iff.mp moved
    cases same
    refine .tracker (Tracker.move_of_advance advanced) fun accepted => ?_
    subst accepted
    exact Tracker.undied_of_advance advanced

/-- A tracker whose sink takes everything, after what happened so far. -/
structure Lawful (taken : List Tracker.Event) (events : List Event) (t : Tracker) : Prop where
  order : sent events = taken ++ t.channel.items
  told : Told taken (said events) t
  unlost : ∀ event, .lost event ∉ events
  wired : Wired t.handles t
  living : t.isAlive = true ∨ t.handles = 0 ∧ t.channel.items = []

private theorem lawful_start : Lawful [] [] start := ⟨rfl, Tracker.told_new 1, by simp, Tracker.wired_new 1, .inl rfl⟩

variable {name : String} {t u : Tracker} {taken : List Tracker.Event} {events new : List Event} {action : Action}

private theorem said_append (events more : List Event) : said (events ++ more) = said events ++ said more :=
  List.filterMap_append

private theorem said_done (effects : List Tracker.Effect) : said (effects.map .done) = effects := by
  simp [said, Event.effect?, List.filterMap_map, Function.comp_def]

private theorem sent_done (effects : List Tracker.Effect) : sent (effects.map .done) = [] := by
  simp [sent, Event.sent?, List.filterMap_map, Function.comp_def]

namespace Lawful

/-- While somebody holds a handle, the tracker is alive. -/
theorem alive (lawful : Lawful taken events t) (held : t.handles ≠ 0) : t.isAlive = true := by
  rcases lawful.living with alive | ⟨alone, -⟩
  · exact alive
  · exact absurd alone held

/-- What whoever holds a handle does with it. -/
theorem silent (lawful : Lawful taken events t) (greatest : u.greatest = t.greatest)
    (items : u.channel.items = t.channel.items) (wired : Wired u.handles u) (alive : u.isAlive = true) :
    Lawful taken (events ++ []) u := by
  rw [List.append_nil]
  refine ⟨?_, ⟨lawful.told.replies, lawful.told.records, ?_⟩, lawful.unlost, wired, .inl alive⟩
  · rw [items]
    exact lawful.order
  · rw [greatest]
    exact lawful.told.greatest

/-- A move of the tracker. -/
theorem own {effects : List Tracker.Effect} (lawful : Lawful taken events t) (moved : Tracker.Move name t effects u)
    (undied : u.status ≠ .died) : ∃ more, Lawful more (events ++ effects.map .done) u := by
  have handles : u.handles = t.handles := by cases moved <;> rfl
  have wired : Wired u.handles u := by
    rw [handles]
    exact lawful.wired.move moved
  have order : sent (events ++ effects.map .done) = taken ++ t.channel.items := by
    rw [sent, List.filterMap_append, ← sent, ← sent, sent_done, List.append_nil, lawful.order]
  have unlost : ∀ event, .lost event ∉ events ++ effects.map .done := by simp [lawful.unlost]
  have heard : said (events ++ effects.map .done) = said events ++ effects := by rw [said_append, said_done]
  rcases lawful.told.move moved undied with ⟨event, first, told⟩ | ⟨empty, left, told⟩
  · refine ⟨taken ++ [event], ?_, by rw [heard]; exact told, unlost, wired, ?_⟩
    · rw [order, first, List.append_assoc]
      rfl
    · left
      cases moved with
      | die => exact absurd rfl undied
      | retire alive empty => simp [empty] at first
      | reset status | answer status | raise status | skip status => simpa [Tracker.isAlive] using status
  · refine ⟨taken, by rw [order, empty, left], by rw [heard]; exact told, unlost, wired, ?_⟩
    right
    cases moved with
    | retire alive empty alone => exact ⟨alone, left⟩
    | die => exact absurd rfl undied
    | reset status first | answer status first | raise status first | skip status first => simp [empty] at first

private theorem move (lawful : Lawful taken events t) (moved : Move name t action new u)
    (returns : action ≠ .tracker false) :
    ∃ more, Lawful more (events ++ new) u := by
  cases moved with
  | @enter event held unclosed room =>
    have alive := lawful.alive held
    have entered : t.send event = some { t with channel := t.channel.push event } :=
      Tracker.send_eq_some.mpr (.inr ⟨unclosed, room, rfl⟩)
    have heard : said (events ++ [.sent event]) = said events := by simp [said, Event.effect?]
    refine ⟨taken, ?_, ?_, by simp [lawful.unlost], lawful.wired.send entered, .inl alive⟩
    · rw [sent, List.filterMap_append, ← sent, lawful.order, List.append_assoc]
      rfl
    · rw [heard]
      exact ⟨lawful.told.replies, lawful.told.records, lawful.told.greatest⟩
  | lose held closed =>
    have alive := lawful.alive held
    rw [lawful.wired.closed, alive] at closed
    cases closed
  | clone held =>
    have alive := lawful.alive held
    exact ⟨taken, lawful.silent rfl rfl ⟨lawful.wired.capacity, lawful.wired.closed, rfl⟩ alive⟩
  | drop held =>
    have alive := lawful.alive held
    rw [Tracker.release_of_alive alive]
    exact ⟨taken, lawful.silent rfl rfl ⟨lawful.wired.capacity, lawful.wired.closed, rfl⟩ alive⟩
  | @tracker accepts effects _ own kept =>
    cases accepts with
    | false => exact absurd rfl returns
    | true => exact lawful.own own (kept rfl)

/-- The tracker gets through with what is in its channel. -/
theorem drains {items : List Tracker.Event} (lawful : Lawful taken events t) (waiting : t.channel.items = items) :
    ∃ u more, Runs.run (step name) t (List.replicate items.length (.tracker true)) = some (u, more) ∧
      u.channel.items = [] := by
  induction items generalizing taken events t with
  | nil => exact ⟨t, [], rfl, waiting⟩
  | cons event rest ih =>
    have full : t.channel.items ≠ [] := by simp [waiting]
    have alive : t.isAlive = true := by
      rcases lawful.living with alive | ⟨-, empty⟩
      · exact alive
      · exact absurd empty full
    obtain ⟨⟨u, effects⟩, advanced⟩ := Option.isSome_iff_exists.mp (Tracker.advance_isSome name true alive (.inl full))
    have moved := Tracker.move_of_advance advanced
    have undied := Tracker.undied_of_advance advanced
    have left : u.channel.items = rest := by
      rcases lawful.told.move moved undied with ⟨first, same, -⟩ | ⟨empty, -⟩
      · rw [waiting] at same
        exact (List.cons_eq_cons.mp same).2.symm
      · exact absurd empty full
    obtain ⟨more, next⟩ := lawful.own moved undied
    obtain ⟨v, later, ran, emptied⟩ := ih next left
    refine ⟨v, _, Runs.run_cons.mpr ⟨u, effects.map .done, later, ?_, ran, rfl⟩, emptied⟩
    simp [step, advanced]

end Lawful

variable {actions : List Action}

private theorem lawful_of_run (returns : .tracker false ∉ actions) (ran : Runs.run (step name) start actions =
    some (t, events)) :
    ∃ taken, Lawful taken events t := by
  refine Runs.run_induction (motive := fun actions events t => .tracker false ∉ actions → ∃ taken,
    Lawful taken events t)
    (fun _ => ⟨[], lawful_start⟩) ?_ ran returns
  intro actions past t action new u first before last returns
  simp only [List.mem_append, List.mem_singleton, not_or] at returns
  obtain ⟨taken, lawful⟩ := before returns.1
  exact lawful.move (move_of_step last) (Ne.symm returns.2)

/-- In every run of a tracker whose sink takes what it is given, whoever holds handles and however they take turns: no
    event is lost, the tracker takes the events in the order in which they were sent, and it gets through with them.
    Each question is answered with the greatest sample since the last reset before it, and the calls to the sink are the
    records of the samples, each among those since the last reset. So the replies never get less between resets,
    and what follows a reset is answered and written as if nothing had been before. -/
theorem law_of_run (returns : .tracker false ∉ actions) (ran : Runs.run (step name) start actions = some (t, events)) :
    (∀ event, .lost event ∉ events) ∧
    (∃ u more, Runs.run (step name) t (List.replicate t.channel.items.length (.tracker true)) = some (u, more) ∧
      u.channel.items = []) ∧
    ∃ taken, sent events = taken ++ t.channel.items ∧
      answers events = replies taken ∧
      calls name events = (records taken).map (Gauge.call name) ∧
      (∀ past caller between other later,
        taken = past ++ .question caller :: (between ++ .question other :: later) → .reset ∉ between →
          highest (since past) ≤ highest (since (past ++ .question caller :: between))) ∧
      ∀ past later, taken = past ++ .reset :: later →
        answers events = replies past ++ replies later ∧
        calls name events = (records past ++ records later).map (Gauge.call name) := by
  obtain ⟨taken, lawful⟩ := lawful_of_run returns ran
  have answered : answers events = replies taken := lawful.told.replies
  have called : calls name events = (records taken).map (Gauge.call name) := by rw [calls, lawful.told.records]
  refine ⟨lawful.unlost, lawful.drains rfl, taken, lawful.order, answered, called, ?_, ?_⟩
  · rintro past caller between other later - unreset
    have quiet : .reset ∉ .question caller :: between := by simp [unreset]
    exact Tracker.highest_since_le past quiet
  · rintro past later rfl
    rw [answered, called, Tracker.replies_reset, Tracker.records_reset]
    exact ⟨rfl, rfl⟩

/-- Two handles: samples that rise, fall and tie, a question, a reset, and a lower sample before the next question. -/
def chatter : List Action :=
  [.clone, .send (.sample 2), .send (.sample 3), .tracker true, .send (.sample 3), .send (.question 7), .drop] ++
    List.replicate 3 (.tracker true) ++
    [.send .reset, .send (.sample 0), .send (.sample 1), .send (.question 8)] ++ List.replicate 4 (.tracker true)

theorem chatter_lawful :
    answers (Runs.after (step "orders") start chatter).2 = [(7, 3), (8, 1)] ∧
      calls "orders" (Runs.after (step "orders") start chatter).2 =
        [⟨2, "MAX-WORKERS", ["orders"]⟩, ⟨3, "MAX-WORKERS", ["orders"]⟩, ⟨1, "MAX-WORKERS", ["orders"]⟩] ∧
      ∃ taken, answers (Runs.after (step "orders") start chatter).2 = replies taken ∧
        calls "orders" (Runs.after (step "orders") start chatter).2 = (records taken).map (Gauge.call "orders") := by
  have ran : Runs.run (step "orders") start chatter = some (Runs.after (step "orders") start chatter) :=
    Runs.run_after rfl
  have returns : .tracker false ∉ chatter := by decide
  obtain ⟨-, -, taken, -, answered, called, -⟩ := law_of_run returns ran
  exact ⟨rfl, rfl, taken, answered, called⟩

end JobPool.Watch
