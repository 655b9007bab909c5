import JobPool.Inquiry
import JobPool.Proofs.Watch.Run

/-!
Runs of a tracker with callers that wait for its answers. The calls that wait are those whose question is in the
channel (`Asked`), so a tracker that lives gets to each of them. When it dies its channel keeps what is in it as long as
there is a handle, and a waiting call has one: whoever asked behind the value that the sink refused waits for good
(`Stranded.keeps`), while a call that has yet to ask comes back with zero.
-/

namespace JobPool.Inquiry

open JobPool.Tracker (Wired absorb)

variable {name : String} {s t u : Inquiry} {action : Action} {actions : List Action} {events : List Watch.Event}
  {number : Nat}

/-- A move of a call, or of whoever is around the tracker. -/
inductive Move (name : String) (s : Inquiry) : Action → List Watch.Event → Inquiry → Prop
  | watch {action : Watch.Action} {events : List Watch.Event} {tracker : Tracker} (admitted : s.admits action = true)
      (moved : Watch.Move name s.tracker action events tracker) :
      Move name s (.watch action) events ⟨tracker, events.foldl hear s.calls⟩
  | call (held : s.tracker.handles ≠ 0) : Move name s .call [] { s with calls := s.calls ++ [.sending] }
  | ask {number : Nat} (found : s.calls[number]? = some .sending) (unclosed : s.tracker.channel.closed = false) :
      Move name s (.go number) [.sent (.question number)]
        ⟨{ s.tracker with channel := s.tracker.channel.push (.question number) }, s.calls.set number .waiting⟩
  | refuse {number : Nat} (found : s.calls[number]? = some .sending) (closed : s.tracker.channel.closed = true) :
      Move name s (.go number) [.lost (.question number)] { s with calls := s.calls.set number (.returned 0) }
  | despair {number : Nat} (found : s.calls[number]? = some .waiting)
      (gone : .question number ∉ s.tracker.channel.items) :
      Move name s (.go number) [] { s with calls := s.calls.set number (.returned 0) }

/-- What happens in a step is a move of somebody. -/
theorem move_of_step (moved : step name s action = some (t, events)) : Move name s action events t := by
  cases action with
  | watch action =>
    simp only [step] at moved
    split at moved
    · rename_i admitted
      obtain ⟨⟨tracker, told⟩, stepped, same⟩ := Option.map_eq_some_iff.mp moved
      cases same
      exact .watch admitted (Watch.move_of_step stepped)
    · cases moved
  | call =>
    simp only [step] at moved
    split at moved
    · cases moved
    · cases moved
      exact .call (by assumption)
  | go number =>
    simp only [step] at moved
    split at moved
    · rename_i found
      obtain ⟨⟨tracker, told⟩, stepped, same⟩ := Option.map_eq_some_iff.mp moved
      cases same
      cases Watch.move_of_step stepped with
      | enter held unclosed room =>
        simp only [unclosed, Bool.false_eq_true, ↓reduceIte]
        exact .ask found unclosed
      | lose held closed =>
        simp only [closed, ↓reduceIte]
        exact .refuse found closed
    · rename_i found
      simp only [despair] at moved
      split at moved
      · cases moved
      · cases moved
        exact .despair found (by assumption)
    · cases moved

section asked

variable {items rest : List Tracker.Event} {calls : List Call} {event : Tracker.Event}

/-- The calls that wait are those whose question is there, once each. -/
def Asked (items : List Tracker.Event) (calls : List Call) : Prop :=
  ∀ n, items.count (.question n) = if calls[n]? = some .waiting then 1 else 0

private theorem Asked.mem (asked : Asked items calls) : calls[number]? = some .waiting ↔ .question number ∈ items := by
  rw [← List.count_pos_iff, asked number]
  split <;> simp_all

private theorem Asked.push (asked : Asked items calls) (other : ∀ n, event ≠ .question n) :
    Asked (items ++ [event]) calls := by
  intro n
  have none : [event].count (.question n) = 0 := List.count_eq_zero.mpr (by simpa using (other n).symm)
  rw [List.count_append, none, Nat.add_zero]
  exact asked n

private theorem Asked.take (asked : Asked (event :: rest) calls) (other : ∀ n, event ≠ .question n) :
    Asked rest calls := by
  intro n
  rw [← asked n, List.count_cons_of_ne (other n)]

/-- A call that does not wait changes, but does not begin to wait. -/
theorem Asked.set (asked : Asked items calls) {call : Call} (before : calls[number]? ≠ some .waiting)
    (after : call ≠ .waiting) : Asked items (calls.set number call) := by
  intro n
  rw [asked n]
  by_cases same : number = n
  · subst same
    have still : (calls.set number call)[number]? ≠ some .waiting := by
      rw [List.getElem?_set, if_pos rfl]
      split <;> simp [after]
    rw [if_neg before, if_neg still]
  · rw [List.getElem?_set_ne same]

private theorem Asked.ask (asked : Asked items calls) (found : calls[number]? = some .sending) :
    Asked (items ++ [.question number]) (calls.set number .waiting) := by
  obtain ⟨inside, -⟩ := List.getElem?_eq_some_iff.mp found
  intro n
  rw [List.count_append, asked n]
  by_cases same : number = n
  · subst same
    rw [found, List.getElem?_set_self inside, List.count_singleton_self]
    rfl
  · have none : [Tracker.Event.question number].count (.question n) = 0 :=
      List.count_eq_zero.mpr (by simpa using Ne.symm same)
    rw [none, List.getElem?_set_ne same, Nat.add_zero]

private theorem Asked.answer (asked : Asked (.question number :: rest) calls) (greatest : UInt64) :
    Asked rest (calls.set number (.returned greatest)) := by
  intro n
  have before := asked n
  by_cases same : number = n
  · subst same
    have waiting : calls[number]? = some .waiting := asked.mem.mpr List.mem_cons_self
    obtain ⟨inside, -⟩ := List.getElem?_eq_some_iff.mp waiting
    rw [List.count_cons_self, if_pos waiting] at before
    rw [List.getElem?_set_self inside, if_neg (by simp)]
    omega
  · rw [List.getElem?_set_ne same, ← before, List.count_cons_of_ne (by simpa using same)]

private theorem Asked.call (asked : Asked items calls) : Asked items (calls ++ [.sending]) := by
  intro n
  rw [asked n]
  by_cases inside : n < calls.length
  · rw [List.getElem?_append_left inside]
  · have late : (calls ++ [.sending])[n]? ≠ some .waiting := by
      rw [List.getElem?_append_right (Nat.le_of_not_lt inside)]
      cases n - calls.length <;> simp
    rw [if_neg late, List.getElem?_eq_none (Nat.le_of_not_lt inside)]
    rfl

/-- Where no call is open, there is no question. -/
theorem Asked.of_idle (asked : Asked items calls) (idle : calls.any Call.isOpen = false) : Asked [] calls := by
  intro n
  rw [← asked n, List.count_nil, asked n, if_neg]
  intro waiting
  have isOpen := List.any_eq_false.mp idle _ (List.mem_of_getElem? waiting)
  simp [Call.isOpen] at isOpen

end asked

/-- The invariant: who waits has a question in the channel, and who calls has a handle. -/
structure Orderly (s : Inquiry) : Prop where
  wired : Wired s.tracker.handles s.tracker
  asked : Asked s.tracker.channel.items s.calls
  held : s.isBusy = true → s.tracker.handles ≠ 0
  ended : s.tracker.status = .ended → s.tracker.handles = 0

private theorem orderly_start : Orderly start := by
  refine ⟨Tracker.wired_new 1, fun n => ?_, nofun, nofun⟩
  simp [start, Watch.start, Tracker.new, Channel.empty]

private theorem isBusy_of_open {call : Call} (found : s.calls[number]? = some call) (opened : call.isOpen = true) :
    s.isBusy = true :=
  List.any_eq_true.mpr ⟨call, List.mem_of_getElem? found, opened⟩

/-- A call that ends makes nobody busy. -/
theorem isBusy_of_set {calls : List Call} {greatest : UInt64}
    (busy : (calls.set number (.returned greatest)).any Call.isOpen = true) : calls.any Call.isOpen = true := by
  obtain ⟨call, member, opened⟩ := List.any_eq_true.mp busy
  rcases List.mem_or_eq_of_mem_set member with old | rfl
  · exact List.any_eq_true.mpr ⟨call, old, opened⟩
  · cases opened

namespace Orderly

/-- The tracker moves, and who is answered waits no more. -/
theorem own {effects : List Tracker.Effect} {tracker : Tracker} (orderly : Orderly s)
    (moved : Tracker.Move name s.tracker effects tracker) :
    Orderly ⟨tracker, (effects.map .done).foldl hear s.calls⟩ := by
  have wired := orderly.wired.move moved
  have asked := orderly.asked
  cases moved with
  | reset alive first | raise alive first | skip alive first =>
    rw [first] at asked
    exact ⟨wired, asked.take nofun, orderly.held, orderly.ended⟩
  | die alive first =>
    rw [first] at asked
    exact ⟨wired, asked.take nofun, orderly.held, nofun⟩
  | answer alive first =>
    rw [first] at asked
    exact ⟨wired, asked.answer _, fun busy => orderly.held (isBusy_of_set busy), orderly.ended⟩
  | retire alive empty alone => exact ⟨wired, asked, orderly.held, fun _ => alone⟩

/-- Somebody drops a handle that no call uses. -/
theorem release (orderly : Orderly s) (held : s.tracker.handles ≠ 0) (admitted : s.admits .drop = true) :
    Orderly { s with tracker := s.tracker.release } := by
  have spare : s.isBusy = true → 1 < s.tracker.handles := by
    intro busy
    simpa [admits, busy] using admitted
  obtain ⟨n, handles⟩ := Nat.exists_eq_add_one_of_ne_zero held
  have wired : Wired n s.tracker.release := by
    refine Wired.release ?_
    rw [← handles]
    exact orderly.wired
  have left : s.tracker.release.handles = n := wired.handles
  refine ⟨left.symm ▸ wired, ?_, fun busy => ?_, fun ended => ?_⟩
  · unfold Tracker.release
    simp only
    split
    · next last =>
      -- the last handle is dropped, so no call is open
      have idle : s.isBusy = false := by
        by_contra busy
        have many := spare ((Bool.not_eq_false _).mp busy)
        omega
      exact orderly.asked.of_idle idle
    · exact orderly.asked
  · have many := spare busy
    simp only [left]
    omega
  · rw [Tracker.status_of_release] at ended
    exact absurd (orderly.ended ended) held

private theorem watch {action : Watch.Action} {tracker : Tracker} (orderly : Orderly s)
    (admitted : s.admits action = true)
    (moved : Watch.Move name s.tracker action events tracker) : Orderly ⟨tracker, events.foldl hear s.calls⟩ := by
  cases moved with
  | @enter event held unclosed room =>
    have other : ∀ n, event ≠ .question n := by
      rintro n rfl
      cases admitted
    exact ⟨⟨orderly.wired.capacity, orderly.wired.closed, rfl⟩, orderly.asked.push other, orderly.held, orderly.ended⟩
  | lose => exact orderly
  | clone held =>
    exact ⟨⟨orderly.wired.capacity, orderly.wired.closed, rfl⟩, orderly.asked, fun _ => Nat.succ_ne_zero _,
      fun ended => absurd (orderly.ended ended) held⟩
  | drop held => exact orderly.release held admitted
  | tracker own => exact orderly.own own

/-- Every move keeps the invariant. -/
theorem move (orderly : Orderly s) (moved : Move name s action events t) : Orderly t := by
  cases moved with
  | watch admitted moved => exact orderly.watch admitted moved
  | call held => exact ⟨orderly.wired, orderly.asked.call, fun _ => held, orderly.ended⟩
  | @ask number found unclosed =>
    have busy := isBusy_of_open found rfl
    exact ⟨⟨orderly.wired.capacity, orderly.wired.closed, rfl⟩, orderly.asked.ask found, fun _ => orderly.held busy,
      orderly.ended⟩
  | refuse found closed =>
    exact ⟨orderly.wired, orderly.asked.set (by simp [found]) nofun, fun busy => orderly.held (isBusy_of_set busy),
      orderly.ended⟩
  | despair found gone => exact absurd (orderly.asked.mem.mp found) gone

end Orderly

private theorem orderly_of_run (ran : Runs.run (step name) start actions = some (s, events)) : Orderly s :=
  Runs.run_induction (motive := fun _ _ s => Orderly s) orderly_start
    (fun _ orderly last => orderly.move (move_of_step last)) ran

section asking

variable (orderly : Orderly s) (found : s.calls[number]? = some .sending)
include orderly found

/-- A call whose question has to wait for room waits for a tracker that moves. -/
theorem go_or_tracker_moves :
    (step name s (.go number)).isSome = true ∨
      ∀ accepts, (step name s (.watch (.tracker accepts))).isSome = true := by
  have held := orderly.held (isBusy_of_open found rfl)
  cases sent : s.tracker.send (.question number) with
  | none =>
    right
    intro accepts
    have advanced := orderly.wired.moves_on sent name accepts
    simpa [step, admits, Watch.step] using advanced
  | some tracker =>
    left
    simp [step, found, ask, Watch.step, held, sent]

/-- A call that asks a tracker that is gone comes back with zero. -/
theorem go_of_gone (gone : s.tracker.isAlive = false) :
    step name s (.go number) =
      some ({ s with calls := s.calls.set number (.returned 0) }, [.lost (.question number)]) := by
  have held := orderly.held (isBusy_of_open found rfl)
  have closed : s.tracker.channel.closed = true := by rw [orderly.wired.closed, gone]; rfl
  have sent : s.tracker.send (.question number) = some s.tracker := Tracker.send_eq_some.mpr (.inl ⟨closed, rfl⟩)
  simp [step, found, ask, Watch.step, held, sent, closed]

end asking

/-- A tracker whose sink takes what it is given gets through with its next event, and lives on. -/
theorem next_event (name : String) {event : Tracker.Event} {rest : List Tracker.Event}
    (alive : s.tracker.isAlive = true)
    (queued : s.tracker.channel.items = event :: rest) :
    ∃ t told, step name s (.watch (.tracker true)) = some (t, told) ∧ t.tracker.isAlive = true ∧
      t.tracker.channel.items = rest ∧ t.tracker.greatest = absorb s.tracker.greatest event ∧
      t.calls.length = s.calls.length ∧
      ∀ n, event = .question n → t.calls = s.calls.set n (.returned s.tracker.greatest) := by
  have full : s.tracker.channel.items ≠ [] := by simp [queued]
  obtain ⟨⟨tracker, effects⟩, advanced⟩ := Option.isSome_iff_exists.mp
    (Tracker.advance_isSome name true alive (.inl full))
  have stepped : step name s (.watch (.tracker true)) =
      some (⟨tracker, (effects.map .done).foldl hear s.calls⟩, effects.map .done) := by
    simp [step, admits, Watch.step, advanced]
  have undied := Tracker.undied_of_advance advanced
  have moved := Tracker.move_of_advance advanced
  have lives : tracker.isAlive = true := by
    cases moved with
    | die => exact absurd rfl undied
    | retire status empty => exact absurd empty full
    | reset status | answer status | raise status | skip status => simpa [Tracker.isAlive] using status
  obtain ⟨first, later, taken, left, known⟩ := moved.takes lives
  rw [queued] at taken
  cases taken
  refine ⟨_, _, stepped, lives, left, known, ?_⟩
  cases moved with
  | die => exact absurd rfl undied
  | retire status empty => exact absurd empty full
  | answer status first =>
    rw [queued] at first
    cases first
    refine ⟨List.length_set, fun n same => ?_⟩
    cases same
    rfl
  | reset status first | raise status first | skip status first =>
    rw [queued] at first
    cases first
    exact ⟨rfl, by simp⟩

/-- It gets to a question after as many moves as there are events up to it, and answers with the greatest sample that it
    knows then. -/
theorem answered_in_turn (name : String) {before after : List Tracker.Event} (alive : s.tracker.isAlive = true)
    (queued : s.tracker.channel.items = before ++ .question number :: after) (inside : number < s.calls.length) :
    ∃ t told, Runs.run (step name) s (List.replicate (before.length + 1) (.watch (.tracker true))) = some (t, told) ∧
      t.calls[number]? = some (.returned (before.foldl absorb s.tracker.greatest)) := by
  induction before generalizing s with
  | nil =>
    obtain ⟨t, told, stepped, -, -, -, -, answered⟩ := next_event name alive queued
    refine ⟨t, _, Runs.run_cons.mpr ⟨t, told, [], stepped, rfl, rfl⟩, ?_⟩
    rw [answered number rfl]
    exact List.getElem?_set_self inside
  | cons event rest ih =>
    obtain ⟨t, told, stepped, lives, left, known, length, -⟩ := next_event name alive queued
    obtain ⟨u, more, ran, answered⟩ := ih lives left (length.symm ▸ inside)
    rw [known] at answered
    exact ⟨u, _, Runs.run_cons.mpr ⟨t, told, more, stepped, ran, rfl⟩, answered⟩

/-- The call waits, but the tracker died before it got to the question. -/
structure Stranded (s : Inquiry) (number : Nat) : Prop where
  waiting : s.calls[number]? = some .waiting
  died : s.tracker.status = .died

/-- A call that waits is not changed with one that does not. -/
theorem waiting_set {calls : List Call} {other : Nat} {call before : Call}
    (waiting : calls[number]? = some .waiting) (found : calls[other]? = some before) (differs : before ≠ .waiting) :
    (calls.set other call)[number]? = some .waiting := by
  have apart : other ≠ number := by
    rintro rfl
    rw [waiting] at found
    cases found
    exact differs rfl
  rw [List.getElem?_set_ne apart]
  exact waiting

/-- Nothing brings back such a call: the channel keeps its question as long as it has a handle. -/
theorem Stranded.keeps (stranded : Stranded s number) (orderly : Orderly s) (moved : Move name s action events t) :
    Stranded t number := by
  obtain ⟨waiting, died⟩ := stranded
  cases moved with
  | watch admitted moved =>
    cases moved with
    | enter | lose | clone => exact ⟨waiting, died⟩
    | drop => exact ⟨waiting, (Tracker.status_of_release _).trans died⟩
    | tracker own =>
      have alive := own.alive
      simp [Tracker.isAlive, died] at alive
  | call =>
    refine ⟨?_, died⟩
    obtain ⟨inside, -⟩ := List.getElem?_eq_some_iff.mp waiting
    rw [List.getElem?_append_left inside]
    exact waiting
  | ask found => exact ⟨waiting_set waiting found (by simp), died⟩
  | refuse found => exact ⟨waiting_set waiting found (by simp), died⟩
  | despair found gone => exact absurd (orderly.asked.mem.mp found) gone

private theorem Stranded.for_good (stranded : Stranded s number) (orderly : Orderly s)
    (ran : Runs.run (step name) s actions = some (t, events)) : Stranded t number :=
  (Runs.run_induction (motive := fun _ _ t => Orderly t ∧ Stranded t number) ⟨orderly, stranded⟩
    (fun _ known last =>
      have moved := move_of_step last
      ⟨known.1.move moved, known.2.keeps known.1 moved⟩) ran).2

/-- A tracker does not die while its sink takes what it is given. -/
theorem undied_of_move (undied : s.tracker.status ≠ .died) (moved : Move name s action events t)
    (returns : action ≠ .watch (.tracker false)) : t.tracker.status ≠ .died := by
  cases moved with
  | watch admitted moved =>
    cases moved with
    | enter | lose | clone => exact undied
    | drop =>
      rw [Tracker.status_of_release]
      exact undied
    | @tracker accepts effects tracker own kept =>
      cases accepts with
      | false => exact absurd rfl returns
      | true => exact kept rfl
  | call | ask | refuse | despair => exact undied

private theorem undied_of_run (returns : .watch (.tracker false) ∉ actions)
    (ran : Runs.run (step name) start actions = some (s, events)) : s.tracker.status ≠ .died := by
  have begun : start.tracker.status ≠ .died := by decide
  refine Runs.run_induction (motive := fun actions _ s => .watch (.tracker false) ∉ actions → s.tracker.status ≠ .died)
    (fun _ => begun) ?_ ran returns
  intro actions past t action new u first before last returns
  simp only [List.mem_append, List.mem_singleton, not_or] at returns
  exact undied_of_move (before returns.1) (move_of_step last) (Ne.symm returns.2)

/-- Where the calls are in every run of a tracker, however many handles there are and whatever is sent with them. A call
    that has yet to send its question can do so unless it waits for a tracker that moves, and comes back with zero once
    the tracker is gone. The calls that wait are those whose question is in the channel: none of them waits for a
    question that was thrown away. While the tracker lives, its own moves bring the answer; it lives as long as its
    sink takes what it is given. But once it died, a call that waits does so for good, whatever happens. -/
theorem waits_of_run (ran : Runs.run (step name) start actions = some (s, events)) (number : Nat) :
    (s.calls[number]? = some .sending →
      ((step name s (.go number)).isSome = true ∨
        ∀ accepts, (step name s (.watch (.tracker accepts))).isSome = true) ∧
      (s.tracker.isAlive = false → step name s (.go number) =
        some ({ s with calls := s.calls.set number (.returned 0) }, [.lost (.question number)]))) ∧
    (s.calls[number]? = some .waiting ↔ .question number ∈ s.tracker.channel.items) ∧
    (s.calls[number]? = some .waiting →
      (s.tracker.isAlive = true → ∃ count greatest t later,
        Runs.run (step name) s (List.replicate count (.watch (.tracker true))) = some (t, later) ∧
          t.calls[number]? = some (.returned greatest)) ∧
      (s.tracker.isAlive = false → ∀ more t later, Runs.run (step name) s more = some (t, later) →
        t.calls[number]? = some .waiting) ∧
      (.watch (.tracker false) ∉ actions → s.tracker.isAlive = true)) := by
  have orderly := orderly_of_run ran
  refine ⟨fun found => ⟨go_or_tracker_moves orderly found, go_of_gone orderly found⟩, orderly.asked.mem,
    fun waiting => ?_⟩
  -- a tracker that ended has no handles, so it left nobody behind
  have unended : s.tracker.status ≠ .ended := fun ended => orderly.held (isBusy_of_open waiting rfl)
    (orderly.ended ended)
  refine ⟨fun alive => ?_, fun gone more t later onward => ?_, fun returns => ?_⟩
  · obtain ⟨before, after, queued⟩ := List.append_of_mem (orderly.asked.mem.mp waiting)
    obtain ⟨inside, -⟩ := List.getElem?_eq_some_iff.mp waiting
    obtain ⟨t, told, answered, value⟩ := answered_in_turn name alive queued inside
    exact ⟨_, _, t, told, answered, value⟩
  · have died : s.tracker.status = .died := by
      cases status : s.tracker.status with
      | died => rfl
      | ended => exact absurd status unended
      | alive => simp [Tracker.isAlive, status] at gone
    exact (Stranded.for_good ⟨waiting, died⟩ orderly onward).waiting
  · have undied := undied_of_run returns ran
    cases status : s.tracker.status with
    | alive => simp [Tracker.isAlive, status]
    | ended => exact absurd status unended
    | died => exact absurd status undied

/-- Two calls, and a sample between their questions that the sink refuses; a third call comes too late. -/
def betrayal : List Action :=
  [.call, .call, .go 0, .watch (.send (.sample 1)), .go 1, .watch (.tracker true), .watch (.tracker false),
  .call, .go 2]

/-- The first call was answered before, the third one came back, and the second one waits for good. -/
theorem betrayal_strands :
    (Runs.after (step "orders") start betrayal).1.calls = [.returned 0, .waiting, .returned 0] ∧
      ∀ more t later, Runs.run (step "orders") (Runs.after (step "orders") start betrayal).1 more = some (t, later) →
        t.calls[1]? = some .waiting := by
  have ran : Runs.run (step "orders") start betrayal = some (Runs.after (step "orders") start betrayal) :=
    Runs.run_after rfl
  obtain ⟨-, -, waits⟩ := waits_of_run ran 1
  exact ⟨rfl, (waits rfl).2.1 rfl⟩

/-- So a call can wait although its question is neither on its way to a living tracker nor thrown away. -/
theorem second_is_stranded : ¬ ∀ (name : String) (actions : List Action) (s : Inquiry) (events : List Watch.Event),
    Runs.run (step name) start actions = some (s, events) → ∀ number, s.calls[number]? = some .waiting →
      (s.tracker.isAlive = true ∧ .question number ∈ s.tracker.channel.items) ∨
        .question number ∉ s.tracker.channel.items := by
  intro answered
  have ran : Runs.run (step "orders") start betrayal = some (Runs.after (step "orders") start betrayal) :=
    Runs.run_after rfl
  have queued : Tracker.Event.question 1 ∈ (Runs.after (step "orders") start betrayal).1.tracker.channel.items := by
    decide
  rcases answered "orders" betrayal _ _ ran 1 rfl with ⟨alive, -⟩ | gone
  · cases alive
  · exact gone queued

end JobPool.Inquiry
