import JobPool.Proofs.Tracker.Moves

/-!
What a tracker will know. Its outlook is the greatest sample that it comes to once it took the events
that are already in its channel. Its own moves leave the outlook as it is (`Move.outlook`), a sample that
is sent raises it, and a question is answered with the outlook that it found when it was sent, whatever is
sent after it (`promises_ask`, `Move.keeps`, `Promises.answer`).
-/

namespace JobPool.Tracker

/-- The greatest sample after an event. -/
def absorb (greatest : UInt64) : Event → UInt64
  | .sample busy => if greatest < busy then busy else greatest
  | .reset => 0
  | .question _ => greatest

/-- The greatest sample once all events in the channel were taken. -/
def outlook (t : Tracker) : UInt64 := t.channel.items.foldl absorb t.greatest

/-- Nothing that the tracker knows or is told is greater than this. -/
def Within (most : Nat) (t : Tracker) : Prop :=
  t.greatest.toNat ≤ most ∧ ∀ busy, .sample busy ∈ t.channel.items → busy.toNat ≤ most

/-- A question of this caller that waits in the channel will be answered with at least this. -/
def Promises (caller least : Nat) (t : Tracker) : Prop :=
  ∀ before after, t.channel.items = before ++ .question caller :: after →
    least ≤ (before.foldl absorb t.greatest).toNat

variable {name : String} {t t' : Tracker} {effects : List Effect} {most caller least : Nat}

theorem absorb_sample (greatest busy : UInt64) :
    (absorb greatest (.sample busy)).toNat = max greatest.toNat busy.toNat := by
  simp only [absorb, UInt64.lt_iff_toNat_lt]
  split <;> omega

/-- The tracker takes its events one by one. -/
theorem Move.takes (moved : Move name t effects t') (alive : t'.isAlive = true) :
    ∃ event rest, t.channel.items = event :: rest ∧ t'.channel.items = rest ∧
      t'.greatest = absorb t.greatest event := by
  cases moved with
  | reset status first => exact ⟨_, _, first, rfl, rfl⟩
  | answer status first => exact ⟨_, _, first, rfl, rfl⟩
  | raise status first greater => exact ⟨_, _, first, rfl, by simp [absorb, greater]⟩
  | skip status first least => exact ⟨_, _, first, rfl, by simp [absorb, least]⟩
  | die | retire => simp [isAlive] at alive

/-- No move of a tracker changes its outlook. -/
theorem Move.outlook (moved : Move name t effects t') (alive : t'.isAlive = true) : t'.outlook = t.outlook := by
  obtain ⟨event, rest, first, left, known⟩ := moved.takes alive
  simp only [Tracker.outlook, first, left, known, List.foldl_cons]

/-- A tracker that is gone stays gone. -/
theorem alive_of_send {event : Event} (sent : t.send event = some t') : t'.isAlive = t.isAlive := by
  rcases send_eq_some.mp sent with ⟨-, rfl⟩ | ⟨-, -, rfl⟩ <;> rfl

/-- An event that is sent is the last one in the channel, unless that is closed. -/
theorem outlook_of_send {event : Event} (sent : t.send event = some t') (unclosed : t.channel.closed = false) :
    t'.outlook = absorb t.outlook event := by
  rcases send_eq_some.mp sent with ⟨closed, -⟩ | ⟨-, -, rfl⟩
  · simp [unclosed] at closed
  · simp [outlook, Channel.push, List.foldl_append]

theorem release_of_alive (alive : t.isAlive = true) : t.release = { t with handles := t.handles - 1 } := by
  have status : t.status = .alive := by simpa [isAlive] using alive
  simp [release, status]

theorem status_of_release (t : Tracker) : t.release.status = t.status := by
  unfold release
  simp only
  split <;> rfl

theorem alive_of_release (t : Tracker) : t.release.isAlive = t.isAlive := by
  simp only [isAlive, status_of_release]

theorem outlook_of_release (alive : t.isAlive = true) : t.release.outlook = t.outlook := by
  rw [release_of_alive alive]
  rfl

theorem Within.move (within : Within most t) (moved : Move name t effects t') : Within most t' := by
  obtain ⟨known, told⟩ := within
  cases moved with
  | retire => exact ⟨known, told⟩
  | @reset rest status first => exact ⟨Nat.zero_le _, fun busy member => told busy (by simp [first, member])⟩
  | answer status first | skip status first =>
    exact ⟨known, fun busy member => told busy (by simp [first, member])⟩
  | @raise busy rest status first | @die busy rest status first =>
    exact ⟨told busy (by simp [first]), fun busy member => told busy (by simp [first, member])⟩

theorem Within.send (within : Within most t) {event : Event} (sent : t.send event = some t')
    (few : ∀ busy, event = .sample busy → busy.toNat ≤ most) : Within most t' := by
  obtain ⟨known, told⟩ := within
  rcases send_eq_some.mp sent with ⟨-, rfl⟩ | ⟨-, -, rfl⟩
  · exact ⟨known, told⟩
  · refine ⟨known, fun busy member => ?_⟩
    rcases List.mem_append.mp member with old | new
    · exact told busy old
    · exact few busy (List.mem_singleton.mp new).symm

theorem Within.release (within : Within most t) : Within most t.release := by
  obtain ⟨known, told⟩ := within
  unfold Tracker.release
  simp only
  split
  · exact ⟨known, by simp⟩
  · exact ⟨known, told⟩

/-- The answers of a tracker are what it knows. -/
theorem Move.answer_eq (moved : Move name t effects t') {answer : UInt64} (answered : .answer caller answer ∈ effects) :
    answer = t.greatest ∧ ∃ rest, t.channel.items = .question caller :: rest := by
  cases moved with
  | answer status first =>
    simp only [List.mem_singleton, Effect.answer.injEq] at answered
    obtain ⟨rfl, rfl⟩ := answered
    exact ⟨rfl, _, first⟩
  | _ => simp at answered

theorem Promises.answer (promises : Promises caller least t) (moved : Move name t effects t') {answer : UInt64}
    (answered : .answer caller answer ∈ effects) : least ≤ answer.toNat := by
  obtain ⟨rfl, rest, first⟩ := moved.answer_eq answered
  exact promises [] rest first

/-- A question that is sent finds the outlook before it. -/
theorem promises_ask (sent : t.send (.question caller) = some t') (unclosed : t.channel.closed = false)
    (fresh : .question caller ∉ t.channel.items) (enough : least ≤ t.outlook.toNat) : Promises caller least t' := by
  rcases send_eq_some.mp sent with ⟨closed, -⟩ | ⟨-, -, rfl⟩
  · simp [unclosed] at closed
  · -- the question is the only one of its caller, so all that was in the channel stands before it
    intro before after split
    simp only [Channel.push] at split
    rcases List.append_eq_append_iff.mp split with ⟨more, rfl, last⟩ | ⟨more, old, last⟩
    · cases more with
      | nil => simpa [outlook] using enough
      | cons event more => simp at last
    · cases more with
      | nil => simp only [List.append_nil] at old; simpa [outlook, old] using enough
      | cons event more =>
        simp only [List.cons_append, List.cons.injEq] at last
        obtain ⟨rfl, -⟩ := last
        exact absurd (by simp [old]) fresh

/-- Whatever happens afterwards, a promise is kept. -/
theorem Move.keeps (moved : Move name t effects t') (promises : Promises caller least t) :
    Promises caller least t' := by
  cases alive : t'.isAlive with
  | true =>
    obtain ⟨event, rest, first, left, known⟩ := moved.takes alive
    intro before after split
    rw [known, ← List.foldl_cons]
    exact promises (event :: before) after (by rw [first, ← left, split, List.cons_append])
  | false =>
    cases moved with
    | @die busy rest status first greater =>
      intro before after split
      simp only at split
      have held := promises (.sample busy :: before) after (by rw [first, split, List.cons_append])
      simpa only [List.foldl_cons, absorb, greater, ↓reduceIte] using held
    | retire => exact promises
    | reset status | answer status | raise status | skip status => simp [isAlive, status] at alive

theorem Promises.send (promises : Promises caller least t) {event : Event} (sent : t.send event = some t')
    (other : event ≠ .question caller) : Promises caller least t' := by
  rcases send_eq_some.mp sent with ⟨-, rfl⟩ | ⟨-, -, rfl⟩
  · exact promises
  · intro before after split
    simp only [Channel.push] at split
    rcases List.eq_nil_or_concat after with rfl | ⟨more, last, rfl⟩
    · exact absurd (List.singleton_inj.mp (List.append_inj_right' split rfl)) other
    · have regroup : before ++ (.question caller :: more.concat last) = (before ++ .question caller :: more) ++
        [last] := by
        simp
      rw [regroup] at split
      exact promises before more (List.append_inj_left' split rfl)

theorem Promises.release (promises : Promises caller least t) : Promises caller least t.release := by
  unfold Tracker.release
  simp only
  split
  · intro before after split
    simp at split
  · exact promises

end JobPool.Tracker
