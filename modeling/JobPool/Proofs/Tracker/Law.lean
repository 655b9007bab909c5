import Mathlib.Data.List.Induction
import JobPool.Proofs.Runs
import JobPool.Proofs.Tracker.Wiring

/-!
What a tracker says, as the events that it took decide it. A question is answered with the greatest sample since
the last reset, and a sample is written if it is a record: greater than zero and than every sample since the last
reset. Every move of a tracker whose sink takes what it is given keeps to that (`Told.move`).
-/

namespace JobPool.Tracker

/-- The sample that was sent. -/
def Event.sample? : Event → Option UInt64
  | .sample busy => some busy
  | _ => none

/-- The samples after the last reset, the latest first. -/
def since (past : List Event) : List UInt64 := (past.reverse.takeWhile fun event =>
  event ≠ .reset).filterMap Event.sample?

/-- The greatest of some samples, or zero if there are none. -/
def highest (samples : List UInt64) : UInt64 := samples.foldr max 0

/-- The reply to a question after these events. -/
def reply? (past : List Event) : Event → Option (Nat × UInt64)
  | .question caller => some (caller, highest (since past))
  | _ => none

/-- A sample after these events, if it is a record. -/
def record? (past : List Event) : Event → Option UInt64
  | .sample busy => if (0 :: since past).all (· < busy) then some busy else none
  | _ => none

/-- The replies to the questions among these events, in this order. -/
def replies (taken : List Event) : List (Nat × UInt64) := Runs.gather reply? [] taken

/-- The records among these events, in this order. -/
def records (taken : List Event) : List UInt64 := Runs.gather record? [] taken

/-- Who was answered, and what. -/
def Effect.answer? : Effect → Option (Nat × UInt64)
  | .answer caller value => some (caller, value)
  | _ => none

/-- What was written to the gauge. -/
def Effect.gauge? : Effect → Option UInt64
  | .gauge value => some value
  | _ => none

/-- A tracker that took these events said this and remembers the greatest sample since the last reset. -/
structure Told (taken : List Event) (said : List Effect) (t : Tracker) : Prop where
  replies : said.filterMap Effect.answer? = replies taken
  records : said.filterMap Effect.gauge? = records taken
  greatest : t.greatest = highest (since taken)

private theorem toNat_highest_cons (busy : UInt64) (samples : List UInt64) :
    (highest (busy :: samples)).toNat = max busy.toNat (highest samples).toNat := by
  show (if busy ≤ highest samples then highest samples else busy).toNat = max busy.toNat (highest samples).toNat
  simp only [UInt64.le_iff_toNat_le]
  split <;> omega

/-- A sample is greater than all others and zero if it is greater than the greatest of them. -/
theorem highest_lt {samples : List UInt64} {busy : UInt64} :
    highest samples < busy ↔ (0 :: samples).all (· < busy) = true := by
  induction samples with
  | nil => simp [highest]
  | cons first rest ih =>
    simp only [List.all_cons, Bool.and_eq_true, decide_eq_true_eq] at ih ⊢
    rw [and_left_comm, ← ih]
    simp only [UInt64.lt_iff_toNat_lt, toNat_highest_cons]
    omega

private theorem since_reset (past : List Event) : since (past ++ [.reset]) = [] := by simp [since]

private theorem since_sample (past : List Event) (busy : UInt64) :
    since (past ++ [.sample busy]) = busy :: since past := by simp [since, Event.sample?]

private theorem since_question (past : List Event) (caller : Nat) :
    since (past ++ [.question caller]) = since past := by
  simp [since, Event.sample?, List.filterMap_cons]

/-- A reset forgets what was before it and nothing else. -/
theorem since_append_reset (past between : List Event) : since (past ++ .reset :: between) = since between := by
  induction between using List.reverseRecOn with
  | nil => exact since_reset past
  | append_singleton between event ih =>
    rw [← List.cons_append, ← List.append_assoc]
    cases event with
    | reset => rw [since_reset, since_reset]
    | sample busy => rw [since_sample, since_sample, ih]
    | question caller => rw [since_question, since_question, ih]

/-- Without a reset the greatest sample never gets less. -/
theorem highest_since_le (past : List Event) {between : List Event} (unreset : .reset ∉ between) :
    highest (since past) ≤ highest (since (past ++ between)) := by
  induction between using List.reverseRecOn with
  | nil => simp
  | append_singleton between event ih =>
    have before := ih fun member => unreset (List.mem_append_left _ member)
    rw [← List.append_assoc]
    cases event with
    | reset => exact absurd (List.mem_append_right _ (List.mem_singleton.mpr rfl)) unreset
    | sample busy =>
      rw [UInt64.le_iff_toNat_le] at before ⊢
      rw [since_sample, toNat_highest_cons]
      omega
    | question caller => rw [since_question]; exact before

/-- What looks back no further than the last reset finds after a reset what it would find at the start. -/
theorem gather_reset {β : Type} {f : List Event → Event → Option β} (quiet : ∀ past, f past .reset = none)
    (forgets : ∀ past between event, f (past ++ .reset :: between) event = f between event) (past later : List Event) :
    Runs.gather f [] (past ++ .reset :: later) = Runs.gather f [] past ++ Runs.gather f [] later := by
  have same : Runs.gather f (past ++ [.reset]) later = Runs.gather f [] later := by
    refine Runs.gather_congr (fun between event => ?_) later
    rw [List.append_assoc]
    exact forgets past between event
  rw [Runs.gather_append, List.nil_append, Runs.gather, quiet, same]
  rfl

theorem replies_reset (past later : List Event) : replies (past ++ .reset :: later) = replies past ++
    replies later := by
  refine gather_reset (fun past => rfl) (fun past between event => ?_) past later
  cases event <;> simp [reply?, since_append_reset]

theorem records_reset (past later : List Event) : records (past ++ .reset :: later) = records past ++
    records later := by
  refine gather_reset (fun past => rfl) (fun past between event => ?_) past later
  cases event <;> simp [record?, since_append_reset]

theorem told_new (handles : Nat) : Told [] [] (.new handles) := ⟨rfl, rfl, rfl⟩

variable {name : String} {t t' : Tracker} {taken : List Event} {said effects : List Effect}

/-- One more event is taken. -/
theorem Told.take {event : Event} (told : Told taken said t)
    (replies : effects.filterMap Effect.answer? = (reply? taken event).toList)
    (records : effects.filterMap Effect.gauge? = (record? taken event).toList)
    (greatest : t'.greatest = highest (since (taken ++ [event]))) : Told (taken ++ [event]) (said ++ effects) t' where
  replies := by
    rw [List.filterMap_append, told.replies, replies, Tracker.replies, Tracker.replies, Runs.gather_append]
    simp [Runs.gather]
  records := by
    rw [List.filterMap_append, told.records, records, Tracker.records, Tracker.records, Runs.gather_append]
    simp [Runs.gather]
  greatest := greatest

/-- A tracker that does not die takes its events one by one and says what they decide, until there are none and nobody
    holds a handle. -/
theorem Told.move (told : Told taken said t) (moved : Move name t effects t') (undied : t'.status ≠ .died) :
    (∃ event, t.channel.items = event :: t'.channel.items ∧ Told (taken ++ [event]) (said ++ effects) t') ∨
      (t.channel.items = [] ∧ t'.channel.items = [] ∧ Told taken (said ++ effects) t') := by
  have known := told.greatest
  cases moved with
  | reset alive first =>
    refine .inl ⟨_, first, told.take rfl rfl ?_⟩
    rw [since_reset]
    rfl
  | @answer caller rest alive first =>
    refine .inl ⟨_, first, told.take ?_ rfl ?_⟩
    · simp [Effect.answer?, reply?, known]
    · rw [since_question]
      exact known
  | @raise busy rest alive first greater =>
    rw [known] at greater
    refine .inl ⟨_, first, told.take rfl ?_ ?_⟩
    · simp [Effect.gauge?, record?, highest_lt.mp greater, List.filterMap_cons]
    · rw [since_sample]
      rw [UInt64.lt_iff_toNat_lt] at greater
      rw [← UInt64.toNat_inj, toNat_highest_cons]
      exact (Nat.max_eq_left (Nat.le_of_lt greater)).symm
  | die => exact absurd rfl undied
  | @skip busy rest alive first least =>
    rw [known] at least
    refine .inl ⟨_, first, told.take rfl ?_ ?_⟩
    · rw [highest_lt] at least
      simp [record?, least]
    · rw [since_sample]
      rw [UInt64.lt_iff_toNat_lt] at least
      rw [known, ← UInt64.toNat_inj, toNat_highest_cons]
      exact (Nat.max_eq_right (Nat.not_lt.mp least)).symm
  | retire alive empty alone =>
    refine .inr ⟨empty, empty, ?_, ?_, known⟩
    · rw [List.filterMap_append, told.replies]
      simp [Effect.answer?]
    · rw [List.filterMap_append, told.records]
      simp [Effect.gauge?]

/-- A tracker does not die while its sink takes what it is given. -/
theorem undied_of_advance (moved : t.advance name true = some (t', effects)) : t'.status ≠ .died := by
  unfold advance at moved
  cases status : t.status with
  | ended | died => simp [status] at moved
  | alive =>
    simp only [status] at moved
    cases taken : t.channel.take? with
    | none =>
      simp only [taken] at moved
      split at moved
      · cases moved; simp
      · cases moved
    | some next =>
      simp only [taken, Option.some.injEq] at moved
      unfold handle at moved
      cases event : next.1 with
      | sample busy => simp only [event] at moved; split at moved <;> cases moved <;> simp
      | reset | question => simp only [event] at moved; cases moved; simp

end JobPool.Tracker
