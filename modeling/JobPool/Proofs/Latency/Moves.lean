import JobPool.Latency.MeteredRegistry

/-!
What can happen to a latency meter. As long as no sum and no mean left its word, its lock is not poisoned, and
`move_of_step` says what each action comes to.
-/

namespace JobPool.Latency

/-- Adding a request changes nothing of the module, and counts it if all sums have room. -/
theorem Aggregate.of_update {a b : Aggregate} {latency : Int64} (updated : a.update latency = (b, none)) :
    b.module = a.module ∧ b.requests.toNat = a.requests.toNat + 1 := by
  unfold update succChecked at updated
  split at updated
  · cases updated
  · rename_i requests counted
    split at counted
    · rename_i room
      cases counted
      have next : (a.requests + 1).toNat = a.requests.toNat + 1 := by
        rw [UInt64.toNat_add]
        exact Nat.mod_eq_of_lt room
      split at updated
      · cases updated
      · cases updated
        exact ⟨rfl, next⟩
    · cases counted

namespace Meter

/-- The aggregate of a module, which is empty if there is none. -/
def aggregate (m : Meter) (module : String) : Aggregate := (m.aggregates.get? module).getD (.new module)

/-- The meter after all its aggregates were reset. -/
def cleared (m : Meter) : Meter := { m with aggregates := m.aggregates.mapValues fun _ a => a.reset }

/-- The reports that a push logs if none faults, in the order of the table. -/
def due (m : Meter) : List Report := m.aggregates.entries.filterMap fun entry => entry.2.report.toOption.join

/-- No aggregate faults when it reports. -/
def Telling (m : Meter) : Prop := ∀ entry ∈ m.aggregates.entries, entry.2.report.isOk = true

/-- What an action does to a meter, what it pushes and what comes of it. -/
inductive Move (m : Meter) : Action → List Report → Except Fault Unit → Meter → Prop
  | known {module : String} (found : (m.aggregates.get? module).isSome = true) : Move m (.tic module) [] (.ok ()) m
  | enlist {module : String} (missing : m.aggregates.get? module = none) :
      Move m (.tic module) [] (.ok ()) { m with aggregates := m.aggregates.put module (.new module) }
  | ignore {module : String} {latency : Int64} (absent : m.task = .absent) :
      Move m (.toc module latency) [] (.ok ()) m
  | send {module : String} {latency : Int64} (present : m.task ≠ .absent) (room : m.channel.length < channelCapacity) :
      Move m (.toc module latency) [] (.ok ()) { m with channel := m.channel ++ [⟨module, latency⟩] }
  | begin (absent : m.task = .absent) : Move m .run [] (.ok ()) { m with task := .waiting }
  | rerun (present : m.task ≠ .absent) : Move m .run [] (.ok ()) m
  | push (telling : m.Telling) : Move m .push m.due (.ok ()) m.cleared
  | tick (waits : m.task = .waiting) (telling : m.Telling) : Move m .tick m.due (.ok ()) m.cleared
  | breakPush {t : Meter} {reports : List Report} {fault : Fault} (pushed : m.pushed = (t, reports, .error fault))
      (poisoned : t.poisoned = true) (untold : ¬m.Telling) : Move m .push reports (.error fault) t
  | breakTick {t : Meter} {reports : List Report} {fault : Fault} (waits : m.task = .waiting)
      (pushed : m.pushed = (t, reports, .error fault)) (poisoned : t.poisoned = true) (untold : ¬m.Telling) :
      Move m .tick reports (.error fault) { t with task := .ended }
  | take {packet : Packet} {rest : List Packet} (waits : m.task = .waiting) (first : m.channel = packet :: rest) :
      Move m .take [] (.ok ()) { m with channel := rest, task := .holding packet }
  | apply {packet : Packet} {a : Aggregate} (holds : m.task = .holding packet)
      (updated : (m.aggregate packet.module).update packet.latency = (a, none)) :
      Move m .apply [] (.ok ()) { m with aggregates := m.aggregates.put packet.module a, task := .waiting }
  | overflow {packet : Packet} {a : Aggregate} {fault : Fault} (holds : m.task = .holding packet)
      (updated : (m.aggregate packet.module).update packet.latency = (a, some fault)) :
      Move m .apply [] (.error fault)
        { m with aggregates := m.aggregates.put packet.module a, poisoned := true, task := .ended }

variable {m t : Meter} {action : Action} {reports : List Report} {result : Except Fault Unit}

theorem lock_of_calm (calm : m.poisoned = false) : m.lock = .ok m.aggregates := by simp [lock, calm]

/-- Where no report faults, all are told and all aggregates are reset. -/
theorem flush_of_telling {entries : List (String × Aggregate)}
    (telling : ∀ entry ∈ entries, entry.2.report.isOk = true) :
    flush entries = (entries.map fun entry => (entry.1, entry.2.reset),
      entries.filterMap fun entry => entry.2.report.toOption.join, .ok ()) := by
  induction entries with
  | nil => rfl
  | cons entry rest ih =>
    have later := ih fun other listed => telling other (List.mem_cons_of_mem _ listed)
    have here := telling entry List.mem_cons_self
    rw [flush]
    cases told : entry.2.report with
    | error fault => rw [told] at here; cases here
    | ok told? => cases told? <;> simp [later, told, Except.toOption]

/-- A push that comes to its end came to every aggregate. -/
theorem telling_of_flush {entries : List (String × Aggregate)} (ended : (flush entries).2.2.isOk = true) :
    ∀ entry ∈ entries, entry.2.report.isOk = true := by
  induction entries with
  | nil => exact fun entry listed => absurd listed List.not_mem_nil
  | cons entry rest ih =>
    rw [flush] at ended
    cases told : entry.2.report with
    | error fault => rw [told] at ended; cases ended
    | ok told? =>
      rw [told] at ended
      intro other listed
      rcases List.mem_cons.mp listed with rfl | later
      · rw [told]
        rfl
      · exact ih ended other later

theorem pushed_of_telling (calm : m.poisoned = false) (telling : m.Telling) :
    m.pushed = (m.cleared, m.due, .ok ()) := by
  have done := flush_of_telling telling
  simp only [pushed, lock_of_calm calm, done]
  rw [cleared, calm]
  rfl

/-- A push that faults poisons the lock. -/
theorem pushed_of_untold (calm : m.poisoned = false) (untold : ¬m.Telling) :
    ∃ t reports fault, m.pushed = (t, reports, .error fault) ∧ t.poisoned = true := by
  rw [pushed, lock_of_calm calm]
  cases ended : (flush m.aggregates.entries).2.2 with
  | ok done => exact absurd (telling_of_flush (by rw [ended]; rfl)) untold
  | error fault =>
    refine ⟨_, _, fault, Prod.ext rfl (Prod.ext rfl ended), ?_⟩
    simp only [ended]
    rfl

private theorem record_of_room {packet : Packet} {a : Aggregate} (calm : m.poisoned = false)
    (updated : (m.aggregate packet.module).update packet.latency = (a, none)) :
    m.record packet = ({ m with aggregates := m.aggregates.put packet.module a, task := .waiting }, .ok ()) := by
  rw [aggregate] at updated
  simp only [record, lock_of_calm calm, updated]

private theorem record_of_overflow {packet : Packet} {a : Aggregate} {fault : Fault} (calm : m.poisoned = false)
    (updated : (m.aggregate packet.module).update packet.latency = (a, some fault)) :
    m.record packet =
      ({ m with aggregates := m.aggregates.put packet.module a, poisoned := true, task := .ended }, .error fault) := by
  rw [aggregate] at updated
  simp only [record, lock_of_calm calm, updated]

/-- Everything that is done to a meter whose lock is not poisoned is one of these moves. -/
theorem move_of_step (calm : m.poisoned = false) (moved : m.step action = some (t, reports, result)) :
    Move m action reports result t := by
  unfold step at moved
  cases action with
  | tic module =>
    simp only [lock_of_calm calm] at moved
    split at moved
    · cases moved; exact .known (by assumption)
    · rename_i missing; cases moved; exact .enlist (by simpa using missing)
  | toc module latency =>
    simp only at moved
    split at moved
    · rename_i absent
      cases moved
      exact .ignore (by simpa [running] using absent)
    · rename_i present
      split at moved
      · rename_i room
        cases moved
        exact .send (by simpa [running] using present) room
      · cases moved
  | run =>
    simp only [Option.some.injEq, Prod.mk.injEq] at moved
    obtain ⟨rfl, rfl, rfl⟩ := moved
    split
    · rename_i present; exact .rerun (by simpa [running] using present)
    · rename_i absent; exact .begin (by simpa [running] using absent)
  | push =>
    by_cases telling : m.Telling
    · simp only [pushed_of_telling calm telling] at moved
      cases moved
      exact .push telling
    · obtain ⟨u, told, fault, pushed, poisoned⟩ := pushed_of_untold calm telling
      simp only [pushed] at moved
      cases moved
      exact .breakPush pushed poisoned telling
  | take =>
    simp only at moved
    split at moved
    · rename_i waits first; cases moved; exact .take waits first
    · cases moved
  | apply =>
    simp only at moved
    split at moved
    · rename_i packet holds
      cases updated : (m.aggregate packet.module).update packet.latency with
      | mk a fault? =>
        cases fault? with
        | none =>
          rw [record_of_room calm updated] at moved
          cases moved
          exact .apply holds updated
        | some fault =>
          rw [record_of_overflow calm updated] at moved
          cases moved
          exact .overflow holds updated
    · cases moved
  | tick =>
    simp only at moved
    split at moved
    · rename_i waits
      by_cases telling : m.Telling
      · simp only [pushed_of_telling calm telling] at moved
        cases moved
        exact .tick waits telling
      · obtain ⟨u, told, fault, pushed, poisoned⟩ := pushed_of_untold calm telling
        simp only [pushed] at moved
        cases moved
        exact .breakTick waits pushed poisoned telling
    · cases moved

private theorem lock_of_poisoned (poisoned : m.poisoned = true) : m.lock = .error .poisoned := by simp [lock, poisoned]

private theorem pushed_of_poisoned (poisoned : m.poisoned = true) : m.pushed = (m, [], .error .poisoned) := by
  rw [pushed, lock_of_poisoned poisoned]

/-- A lock that is poisoned stays so. -/
theorem poisoned_of_step (poisoned : m.poisoned = true) (moved : m.step action = some (t, reports, result)) :
    t.poisoned = true := by
  have locked := lock_of_poisoned poisoned
  unfold step at moved
  cases action with
  | tic module => simp only [locked] at moved; cases moved; exact poisoned
  | toc module latency =>
    simp only at moved
    split at moved
    · cases moved; exact poisoned
    · split at moved
      · cases moved; exact poisoned
      · cases moved
  | run =>
    cases moved
    split <;> exact poisoned
  | push => rw [pushed_of_poisoned poisoned] at moved; cases moved; exact poisoned
  | take =>
    simp only at moved
    split at moved
    · cases moved; exact poisoned
    · cases moved
  | apply =>
    simp only at moved
    split at moved
    · simp only [record, locked] at moved
      cases moved
      exact poisoned
    · cases moved
  | tick =>
    simp only at moved
    split at moved
    · simp only [pushed_of_poisoned poisoned] at moved
      cases moved
      exact poisoned
    · cases moved

/-- A push that is made takes the lock, comes to every aggregate and leaves all of them reset. -/
theorem cleared_of_push (moved : m.step .push = some (t, reports, result)) (made : result.isOk = true) :
    m.poisoned = false ∧ t = m.cleared ∧ reports = m.due := by
  cases poisoned : m.poisoned with
  | true =>
    rw [step, pushed_of_poisoned poisoned] at moved
    cases moved
    cases made
  | false =>
    have push := move_of_step poisoned moved
    cases push with
    | push => exact ⟨rfl, rfl, rfl⟩
    | breakPush => cases made

/-- The action begins or ends a measurement. -/
def Action.isMeasuring : Action → Bool
  | .tic _ | .toc _ _ => true
  | _ => false

/-- A measurement can be begun and ended as long as the lock is not poisoned. -/
theorem Move.made (measuring : action.isMeasuring = true) (moved : Move m action reports result t) :
    result = .ok () := by
  cases moved with
  | known | enlist | ignore | send => rfl
  | begin | rerun | push | tick | breakPush | breakTick | take | apply | overflow => cases measuring

end Meter

end JobPool.Latency
