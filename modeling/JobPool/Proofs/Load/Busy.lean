import JobPool.Proofs.Load.Course
import JobPool.Proofs.Load.Sink

/-!
What the gauge of busy workers shows in a load run. A sample is sent before a job is handed over, and a tracker that comes
to its end took all samples; so once a job was handed over the gauge has a value, or a sample for it is on its
way (`noted_of_move`). No value is greater than the number of workers.
-/

namespace JobPool.Tracker

/-- A tracker whose gauge shows this value. -/
structure Tells (most : Nat) (value : Option Int) (t : Tracker) : Prop where
  range : ∀ busy, value = some busy → 1 ≤ busy ∧ busy ≤ most
  within : t.Within most
  positive : ∀ busy, .sample busy ∈ t.channel.items → 0 < busy
  unknown : value = none → t.greatest = 0
  undied : t.status ≠ .died
  drained : t.isAlive = false → t.channel.items = [] ∧ t.handles = 0

/-- The gauge has a value, or gets one from a sample in the channel. -/
def Due (value : Option Int) (t : Tracker) : Prop :=
  value.isSome = true ∨ ∃ busy, .sample busy ∈ t.channel.items

private theorem tells_new (most handles : Nat) : Tells most none (.new handles) where
  range := by simp
  within := ⟨Nat.zero_le _, by simp [new, Channel.empty]⟩
  positive := by simp [new, Channel.empty]
  unknown := fun _ => rfl
  undied := by simp [new]
  drained := by simp [new, isAlive]

variable {name : String} {most : Nat} {value : Option Int} {t t' : Tracker} {effects : List Effect}

private theorem Tells.send (tells : Tells most value t) {event : Event} (sent : t.send event = some t')
    (sampled : ∀ busy, event = .sample busy → 0 < busy ∧ busy.toNat ≤ most) (living : t.isAlive = true) :
    Tells most value t' := by
  have within := tells.within.send sent fun busy same => (sampled busy same).2
  have alive := alive_of_send sent
  rcases send_eq_some.mp sent with ⟨-, rfl⟩ | ⟨-, -, rfl⟩
  · exact tells
  · refine ⟨tells.range, within, ?_, tells.unknown, tells.undied, fun gone => ?_⟩
    · intro busy listed
      rcases List.mem_append.mp listed with old | new
      · exact tells.positive busy old
      · exact (sampled busy (List.mem_singleton.mp new).symm).1
    · rw [alive, living] at gone
      cases gone

private theorem Due.send (due : Due value t) {event : Event} (sent : t.send event = some t') : Due value t' := by
  rcases due with shown | ⟨busy, listed⟩
  · exact .inl shown
  · rcases send_eq_some.mp sent with ⟨-, rfl⟩ | ⟨-, -, rfl⟩
    · exact .inr ⟨busy, listed⟩
    · exact .inr ⟨busy, List.mem_append_left _ listed⟩

private theorem due_of_sample {busy : UInt64} (sent : t.send (.sample busy) = some t')
    (unclosed : t.channel.closed = false) :
    Due value t' := by
  rcases send_eq_some.mp sent with ⟨closed, -⟩ | ⟨-, -, rfl⟩
  · rw [unclosed] at closed
    cases closed
  · exact .inr ⟨busy, List.mem_append_right _ (List.mem_singleton.mpr rfl)⟩

/-- The last handle takes no sample with it. -/
theorem Tells.items_release (tells : Tells most value t) : t.release.channel.items = t.channel.items := by
  unfold release
  simp only
  split
  · rename_i last
    have gone : t.isAlive = false := by simpa [isAlive] using last.2
    exact (tells.drained gone).1.symm
  · rfl

private theorem Tells.release (tells : Tells most value t) : Tells most value t.release := by
  have items := tells.items_release
  have known : t.release.greatest = t.greatest ∧ t.release.status = t.status ∧ t.release.handles = t.handles - 1 := by
    unfold Tracker.release
    simp only
    split <;> exact ⟨rfl, rfl, rfl⟩
  obtain ⟨greatest, status, handles⟩ := known
  refine ⟨tells.range, tells.within.release, ?_, ?_, ?_, fun gone => ?_⟩
  · rw [items]
    exact tells.positive
  · rw [greatest]
    exact tells.unknown
  · rw [status]
    exact tells.undied
  · rw [alive_of_release] at gone
    obtain ⟨empty, alone⟩ := tells.drained gone
    exact ⟨by rw [items, empty], by omega⟩

/-- A tracker that writes nothing forgets no sample that the gauge still needs. -/
theorem Tells.quiet (tells : Tells most value t) (moved : Move name t effects t')
    (quiet : ∀ greatest, .gauge greatest ∉ effects) : Tells most value t' ∧ (Due value t → Due value t') := by
  have within := tells.within.move moved
  have undied := tells.undied
  have rests : ∀ {event rest}, t.channel.items = event :: rest → (∀ busy, event ≠ .sample busy) →
      (∀ busy, .sample busy ∈ rest → 0 < busy) ∧
        ((∃ busy, .sample busy ∈ t.channel.items) → ∃ busy, .sample busy ∈ rest) := by
    intro event rest first other
    refine ⟨fun busy listed => tells.positive busy (by simp [first, listed]), ?_⟩
    rintro ⟨busy, listed⟩
    rw [first, List.mem_cons] at listed
    rcases listed with same | later
    · exact absurd same.symm (other busy)
    · exact ⟨busy, later⟩
  cases moved with
  | reset alive first =>
    obtain ⟨positive, kept⟩ := rests first (by simp)
    exact ⟨⟨tells.range, within, positive, fun _ => rfl, undied, by simp [isAlive, alive]⟩, Or.imp_right kept⟩
  | answer alive first =>
    obtain ⟨positive, kept⟩ := rests first (by simp)
    exact ⟨⟨tells.range, within, positive, tells.unknown, undied, by simp [isAlive, alive]⟩, Or.imp_right kept⟩
  | @skip busy rest alive first least =>
    have positive : ∀ busy, .sample busy ∈ rest → 0 < busy := fun busy listed =>
      tells.positive busy (by simp [first, listed])
    refine ⟨⟨tells.range, within, positive, tells.unknown, undied, by simp [isAlive, alive]⟩, fun _ => ?_⟩
    -- a sample that is no record comes after another one that was
    cases shown : value with
    | some shows => exact .inl rfl
    | none =>
      rw [tells.unknown shown] at least
      exact absurd (tells.positive busy (by simp [first])) least
  | retire alive empty alone =>
    exact ⟨⟨tells.range, within, tells.positive, tells.unknown, by simp, fun _ => ⟨empty, alone⟩⟩, id⟩
  | @raise busy | @die busy => exact absurd (List.mem_cons_of_mem _ (List.mem_singleton.mpr rfl)) (quiet busy)

/-- What a tracker writes is a number of busy workers. -/
theorem Tells.raise (tells : Tells most value t) (moved : Move name t effects t') {greatest : UInt64}
    (written : .gauge greatest ∈ effects) (undied : t'.status ≠ .died) :
    Tells most (some (greatest.toNat : Int)) t' := by
  have within := tells.within.move moved
  cases moved with
  | @raise busy rest alive first greater =>
    obtain rfl : greatest = busy := by simpa using written
    have some : 0 < greatest.toNat := by
      rw [UInt64.lt_iff_toNat_lt] at greater
      omega
    have few : greatest.toNat ≤ most := within.1
    refine ⟨?_, within, ?_, by simp, undied, by simp [isAlive, alive]⟩
    · rintro shows ⟨⟩
      omega
    · exact fun busy listed => tells.positive busy (by simp [first, listed])
  | die => exact absurd rfl undied
  | reset | answer | skip | retire => simp at written

end JobPool.Tracker

namespace JobPool.Pool

variable {J : Type}

/-- The gauge of a pool shows this value, given what happened in the pool. -/
structure Noted (config : Config) (past : List (Event J)) (value : Option Int) (s : State J) : Prop where
  tells : Tracker.Tells config.size value s.tracker
  due : s.loop.isHanding = true ∨ handed past ≠ [] → Tracker.Due value s.tracker

theorem noted_start (config : Config) : Noted config [] none (start config : State J) where
  tells := Tracker.tells_new ..
  due := by simp [start, State.new, Loop.isHanding, handed]

variable [Job J] {config : Config} {s t : State J} {past events : List (Event J)} {value : Option Int}
  {action : Action J}

section handles

omit [Job J]

variable (noted : Noted config past value s) (wired : Tracker.Wired s.handles s.tracker)
include noted wired

/-- A tracker does not end while somebody holds a handle to it. -/
theorem alive_of_handle (held : 0 < s.handles) : s.tracker.isAlive = true := by
  by_contra gone
  have alone := (noted.tells.drained (by simpa using gone)).2
  have handles := wired.handles
  omega

private theorem alive_of_owner (holds : s.owner.holdsTracker = true) : s.tracker.isAlive = true := by
  refine alive_of_handle noted wired ?_
  rw [State.handles, holds, Bool.toNat_true]
  omega

private theorem alive_of_loop (runs : s.loop.isOver = false) : s.tracker.isAlive = true := by
  refine alive_of_handle noted wired ?_
  rw [State.handles, runs, Bool.not_false, Bool.toNat_true]
  omega

end handles

/-- As long as a pool writes nothing to its gauge, a sample that the gauge still needs stays where it is. -/
theorem tells_of_quiet (carried : Carried config past s) (noted : Noted config past value s)
    (moved : Move config s action events t) (quiet : Ungauged events) :
    Tracker.Tells config.size value t.tracker ∧ (Tracker.Due value s.tracker → Tracker.Due value t.tracker) := by
  have wired := carried.wired
  have same : Tracker.Tells config.size value s.tracker ∧ (Tracker.Due value s.tracker → Tracker.Due value s.tracker) :=
    ⟨noted.tells, id⟩
  have released : Tracker.Tells config.size value s.tracker.release ∧
      (Tracker.Due value s.tracker → Tracker.Due value s.tracker.release) := by
    refine ⟨noted.tells.release, Or.imp_right fun listed => ?_⟩
    rw [noted.tells.items_release]
    exact listed
  cases moved with
  | client moved outside =>
    cases moved with
    | reset holds sent =>
      have alive := alive_of_owner noted wired holds
      exact ⟨noted.tells.send sent (by simp) alive, fun due => due.send sent⟩
    | ask holds alive sent => exact ⟨noted.tells.send sent (by simp) alive, fun due => due.send sent⟩
    | letGo => exact released
    | _ => exact same
  | owner moved =>
    cases moved with
    | joinLoop => exact released
    | joinTracker => exact same
  | loop moved =>
    cases moved with
    | @sample task k busy tracker loop sent =>
      have alive := alive_of_loop noted wired (by rw [loop]; rfl)
      obtain ⟨all, few⟩ := carried.gauged task k busy loop
      have some : 0 < busy := by
        rw [UInt64.lt_iff_toNat_lt]
        exact Nat.lt_of_lt_of_le (Nat.succ_pos _) all
      refine ⟨noted.tells.send sent ?_ alive, fun due => due.send sent⟩
      rintro other ⟨⟩
      exact ⟨some, few⟩
    | retire | stopFaulty => exact released
    | _ => exact same
  | worker | closeSink => exact same
  | custom found custom => exact absurd custom (carried.sound.not_custom found)
  | tracker moved => exact noted.tells.quiet moved fun greatest listed => quiet greatest (List.mem_map_of_mem listed)

/-- From the sample for a job on, the gauge has a value or gets one. -/
theorem noted_of_quiet (carried : Carried config past s) (noted : Noted config past value s)
    (moved : Move config s action events t) (quiet : Ungauged events) : Noted config (past ++ events) value t := by
  have sound := carried.sound
  obtain ⟨tells, kept⟩ := tells_of_quiet carried noted moved quiet
  refine ⟨tells, ?_⟩
  rintro (handing | some)
  · cases loop : t.loop with
    | handing task k =>
      rcases handing_of_move sound moved loop with old | ⟨rfl, busy, sampling⟩
      · exact kept (noted.due (.inl (by rw [old]; rfl)))
      · have alive := alive_of_loop noted carried.wired (by rw [sampling]; rfl)
        have unclosed : s.tracker.channel.closed = false := by rw [carried.wired.closed, alive]; rfl
        cases moved with
        | client moved outside => cases outside
        | loop moved =>
          cases moved with
          | sample loop sent => exact Tracker.due_of_sample sent unclosed
          | _ => simp_all
    | _ => simp [loop, Loop.isHanding] at handing
  · -- a job that is handed over now was about to be
    rw [handed_append] at some
    by_cases none : handed events = []
    · rw [none, List.append_nil] at some
      exact kept (noted.due (.inr some))
    · obtain ⟨task, listed⟩ := List.exists_mem_of_ne_nil _ none
      obtain ⟨k, loop⟩ := handed_of_move sound moved listed
      exact kept (noted.due (.inl (by rw [loop]; rfl)))

end JobPool.Pool

namespace JobPool.Load

open JobPool.Metric (Registry)

variable {config : Config} {s t : State} {past events : List (Pool.Event LoadJob)}

/-- What the gauge shows for the pool of a run. -/
abbrev State.busy (config : Config) (s : State) : Option Int := reading s.sink.registry Gauge.id config.pool.name

theorem noted_of_move (small : config.pool.size < 2 ^ 63) (carried : Pool.Carried config.pool past s.pool)
    (fitted : Fitted s.sink.registry) (noted : Pool.Noted config.pool past (s.busy config) s.pool) (calm : Calm t)
    (moved : Move config s events t) : Pool.Noted config.pool (past ++ events) (t.busy config) t.pool := by
  cases moved with
  | pool stage moved =>
    cases moved with
    | quiet moved quiet => exact Pool.noted_of_quiet carried noted (Pool.move_of_step moved) quiet
    | @raise accepts greatest tracker moved lives =>
      have done : (Gauge.write s.sink.registry config.pool.name greatest).result = .ok () :=
        (Registry.of_calm_apply calm.registry).2
      have written : .gauge greatest ∈ [.log (Tracker.raised config.pool.name greatest),
        Tracker.Effect.gauge greatest] :=
        List.mem_cons_of_mem _ (List.mem_singleton.mpr rfl)
      have tells := noted.tells.raise moved written (lives (by rw [done]; rfl))
      have few : greatest.toNat ≤ config.pool.size := by
        have range := tells.range _ rfl
        omega
      have shows := busy_of_write fitted (Nat.lt_of_le_of_lt few small) done
      refine ⟨?_, fun _ => .inl ?_⟩
      · rw [State.busy, shows]
        exact tells
      · rw [State.busy, shows]
        rfl
  | attempt found working effort =>
    rw [List.append_nil]
    cases effort with
    | observe =>
      have apart : jobLatencyId ≠ Gauge.id := by decide
      rw [State.busy, reading_apply_of_ne fitted apart]
      exact ⟨noted.tells, noted.due⟩
    | fail =>
      have apart : failedJobsId ≠ Gauge.id := by decide
      rw [State.busy, reading_apply_of_ne fitted apart]
      exact ⟨noted.tells, noted.due⟩
    | measure | succeed => exact ⟨noted.tells, noted.due⟩
  | meter | push | turn =>
    rw [List.append_nil]
    exact ⟨noted.tells, noted.due⟩

end JobPool.Load
