import JobPool.Proofs.Pool.Backpressure
import JobPool.Proofs.Pool.Utilization

/-!
The order of service. Jobs are handed to workers in the order in which the queue let them in, so a job that is
run has only jobs of other workers before it: fewer than there are workers (`length_ahead_lt`). A single worker
begins its runs in that order too, since there is never more than one job with it (`started_prefix_handed`), and
no run begins or goes on but in its turn (`manned_of_run`).
-/

namespace JobPool.Pool

variable {J : Type}

/-- The jobs that were handed to workers and whose runs did not return. -/
def assigned (events : List (Event J)) : List (Task J) :=
  (handed events).filter fun task => !(returned events).any (hasTicket task.ticket)

/-- The accepted jobs whose runs did not return and that were let in before the one with this ticket. -/
def ahead (n : Nat) (events : List (Event J)) : List (Task J) :=
  (unfinished events).takeWhile fun task => !hasTicket n task

/-- A run begins only if fewer are under way than there are workers, and only jobs whose runs are under way are
    attempted. -/
def Manned (size : Nat) (past : List (Event J)) : Event J → Prop
  | .worker _ (.started _) => (ongoing past).length < size
  | .worker _ (.attempted task _) => (ongoing past).length ≤ size ∧ task.ticket ∈ (ongoing past).map (·.ticket)
  | _ => True

/-- A run begins only if no other is under way, and only the one job whose run is under way is attempted. -/
def InTurn (past : List (Event J)) : Event J → Prop
  | .worker _ (.started _) => ongoing past = []
  | .worker _ (.attempted task _) => (ongoing past).map (·.ticket) = [task.ticket]
  | _ => True

private theorem InTurn.of_manned {past : List (Event J)} {event : Event J} (manned : Manned 1 past event) :
    InTurn past event := by
  unfold Manned at manned
  split at manned
  · exact List.eq_nil_of_length_eq_zero (Nat.lt_one_iff.mp manned)
  · obtain ⟨few, member⟩ := manned
    obtain ⟨other, same⟩ := List.length_eq_one_iff.mp (Nat.le_antisymm few
      (List.length_pos_of_mem (List.mem_map.mp member).choose_spec.1))
    simp_all [InTurn]
  · unfold InTurn
    split <;> simp_all

private theorem length_takeWhile_append_lt {α : Type} {p : α → Bool} {a : α} {l : List α} (listed : a ∈ l)
    (stops : p a = false)
    (more : List α) : ((l ++ more).takeWhile p).length < l.length := by
  induction l with
  | nil => cases listed
  | cons first rest ih =>
    rcases List.mem_cons.mp listed with rfl | later
    · simp [stops]
    · rw [List.cons_append, List.takeWhile_cons]
      split
      · exact Nat.succ_lt_succ (ih later)
      · simp

/-- What is counted at most as often as in a list with one thing at most begins this list. -/
theorem prefix_of_countP_le {α : Type} {l few : List α} (single : few.length ≤ 1)
    (least : ∀ p : α → Bool, l.countP p ≤ few.countP p) : l <+: few := by
  classical
  have short := least fun _ => true
  simp only [List.countP_true] at short
  match l, few with
  | [], few => exact List.nil_prefix
  | [a], [b] =>
    have same := least fun other => decide (other = a)
    by_cases equal : b = a
    · subst equal; exact List.prefix_rfl
    · simp [equal] at same
  | _ :: _, [] => simp at short
  | _ :: _ :: _, [_] => simp at short
  | _, _ :: _ :: _ => simp at single

private theorem State.occupied_eq (s : State J) :
    s.occupied = s.unbegun (fun _ => true) + s.underway fun _ => true := by
  simp only [occupied, unbegun, underway, List.countP_true, ← total_add]
  exact congrArg s.total (funext Worker.occupied_eq)

private theorem hasTicket_self (task : Task J) : hasTicket task.ticket task = true := by simp [hasTicket]

/-- A ticket that is listed and not told of is among those that were not told of. -/
theorem mem_filter_untold {listed gone : List (Task J)} {n : Nat} (some : 0 < listed.countP (hasTicket n))
    (untold : gone.countP (hasTicket n) = 0) :
    ∃ other ∈ listed.filter (fun task => !gone.any (hasTicket task.ticket)), other.ticket = n := by
  obtain ⟨other, member, same⟩ := List.countP_pos_iff.mp some
  have ticket : other.ticket = n := by simpa [hasTicket] using same
  refine ⟨other, List.mem_filter.mpr ⟨member, ?_⟩, ticket⟩
  rw [ticket, Bool.not_eq_true', List.any_eq_false]
  exact List.countP_eq_zero.mp untold

private theorem ongoing_append_begun {past new : List (Event J)} {task : Task J} (starts : started new = [task])
    (returns : returned new = []) (fresh : (returned past).countP (hasTicket task.ticket) = 0) :
    ongoing (past ++ new) = ongoing past ++ [task] := by
  have none : (returned past).any (hasTicket task.ticket) = false := by
    rw [List.any_eq_false]
    exact List.countP_eq_zero.mp fresh
  rw [ongoing, started_append, returned_append, starts, returns, List.append_nil, List.filter_append]
  simp [ongoing, none]

private theorem ongoing_append_quiet {past new : List (Event J)} (starts : started new = [])
    (returns : returned new = []) :
    ongoing (past ++ new) = ongoing past := by
  rw [ongoing, started_append, returned_append, starts, returns, List.append_nil, List.append_nil, ongoing]

variable [Job J] {config : Config} {s t : State J} {action : Action J} {actions : List (Action J)}
  {events : List (Event J)}

section

variable (built : config.Buildable) (returns : AlwaysReturns J config.policy)
  (ran : run config (start config) actions = some (s, events))
include built returns ran

private theorem accepted_eq : accepted events = handed events ++ s.backlog :=
  (booked_of_run built returns ran).order

/-- A job that was handed to a worker is with one that is yet to run it, or was begun to be run. -/
theorem handed_of_run (p : Task J → Bool) :
    (handed events).countP p = s.unbegun p + (started events).countP p := by
  have begun := (booked_of_run built returns ran).begun p
  rw [unbegun_start] at begun
  omega

/-- The workers are occupied by just the jobs that were handed to them and whose runs did not return. -/
theorem length_assigned : (assigned events).length = s.occupied := by
  have once : ∀ n, (handed events).countP (hasTicket n) ≤ 1 := by
    intro n
    have few := (tickets_of_run built ran returns n).1
    rw [accepted_eq built returns ran, List.countP_append] at few
    omega
  have told : ∀ n, (returned events).countP (hasTicket n) ≤ (handed events).countP (hasTicket n) := by
    intro n
    have begun := handed_of_run built returns ran (hasTicket n)
    have through := (tickets_of_run built ran returns n).2.2
    omega
  have parts : (assigned events).length + (returned events).length = (handed events).length :=
    length_filter_untold once told
  have begun := handed_of_run built returns ran fun _ => true
  have ended := (booked_of_run built returns ran).ended (fun _ => true) fun _ => rfl
  rw [underway_start] at ended
  simp only [List.countP_true] at begun ended
  rw [s.occupied_eq]
  omega

private theorem begun_of_inside {task : Task J} (inside : task ∈ s.inside) :
    0 < (started events).countP (hasTicket task.ticket) ∧ (returned events).countP (hasTicket task.ticket) = 0 := by
  have now : 0 < s.inside.countP (hasTicket task.ticket) :=
    List.countP_pos_iff.mpr ⟨task, inside, hasTicket_self task⟩
  have through := started_of_run built returns ran task.ticket
  have tickets := tickets_of_run built ran returns task.ticket
  rw [underway_eq] at through
  omega

/-- A job that is run has fewer unfinished ones before it than there are workers. -/
theorem length_ahead_lt {task : Task J} (inside : task ∈ s.inside) :
    (ahead task.ticket events).length < config.size := by
  obtain ⟨begun, unreturned⟩ := begun_of_inside built returns ran inside
  have given := handed_of_run built returns ran (hasTicket task.ticket)
  obtain ⟨other, listed, same⟩ : ∃ other ∈ assigned events, other.ticket = task.ticket :=
    mem_filter_untold (by omega) unreturned
  have occupied := length_assigned built returns ran
  have room := (sound_of_reachable built returns ⟨_, _, ran⟩).occupied_add_out_le
  have split : unfinished events =
      assigned events ++ s.backlog.filter fun task => !(returned events).any (hasTicket task.ticket) := by
    rw [unfinished, accepted_eq built returns ran, List.filter_append]
    rfl
  have few : (ahead task.ticket events).length < (assigned events).length := by
    rw [ahead, split]
    exact length_takeWhile_append_lt listed (by simp [hasTicket, same]) _
  omega

/-- What the only worker of a pool begins to run was handed to it first, in the same order. -/
theorem started_prefix_handed (single : config.size = 1) : started events <+: handed events := by
  refine run_induction (motive := fun _ events _ => started events <+: handed events) List.nil_prefix ?_ ran
  intro actions past t action new u first before last
  have onward := run_extend first last
  rcases workerMove_or_phases (move_of_step last) with ⟨k, m, done, w, -, -, -, rfl⟩ | ⟨-, others⟩
  · -- nothing is handed over, and what is begun is the one job that was handed over and not begun
    obtain ⟨-, -, hands, -, -⟩ := jobs_of_worker k done
    obtain ⟨waiting, held⟩ := before
    have room := (sound_of_reachable built returns ⟨_, _, first⟩).occupied_add_out_le
    have same : handed (past ++ done.map (.worker k)) = started past ++ waiting := by
      rw [handed_append, hands, List.append_nil, held]
    have few : waiting.length ≤ 1 := by
      have begun := handed_of_run built returns first fun _ => true
      rw [← held] at begun
      simp only [List.countP_true, List.length_append] at begun
      have part := t.occupied_eq
      omega
    rw [same, started_append]
    refine List.prefix_append_right_inj _ |>.mpr (prefix_of_countP_le few fun p => ?_)
    have begun := handed_of_run built returns onward p
    rw [same, started_append, List.countP_append, List.countP_append] at begun
    omega
  · rw [started_append, (jobs_of_others others).1, List.append_nil, handed_append]
    exact before.trans (List.prefix_append _ _)

/-- As many runs are under way as there are workers in them, which is never more than there are workers. -/
theorem length_ongoing_le : (ongoing events).length ≤ config.size := by
  have sound := sound_of_reachable built returns ⟨_, _, ran⟩
  rw [length_ongoing built ran, ← sound.length_inside]
  exact sound.inside_le

private theorem mem_ongoing_of_inside {task : Task J} (inside : task ∈ s.inside) :
    task.ticket ∈ (ongoing events).map (·.ticket) := by
  obtain ⟨begun, unreturned⟩ := begun_of_inside built returns ran inside
  exact List.mem_map.mpr (mem_filter_untold begun unreturned)

/-- No run returned of a job whose run is still to begin. -/
theorem unreturned_of_begun {more : List (Action J)} {new : List (Event J)}
    (onward : run config (start config) more = some (t, events ++ new)) {task : Task J} (begun : task ∈ started new) :
    (returned events).countP (hasTicket task.ticket) = 0 := by
  have mine : 0 < (started new).countP (hasTicket task.ticket) :=
    List.countP_pos_iff.mpr ⟨task, begun, hasTicket_self task⟩
  have once := tickets_of_run built onward returns task.ticket
  have before := tickets_of_run built ran returns task.ticket
  rw [started_append, List.countP_append] at once
  omega

/-- What a worker does, it does when it is its turn. -/
theorem manned_of_workerMove {k : Nat} {m : Member (Task J)} {done : List (Worker.Event (Task J))} {w : Worker (Task J)}
    (found : s.members[k]? = some m) (own : Worker.Move (s.policy config) k s.admission m.worker done w)
    (onward : run config (start config) (actions ++ [action]) = some (t, events ++ done.map (.worker k))) :
    Runs.Throughout (fun past => Manned config.size (events ++ past)) (done.map (.worker k)) := by
  have intact := own.intact returns.run_policy
  have silent : ∀ {later : List (Worker.Event (Task J))}, (∀ event ∈ later, ∀ past : List (Event J),
      Manned config.size past (.worker k event)) →
      Runs.Throughout (fun past => Manned config.size (events ++ past)) (later.map (.worker k)) := by
    intro later quiet
    refine Runs.throughout_of_forall fun event member past => ?_
    obtain ⟨one, listed, rfl⟩ := List.mem_map.mp member
    exact quiet one listed _
  cases own with
  | crash => exact absurd rfl intact
  | @start job draining limit phase limited =>
    -- no run with this ticket returned, so the run is under way from its beginning on and has its worker
    have fresh : (returned events).countP (hasTicket job.ticket) = 0 :=
      unreturned_of_begun built returns ran onward (List.mem_singleton.mpr rfl)
    have now : ongoing (events ++ [.worker k (.started job)]) = ongoing events ++ [job] :=
      ongoing_append_begun rfl rfl fresh
    have begun : ongoing (events ++ [.worker k (.started job), .worker k (.attempted job 1)]) =
      ongoing events ++ [job] :=
      ongoing_append_begun rfl rfl fresh
    have few := length_ongoing_le built returns onward
    simp only [List.map_cons, List.map_nil, begun, List.length_append, List.length_singleton] at few
    simp only [List.map_cons, List.map_nil, Runs.throughout_cons, Manned, List.append_nil, now, List.length_append,
      List.length_singleton, List.map_append, List.mem_append, List.mem_singleton]
    exact ⟨few, ⟨few, .inr trivial⟩, Runs.throughout_nil⟩
  | @again job next attempt limit draining warning phase judged =>
    obtain ⟨rfl, more⟩ := Policy.of_judge_again judged
    have inside : job ∈ s.inside :=
      List.mem_filterMap.mpr ⟨m, List.mem_of_getElem? found, by simp [Worker.job?, phase]⟩
    have going := mem_ongoing_of_inside built returns ran inside
    have few := length_ongoing_le built returns ran
    have same : ongoing (events ++ [.worker k (.judged warning)]) = ongoing events := ongoing_append_quiet rfl rfl
    simp only [List.map_cons, List.map_nil, Runs.throughout_cons, Manned, same]
    exact ⟨trivial, ⟨few, going⟩, Runs.throughout_nil⟩
  | finish => exact silent (by simp [Manned, or_imp, forall_and])
  | _ => exact silent (by simp [Manned])

/-- In every run of a pool, a run of a job begins only if there is a worker for it, and goes on until it returns. -/
theorem manned_of_run : Runs.Throughout (Manned config.size) events := by
  refine run_induction (motive := fun _ events _ =>
    Runs.Throughout (Manned config.size) events) Runs.throughout_nil ?_ ran
  intro actions past t action new u first before last
  rw [Runs.throughout_append]
  refine ⟨before, ?_⟩
  have onward := run_extend first last
  rcases workerMove_or_phases (move_of_step last) with ⟨k, m, done, w, found, own, -, rfl⟩ | ⟨-, others⟩
  · exact manned_of_workerMove built returns first found own onward
  · refine Runs.throughout_of_forall fun event member past => ?_
    have other := others event member
    cases event <;> simp_all [Manned, Event.isOfWorker]

end

/-- In every run of a pool, jobs are handed to workers in the order in which they were let in; a job that is run has
    fewer unfinished ones before it than there are workers; and a single worker begins to run the jobs in the order in
    which they were let in, each after the run of the one before it returned. -/
theorem service_of_run (built : config.Buildable) (returns : AlwaysReturns J config.policy)
    (ran : run config (start config) actions = some (s, events)) :
    handed events <+: accepted events ∧
    (∀ task ∈ s.inside, (ahead task.ticket events).length < config.size) ∧
    (config.size = 1 → started events <+: accepted events ∧ Runs.Throughout InTurn events) := by
  have order : handed events <+: accepted events := ⟨s.backlog, (accepted_eq built returns ran).symm⟩
  refine ⟨order, fun task inside => length_ahead_lt built returns ran inside, fun single => ⟨?_, ?_⟩⟩
  · exact (started_prefix_handed built returns ran single).trans order
  · have manned := manned_of_run built returns ran
    rw [single] at manned
    exact fun past event later split => .of_manned (manned past event later split)

/-- A pool of one worker that attempts a job a second time. -/
def counter : Config := ⟨"counter", 1, 2, .retry 1⟩

/-- The first job fails twice while the second one waits, which is run then. -/
def queueing : List (Action Load.LoadJob) :=
  [.submit (.new 0 true) false, .submit (.new 1 false) false, .worker 0] ++ List.replicate 5 .loop ++
    List.replicate 6 (.worker 0) ++ List.replicate 5 .loop ++ List.replicate 3 (.worker 0)

theorem queueing_served :
    (after counter queueing).1.inside = [⟨1, .new 1 false⟩] ∧
      handed (after counter queueing).2 <+: accepted (after counter queueing).2 ∧
      (ahead 1 (after counter queueing).2).length < 1 ∧
      started (after counter queueing).2 <+: accepted (after counter queueing).2 ∧
      Runs.Throughout InTurn (after counter queueing).2 := by
  have built : counter.Buildable := ⟨by decide, by decide⟩
  have limited : counter.policy.attemptLimit = .ok 2 := rfl
  have ran : run counter (start counter) queueing = some (after counter queueing) := run_after rfl
  have inside : (after counter queueing).1.inside = [⟨1, .new 1 false⟩] := rfl
  obtain ⟨order, few, single⟩ := service_of_run built (alwaysReturns_of_attemptLimit limited) ran
  have mine : ⟨1, .new 1 false⟩ ∈ (after counter queueing).1.inside := by rw [inside]; exact List.mem_singleton.mpr rfl
  exact ⟨inside, order, few ⟨1, .new 1 false⟩ mine, single rfl⟩

end JobPool.Pool
