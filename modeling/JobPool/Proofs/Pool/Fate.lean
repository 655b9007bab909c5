import JobPool.Proofs.Pool.Delivery

/-!
What becomes of the jobs that a pool lets in, whatever kind its workers are of: they may take jobs, close their inboxes
and let go of the pool at any moment. The loop hands jobs over in the order in which they came. Once nobody is left to
publish itself it reports the job in its hand as lost and leaves the queue, and then what the queue holds, and what is
let in until the loop is over, stays there without a word (`fate_of_run`).
-/

namespace JobPool.Pool

variable {J : Type}

/-- The job that was given up because no worker was left. -/
def Event.lost? : Event J → Option (Task J)
  | .lost task => some task
  | _ => none

/-- What the dispatcher logs. -/
def Event.logged? : Event J → Option Record
  | .log record => some record
  | _ => none

/-- What the dispatcher logged, in this order. -/
def logged (events : List (Event J)) : List Record := events.filterMap Event.logged?

/-- The jobs that were given up. -/
def lost (events : List (Event J)) : List (Task J) := events.filterMap Event.lost?

private theorem lost_append (events more : List (Event J)) : lost (events ++ more) = lost events ++ lost more :=
  List.filterMap_append

/-- The line about a job that is given up. -/
def lostLine [Job J] (config : Config) (task : Task J) : Record :=
  ⟨.error, "[" ++ config.name ++ "] no workers left, dropping Job \x7b desc: " ++ Text.quoted (Job.describe task) ++
    " \x7d"⟩

/-- An error line of the dispatcher shows the job, be it only by its description. -/
def Named [Job J] (events : List (Event J)) (task : Task J) : Prop :=
  ∃ record ∈ logged events, record.level = .error ∧ (Text.quoted (Job.describe task)).toList <:+: record.text.toList

namespace State

/-- Nothing is queued, and nobody can submit. -/
structure Dry (s : State J) : Prop where
  empty : s.queue.items = []
  alone : s.hasSenders = false

/-- The worker is there and did not let go of the pool. -/
def Holds (s : State J) (k : Nat) : Prop := ∃ m, s.members[k]? = some m ∧ m.released = false

private theorem Holds.publishers {s : State J} {k : Nat} (holds : s.Holds k) : s.hasPublishers = true := by
  obtain ⟨m, found, unreleased⟩ := holds
  simp only [hasPublishers, List.any_eq_true]
  exact ⟨m, List.mem_of_getElem? found, by simp [unreleased]⟩

/-- A worker that changes holds on to the pool unless it lets go of it. -/
theorem Holds.set {s t : State J} {j k : Nat} {m m' : Member (Task J)} (holds : s.Holds k)
    (found : s.members[j]? = some m) (members : t.members = s.members.set j m')
    (same : j = k → m'.released = m.released) : t.Holds k := by
  obtain ⟨n, at_k, unreleased⟩ := holds
  obtain ⟨inside, -⟩ := List.getElem?_eq_some_iff.mp found
  rw [Holds, members]
  by_cases here : j = k
  · subst here
    rw [found] at at_k
    cases at_k
    exact ⟨m', List.getElem?_set_self inside, (same rfl).trans unreleased⟩
  · exact ⟨n, by rw [List.getElem?_set_ne here]; exact at_k, unreleased⟩

private theorem Holds.closeLoop {s : State J} {k : Nat} (holds : s.Holds k) (loop : Loop (Task J)) :
    (s.closeLoop loop).Holds k := by
  obtain ⟨m, found, unreleased⟩ := holds
  exact ⟨{ m with worker := { m.worker with abandoned := true } }, by simp [State.closeLoop, found], unreleased⟩

end State

/-- Nothing happens to a job that was submitted. -/
structure Still (s : State J) (events : List (Event J)) (t : State J) : Prop where
  accepted : accepted events = []
  refused : refused events = []
  handed : handed events = []
  lost : lost events = []
  backlog : t.backlog = s.backlog
  waiting : t.waiting = s.waiting
  tickets : t.nextTicket = s.nextTicket

/-- What a move does to the jobs that were submitted: something that a client does, a hand-over, the end of the last
    hope for a job, or nothing. -/
inductive Turn [Job J] (config : Config) (s : State J) (events : List (Event J)) (t : State J) : Prop
  | client {action : Action J} (moved : ClientMove config s action events t)
  | hand {task : Task J} {k : Nat} (loop : s.loop = .handing task k) (told : events = [.handed task k])
      (after : t.loop = .receiving) (queue : t.queue = s.queue) (waiting : t.waiting = s.waiting)
      (tickets : t.nextTicket = s.nextTicket)
  | giveUp {task : Task J} (loop : s.loop = .seeking task) (alone : s.hasPublishers = false)
      (told : events = [.log (lostRecord config task), .lost task]) (after : t = { s with loop := .leaving })
  | still (still : Still s events t) (dry : s.Dry → t.Dry)
      (stays : t.loop.hasLeft = true → s.loop.hasLeft = true ∨ t.Dry)
      (left : s.loop.hasLeft = true → t.loop.hasLeft = true)

variable [Job J] {config : Config} {s t : State J} {action : Action J} {actions : List (Action J)}
  {events past new : List (Event J)}

omit [Job J] in
private theorem Still.of_silent (silent : ∀ event ∈ events, event.isSilent = true)
    (unlost : ∀ task, .lost task ∉ events)
    (backlog : t.backlog = s.backlog) (waiting : t.waiting = s.waiting) (tickets : t.nextTicket = s.nextTicket) :
    Still s events t := by
  obtain ⟨accepts, refuses, hands, -, -⟩ := silent_nil silent
  refine ⟨accepts, refuses, hands, ?_, backlog, waiting, tickets⟩
  refine List.filterMap_eq_nil_iff.mpr fun event member => ?_
  cases event with
  | lost task => exact absurd member (unlost task)
  | _ => rfl

/-- A move that leaves the loop, the queue and the senders alone. -/
theorem Turn.aside (still : Still s events t) (loop : t.loop = s.loop) (queue : t.queue = s.queue)
    (senders : t.hasSenders = s.hasSenders) : Turn config s events t := by
  refine .still still (fun dry => ⟨?_, ?_⟩) (by rw [loop]; exact .inl) (by rw [loop]; exact id)
  · rw [queue]
    exact dry.empty
  · rw [senders]
    exact dry.alone

/-- What a move of the loop is to the jobs that were submitted. -/
theorem turn_of_loopMove (moved : LoopMove config s events t) : Turn config s events t := by
  cases moved with
  | receive loop first =>
    refine .still (.of_silent nofun nofun ?_ rfl rfl) (fun dry => ?_) (fun left => by cases left) fun left => ?_
    · simp [State.backlog, loop, first, Loop.job?]
    · rw [dry.empty] at first
      cases first
    · rw [loop] at left
      cases left
  | leave loop empty alone =>
    refine .still (.of_silent nofun nofun ?_ rfl rfl) (fun dry => ⟨dry.empty, dry.alone⟩)
      (fun _ => .inr ⟨empty, alone⟩) fun _ => rfl
    simp [State.backlog, loop, Loop.job?]
  | lose loop empty alone => exact .giveUp loop alone rfl rfl
  | hand loop => exact .hand loop rfl rfl rfl rfl rfl
  | lease loop | count loop | sample loop | takeBack loop =>
    refine .still (.of_silent ?_ ?_ ?_ rfl rfl) (fun dry => ⟨dry.empty, dry.alone⟩)
      (fun left => by cases left) fun left => ?_
    · simp [Event.isSilent]
    · simp
    · simp [State.backlog, loop, Loop.job?]
    · rw [loop] at left
      cases left
  | announce loop | stop loop | stopCustom loop | stopFaulty loop | stoppedAll loop | join loop | joinCustom loop
  | joinedAll loop | retire loop =>
    refine .still (.of_silent ?_ ?_ ?_ rfl rfl) (fun dry => ⟨dry.empty, dry.alone⟩)
      (fun _ => .inl (by rw [loop]; rfl)) fun _ => rfl
    · simp [Event.isSilent]
    · simp
    · simp [State.backlog, State.setWorker, State.closeLoop, Channel.close, loop, Loop.job?]

private theorem turn_of_move (moved : Move config s action events t) : Turn config s events t := by
  cases moved with
  | client moved => exact .client moved
  | loop moved => exact turn_of_loopMove moved
  | owner moved =>
    cases moved with
    | joinLoop waiting through logged | joinTracker waiting through logged =>
      refine .aside (.of_silent ?_ ?_ rfl rfl rfl) rfl rfl rfl
      · intro event member
        obtain ⟨record, rfl⟩ := logged event member
        rfl
      · intro task member
        obtain ⟨record, same⟩ := logged _ member
        cases same
  | @worker k m told w found moved =>
    obtain ⟨accepts, refuses, hands, -, -⟩ := jobs_of_worker k told
    refine .aside ⟨accepts, refuses, hands, ?_, rfl, rfl, rfl⟩ rfl rfl rfl
    simp [lost, Event.lost?, Function.comp_def]
  | custom found custom moved =>
    obtain ⟨rfl, idle, m', rfl, -⟩ := of_moveCustom found moved
    exact .aside (.of_silent nofun nofun rfl rfl rfl) rfl rfl rfl
  | tracker moved =>
    refine .aside (.of_silent ?_ ?_ rfl rfl rfl) rfl rfl rfl
    · simp [Event.isSilent]
    · simp
  | closeSink => exact .aside (.of_silent nofun nofun rfl rfl rfl) rfl rfl rfl

omit [Job J] in
/-- Clients leave the loop alone. -/
theorem quiet_of_clientMove (moved : ClientMove config s action events t) :
    handed events = [] ∧ lost events = [] ∧ t.loop = s.loop := by
  cases moved <;> exact ⟨rfl, rfl, rfl⟩

omit [Job J] in
/-- Nobody who could not submit before can submit after a move of a client. -/
theorem dry_of_clientMove (dry : s.Dry) (moved : ClientMove config s action events t) : t.Dry := by
  obtain ⟨empty, alone⟩ := dry
  obtain ⟨own, others, waiting⟩ := hasSenders_eq_false.mp alone
  cases moved with
  | enter sender | queueUp sender => simp [alone] at sender
  | letIn found | sendBack found => simp [waiting] at found
  | share share => simp [own] at share
  | drop | close | finish | letGo => exact ⟨empty, by simp [hasSenders_eq_false, own, others, waiting]⟩
  | turnAway | finishAgain | letGoLate | reset | resetNobody | ask | askNobody => exact ⟨empty, alone⟩

/-- Where the submitted jobs are after what happened so far. -/
structure Accounted (config : Config) (events : List (Event J)) (s : State J) : Prop where
  order : accepted events = handed events ++ lost events ++ s.backlog
  answered : ∀ n, s.waiting.countP (hasTicket n) + (accepted events).countP (hasTicket n) +
    (refused events).countP (hasTicket n) = s.issued n
  few : (lost events).length ≤ 1
  reported : ∀ task ∈ lost events, .log (lostRecord config task) ∈ events
  left : lost events ≠ [] → s.loop.hasLeft = true
  drained : s.loop.hasLeft = true → lost events = [] → s.Dry

namespace Accounted

private theorem start (kinds : List Kind) : Accounted config [] (.new config kinds : State J) where
  order := rfl
  answered := fun _ => rfl
  few := Nat.zero_le 1
  reported := nofun
  left := fun none => absurd rfl none
  drained := nofun

/-- As long as the loop takes jobs, none was given up. -/
theorem unlost (known : Accounted config past s) (stays : s.loop.hasLeft = false) : lost past = [] := by
  by_contra some
  rw [known.left some] at stays
  cases stays

/-- What happens while no job is handed over or given up. -/
theorem extend (known : Accounted config past s) (unhanded : handed new = []) (unlost : lost new = [])
    (order : s.backlog ++ accepted new = t.backlog)
    (answered : ∀ n, s.issued n + t.waiting.countP (hasTicket n) + (accepted new).countP (hasTicket n) +
      (refused new).countP (hasTicket n) = t.issued n + s.waiting.countP (hasTicket n))
    (left : s.loop.hasLeft = true → t.loop.hasLeft = true)
    (drained : t.loop.hasLeft = true → lost past = [] → t.Dry) : Accounted config (past ++ new) t := by
  have sameLost : lost (past ++ new) = lost past := by rw [lost_append, unlost, List.append_nil]
  constructor
  · rw [accepted_append, known.order, sameLost, handed_append, unhanded, List.append_nil, List.append_assoc, order]
  · intro n
    have before := known.answered n
    have here := answered n
    rw [accepted_append, refused_append, List.countP_append, List.countP_append]
    omega
  · rw [sameLost]
    exact known.few
  · intro task member
    rw [sameLost] at member
    exact List.mem_append_left _ (known.reported task member)
  · rw [sameLost]
    exact fun some => left (known.left some)
  · rw [sameLost]
    exact drained

private theorem client (known : Accounted config past s) (moved : ClientMove config s action new t) :
    Accounted config (past ++ new) t := by
  have booked := Booked.client moved
  obtain ⟨unhanded, unlost, loop⟩ := quiet_of_clientMove moved
  have order : s.backlog ++ accepted new = t.backlog := by rw [booked.order, unhanded, List.nil_append]
  refine known.extend unhanded unlost order booked.answered ?_ ?_
  · rw [loop]
    exact id
  · rw [loop]
    exact fun left none => dry_of_clientMove (known.drained left none) moved

private theorem still (known : Accounted config past s) (still : Still s new t) (dry : s.Dry → t.Dry)
    (stays : t.loop.hasLeft = true → s.loop.hasLeft = true ∨ t.Dry)
    (left : s.loop.hasLeft = true → t.loop.hasLeft = true) : Accounted config (past ++ new) t := by
  refine known.extend still.handed still.lost ?_ ?_ left fun gone none => ?_
  · rw [still.accepted, still.backlog, List.append_nil]
  · intro n
    simp [still.accepted, still.refused, still.waiting, State.issued, still.tickets]
  · rcases stays gone with before | here
    · exact dry (known.drained before none)
    · exact here

private theorem hand {task : Task J} {k : Nat} (known : Accounted config past s) (loop : s.loop = .handing task k)
    (after : t.loop = .receiving) (queue : t.queue = s.queue) (waiting : t.waiting = s.waiting)
    (tickets : t.nextTicket = s.nextTicket) : Accounted config (past ++ [.handed task k]) t := by
  have none : lost past = [] := known.unlost (by rw [loop]; rfl)
  have sameLost : lost (past ++ [.handed task k]) = [] := by rw [lost_append, none]; rfl
  have handedHere : handed [(.handed task k : Event J)] = [task] := rfl
  have acceptedHere : accepted [(.handed task k : Event J)] = [] := rfl
  have refusedHere : refused [(.handed task k : Event J)] = [] := rfl
  constructor
  · rw [accepted_append, known.order, none, sameLost, handed_append, handedHere, acceptedHere]
    simp [State.backlog, loop, after, queue, Loop.job?]
  · intro n
    have before := known.answered n
    rw [accepted_append, refused_append, acceptedHere, refusedHere, List.append_nil, List.append_nil, waiting, before,
      State.issued, State.issued, tickets]
  · simp [sameLost]
  · simp [sameLost]
  · simp [sameLost]
  · intro left
    rw [after] at left
    cases left

private theorem giveUp {task : Task J} (known : Accounted config past s) (loop : s.loop = .seeking task) :
    Accounted config (past ++ [.log (lostRecord config task), .lost task]) { s with loop := .leaving } := by
  have none : lost past = [] := known.unlost (by rw [loop]; rfl)
  have oneLost : lost (past ++ [.log (lostRecord config task), .lost task]) = [task] := by rw [lost_append, none]; rfl
  have handedHere : handed [.log (lostRecord config task), .lost task] = [] := rfl
  have acceptedHere : accepted [.log (lostRecord config task), .lost task] = [] := rfl
  have refusedHere : refused [.log (lostRecord config task), .lost task] = [] := rfl
  constructor
  · rw [accepted_append, known.order, none, oneLost, handed_append, handedHere, acceptedHere]
    simp [State.backlog, loop, Loop.job?]
  · intro n
    have before := known.answered n
    rw [accepted_append, refused_append, acceptedHere, refusedHere, List.append_nil, List.append_nil]
    exact before
  · simp [oneLost]
  · simp [oneLost]
  · exact fun _ => rfl
  · simp [oneLost]

/-- Every move keeps account of the jobs. -/
theorem step (known : Accounted config past s) (turn : Turn config s new t) : Accounted config (past ++ new) t := by
  cases turn with
  | client moved => exact known.client moved
  | hand loop told after queue waiting tickets => exact told ▸ known.hand loop after queue waiting tickets
  | giveUp loop alone told after => exact told ▸ after ▸ known.giveUp loop
  | still quiet dry stays left => exact known.still quiet dry stays left

end Accounted

/-- So does every run of a pool of whatever workers. -/
theorem accounted_of_run {kinds : List Kind} (ran : run config (.new config kinds) actions = some (s, events)) :
    Accounted config events s :=
  run_induction (motive := fun _ events s => Accounted config events s) (.start kinds)
    (fun _ known last => known.step (turn_of_move (move_of_step last))) ran

/-- A worker holds on to the pool until it lets go of it. -/
theorem holds_of_move {k : Nat} (moved : Move config s action events t) (other : action ≠ .custom k .release)
    (holds : s.Holds k) : t.Holds k := by
  cases moved with
  | client moved => cases moved <;> exact holds
  | owner moved => cases moved <;> exact holds
  | loop moved =>
    cases moved with
    | hand loop found | stop loop found | join loop found => exact holds.set found rfl fun _ => rfl
    | stopFaulty | retire => exact holds.closeLoop _
    | receive | leave | lease | lose | count | sample | takeBack | announce | stopCustom | stoppedAll | joinCustom
    | joinedAll => exact holds
  | worker found => exact holds.set found rfl fun _ => rfl
  | @custom j act m told t found custom moved =>
    unfold State.moveCustom at moved
    simp only [found] at moved
    rw [if_neg (not_not.mpr custom)] at moved
    cases act with
    | publish =>
      simp only at moved
      split at moved
      · cases moved
        exact holds
      · cases moved
    | closeInbox =>
      cases moved
      exact holds.set found rfl fun _ => rfl
    | takeJob =>
      obtain ⟨⟨job, inbox⟩, -, made⟩ := Option.map_eq_some_iff.mp moved
      cases made
      exact holds.set found rfl fun _ => rfl
    | release =>
      cases moved
      exact holds.set found rfl fun same => absurd (same ▸ rfl) other
  | tracker | closeSink => exact holds

/-- As long as some worker holds on to the pool, no job is given up. -/
theorem lost_of_holds {kinds : List Kind} {k : Nat} (inside : k < kinds.length) (keeps : .custom k .release ∉ actions)
    (ran : run config (.new config kinds) actions = some (s, events)) : lost events = [] := by
  have known : (.custom k .release ∉ actions) → s.Holds k ∧ lost events = [] := by
    refine run_induction (motive := fun actions events s => (.custom k .release ∉ actions) → s.Holds k ∧
      lost events = [])
      (fun _ => ⟨?_, rfl⟩) (fun {before past u action new v} first ih last keeps => ?_) ran
    · exact ⟨⟨kinds[k], if kinds[k] = .custom then .new else Worker.new.start, false⟩, by simp [State.new, inside], rfl⟩
    · obtain ⟨earlier, now⟩ := not_or.mp (List.mem_append.not.mp keeps)
      obtain ⟨holds, none⟩ := ih earlier
      have moved := move_of_step last
      refine ⟨holds_of_move moved (fun same => now (by simp [same])) holds, ?_⟩
      rw [lost_append, none, List.nil_append]
      cases turn_of_move moved with
      | client moved => exact (quiet_of_clientMove moved).2.1
      | hand loop told => rw [told]; rfl
      | giveUp loop alone => simp [holds.publishers] at alone
      | still still => exact still.lost
  exact (known keeps).2

private theorem lostRecord_eq (config : Config) (task : Task J) : lostRecord config task = lostLine config task := by
  refine congrArg (Record.mk .error) (String.toList_inj.mp ?_)
  simp [jobText, Text.record, toString]

private theorem named_of_reported {task : Task J} (reported : .log (lostLine config task) ∈ events) :
    Named events task := by
  refine ⟨_, List.mem_filterMap.mpr ⟨_, reported, rfl⟩, rfl, ?_⟩
  simp only [lostLine, String.toList_append]
  exact ⟨_, _, rfl⟩

/-- What became of the jobs once the loop is over, whatever the workers did and in whatever order everybody moved: every
    job that was let in was handed over once, or was given up and is named in an error line, or is left in the queue.
    Jobs were handed over in the order in which they were let in; at most one was given up, after all that were handed
    over; and only behind that one jobs are left. None is as long as some worker holds on to the pool. -/
theorem fate_of_run {kinds : List Kind} (ran : run config (.new config kinds) actions = some (s, events))
    (through : s.loop.isOver = true) :
    accepted events = handed events ++ lost events ++ s.queue.items ∧
    (∀ task, .submitted task .accepted ∈ events →
      (handed events).countP (hasTicket task.ticket) + (lost events).countP (hasTicket task.ticket) +
        s.queue.items.countP (hasTicket task.ticket) = 1) ∧
    (∀ task ∈ lost events, .log (lostLine config task) ∈ events ∧ Named events task) ∧
    (lost events).length ≤ 1 ∧
    (lost events = [] → s.queue.items = []) ∧
    (∀ k < kinds.length, .custom k .release ∉ actions → lost events = []) := by
  have known := accounted_of_run ran
  have left : s.loop.hasLeft = true := by
    by_contra stays
    rw [Loop.isOver_of_stays ((Bool.not_eq_true _).mp stays)] at through
    cases through
  have empty : s.loop.job? = none := by
    cases loop : s.loop <;> first | rfl | simp [loop, Loop.isOver] at through
  have order : accepted events = handed events ++ lost events ++ s.queue.items := by
    rw [known.order, State.backlog, empty]
    rfl
  have reported : ∀ task ∈ lost events, .log (lostLine config task) ∈ events := fun task member =>
    lostRecord_eq config task ▸ known.reported task member
  refine ⟨order, fun task happened => ?_,
    fun task member => ⟨reported task member, named_of_reported (reported task member)⟩,
    known.few, fun none => (known.drained left none).empty, fun k inside keeps => lost_of_holds inside keeps ran⟩
  have own := countP_own (mem_accepted.mpr happened)
  have answered := known.answered task.ticket
  have single : s.issued task.ticket ≤ 1 := by
    unfold State.issued
    split <;> omega
  rw [order] at own answered
  simp only [List.countP_append] at own answered
  omega

/-- A worker of its own kind takes one of three jobs; then it closes its inbox and lets go of the pool. -/
def quitting : List (Action Load.LoadJob) :=
  [.submit (.new 0 false) false, .submit (.new 1 false) false, .submit (.new 2 false) false, .custom 0 .publish,
    .loop, .loop, .loop, .loop, .loop, .custom 0 .takeJob, .custom 0 .closeInbox, .custom 0 .release,
    .loop, .loop, .loop, .loop, .loop, .loop, .loop, .loop]

/-- The state of its pool after this, and what happened. -/
def quit : State Load.LoadJob × List (Event Load.LoadJob) :=
  Runs.after (step ⟨"orders", 1, 3, .log⟩) (.new ⟨"orders", 1, 3, .log⟩ [.custom]) quitting

private theorem run_quitting :
    run ⟨"orders", 1, 3, .log⟩ (.new ⟨"orders", 1, 3, .log⟩ [.custom]) quitting = some quit := by
  rw [run_eq]
  exact Runs.run_after rfl

/-- The first job was handed over, the second one was given up, and the third one is left. -/
theorem quit_fates : quit.1.loop.isOver = true ∧
    accepted quit.2 = handed quit.2 ++ lost quit.2 ++ quit.1.queue.items ∧
    (∀ task ∈ lost quit.2, .log (lostLine ⟨"orders", 1, 3, .log⟩ task) ∈ quit.2 ∧ Named quit.2 task) ∧
    (handed quit.2).map (·.ticket) = [0] ∧ (lost quit.2).map (·.ticket) = [1] ∧
    quit.1.queue.items.map (·.ticket) = [2] := by
  obtain ⟨order, -, named, -⟩ := fate_of_run run_quitting rfl
  exact ⟨rfl, order, named, rfl, rfl, rfl⟩

/-- So a job that was let in can vanish: it is neither handed over nor named. -/
theorem third_vanishes : ¬ ∀ (config : Config) (kinds : List Kind) (actions : List (Action Load.LoadJob))
    (s : State Load.LoadJob) (events : List (Event Load.LoadJob)),
    run config (.new config kinds) actions = some (s, events) → s.loop.isOver = true →
    ∀ task, .submitted task .accepted ∈ events →
      (handed events).countP (hasTicket task.ticket) = 1 ∨ Named events task := by
  intro none_vanishes
  have happened : quit.2[2]? = some (.submitted ⟨2, .new 2 false⟩ .accepted) := rfl
  rcases none_vanishes _ _ _ quit.1 quit.2 run_quitting rfl _ (List.mem_of_getElem? happened) with once | named
  · have never : (handed quit.2).countP (hasTicket 2) = 0 := rfl
    cases never.symm.trans once
  · obtain ⟨record, listed, error, shown⟩ := named
    have all : logged quit.2 = [lostRecord ⟨"orders", 1, 3, .log⟩ (⟨1, .new 1 false⟩ : Task Load.LoadJob),
      stoppingRecord ⟨"orders", 1, 3, .log⟩, loopEndedRecord ⟨"orders", 1, 3, .log⟩] := rfl
    rw [all] at listed
    simp only [List.mem_cons, List.not_mem_nil, or_false] at listed
    rcases listed with rfl | rfl | rfl
    · revert shown
      decide +kernel
    · cases error
    · cases error

end JobPool.Pool
