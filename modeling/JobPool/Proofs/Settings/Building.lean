import Mathlib.Data.List.Basic
import JobPool.Builder
import JobPool.Proofs.Pool.Run
import JobPool.Proofs.Settings.RoundTrip
import JobPool.Settings.File

/-!
Which settings a pool can be built from. A size of zero is ignored and so never asks for a channel without room; what
remains are sizes beyond memory and the name, which goes into the name of every thread. A thread whose name holds a NUL
does not start, while the JSON form of settings can carry any name, NULs included.
-/

namespace JobPool

section bytes

private theorem byteArray_toList_loop (bytes : ByteArray) (i : Nat) (before : List UInt8) :
    ByteArray.toList.loop bytes i before = before.reverse ++ bytes.data.toList.drop i := by
  fun_induction ByteArray.toList.loop bytes i before with
  | case1 i before more ih =>
    have inside : i < bytes.data.toList.length := by simpa using more
    have here : bytes.get! i = bytes.data.toList[i] := by
      cases bytes
      exact getElem!_pos (Array.mk _) i more
    rw [ih, List.drop_eq_getElem_cons inside, here, List.reverse_cons, List.append_assoc, List.singleton_append]
  | case2 i before through =>
    have none : bytes.data.toList.drop i = [] := List.drop_eq_nil_of_le (by simpa using through)
    rw [none, List.append_nil]

/-- The bytes of a text are those of its characters. -/
theorem toUTF8_toList (text : String) : text.toUTF8.toList = text.toList.flatMap String.utf8EncodeChar := by
  have written : text.toByteArray = (text.toList.flatMap String.utf8EncodeChar).toByteArray :=
    String.utf8Encode_toList.symm
  rw [String.toUTF8_eq_toByteArray, ByteArray.toList, byteArray_toList_loop, List.reverse_nil, List.nil_append,
    List.drop_zero, written, List.toList_data_toByteArray]

/-- A byte with a mark in its upper bits is not zero. -/
theorem zero_ne_marked (r : Nat) {bits mark : Nat} (some : 0 < bits) (marked : 0 < mark) (fits : bits + mark ≤ 256) :
    0 ≠ UInt8.ofNat (r % bits + mark) := by
  intro zero
  have less := Nat.mod_lt r some
  have value := congrArg UInt8.toNat zero
  simp only [UInt8.toNat_ofNat', UInt8.toNat_zero] at value
  omega

/-- Only NUL is encoded with a zero. -/
theorem zero_mem_utf8EncodeChar {c : Char} : 0 ∈ String.utf8EncodeChar c ↔ c = '\x00' := by
  constructor
  · fun_cases String.utf8EncodeChar c with
    | case1 code single =>
      intro zero
      have value := congrArg UInt8.toNat (List.mem_singleton.mp zero)
      simp only [UInt8.toNat_ofNat', UInt8.toNat_zero] at value
      exact Char.ext (UInt32.toNat_inj.mp (show code = 0 by omega))
    | case2 | case3 | case4 =>
      intro zero
      simp (disch := omega) only [List.mem_cons, List.not_mem_nil, zero_ne_marked, or_self] at zero
  · rintro rfl
    decide

/-- There is a zero among the bytes of a text exactly if it holds a NUL. -/
theorem zero_mem_toUTF8 {text : String} : 0 ∈ text.toUTF8.toList ↔ '\x00' ∈ text.toList := by
  simp only [toUTF8_toList, List.mem_flatMap, zero_mem_utf8EncodeChar, exists_eq_right]

end bytes

section threads

variable {name : String}

theorem startThread_of_no_nul (free : '\x00' ∉ name.toList) : startThread name = .ok () := by
  have none : name.toUTF8.toList.findIdx? (fun byte => byte = 0) = none := by
    refine List.findIdx?_eq_none_iff.mpr fun byte member => decide_eq_false fun zero => ?_
    exact free (zero_mem_toUTF8.mp (zero ▸ member))
  simp only [startThread, none]

/-- The fault names the first zero among the bytes of the name. -/
theorem startThread_of_nul (held : '\x00' ∈ name.toList) :
    ∃ index, startThread name = .error (.nulInThreadName index name.toUTF8.toList) ∧
      name.toUTF8.toList[index]? = some 0 ∧ ∀ i < index, name.toUTF8.toList[i]? ≠ some 0 := by
  cases found : name.toUTF8.toList.findIdx? (fun byte => byte = 0) with
  | none =>
    have zero := List.findIdx?_eq_none_iff.mp found 0 (zero_mem_toUTF8.mpr held)
    cases zero
  | some index =>
    obtain ⟨inside, zero, first⟩ := List.findIdx?_eq_some_iff_getElem.mp found
    refine ⟨index, by simp only [startThread, found], ?_, fun i before here => ?_⟩
    · rw [List.getElem?_eq_getElem inside, of_decide_eq_true zero]
    · obtain ⟨_, same⟩ := List.getElem?_eq_some_iff.mp here
      exact first i before (decide_eq_true same)

theorem nul_mem_workerThread {number : Nat} : '\x00' ∈ (workerThread name number).toList ↔ '\x00' ∈ name.toList := by
  have digits : '\x00' ∉ Nat.toDigits 10 number := fun member =>
    absurd (Json.isDigit_of_mem_toDigits member) (by decide)
  have words : (workerThread name number).toList = name.toList ++ "-worker-".toList ++ Nat.toDigits 10 number := by
    simp [workerThread, toString, Nat.repr]
  simp [words, digits]

theorem nul_mem_trackerThread : '\x00' ∈ (trackerThread name).toList ↔ '\x00' ∈ name.toList := by
  simp [trackerThread]

theorem nul_mem_dispatchThread : '\x00' ∈ (dispatchThread name).toList ↔ '\x00' ∈ name.toList := by
  simp [dispatchThread]

end threads

section sizes

variable {Q : Type}

theorem checkCapacity_of_bounds {capacity : Nat} (some : 0 < capacity) (small : capacity ≤ Channel.greatestCapacity) :
    Channel.checkCapacity capacity = .ok () := by
  rw [Channel.checkCapacity, if_neg (Nat.pos_iff_ne_zero.mp some), if_neg (Nat.not_lt.mpr small)]

namespace Builder

variable (s : Settings)

@[simp] theorem maxWorkersSet?_eq (b : Builder Q) (n? : Option UInt64) :
    b.maxWorkersSet? n? = { b with maxWorkers := (n?.filter (0 < ·)).getD b.maxWorkers } := by
  cases n? with
  | none => rfl
  | some n =>
    by_cases positive : 0 < n <;> simp [maxWorkersSet?, maxWorkersSet, Option.filter_some, positive]

@[simp] theorem queueCapacitySet?_eq (b : Builder Q) (n? : Option UInt64) :
    b.queueCapacitySet? n? = { b with queueCapacity := (n?.filter (0 < ·)).or b.queueCapacity } := by
  cases n? with
  | none => rfl
  | some n =>
    by_cases positive : 0 < n <;> simp [queueCapacitySet?, queueCapacitySet, Option.filter_some, positive]

/-- What settings ask for: a size of zero counts as not given. -/
theorem plan_ofSettings : (ofSettings s : Builder Q).plan =
    { name := s.name
      maxWorkers := (s.maxWorkers.filter (0 < ·)).getD defaultWorkers
      queue := .fresh ((s.queueCapacity.filter (0 < ·)).getD ((s.maxWorkers.filter (0 < ·)).getD defaultWorkers))
      policy := s.policy.toPolicy } := by
  simp [ofSettings, plan, new, policySet]

end Builder

/-- The sizes that settings give are in reach of memory. -/
structure Settings.Affordable (s : Settings) : Prop where
  workers : ∀ n, s.maxWorkers = some n → n.toNat ≤ Channel.greatestCapacity
  queue : ∀ n, s.queueCapacity = some n → n.toNat ≤ Channel.greatestCapacity

/-- A size that is not zero, or one that is used in its place, has a channel. -/
theorem checkCapacity_of_filter {n? : Option UInt64} {other : UInt64}
    (small : ∀ n, n? = some n → n.toNat ≤ Channel.greatestCapacity)
    (instead : Channel.checkCapacity other.toNat = .ok ()) :
    Channel.checkCapacity ((n?.filter (0 < ·)).getD other).toNat = .ok () := by
  cases n? with
  | none => exact instead
  | some n =>
    rw [Option.filter_some]
    split
    · next positive =>
      exact checkCapacity_of_bounds (UInt64.lt_iff_toNat_lt.mp (of_decide_eq_true positive)) (small n rfl)
    · exact instead

private theorem makeChannels_ofSettings {s : Settings} (affordable : s.Affordable) :
    (Builder.ofSettings s : Builder Q).plan.makeChannels = .ok () := by
  have default : Channel.checkCapacity Builder.defaultWorkers.toNat = .ok () := by decide
  have workers := checkCapacity_of_filter affordable.workers default
  have queue := checkCapacity_of_filter affordable.queue workers
  rw [Builder.plan_ofSettings, Plan.makeChannels]
  simp only [queue, workers]
  rfl

/-- What is left to start a pool are its threads, beginning with that of the first worker. -/
theorem start_ofSettings {s : Settings} (affordable : s.Affordable) :
    (Builder.ofSettings s : Builder Q).plan.start = (do
      startThread (workerThread s.name 0)
      startThread (trackerThread s.name)
      startThread (dispatchThread s.name)) := by
  have made := makeChannels_ofSettings (Q := Q) affordable
  have staffed : 0 < (Builder.ofSettings s : Builder Q).plan.maxWorkers :=
    UInt64.lt_iff_toNat_lt.mpr (Pool.buildable_ofPlan (fun _ => 0) made).staffed
  have name : (Builder.ofSettings s : Builder Q).plan.name = s.name := by rw [Builder.plan_ofSettings]
  rw [Plan.start, made, if_pos staffed, Plan.startFrom, name]
  rfl

/-- Settings of every name are accepted in their JSON form, and with sizes in reach of memory a pool is built from them
    exactly if the name holds no NUL: then there is room for jobs and workers and every thread starts. Otherwise the
    thread of the first worker does not start; the fault shows its name and the place of the first NUL. -/
theorem Settings.built_of_affordable (room : Q → Nat) {s : Settings} (affordable : s.Affordable) :
    Settings.load s.toJson.write = .ok s ∧
    ('\x00' ∉ s.name.toList →
      (Builder.ofSettings s : Builder Q).plan.start = .ok () ∧
      (Pool.Config.ofPlan room (Builder.ofSettings s).plan).Buildable ∧
      0 < (Pool.Config.ofPlan room (Builder.ofSettings s).plan).queueCapacity ∧
      ∀ number, startThread (workerThread s.name number) = .ok ()) ∧
    ('\x00' ∈ s.name.toList → ∃ index,
      (Builder.ofSettings s : Builder Q).plan.start =
        .error (.nulInThreadName index (workerThread s.name 0).toUTF8.toList) ∧
      (workerThread s.name 0).toUTF8.toList[index]? = some 0 ∧
      ∀ i < index, (workerThread s.name 0).toUTF8.toList[i]? ≠ some 0) := by
  refine ⟨?_, fun free => ?_, fun held => ?_⟩
  · have read : ofText s.toJson.write = .ok s :=
      (ofText_of_written (writes_document s).writtenAs_write (fits_document s)).mpr (holds_document s)
    rw [load, read]
  · have made := makeChannels_ofSettings (Q := Q) affordable
    have worker (number : Nat) : startThread (workerThread s.name number) = .ok () :=
      startThread_of_no_nul (nul_mem_workerThread.not.mpr free)
    have tracker := startThread_of_no_nul (nul_mem_trackerThread.not.mpr free)
    have dispatch := startThread_of_no_nul (nul_mem_dispatchThread.not.mpr free)
    refine ⟨?_, Pool.buildable_ofPlan room made, Pool.roomy_ofPlan room made fun q supplied => ?_, worker⟩
    · rw [start_ofSettings affordable, worker, tracker, dispatch]
      rfl
    · rw [Builder.plan_ofSettings] at supplied
      cases supplied
  · have worker : '\x00' ∈ (workerThread s.name 0).toList := nul_mem_workerThread.mpr held
    obtain ⟨index, fault, zero, first⟩ := startThread_of_nul worker
    refine ⟨index, ?_, zero, first⟩
    rw [start_ofSettings affordable, fault]
    rfl

/-- Sizes of zero do not keep a pool from being built; a NUL at the end of the name does. -/
theorem mailer_built :
    (Settings.Affordable ⟨"mailer", some 0, some 0, .log⟩ ∧
      (Builder.ofSettings ⟨"mailer", some 0, some 0, .log⟩ : Builder Empty).plan.start = .ok ()) ∧
    Settings.Affordable ⟨"a\x00", some 2, none, .discard⟩ ∧
    ∃ index, (Builder.ofSettings ⟨"a\x00", some 2, none, .discard⟩ : Builder Empty).plan.start =
      .error (.nulInThreadName index (workerThread "a\x00" 0).toUTF8.toList) := by
  have zeros : Settings.Affordable ⟨"mailer", some 0, some 0, .log⟩ := by
    constructor <;> rintro n ⟨⟩ <;> decide
  have two : Settings.Affordable ⟨"a\x00", some 2, none, .discard⟩ := by
    refine ⟨?_, nofun⟩
    rintro n ⟨⟩
    decide
  obtain ⟨-, built, -⟩ := Settings.built_of_affordable Empty.elim zeros
  obtain ⟨-, -, refused⟩ := Settings.built_of_affordable Empty.elim two
  obtain ⟨index, fault, -⟩ := refused (by decide)
  exact ⟨⟨zeros, (built (by decide)).1⟩, two, index, fault⟩

/-- So there is an accepted text without any size from which no pool is built. -/
theorem nul_unbuilt : ¬ ∀ (text : String) (s : Settings), Settings.load text = .ok s → s.Affordable →
    (Builder.ofSettings s : Builder Empty).plan.start = .ok () := by
  intro builds
  have read : Settings.ofText "\x7b\"name\":\"a\\u0000b\"\x7d" = .ok (.ofName "a\x00b") := by decide +kernel
  have accepted : Settings.load "\x7b\"name\":\"a\\u0000b\"\x7d" = .ok (.ofName "a\x00b") := by
    rw [Settings.load, read]
  have affordable : (Settings.ofName "a\x00b").Affordable := ⟨nofun, nofun⟩
  have nul : '\x00' ∈ "a\x00b".toList := by decide
  obtain ⟨index, fault, -⟩ := startThread_of_nul (nul_mem_workerThread.mpr nul)
  have unbuilt := builds _ _ accepted affordable
  rw [start_ofSettings affordable] at unbuilt
  rw [show (Settings.ofName "a\x00b").name = "a\x00b" from rfl, fault] at unbuilt
  cases unbuilt

end sizes

end JobPool
