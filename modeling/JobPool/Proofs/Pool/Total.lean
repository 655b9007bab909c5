import Mathlib.Algebra.Order.BigOperators.Group.List
import Mathlib.Algebra.Order.Ring.Nat
import Mathlib.Data.List.Induction
import JobPool.Pool.Step

/-!
Sums over the workers of a pool, and what they do when one worker changes.
-/

namespace JobPool.Pool.State

variable {J : Type}

/-- The sum of a number over all workers. -/
def total (s : State J) (f : Worker (Task J) → Nat) : Nat := (s.members.map fun m => f m.worker).sum

private theorem sum_map_set {α : Type} {l : List α} {k : Nat} {a : α} (found : l[k]? = some a) (b : α) (f : α → Nat) :
    ((l.set k b).map f).sum + f a = (l.map f).sum + f b := by
  induction l generalizing k with
  | nil => simp at found
  | cons first rest ih =>
    cases k with
    | zero =>
      obtain rfl : first = a := by simpa using found
      simp only [List.set_cons_zero, List.map_cons, List.sum_cons]
      omega
    | succ k =>
      have others := ih (show rest[k]? = some a by simpa using found)
      simp only [List.set_cons_succ, List.map_cons, List.sum_cons]
      omega

/-- What is counted at each place and what is listed, taken together place by place. -/
private theorem sum_add_length {α : Type} {l : List α} {f : α → Nat} {listed : List Nat}
    (inside : ∀ k ∈ listed, k < l.length) :
    (l.map f).sum + listed.length = (l.zipIdx.map fun place => f place.1 + listed.count place.2).sum := by
  -- from the last place on: striking it off the list leaves the count of the places before it
  induction l using List.reverseRecOn generalizing listed with
  | nil => simp [List.eq_nil_iff_forall_not_mem.mpr fun k member => by simpa using inside k member]
  | append_singleton l a ih =>
    have others : (l.map f).sum + (listed.filter (· ≠ l.length)).length =
        (l.zipIdx.map fun place => f place.1 + (listed.filter (· ≠ l.length)).count place.2).sum := by
      refine ih fun k member => ?_
      obtain ⟨old, other⟩ := List.mem_filter.mp member
      have bound := inside k old
      simp only [List.length_append, List.length_singleton, decide_eq_true_eq] at bound other
      omega
    have before : (l.zipIdx.map fun place => f place.1 + (listed.filter (· ≠ l.length)).count place.2) =
        l.zipIdx.map fun place => f place.1 + listed.count place.2 := by
      refine List.map_congr_left fun place member => ?_
      have within := (List.mem_zipIdx' member).1
      rw [List.count_filter (by simp; omega)]
    rw [before] at others
    have parts : listed.length = _ := List.length_eq_countP_add_countP (· == l.length)
    rw [← List.count_eq_countP] at parts
    simp only [List.map_append, List.map_cons, List.map_nil, List.sum_append, List.sum_singleton, List.zipIdx_append,
      List.zipIdx_singleton, Nat.zero_add]
    rw [← List.countP_eq_length_filter] at others
    simp only [beq_iff_eq, ne_eq] at parts others
    omega

/-- What the sum loses and gains when one worker changes. -/
theorem total_set {s t : State J} {k : Nat} {m m' : Member (Task J)} (found : s.members[k]? = some m)
    (members : t.members = s.members.set k m') (f : Worker (Task J) → Nat) :
    t.total f + f m.worker = s.total f + f m'.worker := by
  unfold total
  rw [members]
  exact sum_map_set found m' fun m => f m.worker

/-- A sum that does not see what changed is the same. -/
theorem total_set_same {s t : State J} {k : Nat} {m m' : Member (Task J)} (found : s.members[k]? = some m)
    (members : t.members = s.members.set k m') {f : Worker (Task J) → Nat} (same : f m'.worker = f m.worker) :
    t.total f = s.total f := by
  have sums := total_set found members f
  omega

theorem total_congr {s t : State J} (members : t.members = s.members) (f : Worker (Task J) → Nat) :
    t.total f = s.total f := by
  unfold total
  rw [members]

theorem total_add (s : State J) (f g : Worker (Task J) → Nat) : (s.total fun w => f w + g w) = s.total f + s.total g :=
  List.sum_map_add

theorem total_le {s : State J} {f g : Worker (Task J) → Nat} (least : ∀ w, f w ≤ g w) : s.total f ≤ s.total g :=
  List.sum_le_sum fun m _ => least m.worker

/-- Letting go of the workers changes no sum that does not look at that. -/
theorem total_closeLoop (s : State J) (loop : Loop (Task J)) {f : Worker (Task J) → Nat}
    (blind : ∀ w, f { w with abandoned := true } = f w) : (s.closeLoop loop).total f = s.total f := by
  simp [total, closeLoop, Function.comp_def, blind]

theorem total_eq_zero {s : State J} {f : Worker (Task J) → Nat}
    (zero : ∀ (k : Nat) (m : Member (Task J)), s.members[k]? = some m → f m.worker = 0) : s.total f = 0 := by
  unfold total
  rw [List.sum_eq_zero]
  intro n member
  obtain ⟨m, listed, rfl⟩ := List.mem_map.mp member
  obtain ⟨k, found⟩ := List.mem_iff_getElem?.mp listed
  exact zero k m found

private theorem at_place {s : State J} {place : Member (Task J) × Nat} (member : place ∈ s.members.zipIdx) :
    s.members[place.2]? = some place.1 := by
  obtain ⟨within, same⟩ := List.mem_zipIdx' member
  rw [List.getElem?_eq_getElem within, same]

variable {s : State J} {f : Worker (Task J) → Nat} {listed : List Nat}

theorem le_total {k : Nat} {m : Member (Task J)} (found : s.members[k]? = some m) (f : Worker (Task J) → Nat) :
    f m.worker ≤ s.total f :=
  List.le_sum_of_mem (List.mem_map_of_mem (List.mem_of_getElem? found))

/-- If a worker is counted or listed, but not both, there are no more of these than workers. -/
theorem total_add_length_le
    (few : ∀ (k : Nat) (m : Member (Task J)), s.members[k]? = some m → f m.worker + listed.count k ≤ 1)
    (inside : ∀ k ∈ listed, k < s.members.length) : s.total f + listed.length ≤ s.members.length := by
  have sum := List.sum_le_card_nsmul (s.members.zipIdx.map fun place => f place.1.worker + listed.count place.2) 1 ?_
  · rw [← sum_add_length (f := fun m => f m.worker) inside] at sum
    simpa [total] using sum
  · intro n member
    obtain ⟨place, at_k, rfl⟩ := List.mem_map.mp member
    exact few place.2 place.1 (at_place at_k)

/-- If every worker is either counted or listed, there are as many of these as workers. -/
theorem total_add_length_eq
    (one : ∀ (k : Nat) (m : Member (Task J)), s.members[k]? = some m → f m.worker + listed.count k = 1)
    (inside : ∀ k ∈ listed, k < s.members.length) : s.total f + listed.length = s.members.length := by
  have sum := List.sum_eq_card_nsmul (s.members.zipIdx.map fun place => f place.1.worker + listed.count place.2) 1 ?_
  · rw [← sum_add_length (f := fun m => f m.worker) inside] at sum
    simpa [total] using sum
  · intro n member
    obtain ⟨place, at_k, rfl⟩ := List.mem_map.mp member
    exact one place.2 place.1 (at_place at_k)

end JobPool.Pool.State
