import JobPool.Proofs.Json.Outlines

/-!
Every document that is not too deep and whose numerals are in reach is outlined as itself, however it is written
(`outline_of_written`). The induction is on the fuel, for all readers at once (`Complete`); three units for every
character are enough, since a value, its item and the items after it each take one.
-/

namespace JobPool.Json

variable {c : Char} {cs more rest : List Char} {v : Document} {vs : List Document} {ms : List (String × Document)}

/-- What may start a numeral may start nothing else. -/
theorem ne_of_begins {d : Char} (begins : c = '-' ∨ isDigit c = true) (other : d ≠ '-' ∧ isDigit d = false) :
    c ≠ d := by
  rintro rfl
  rcases begins with minus | digit
  · exact other.1 minus
  · rw [other.2] at digit
    cases digit

private theorem solid_of_begins (begins : c = '-' ∨ isDigit c = true) : isBlank c = false := by
  simp only [isBlank, Bool.or_eq_false_iff, decide_eq_false_iff_not]
  exact ⟨⟨⟨ne_of_begins begins (by decide), ne_of_begins begins (by decide)⟩, ne_of_begins begins (by decide)⟩,
    ne_of_begins begins (by decide)⟩

/-- A value starts with neither a blank nor a closing mark. -/
theorem Written.head (written : Written v cs rest) :
    ∃ c more, cs = c :: more ∧ isBlank c = false ∧ c ≠ ']' := by
  cases written with
  | @numeral n _ =>
    obtain ⟨c, more, chars, begins⟩ := n.exists_cons
    exact ⟨c, more ++ rest, by rw [chars, List.cons_append], solid_of_begins begins, ne_of_begins begins (by decide)⟩
  | _ => exact ⟨_, _, rfl, by decide, by decide⟩

private theorem Written.pos (written : Written v cs rest) : 0 < cs.length := by
  obtain ⟨c, more, rfl, -⟩ := written.head
  exact Nat.succ_pos _

private theorem MemberWritten.pos {name : String} (written : MemberWritten name v cs rest) : 0 < cs.length := by
  cases written
  exact Nat.succ_pos _

private theorem ItemsWritten.pos {first : Bool} (written : ItemsWritten first vs cs rest) : 0 < cs.length := by
  cases written with
  | close blanks => exact Nat.lt_of_lt_of_le (Nat.succ_pos _) blanks.length_le
  | first blanks item => exact Nat.lt_of_lt_of_le item.pos blanks.length_le
  | later comma => exact Nat.lt_of_lt_of_le (Nat.succ_pos _) comma.length_le

private theorem MembersWritten.pos {first : Bool} (written : MembersWritten first ms cs rest) : 0 < cs.length := by
  cases written with
  | close blanks => exact Nat.lt_of_lt_of_le (Nat.succ_pos _) blanks.length_le
  | first blanks member => exact Nat.lt_of_lt_of_le member.pos blanks.length_le
  | later comma => exact Nat.lt_of_lt_of_le (Nat.succ_pos _) comma.length_le

/-- Documents are outlined as such, given so much fuel. A document takes at least one character. -/
structure Complete (fuel : Nat) : Prop where
  value {depth : Nat} {v : Document} {cs start rest : List Char} (blanks : Blanks cs start)
    (written : Written v start rest) (fits : v.Fits depth) (ended : Ended rest) (enough : 3 * start.length ≤ fuel + 2) :
    Shows (outlineValue depth fuel cs) v rest ∧ rest.length < start.length
  items {depth : Nat} {first : Bool} {vs : List Document} {cs rest : List Char}
    (written : ItemsWritten first vs cs rest)
    (fits : ∀ v ∈ vs, v.Fits depth) (enough : 3 * cs.length ≤ fuel) :
    ItemsShow (outlineItems depth first fuel cs) vs rest ∧ rest.length < cs.length
  item {depth : Nat} {v : Document} {vs : List Document} {start after rest : List Char}
    (written : Written v start after)
    (later : ItemsWritten false vs after rest) (fits : ∀ w ∈ v :: vs, w.Fits depth)
    (enough : 3 * start.length ≤ fuel + 1) :
    ItemsShow (outlineItem depth fuel start) (v :: vs) rest ∧ rest.length < start.length
  members {depth : Nat} {first : Bool} {ms : List (String × Document)} {cs rest : List Char}
    (written : MembersWritten first ms cs rest) (fits : ∀ m ∈ ms, m.2.Fits depth) (enough : 3 * cs.length ≤ fuel) :
    MembersShow (outlineMembers depth first fuel cs) ms rest ∧ rest.length < cs.length
  member {depth : Nat} {name : String} {v : Document} {ms : List (String × Document)} {start after rest : List Char}
    (written : MemberWritten name v start after) (later : MembersWritten false ms after rest)
    (fits : ∀ m ∈ (name, v) :: ms, m.2.Fits depth) (enough : 3 * start.length ≤ fuel + 1) :
    MembersShow (outlineMember depth fuel start) ((name, v) :: ms) rest ∧ rest.length < start.length

namespace Complete

variable {fuel depth : Nat} {start after : List Char} {first : Bool}

private theorem next_value (complete : Complete fuel) (blanks : Blanks cs start) (written : Written v start rest)
    (fits : v.Fits depth) (ended : Ended rest) (enough : 3 * start.length ≤ fuel + 3) :
    Shows (outlineValue depth (fuel + 1) cs) v rest ∧ rest.length < start.length := by
  cases written with
  | null =>
    rw [outlineValue, blanks.skip (by decide)]
    exact ⟨.scalar rfl, by simp only [List.length_cons]; omega⟩
  | yes =>
    rw [outlineValue, blanks.skip (by decide)]
    exact ⟨.scalar rfl, by simp only [List.length_cons]; omega⟩
  | no =>
    rw [outlineValue, blanks.skip (by decide)]
    exact ⟨.scalar rfl, by simp only [List.length_cons]; omega⟩
  | @numeral n _ =>
    obtain ⟨c, more, chars, begins⟩ := n.exists_cons
    obtain ⟨k, number⟩ := Option.isSome_iff_exists.mp (fits.2 : n.InReach)
    have read := toOption_readNumeral n (ended.ends n)
    rw [number, Option.map_some, toOption_eq_some, chars] at read
    rw [chars, List.cons_append] at blanks
    rw [outlineValue, blanks.skip (solid_of_begins begins)]
    dsimp only
    rw [if_neg (ne_of_begins begins (by decide)), if_neg (ne_of_begins begins (by decide)),
      if_neg (ne_of_begins begins (by decide)), if_neg (ne_of_begins begins (by decide)), if_pos begins,
      ← List.cons_append,
      read, chars]
    exact ⟨.scalar (congrArg (Option.map Scalar.number) number),
      by simp only [List.length_cons, List.length_append]; omega⟩
  | text chars =>
    rw [outlineValue, blanks.skip (by decide)]
    refine ⟨?_, Nat.lt_succ_of_lt chars.shorter⟩
    simp only [Char.reduceEq, if_false, if_true, readText_eq_ok.mpr chars]
    exact .scalar rfl
  | array content =>
    rw [outlineValue, blanks.skip (by decide)]
    cases depth with
    | zero => exact absurd fits.1 (by simp [Document.depth])
    | succ depth =>
      rw [List.length_cons] at enough
      obtain ⟨shown, shorter⟩ := complete.items content (fits_array.mp fits) (by omega)
      exact ⟨.array shown, Nat.lt_succ_of_lt shorter⟩
  | object content =>
    rw [outlineValue, blanks.skip (by decide)]
    cases depth with
    | zero => exact absurd fits.1 (by simp [Document.depth])
    | succ depth =>
      rw [List.length_cons] at enough
      obtain ⟨shown, shorter⟩ := complete.members content (fits_object.mp fits) (by omega)
      exact ⟨.object shown, Nat.lt_succ_of_lt shorter⟩

private theorem next_items (complete : Complete fuel) (written : ItemsWritten first vs cs rest)
    (fits : ∀ v ∈ vs, v.Fits depth)
    (enough : 3 * cs.length ≤ fuel + 1) :
    ItemsShow (outlineItems depth first (fuel + 1) cs) vs rest ∧ rest.length < cs.length := by
  cases written with
  | close blanks =>
    rw [outlineItems, blanks.skip (by decide)]
    exact ⟨.closed, blanks.length_le⟩
  | first blanks item next =>
    obtain ⟨c, more, rfl, solid, bracket⟩ := item.head
    have shrinks := blanks.length_le
    obtain ⟨shown, shorter⟩ := complete.item item next fits (by omega)
    rw [outlineItems, blanks.skip solid]
    dsimp only
    rw [if_neg bracket, if_pos rfl]
    exact ⟨shown, by omega⟩
  | later comma blanks item next =>
    obtain ⟨c, more, rfl, solid, bracket⟩ := item.head
    have shrinks := comma.length_le
    have shrinks' := blanks.length_le
    rw [List.length_cons] at shrinks
    obtain ⟨shown, shorter⟩ := complete.item item next fits (by omega)
    rw [outlineItems, comma.skip (by decide)]
    dsimp only
    rw [blanks.skip solid]
    simp only [Char.reduceEq, if_false, if_true, if_neg bracket, Bool.false_eq_true]
    exact ⟨shown, by omega⟩

private theorem next_item (complete : Complete fuel) (written : Written v start after)
    (later : ItemsWritten false vs after rest)
    (fits : ∀ w ∈ v :: vs, w.Fits depth) (enough : 3 * start.length ≤ fuel + 2) :
    ItemsShow (outlineItem depth (fuel + 1) start) (v :: vs) rest ∧ rest.length < start.length := by
  obtain ⟨here, others⟩ := List.forall_mem_cons.mp fits
  obtain ⟨shown, shorter⟩ := complete.value (blanks_refl _) written here later.ended enough
  obtain ⟨next, shorter'⟩ := complete.items later others (by omega)
  rw [outlineItem]
  simp only [shown.rest_eq]
  exact ⟨.item shown next, Nat.lt_trans shorter' shorter⟩

private theorem next_members (complete : Complete fuel) (written : MembersWritten first ms cs rest)
    (fits : ∀ m ∈ ms, m.2.Fits depth) (enough : 3 * cs.length ≤ fuel + 1) :
    MembersShow (outlineMembers depth first (fuel + 1) cs) ms rest ∧ rest.length < cs.length := by
  cases written with
  | close blanks =>
    rw [outlineMembers, blanks.skip (by decide)]
    exact ⟨.closed, blanks.length_le⟩
  | first blanks member next =>
    have shrinks := blanks.length_le
    obtain ⟨shown, shorter⟩ := complete.member member next fits (by omega)
    cases member
    rw [outlineMembers, blanks.skip (by decide)]
    exact ⟨shown, by omega⟩
  | later comma blanks member next =>
    have shrinks := comma.length_le
    have shrinks' := blanks.length_le
    rw [List.length_cons] at shrinks
    obtain ⟨shown, shorter⟩ := complete.member member next fits (by omega)
    cases member
    rw [outlineMembers, comma.skip (by decide)]
    dsimp only
    rw [blanks.skip (by decide)]
    exact ⟨shown, by omega⟩

private theorem next_member (complete : Complete fuel) {name : String} (written : MemberWritten name v start after)
    (later : MembersWritten false ms after rest) (fits : ∀ m ∈ (name, v) :: ms, m.2.Fits depth)
    (enough : 3 * start.length ≤ fuel + 2) :
    MembersShow (outlineMember depth (fuel + 1) start) ((name, v) :: ms) rest ∧ rest.length < start.length := by
  obtain ⟨here, others⟩ := List.forall_mem_cons.mp fits
  cases written with
  | member chars colon blanks value =>
    have shrinks := chars.shorter
    have shrinks' := colon.length_le
    have shrinks'' := blanks.length_le
    rw [List.length_cons] at enough shrinks' ⊢
    obtain ⟨shown, shorter⟩ := complete.value blanks value here later.ended (by omega)
    obtain ⟨next, shorter'⟩ := complete.members later others (by omega)
    rw [outlineMember, if_neg (by decide), readText_eq_ok.mpr chars]
    dsimp only
    rw [readColon_eq_ok.mpr (colon.skip (by decide))]
    dsimp only
    rw [shown.rest_eq]
    exact ⟨.member shown next, by omega⟩

end Complete

private theorem complete (fuel : Nat) : Complete fuel := by
  induction fuel with
  | zero =>
    constructor
    · intro depth v cs start rest blanks written fits ended enough
      have := written.pos
      omega
    · intro depth first vs cs rest written fits enough
      have := written.pos
      omega
    · intro depth v vs start after rest written later fits enough
      have := written.pos
      omega
    · intro depth first ms cs rest written fits enough
      have := written.pos
      omega
    · intro depth name v ms start after rest written later fits enough
      have := written.pos
      omega
  | succ fuel ih => exact ⟨ih.next_value, ih.next_items, ih.next_item, ih.next_members, ih.next_member⟩

/-- A text that writes a document is outlined as it. -/
theorem outline_of_written {start : List Char} (blanks : Blanks cs start) (written : Written v start rest)
    (fits : v.Fits depthLimit) (ended : Ended rest) : Shows (outline cs) v rest := by
  have shrinks := blanks.length_le
  exact ((complete _).value blanks written fits ended (by omega)).1

end JobPool.Json
