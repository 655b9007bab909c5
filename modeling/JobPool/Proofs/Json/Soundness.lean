import JobPool.Proofs.Json.Outlines

/-!
Every outline without a break is that of a document that the text writes (`written_of_outline`). The induction is on the
fuel, for all readers at once (`Sound`).
-/

namespace JobPool.Json

variable {c : Char} {cs more rest : List Char} {v : Document} {vs : List Document} {ms : List (String × Document)}

private theorem ofScalar_of_rest {read : Except (Stop SyntaxError) (Scalar × List Char)}
    (whole : (Outline.ofScalar read).rest = .ok rest) : ∃ x, read = .ok (x, rest) := by
  cases read with
  | error stop => cases whole
  | ok r =>
    obtain ⟨x, after⟩ := r
    cases whole
    exact ⟨x, rfl⟩

private theorem outlineWord_of_rest {x : Scalar} {word : String} (whole : (outlineWord x word cs).rest = .ok rest) :
    cs = word.toList ++ rest ∧ outlineWord x word cs = .scalar x rest := by
  obtain ⟨y, read⟩ := ofScalar_of_rest whole
  cases letters : readWord word.toList cs with
  | error stop =>
    rw [letters] at read
    cases read
  | ok more =>
    rw [letters] at read
    cases read
    rw [outlineWord, letters]
    exact ⟨readWord_eq_ok.mp letters, rfl⟩

/-- Outlines without a break are those of documents that the text writes. -/
structure Sound (fuel : Nat) : Prop where
  value {depth : Nat} {cs rest : List Char} (read : (outlineValue depth fuel cs).rest = .ok rest) :
    ∃ v start, Blanks cs start ∧ Written v start rest ∧ v.Fits depth ∧ Shows (outlineValue depth fuel cs) v rest
  items {depth : Nat} {first : Bool} {cs rest : List Char} (read : (outlineItems depth first fuel cs).rest = .ok rest) :
    ∃ vs, ItemsWritten first vs cs rest ∧ (∀ v ∈ vs, v.Fits depth) ∧ ItemsShow
      (outlineItems depth first fuel cs) vs rest
  item {depth : Nat} {cs rest : List Char} (read : (outlineItem depth fuel cs).rest = .ok rest) :
    ∃ v vs start after, Blanks cs start ∧ Written v start after ∧ ItemsWritten false vs after rest ∧
      (∀ w ∈ v :: vs, w.Fits depth) ∧ ItemsShow (outlineItem depth fuel cs) (v :: vs) rest
  members {depth : Nat} {first : Bool} {cs rest : List Char}
    (read : (outlineMembers depth first fuel cs).rest = .ok rest) :
    ∃ ms, MembersWritten first ms cs rest ∧ (∀ m ∈ ms, m.2.Fits depth) ∧
      MembersShow (outlineMembers depth first fuel cs) ms rest
  member {depth : Nat} {cs rest : List Char} (read : (outlineMember depth fuel cs).rest = .ok rest) :
    ∃ name v ms after, MemberWritten name v cs after ∧ MembersWritten false ms after rest ∧
      (∀ m ∈ (name, v) :: ms, m.2.Fits depth) ∧ MembersShow (outlineMember depth fuel cs) ((name, v) :: ms) rest

namespace Sound

variable {fuel depth : Nat} {first : Bool}

private theorem next_value (sound : Sound fuel) (read : (outlineValue depth (fuel + 1) cs).rest = .ok rest) :
    ∃ v start, Blanks cs start ∧ Written v start rest ∧ v.Fits depth ∧
      Shows (outlineValue depth (fuel + 1) cs) v rest := by
  have blanks := blanks_skipBlanks cs
  rw [outlineValue] at read ⊢
  generalize skipBlanks cs = start at blanks read ⊢
  cases start with
  | nil => cases read
  | cons c more =>
    dsimp only at read ⊢
    split_ifs at read ⊢ with null yes no quote numeric bracket brace
    · obtain ⟨rfl, shown⟩ := outlineWord_of_rest read
      subst null
      exact ⟨.null, _, blanks, .null, ⟨Nat.zero_le _, trivial⟩, shown ▸ .scalar rfl⟩
    · obtain ⟨rfl, shown⟩ := outlineWord_of_rest read
      subst yes
      exact ⟨.bool true, _, blanks, .yes, ⟨Nat.zero_le _, trivial⟩, shown ▸ .scalar rfl⟩
    · obtain ⟨rfl, shown⟩ := outlineWord_of_rest read
      subst no
      exact ⟨.bool false, _, blanks, .no, ⟨Nat.zero_le _, trivial⟩, shown ▸ .scalar rfl⟩
    · obtain ⟨x, whole⟩ := ofScalar_of_rest read
      cases chars : readText more with
      | error stop =>
        rw [chars] at whole
        cases whole
      | ok r =>
        rw [chars] at whole
        cases whole
        subst quote
        exact ⟨.text r.1, _, blanks, .text (readText_eq_ok.mp chars), ⟨Nat.zero_le _, trivial⟩, .scalar rfl⟩
    · obtain ⟨x, whole⟩ := ofScalar_of_rest read
      cases digits : readNumeral (c :: more) with
      | error stop =>
        rw [digits] at whole
        cases whole
      | ok r =>
        rw [digits] at whole
        cases whole
        obtain ⟨n, chars, -, number⟩ := exists_numeral digits
        rw [chars] at blanks
        refine ⟨.numeral n, _, blanks, .numeral, ⟨Nat.zero_le _, ?_⟩, .scalar
          (congrArg (Option.map Scalar.number) number)⟩
        rw [Document.Every, Numeral.InReach, number]
        rfl
    · subst bracket
      cases depth with
      | zero => cases read
      | succ depth =>
        obtain ⟨vs, written, fits, shown⟩ := sound.items read
        exact ⟨.array vs, _, blanks, .array written, fits_array.mpr fits, .array shown⟩
    · subst brace
      cases depth with
      | zero => cases read
      | succ depth =>
        obtain ⟨ms, written, fits, shown⟩ := sound.members read
        exact ⟨.object ms, _, blanks, .object written, fits_object.mpr fits, .object shown⟩
    · cases read

private theorem next_items (sound : Sound fuel) (read : (outlineItems depth first (fuel + 1) cs).rest = .ok rest) :
    ∃ vs, ItemsWritten first vs cs rest ∧ (∀ v ∈ vs, v.Fits depth) ∧
      ItemsShow (outlineItems depth first (fuel + 1) cs) vs rest := by
  have blanks := blanks_skipBlanks cs
  rw [outlineItems] at read ⊢
  generalize skipBlanks cs = start at blanks read ⊢
  cases start with
  | nil => cases read
  | cons c more =>
    dsimp only at read ⊢
    split_ifs at read ⊢ with bracket opening comma
    · subst bracket
      cases read
      exact ⟨[], .close blanks, List.forall_mem_nil _, .closed⟩
    · subst opening
      obtain ⟨v, vs, start, after, more, written, later, fits, shown⟩ := sound.item read
      exact ⟨v :: vs, .first (blanks.trans more) written later, fits, shown⟩
    · subst comma
      have later := blanks_skipBlanks more
      generalize skipBlanks more = next at later read ⊢
      cases next with
      | nil => cases read
      | cons d others =>
        dsimp only at read ⊢
        split_ifs at read ⊢ with bracket
        · cases read
        · obtain ⟨v, vs, start, after, more, written, tail, fits, shown⟩ := sound.item read
          cases Bool.eq_false_iff.mpr opening
          exact ⟨v :: vs, .later blanks (later.trans more) written tail, fits, shown⟩
    · cases read

private theorem next_item (sound : Sound fuel) (read : (outlineItem depth (fuel + 1) cs).rest = .ok rest) :
    ∃ v vs start after, Blanks cs start ∧ Written v start after ∧ ItemsWritten false vs after rest ∧
      (∀ w ∈ v :: vs, w.Fits depth) ∧ ItemsShow (outlineItem depth (fuel + 1) cs) (v :: vs) rest := by
  rw [outlineItem] at read ⊢
  cases value : (outlineValue depth fuel cs).rest with
  | error stop =>
    rw [value] at read
    cases read
  | ok after =>
    rw [value] at read
    obtain ⟨v, start, blanks, written, here, shown⟩ := sound.value value
    obtain ⟨vs, later, others, next⟩ := sound.items read
    exact ⟨v, vs, start, after, blanks, written, later, List.forall_mem_cons.mpr ⟨here, others⟩, .item shown next⟩

private theorem next_members (sound : Sound fuel) (read : (outlineMembers depth first (fuel + 1) cs).rest = .ok rest) :
    ∃ ms, MembersWritten first ms cs rest ∧ (∀ m ∈ ms, m.2.Fits depth) ∧
      MembersShow (outlineMembers depth first (fuel + 1) cs) ms rest := by
  have blanks := blanks_skipBlanks cs
  rw [outlineMembers] at read ⊢
  generalize skipBlanks cs = start at blanks read ⊢
  cases start with
  | nil => cases read
  | cons c more =>
    dsimp only at read ⊢
    split_ifs at read ⊢ with brace opening comma
    · subst brace
      cases read
      exact ⟨[], .close blanks, List.forall_mem_nil _, .closed⟩
    · subst opening
      obtain ⟨name, v, ms, after, written, later, fits, shown⟩ := sound.member read
      exact ⟨(name, v) :: ms, .first blanks written later, fits, shown⟩
    · subst comma
      have later := blanks_skipBlanks more
      generalize skipBlanks more = next at later read ⊢
      cases next with
      | nil => cases read
      | cons d others =>
        dsimp only at read ⊢
        split_ifs at read ⊢ with brace
        · cases read
        · obtain ⟨name, v, ms, after, written, tail, fits, shown⟩ := sound.member read
          cases Bool.eq_false_iff.mpr opening
          exact ⟨(name, v) :: ms, .later blanks later written tail, fits, shown⟩
    · cases read

private theorem next_member (sound : Sound fuel) (read : (outlineMember depth (fuel + 1) cs).rest = .ok rest) :
    ∃ name v ms after, MemberWritten name v cs after ∧ MembersWritten false ms after rest ∧
      (∀ m ∈ (name, v) :: ms, m.2.Fits depth) ∧
        MembersShow (outlineMember depth (fuel + 1) cs) ((name, v) :: ms) rest := by
  cases cs with
  | nil =>
    rw [outlineMember] at read
    cases read
  | cons c more =>
    rw [outlineMember] at read ⊢
    split_ifs at read ⊢ with quote
    · cases read
    rw [ne_eq, not_not] at quote
    subst quote
    cases chars : readText more with
    | error stop =>
      rw [chars] at read
      cases read
    | ok named =>
      obtain ⟨name, between⟩ := named
      rw [chars] at read
      dsimp only at read ⊢
      cases colon : readColon between with
      | error stop =>
        rw [colon] at read
        cases read
      | ok start =>
        rw [colon] at read
        dsimp only at read ⊢
        cases value : (outlineValue depth fuel start).rest with
        | error stop =>
          rw [value] at read
          cases read
        | ok after =>
          rw [value] at read
          obtain ⟨v, begin, blanks, written, here, shown⟩ := sound.value value
          obtain ⟨ms, later, others, next⟩ := sound.members read
          have colon' := blanks_skipBlanks between
          rw [readColon_eq_ok.mp colon] at colon'
          exact ⟨name, v, ms, after, .member (readText_eq_ok.mp chars) colon' blanks written, later,
            List.forall_mem_cons.mpr ⟨here, others⟩, .member shown next⟩

end Sound

private theorem sound (fuel : Nat) : Sound fuel := by
  induction fuel with
  | zero =>
    constructor
    all_goals exact nofun
  | succ fuel ih => exact ⟨ih.next_value, ih.next_items, ih.next_item, ih.next_members, ih.next_member⟩

/-- A text that is outlined without a break writes a document. -/
theorem written_of_outline (read : (outline cs).rest = .ok rest) :
    ∃ v start, Blanks cs start ∧ Written v start rest ∧ v.Fits depthLimit ∧ Shows (outline cs) v rest :=
  (sound _).value read

end JobPool.Json
