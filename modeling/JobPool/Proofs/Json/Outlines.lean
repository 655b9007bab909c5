import Mathlib.Tactic.SplitIfs
import JobPool.Proofs.Json.Numerals
import JobPool.Proofs.Json.Texts

/-!
Outlines and the documents of the grammar. `Shows` says that an outline is that of a document; `Document.Fits` says which
documents have one. Beside that stand blanks, what may follow a value (`Ended`), and how the items of an array hang
together (`Items.Linked`).
-/

namespace JobPool.Json

variable {c : Char} {cs more rest : List Char} {v : Document} {vs : List Document} {ms : List (String × Document)}

/-- The scalar that a value without parts is read as. -/
def Document.scalar? : Document → Option Scalar
  | .null => some .null
  | .bool b => some (.bool b)
  | .numeral n => n.number?.map .number
  | .text s => some (.text s)
  | .array _ | .object _ => none

mutual

/-- The outline is that of the document, and the text goes on with `rest`. -/
inductive Shows : Outline → Document → List Char → Prop
  | scalar {x : Scalar} {v : Document} {rest : List Char} (read : v.scalar? = some x) : Shows (.scalar x rest) v rest
  | array {start rest : List Char} {items : Items} {vs : List Document} (content : ItemsShow items vs rest) :
    Shows (.array start items) (.array vs) rest
  | object {start rest : List Char} {members : Members} {ms : List (String × Document)}
    (content : MembersShow members ms rest) : Shows (.object start members) (.object ms) rest

/-- The items are those of the list. -/
inductive ItemsShow : Items → List Document → List Char → Prop
  | closed {rest : List Char} : ItemsShow (.closed rest) [] rest
  | item {value : Outline} {next : Items} {v : Document} {vs : List Document} {after rest : List Char}
    (first : Shows value v after) (later : ItemsShow next vs rest) : ItemsShow (.item value next) (v :: vs) rest

/-- The members are those of the list. -/
inductive MembersShow : Members → List (String × Document) → List Char → Prop
  | closed {rest : List Char} : MembersShow (.closed rest) [] rest
  | member {name : String} {value : Outline} {next : Members} {v : Document} {ms : List (String × Document)}
    {after start rest : List Char} (first : Shows value v after) (later : MembersShow next ms rest) :
    MembersShow (.member name start value next) ((name, v) :: ms) rest

end

private theorem rest_of_itemsShow :
    ∀ {items : Items} {vs : List Document}, ItemsShow items vs rest → items.rest = .ok rest
  | .closed _, _, .closed => rfl
  | .item _ _, _, .item _ later => (rest_of_itemsShow later :)

private theorem rest_of_membersShow :
    ∀ {members : Members} {ms : List (String × Document)}, MembersShow members ms rest → members.rest = .ok rest
  | .closed _, _, .closed => rfl
  | .member _ _ _ _, _, .member _ later => (rest_of_membersShow later :)

theorem Shows.rest_eq {outline : Outline} (shows_ : Shows outline v rest) : outline.rest = .ok rest := by
  cases shows_ with
  | scalar read => rfl
  | array content => exact rest_of_itemsShow content
  | object content => exact rest_of_membersShow content

/-- The document is no deeper than that, and all of its numerals are in range. -/
def Document.Fits (depth : Nat) (v : Document) : Prop :=
  v.depth ≤ depth ∧ v.Every Numeral.InReach

section fits

variable {depth : Nat}

theorem fits_array : (Document.array vs).Fits (depth + 1) ↔ ∀ v ∈ vs, v.Fits depth := by
  rw [Document.Fits, Document.depth, Document.Every, Nat.add_le_add_iff_right]
  induction vs with
  | nil => simp [itemsDepth, EveryItem]
  | cons v vs ih =>
    rw [List.forall_mem_cons, ← ih, itemsDepth, EveryItem, Nat.max_le, Document.Fits, and_and_and_comm]

theorem fits_object : (Document.object ms).Fits (depth + 1) ↔ ∀ m ∈ ms, m.2.Fits depth := by
  rw [Document.Fits, Document.depth, Document.Every, Nat.add_le_add_iff_right]
  induction ms with
  | nil => simp [membersDepth, EveryMember]
  | cons m ms ih =>
    rw [List.forall_mem_cons, ← ih, membersDepth, EveryMember, Nat.max_le, Document.Fits, and_and_and_comm]

end fits

section blanks

theorem blanks_skipBlanks (cs : List Char) : Blanks cs (skipBlanks cs) :=
  ⟨cs.takeWhile isBlank, fun _ listed => List.mem_takeWhile_imp listed, List.takeWhile_append_dropWhile.symm⟩

theorem blanks_refl (cs : List Char) : Blanks cs cs := ⟨[], nofun, rfl⟩

theorem Blanks.trans (blanks : Blanks cs more) (others : Blanks more rest) : Blanks cs rest := by
  obtain ⟨before, blank, rfl⟩ := blanks
  obtain ⟨between, blank', rfl⟩ := others
  exact ⟨before ++ between, List.forall_mem_append.mpr ⟨blank, blank'⟩, (List.append_assoc ..).symm⟩

theorem Blanks.skip (blanks : Blanks cs (c :: more)) (solid : isBlank c = false) : skipBlanks cs = c :: more := by
  obtain ⟨before, blank, rfl⟩ := blanks
  rw [skipBlanks, List.dropWhile_append_of_pos blank, List.dropWhile_cons_of_neg (by simp [solid])]

theorem Blanks.length_le (blanks : Blanks cs rest) : rest.length ≤ cs.length := by
  obtain ⟨before, -, rfl⟩ := blanks
  rw [List.length_append]
  omega

theorem Blanks.skip_nil (blanks : Blanks cs []) : skipBlanks cs = [] := by
  obtain ⟨before, blank, rfl⟩ := blanks
  rw [List.append_nil, skipBlanks, List.dropWhile_eq_nil_iff.mpr blank]

/-- What follows a value inside an array or an object, or at the end of a text. -/
def Ended (rest : List Char) : Prop := ∀ c ∈ rest.head?, isBlank c = true ∨ c = ',' ∨ c = ']' ∨ c = '\x7d'

theorem Blanks.ended (blanks : Blanks cs rest) (ended : Ended rest) : Ended cs := by
  obtain ⟨before, blank, rfl⟩ := blanks
  cases before with
  | nil => exact ended
  | cons c before =>
    intro d listed
    obtain rfl := Option.some.inj listed
    exact .inl (blank c List.mem_cons_self)

theorem Ended.ends (ended : Ended rest) (n : Numeral) : n.Ends rest := by
  have differs {d : Char} (solid : isBlank d = false ∧ d ≠ ',' ∧ d ≠ ']' ∧ d ≠ '\x7d') : ∀ more, rest ≠ d :: more := by
    rintro more rfl
    rcases ended d rfl with blank | comma | bracket | brace
    · rw [solid.1] at blank
      cases blank
    · exact solid.2.1 comma
    · exact solid.2.2.1 bracket
    · exact solid.2.2.2 brace
  refine ⟨?_, fun _ => differs (by decide), fun _ more => ⟨differs (by decide) more, differs (by decide) more⟩⟩
  intro c listed
  have solid := ended c listed
  simp only [isBlank, Bool.or_eq_true, decide_eq_true_eq] at solid
  rcases solid with (((rfl | rfl) | rfl) | rfl) | rfl | rfl | rfl <;> decide

theorem ItemsWritten.ended (written : ItemsWritten false vs cs rest) : Ended cs := by
  cases written with
  | close blanks => exact blanks.ended (by rintro c ⟨⟩; exact .inr (.inr (.inl rfl)))
  | later comma => exact comma.ended (by rintro c ⟨⟩; exact .inr (.inl rfl))

theorem MembersWritten.ended (written : MembersWritten false ms cs rest) : Ended cs := by
  cases written with
  | close blanks => exact blanks.ended (by rintro c ⟨⟩; exact .inr (.inr (.inr rfl)))
  | later comma => exact comma.ended (by rintro c ⟨⟩; exact .inr (.inl rfl))

end blanks

section readers

theorem readWord_eq_ok {word : List Char} : readWord word cs = .ok rest ↔ cs = word ++ rest := by
  induction word generalizing cs with
  | nil => rw [readWord, Except.ok.injEq, List.nil_append]
  | cons w ws ih =>
    cases cs with
    | nil => exact ⟨nofun, nofun⟩
    | cons c cs =>
      rw [readWord, List.cons_append, List.cons.injEq, ← ih]
      by_cases same : w = c
      · rw [if_pos same]
        exact ⟨fun read => ⟨same.symm, read⟩, fun read => read.2⟩
      · rw [if_neg same]
        exact ⟨nofun, fun read => absurd read.1.symm same⟩

theorem readColon_eq_ok : readColon cs = .ok rest ↔ skipBlanks cs = ':' :: rest := by
  rw [readColon]
  cases skipBlanks cs with
  | nil => exact ⟨nofun, nofun⟩
  | cons c more =>
    dsimp only
    rw [List.cons.injEq]
    by_cases colon : c = ':'
    · rw [if_pos colon, Except.ok.injEq]
      exact ⟨fun same => ⟨colon, same⟩, fun same => same.2⟩
    · rw [if_neg colon]
      exact ⟨nofun, fun same => absurd same.1 colon⟩

end readers

section links

variable {depth : Nat} {first : Bool}

/-- After an item the outline closes exactly if a bracket comes next. -/
def Items.Linked : Items → Prop
  | .item value next =>
    (∀ after, value.rest = .ok after → ∀ more, next = .closed more ↔ skipBlanks after = ']' :: more) ∧ next.Linked
  | .closed _ | .broken _ => True

private theorem outlineItem_ne_closed (depth fuel : Nat) (cs more : List Char) :
    outlineItem depth fuel cs ≠ .closed more := by
  cases fuel with
  | zero => exact nofun
  | succ fuel =>
    rw [outlineItem]
    split <;> exact nofun

private theorem outlineItems_eq_closed {fuel : Nat} :
    outlineItems depth first (fuel + 1) cs = .closed more ↔ skipBlanks cs = ']' :: more := by
  rw [outlineItems]
  cases skipBlanks cs with
  | nil => exact ⟨nofun, nofun⟩
  | cons c rest =>
    dsimp only
    rw [List.cons.injEq]
    split_ifs with bracket start comma
    · rw [Items.closed.injEq]
      exact ⟨fun same => ⟨bracket, same⟩, fun same => same.2⟩
    · exact ⟨fun closed => absurd closed (outlineItem_ne_closed _ _ _ _), fun same => absurd same.1 bracket⟩
    · refine ⟨fun closed => absurd closed ?_, fun same => absurd same.1 bracket⟩
      split
      · exact nofun
      · split_ifs
        · exact nofun
        · exact outlineItem_ne_closed _ _ _ _
    · exact ⟨nofun, fun same => absurd same.1 bracket⟩

private theorem linked_outline (fuel : Nat) :
    (∀ depth first cs, (outlineItems depth first fuel cs).Linked) ∧ ∀ depth cs, (outlineItem depth fuel cs).Linked := by
  induction fuel with
  | zero => exact ⟨fun _ _ _ => trivial, fun _ _ => trivial⟩
  | succ fuel ih =>
    refine ⟨fun depth first cs => ?_, fun depth cs => ?_⟩
    · rw [outlineItems]
      split
      · trivial
      · split_ifs
        · trivial
        · exact ih.2 ..
        · split
          · trivial
          · split_ifs
            · trivial
            · exact ih.2 ..
        · trivial
    · rw [outlineItem]
      split
      · next after read =>
        refine ⟨fun other same more => ?_, ih.1 ..⟩
        rw [read] at same
        cases same
        cases fuel with
        | zero => cases read
        | succ fuel => exact outlineItems_eq_closed
      · next stop read => exact ⟨fun other same => absurd (read.symm.trans same) nofun, trivial⟩

private theorem ofScalar_ne_array (read : Except (Stop SyntaxError) (Scalar × List Char)) (start : List Char)
    (items : Items) :
    Outline.ofScalar read ≠ .array start items := by
  cases read <;> exact nofun

/-- The items of every array of an outline are linked. -/
theorem linked_of_array {fuel : Nat} {start : List Char} {items : Items}
    (array : outlineValue depth fuel cs = .array start items) : items.Linked := by
  cases fuel with
  | zero => cases array
  | succ fuel =>
    rw [outlineValue] at array
    generalize skipBlanks cs = begin at array
    cases begin with
    | nil => cases array
    | cons c more =>
      dsimp only at array
      split_ifs at array
      · exact absurd array (ofScalar_ne_array _ _ _)
      · exact absurd array (ofScalar_ne_array _ _ _)
      · exact absurd array (ofScalar_ne_array _ _ _)
      · exact absurd array (ofScalar_ne_array _ _ _)
      · exact absurd array (ofScalar_ne_array _ _ _)
      · cases depth with
        | zero => cases array
        | succ depth =>
          cases array
          exact (linked_outline fuel).1 ..
      · cases depth <;> cases array

end links

end JobPool.Json
