import JobPool.Proofs.Json.Reach
import JobPool.Proofs.Settings.Drafts

/-!
A text is accepted as settings exactly if it writes a document that holds them, as long as the document is no deeper
than readers go and its numerals are in reach of binary64 arithmetic. Only the last few numbers of its range are not.
-/

namespace JobPool.Settings

open Json (Document Outline Items Members Numeral Digits Shows)

variable {v : Document} {rest after : List Char} {s : Settings} {text : String}

private theorem agrees_empty (field : Field) : Draft.empty.Agrees field none := by
  cases field <;> constructor

/-- Settings are read exactly from the outlines of documents that hold them. -/
theorem readOutline_eq_ok {cs : List Char} (shown : Shows (Json.outline cs) v rest) :
    readOutline (Json.outline cs) = .ok (s, after) ↔ after = rest ∧ Holds v s := by
  generalize outlined : Json.outline cs = outline at shown
  cases shown with
  | object content =>
    have none : ∀ m ∈ ([] : List (String × Document)), ∃ field ∈ fields, m.1 = field.key := by simp
    exact readMembers_eq_ok content none List.nodup_nil agrees_empty
  | array content =>
    have none : ([] : List Document).length = ([] : List Field).length := rfl
    have linked := Json.linked_of_array outlined
    have order : fields = [] ++ .name :: [.maxWorkers, .queueCapacity, .policy] := rfl
    refine readItems_eq_ok content linked order none fun field => ?_
    rw [List.zip_nil_right]
    exact agrees_empty field
  | scalar read =>
    cases v with
    | array | object => cases read
    | _ => exact ⟨nofun, fun held => nomatch held.2⟩

private theorem rest_of_readMembers : ∀ {members : Members} {d : Draft}, readMembers d members = .ok (s, rest) →
    members.rest = .ok rest
  | .closed _, _, read => congrArg Except.ok (readMembers_closed.mp read).1
  | .member _ _ _ _, _, read => by
    obtain ⟨_, _, -, -, -, more⟩ := readMembers_member.mp read
    exact (rest_of_readMembers more :)
  | .broken _, _, read => nomatch read

private theorem rest_of_readItems : ∀ {items : Items} {d : Draft} {left : List Field}, items.Linked →
    readItems d left items = .ok (s, rest) → items.rest = .ok rest
  | .closed _, _, _, _, read => congrArg Except.ok (readItems_closed.mp read).1
  | .item value next, _, field :: left, linked, read => by
    obtain ⟨filled, between, -, whole, more⟩ := readItems_cons.mp read
    by_cases last : left = []
    · rw [if_pos last] at more
      rw [Items.rest, (linked.1 between whole rest).mpr (closeArray_eq_ok.mp more.1), Items.rest]
    · rw [if_neg last] at more
      exact (rest_of_readItems linked.2 more :)
  | .item _ _, _, [], _, read => by
    rw [readItems] at read
    cases read
  | .broken _, _, _, _, read => by
    rw [readItems] at read
    cases read

/-- A text is read only if it is outlined without a break. -/
theorem rest_of_readOutline {cs : List Char} (read : readOutline (Json.outline cs) = .ok (s, rest)) :
    (Json.outline cs).rest = .ok rest := by
  cases outlined : Json.outline cs with
  | scalar | broken =>
    rw [outlined] at read
    cases read
  | object start members =>
    rw [outlined] at read
    exact rest_of_readMembers read
  | array start items =>
    rw [outlined] at read
    exact rest_of_readItems (Json.linked_of_array outlined) read

private theorem ofText_eq_ok : ofText text = .ok s ↔
    ∃ rest, readOutline (Json.outline text.toList) = .ok (s, rest) ∧ Json.skipBlanks rest = [] := by
  rw [ofText, readChars, Json.bind_eq_ok]
  constructor
  · rintro ⟨⟨made, rest⟩, read, ended⟩
    cases blanks : Json.skipBlanks rest with
    | nil =>
      simp only [blanks] at ended
      cases ended
      exact ⟨rest, read, blanks⟩
    | cons c more =>
      simp only [blanks] at ended
      cases ended
  · rintro ⟨rest, read, blanks⟩
    exact ⟨_, read, by simp only [blanks]; rfl⟩

/-- A text that writes a document in reach is accepted exactly if the document holds settings, as those settings. -/
theorem ofText_of_written (written : v.WrittenAs text) (fits : v.Fits Json.depthLimit) :
    ofText text = .ok s ↔ Holds v s := by
  obtain ⟨start, rest, blanks, written, trailing⟩ := written
  have shown := Json.outline_of_written blanks written fits (trailing.ended nofun)
  rw [ofText_eq_ok]
  constructor
  · rintro ⟨_, read, -⟩
    exact ((readOutline_eq_ok shown).mp read).2
  · intro holds
    exact ⟨rest, (readOutline_eq_ok shown).mpr ⟨rfl, holds⟩, trailing.skip_nil⟩

/-- An accepted text writes a document in reach, and the document holds the settings. -/
theorem exists_of_ofText (read : ofText text = .ok s) :
    ∃ v : Document, v.WrittenAs text ∧ v.Fits Json.depthLimit ∧ Holds v s := by
  obtain ⟨rest, outlined, trailing⟩ := ofText_eq_ok.mp read
  obtain ⟨v, start, blanks, written, fits, shown⟩ := Json.written_of_outline (rest_of_readOutline outlined)
  have trailing' := Json.blanks_skipBlanks rest
  rw [trailing] at trailing'
  exact ⟨v, ⟨start, rest, blanks, written, trailing'⟩, fits, ((readOutline_eq_ok shown).mp outlined).2⟩

/-- Texts are accepted by what they write, whatever blanks, escapes and orders they use: if it is a document in reach,
exactly if the document holds settings, and as those; if it is none, never. In reach is every numeral that leaves a
little room in the range of binary64. -/
theorem accepted_exactly :
    (∀ (v : Document) (text : String), v.WrittenAs text → v.depth ≤ Json.depthLimit → v.Every Numeral.InReach →
      ∀ s, ofText text = .ok s ↔ Holds v s) ∧
    (∀ (text : String) (s : Settings), ofText text = .ok s →
      ∃ v : Document, v.WrittenAs text ∧ v.depth ≤ Json.depthLimit ∧ v.Every Numeral.InReach ∧ Holds v s) ∧
    ∀ n : Numeral, n.Moderate → n.InReach := by
  refine ⟨fun v text written shallow inReach s => ofText_of_written written ⟨shallow, inReach⟩, fun text s read => ?_,
    fun _ => Numeral.inReach_of_moderate⟩
  obtain ⟨v, written, ⟨shallow, inReach⟩, holds⟩ := exists_of_ofText read
  exact ⟨v, written, shallow, inReach, holds⟩

/-- A numeral near the end of the range. -/
def farNumeral : Numeral where
  negative := true
  whole := ⟨['1', '7'], List.all_eq_true.mp rfl, by decide⟩
  trimmed := by decide
  fraction := some ⟨"976931348623".toList, List.all_eq_true.mp rfl, by decide⟩
  exponent := some ⟨true, .plus, ⟨"307".toList, List.all_eq_true.mp rfl, by decide⟩⟩

/-- Settings with their policy first, and that as an array. -/
def craftedDocument : Document :=
  .object [("failure_policy", .array [.text "retry",
  .numeral ⟨false, ⟨['0'], List.all_eq_true.mp rfl, nofun⟩, by decide, none, none⟩]),
    ("name", .text "a\"😀")]

/-- The document with blanks, a letter of a name by its number and a character as a pair of surrogates. -/
def craftedText : String :=
  "\n\x7b\"failure_policy\" :[\"retry\",\t0] , \"n\\u0061me\":\"a\\\"\\uD83d\\ude00\"\x7d "

theorem crafted_accepted : craftedDocument.WrittenAs craftedText ∧
    ofText craftedText = .ok ⟨"a\"😀", none, none, .retry 0⟩ ∧
      (∃ v : Document, v.WrittenAs craftedText ∧ v.depth ≤ Json.depthLimit ∧ v.Every Numeral.InReach ∧
        Holds v ⟨"a\"😀", none, none, .retry 0⟩) ∧ farNumeral.InReach := by
  have written : craftedDocument.WrittenAs craftedText := by
    have blank (c : Char) (cs : List Char) (is : Json.isBlank c = true) : Json.Blanks (c :: cs) cs :=
      ⟨[c], List.forall_mem_singleton.mpr is, rfl⟩
    refine ⟨_, [' '], blank '\n' _ rfl, ?_, blank ' ' _ rfl⟩
    have name : Json.TextWritten "name".toList "n\\u0061me\":\"a\\\"\\uD83d\\ude00\"\x7d ".toList
        ":\"a\\\"\\uD83d\\ude00\"\x7d ".toList :=
      .char (.plain (by decide)) (.char (.unit rfl) (Json.textWritten_of_usual rfl))
    have value : Json.TextWritten "a\"😀".toList "a\\\"\\uD83d\\ude00\"\x7d ".toList "\x7d ".toList :=
      .char (.plain (by decide)) (.char (.short (by decide)) (.char (.pair (by decide) rfl rfl) .close))
    exact .object (.first (Json.blanks_refl _)
      (.member (Json.textWritten_of_usual rfl) (blank ' ' _ rfl) (Json.blanks_refl _)
        (.array (.first (Json.blanks_refl _) (.text (Json.textWritten_of_usual rfl))
          (.later (Json.blanks_refl _) (blank '\t' _ rfl) .numeral (.close (Json.blanks_refl _))))))
      (.later (blank ' ' _ rfl) (blank ' ' _ rfl)
        (.member name (Json.blanks_refl _) (Json.blanks_refl _) (.text value)) (.close (Json.blanks_refl _))))
  have shallow : craftedDocument.depth ≤ Json.depthLimit := by decide
  have inReach : craftedDocument.Every Numeral.InReach := ⟨⟨trivial, rfl, trivial⟩, trivial, trivial⟩
  have holds : Holds craftedDocument ⟨"a\"😀", none, none, .retry 0⟩ :=
    ⟨by decide, by decide, rfl, rfl, rfl, _, rfl, _, rfl, rfl, rfl, rfl⟩
  have read := (accepted_exactly.1 _ _ written shallow inReach _).mpr holds
  have moderate : farNumeral.Moderate := by
    refine ⟨fun e written => ?_, by decide +kernel⟩
    cases written
    exact .inr (by decide)
  exact ⟨written, read, accepted_exactly.2.1 _ _ read, accepted_exactly.2.2 _ moderate⟩

/-- A numeral below the largest binary64 number that is rounded up once too often on its way there. -/
def borderNumeral : Numeral where
  negative := false
  whole := ⟨"1797693134862315708".toList, List.all_eq_true.mp rfl, by decide⟩
  trimmed := by decide
  fraction := none
  exponent := some ⟨false, .absent, ⟨"290".toList, List.all_eq_true.mp rfl, by decide⟩⟩

/-- Settings whose policy carries the numeral in a member that is ignored. -/
def borderDocument : Document :=
  .object [("name", .text "m"),
    ("failure_policy", .object [("kind", .text "log"), ("x", .numeral borderNumeral)])]

/-- The document as it may be written. -/
def borderText : String :=
  "\x7b\"name\":\"m\",\"failure_policy\":\x7b\"kind\":\"log\",\"x\":1797693134862315708e290\x7d\x7d"

theorem border_refused : borderDocument.WrittenAs borderText ∧ borderDocument.depth ≤ Json.depthLimit ∧
    borderDocument.Every Numeral.InRange ∧ Holds borderDocument (.ofName "m") ∧ (ofText borderText).isOk = false := by
  refine ⟨⟨_, [], Json.blanks_refl _, ?_, Json.blanks_refl _⟩, by decide, ?_, ?_, by decide +kernel⟩
  · have policy : Json.Written (.object [("kind", .text "log"), ("x", .numeral borderNumeral)])
        ("\x7b\"kind\":\"log\",\"x\":1797693134862315708e290\x7d\x7d".toList) ['\x7d'] :=
      .object (.first (Json.blanks_refl _)
        (.member (Json.textWritten_of_usual rfl) (Json.blanks_refl _) (Json.blanks_refl _)
          (.text (Json.textWritten_of_usual rfl)))
        (.later (Json.blanks_refl _) (Json.blanks_refl _)
          (.member (Json.textWritten_of_usual rfl) (Json.blanks_refl _) (Json.blanks_refl _) .numeral)
          (.close (Json.blanks_refl _))))
    exact .object (.first (Json.blanks_refl _)
      (.member (Json.textWritten_of_usual rfl) (Json.blanks_refl _) (Json.blanks_refl _)
        (.text (Json.textWritten_of_usual rfl)))
      (.later (Json.blanks_refl _) (Json.blanks_refl _)
        (.member (Json.textWritten_of_usual rfl) (Json.blanks_refl _) (Json.blanks_refl _) policy)
        (.close (Json.blanks_refl _))))
  · have inRange : borderNumeral.InRange := by decide +kernel
    exact ⟨trivial, ⟨trivial, inRange, trivial⟩, trivial⟩
  · refine ⟨by decide, by decide, rfl, rfl, rfl, rfl⟩

end JobPool.Settings
