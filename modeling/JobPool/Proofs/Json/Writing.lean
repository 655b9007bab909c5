import Mathlib.Data.List.Forall2
import JobPool.Json.Layout
import JobPool.Proofs.Json.Outlines

/-!
What is printed, compactly or over several lines, writes a document of the grammar: numbers without sign
(`writes_natural`), strings (`writes_text`) and objects (`writes_object`).
-/

namespace JobPool.Json

variable {c : Char} {rest : List Char}

section numerals

theorem isDigit_of_mem_toDigits {n : Nat} (listed : c ∈ Nat.toDigits 10 n) : isDigit c = true := by
  have digit := Nat.isDigit_of_mem_toDigits (by decide) (Nat.le_refl 10) listed
  simp only [Char.isDigit, Bool.and_eq_true, decide_eq_true_eq] at digit
  exact decide_eq_true digit

/-- No decimal starts with an idle zero. -/
theorem trimmed_toDigits (n : Nat) (zero : (Nat.toDigits 10 n).head? = some '0') : Nat.toDigits 10 n = ['0'] := by
  induction n using Nat.base_induction 10 (by decide) with
  | single m small =>
    rw [Nat.toDigits_of_lt_base small] at zero ⊢
    exact congrArg (fun c => [c]) (Option.some.inj zero)
  | digit m k small positive ih =>
    have start : (Nat.toDigits 10 m).head? = some '0' := by
      rw [← Nat.toDigits_append_toDigits (by decide) positive small,
        List.head?_append_of_ne_nil _ Nat.toDigits_ne_nil] at zero
      exact zero
    have value := Nat.ofDigitChars_ten_toDigits (n := m)
    rw [ih start] at value
    have : Nat.ofDigitChars 10 ['0'] 0 = 0 := rfl
    omega

/-- A natural number in decimal. -/
def Digits.ofNat (n : Nat) : Digits where
  chars := Nat.toDigits 10 n
  decimal _ listed := isDigit_of_mem_toDigits listed
  nonempty := Nat.toDigits_ne_nil

theorem Digits.value_ofNat (n : Nat) : (ofNat n).value = n := by
  have step : (fun (n : Nat) (c : Char) => n * 10 + (c.toNat - 0x30)) = fun n c => 10 * n + (c.toNat - '0'.toNat) := by
    funext n c
    rw [Nat.mul_comm]
    rfl
  rw [Digits.value, Digits.values, List.foldl_map, step]
  exact Nat.ofDigitChars_ten_toDigits

/-- The numeral of a natural number. -/
def Numeral.ofNat (n : Nat) : Numeral where
  negative := false
  whole := .ofNat n
  trimmed := trimmed_toDigits n
  fraction := none
  exponent := none

private theorem Numeral.chars_ofNat (n : Nat) : (ofNat n).chars = (toString (n : Int)).toList := by
  rw [show toString (n : Int) = n.repr from rfl, Nat.toList_repr]
  simp only [chars, ofNat, fractionChars, exponentChars, Digits.ofNat, List.append_nil]
  rfl

theorem Numeral.inReach_ofNat {n : Nat} (small : n < UInt64.size) : (ofNat n).InReach := by
  have read := ((ofNat n).number?_eq_natural n).mpr ⟨rfl, rfl, Digits.value_ofNat n, small⟩
  rw [InReach, read]
  rfl

end numerals

section texts

private theorem fourHex?_hexDigits {a b : Nat} (high : a < 16) (low : b < 16) (rest : List Char) :
    fourHex? ('0' :: '0' :: hexDigit a :: hexDigit b :: rest) = some (a * 16 + b, rest) := by
  have digits : ∀ d < 16, hexValue? (hexDigit d) = some d := by decide
  rw [fourHex?, digits a high, digits b low, show hexValue? '0' = some 0 from rfl]
  simp only [Nat.zero_mul, Nat.zero_add]

private theorem charWritten_escapeChar (c : Char) (rest : List Char) : CharWritten c (escapeChar c ++ rest) rest := by
  have short {letter : Char} (listed : (letter, c) ∈ shortEscapes) : CharWritten c (['\\', letter] ++ rest) rest :=
    .short listed
  rw [escapeChar]
  split_ifs with quote backslash backspace feed line back tab control
  · exact short (by subst quote; decide)
  · exact short (by subst backslash; decide)
  · exact short (by subst backspace; decide)
  · exact short (by subst feed; decide)
  · exact short (by subst line; decide)
  · exact short (by subst back; decide)
  · exact short (by subst tab; decide)
  · refine .unit ?_
    have digits := fourHex?_hexDigits (a := c.toNat / 16) (b := c.toNat % 16) (by omega) (by omega) rest
    rwa [Nat.div_add_mod'] at digits
  · exact .plain ⟨quote, backslash, by omega⟩

theorem textWritten_escaped (text rest : List Char) :
    TextWritten text (text.flatMap escapeChar ++ '"' :: rest) rest := by
  induction text with
  | nil => exact .close
  | cons c text ih =>
    rw [List.flatMap_cons, List.append_assoc]
    exact .char (charWritten_escapeChar c _) ih

end texts

section values

/-- Wherever the value is printed, it is the document that is written. -/
structure Writes (w : Value) (v : Document) : Prop where
  compact (rest : List Char) : Written v (w.chars ++ rest) rest
  laidOut (depth : Nat) (rest : List Char) : Written v (w.lines depth ++ rest) rest

/-- Values without parts are laid out as they are printed compactly. -/
theorem Writes.of_compact {w : Value} {v : Document} (same : ∀ depth, w.lines depth = w.chars)
    (written : ∀ rest, Written v (w.chars ++ rest) rest) : Writes w v :=
  ⟨written, fun depth rest => by rw [same]; exact written rest⟩

theorem writes_null : Writes .null .null :=
  .of_compact (fun _ => by rw [Value.lines]) fun _ => .null

theorem writes_text (s : String) : Writes (.text s) (.text s) := by
  refine .of_compact (fun _ => by rw [Value.lines]) fun rest => ?_
  rw [Value.chars, textChars, List.append_assoc]
  exact .text (textWritten_escaped s.toList rest)

theorem writes_ofWord (n : UInt64) : Writes (.ofWord n) (.numeral (.ofNat n.toNat)) := by
  refine .of_compact (fun _ => by rw [Value.ofWord, Value.lines]) fun rest => ?_
  rw [Value.ofWord, Value.chars, Number.chars, ← Numeral.chars_ofNat]
  exact .numeral

/-- The members print the members that are written. -/
def WritesMembers (ws : List (String × Value)) (ms : List (String × Document)) : Prop :=
  List.Forall₂ (fun w m => w.1 = m.1 ∧ Writes w.2 m.2) ws ms

/-- The members after the first, as they are printed compactly. -/
def laterChars (ws : List (String × Value)) : List Char :=
  match ws with
  | [] => []
  | _ :: _ => ',' :: membersChars ws

private theorem membersChars_cons (name : String) (w : Value) (ws : List (String × Value)) :
    membersChars ((name, w) :: ws) = textChars name ++ ':' :: w.chars ++ laterChars ws := by
  cases ws with
  | nil => rw [membersChars, laterChars, List.append_nil]
  | cons w' ws =>
    rw [membersChars, laterChars]
    exact List.cons_ne_nil w' ws

private theorem newLine_blanks (depth : Nat) (rest : List Char) : Blanks (newLine depth ++ rest) rest := by
  refine ⟨newLine depth, fun c listed => ?_, rfl⟩
  rw [newLine, List.mem_cons] at listed
  rcases listed with rfl | space
  · rfl
  · rw [List.eq_of_mem_replicate space]
    rfl

variable {ws : List (String × Value)} {ms : List (String × Document)} {name : String} {w : Value} {v : Document}

private theorem memberWritten_chars (name : String) (written : Writes w v) (rest : List Char) :
    MemberWritten name v (textChars name ++ ':' :: (w.chars ++ rest)) rest := by
  rw [textChars]
  simp only [List.cons_append, List.append_assoc]
  exact .member (textWritten_escaped name.toList _) (blanks_refl _) (blanks_refl _) (written.compact rest)

private theorem memberWritten_lines (name : String) (written : Writes w v) (depth : Nat) (rest : List Char) :
    MemberWritten name v (memberLines depth name w ++ rest) rest := by
  rw [memberLines, textChars]
  simp only [List.cons_append, List.append_assoc]
  refine .member (textWritten_escaped name.toList _) (blanks_refl _) ⟨[' '], ?_, rfl⟩ (written.laidOut depth rest)
  exact List.forall_mem_singleton.mpr rfl

private theorem membersWritten_laterChars (writes : WritesMembers ws ms) (rest : List Char) :
    MembersWritten false ms (laterChars ws ++ '\x7d' :: rest) rest := by
  induction writes with
  | nil => exact .close (blanks_refl _)
  | @cons w m ws ms first later ih =>
    obtain ⟨name, w⟩ := w
    obtain ⟨_, v⟩ := m
    obtain ⟨rfl, written⟩ := first
    rw [laterChars, membersChars_cons]
    simp only [List.cons_append, List.append_assoc]
    exact .later (blanks_refl _) (blanks_refl _) (memberWritten_chars name written _) ih

private theorem membersWritten_lines (writes : WritesMembers ws ms) (depth : Nat) (rest : List Char) :
    MembersWritten false ms (membersLines (depth + 1) ws ++ (newLine depth ++ '\x7d' :: rest)) rest := by
  induction writes with
  | nil =>
    rw [membersLines]
    exact .close (newLine_blanks depth _)
  | @cons w m ws ms first later ih =>
    obtain ⟨name, w⟩ := w
    obtain ⟨_, v⟩ := m
    obtain ⟨rfl, written⟩ := first
    rw [membersLines]
    simp only [List.cons_append, List.append_assoc]
    exact .later (blanks_refl _) (newLine_blanks _ _) (memberWritten_lines name written _ _) ih

/-- An object is printed as the object of what its members print. -/
theorem writes_object (writes : WritesMembers ws ms) : Writes (.object ws) (.object ms) := by
  cases writes with
  | nil =>
    have empty (rest : List Char) : Written (.object []) ('\x7b' :: '\x7d' :: rest) rest :=
      .object (.close (blanks_refl _))
    exact ⟨empty, fun depth rest => by rw [Value.lines]; exact empty rest⟩
  | @cons w m ws ms first later =>
    obtain ⟨name, w⟩ := w
    obtain ⟨_, v⟩ := m
    obtain ⟨rfl, written⟩ := first
    refine ⟨fun rest => ?_, fun depth rest => ?_⟩
    · rw [Value.chars, membersChars_cons]
      simp only [List.cons_append, List.append_assoc, List.nil_append]
      have next := membersWritten_laterChars later rest
      exact .object (.first (blanks_refl _) (memberWritten_chars name written _) next)
    · rw [Value.lines]
      simp only [List.cons_append, List.append_assoc, List.nil_append]
      have next := membersWritten_lines later depth rest
      exact .object (.first (newLine_blanks _ _) (memberWritten_lines name written _ _) next)

theorem Writes.writtenAs_write (writes : Writes w v) : v.WrittenAs w.write := by
  have written := writes.compact []
  rw [List.append_nil] at written
  refine ⟨w.chars, [], ?_, written, blanks_refl _⟩
  rw [Value.write, String.toList_ofList]
  exact blanks_refl _

theorem Writes.writtenAs_layOut (writes : Writes w v) : v.WrittenAs w.layOut := by
  have written := writes.laidOut 0 []
  rw [List.append_nil] at written
  refine ⟨w.lines 0, [], ?_, written, blanks_refl _⟩
  rw [Value.layOut, String.toList_ofList]
  exact blanks_refl _

end values

end JobPool.Json
