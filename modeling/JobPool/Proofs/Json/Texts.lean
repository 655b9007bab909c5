import Mathlib.Tactic.SplitIfs
import JobPool.Json.Grammar

/-!
Strings are read as the grammar has them: `readText_eq_ok` for a whole string, from `readEscape_eq_ok` for one escape.
-/

namespace JobPool.Json

variable {c : Char} {cs rest : List Char} {n : Nat}

private theorem toNat_ofNat_of_valid (valid : n.isValidChar) : (Char.ofNat n).toNat = n := by
  rw [Char.ofNat, dif_pos valid]
  rfl

private theorem hexValue?_lt (digit : hexValue? c = some n) : n < 16 := by
  simp only [hexValue?] at digit
  split_ifs at digit <;> cases digit <;> omega

private theorem fourHex?_eq_some (found : fourHex? cs = some (n, rest)) :
    n < 0x10000 ∧ ∃ a b c d, cs = a :: b :: c :: d :: rest := by
  unfold fourHex? at found
  split at found
  · split at found
    · next first second third fourth =>
      cases found
      have := hexValue?_lt first
      have := hexValue?_lt second
      have := hexValue?_lt third
      have := hexValue?_lt fourth
      exact ⟨by omega, _, _, _, _, rfl⟩
    · cases found
  · cases found

private theorem readFourHex_eq_ok : readFourHex cs = .ok (n, rest) ↔ fourHex? cs = some (n, rest) := by
  rw [readFourHex]
  by_cases short : byteCount cs < 4
  · rw [if_pos short]
    refine ⟨nofun, fun found => ?_⟩
    obtain ⟨-, a, b, c, d, rfl⟩ := fourHex?_eq_some found
    have := a.utf8Size_pos
    have := b.utf8Size_pos
    have := c.utf8Size_pos
    have := d.utf8Size_pos
    simp only [byteCount] at short
    omega
  · rw [if_neg short]
    cases fourHex? cs <;> simp

/-- What may stand between the halves of a pair of surrogates. -/
theorem readInPair_eq_ok : readInPair c cs = .ok rest ↔ cs = c :: rest := by
  cases cs with
  | nil => exact ⟨nofun, nofun⟩
  | cons d more =>
    rw [readInPair, List.cons.injEq]
    by_cases same : d = c
    · rw [if_pos same, Except.ok.injEq]
      exact ⟨fun eq => ⟨same, eq⟩, fun eq => eq.2⟩
    · rw [if_neg same]
      exact ⟨nofun, fun eq => absurd eq.1 same⟩

theorem bind_eq_ok {ε α β : Type} {x : Except ε α} {f : α → Except ε β} {b : β} :
    (x >>= f) = .ok b ↔ ∃ a, x = .ok a ∧ f a = .ok b := by
  cases x with
  | ok a => exact ⟨fun made => ⟨a, rfl, made⟩, fun ⟨_, same, made⟩ => Except.ok.inj same ▸ made⟩
  | error e => exact ⟨nofun, fun ⟨_, same, _⟩ => nomatch same⟩

private theorem charWritten_of_readCodePoint (read : readCodePoint cs = .ok (c, rest)) :
    CharWritten c ('\\' :: 'u' :: cs) rest := by
  obtain ⟨⟨n, more⟩, first, read⟩ := bind_eq_ok.mp read
  rw [readFourHex_eq_ok] at first
  have small := (fourHex?_eq_some first).1
  dsimp only at read
  split_ifs at read with low high
  · obtain ⟨_, slash, paired⟩ := bind_eq_ok.mp read
    obtain ⟨_, letter, paired⟩ := bind_eq_ok.mp paired
    obtain ⟨⟨m, _⟩, second, made⟩ := bind_eq_ok.mp paired
    obtain rfl := readInPair_eq_ok.mp slash
    obtain rfl := readInPair_eq_ok.mp letter
    rw [readFourHex_eq_ok] at second
    dsimp only at made
    split_ifs at made with back
    obtain ⟨rfl, rfl⟩ := Prod.mk.inj (Except.ok.inj made)
    simp only [isHighSurrogate, isLowSurrogate, decide_eq_true_eq] at high back
    have point : (Char.ofNat (0x10000 + (n - 0xd800) * 0x400 + (m - 0xdc00))).toNat =
        0x10000 + (n - 0xd800) * 0x400 + (m - 0xdc00) := toNat_ofNat_of_valid (.inr ⟨by omega, by omega⟩)
    refine .pair (by omega) (first.trans ?_) (second.trans ?_)
    · rw [point, show 0xd800 + (0x10000 + (n - 0xd800) * 0x400 + (m - 0xdc00) - 0x10000) / 0x400 = n by omega]
    · rw [point, show 0xdc00 + (0x10000 + (n - 0xd800) * 0x400 + (m - 0xdc00) - 0x10000) % 0x400 = m by omega]
  · cases read
    simp only [isHighSurrogate, isLowSurrogate, decide_eq_true_eq] at low high
    have point : (Char.ofNat n).toNat = n := by
      refine toNat_ofNat_of_valid ?_
      rw [Nat.isValidChar]
      omega
    exact .unit (by rw [point]; exact first)

/-- A numeric escape is one code unit, or a pair of surrogates. -/
theorem readCodePoint_eq_ok : readCodePoint cs = .ok (c, rest) ↔ CharWritten c ('\\' :: 'u' :: cs) rest := by
  refine ⟨charWritten_of_readCodePoint, fun written => ?_⟩
  have valid : c.toNat < 0xd800 ∨ 0xdfff < c.toNat ∧ c.toNat < 0x110000 := c.valid
  cases written with
  | plain usual => exact absurd rfl usual.2.1
  | short listed => simp [shortEscapes] at listed
  | unit first =>
    have alone : isLowSurrogate c.toNat = false ∧ isHighSurrogate c.toNat = false := by
      simp only [isHighSurrogate, isLowSurrogate, decide_eq_false_iff_not]
      omega
    refine bind_eq_ok.mpr ⟨_, readFourHex_eq_ok.mpr first, ?_⟩
    dsimp only
    rw [alone.1, alone.2, Char.ofNat_toNat]
    rfl
  | pair beyond high low =>
    have front : isLowSurrogate (0xd800 + (c.toNat - 0x10000) / 0x400) = false ∧
        isHighSurrogate (0xd800 + (c.toNat - 0x10000) / 0x400) = true := by
      simp only [isHighSurrogate, isLowSurrogate, decide_eq_false_iff_not, decide_eq_true_eq]
      omega
    have back : isLowSurrogate (0xdc00 + (c.toNat - 0x10000) % 0x400) = true := by
      simp only [isLowSurrogate, decide_eq_true_eq]
      omega
    refine bind_eq_ok.mpr ⟨_, readFourHex_eq_ok.mpr high, ?_⟩
    dsimp only
    rw [front.1, front.2]
    refine bind_eq_ok.mpr ⟨_, readInPair_eq_ok.mpr rfl, bind_eq_ok.mpr ⟨_, readInPair_eq_ok.mpr rfl, ?_⟩⟩
    refine bind_eq_ok.mpr ⟨_, readFourHex_eq_ok.mpr low, ?_⟩
    rw [back, show 0x10000 + (0xd800 + (c.toNat - 0x10000) / 0x400 - 0xd800) * 0x400 +
      (0xdc00 + (c.toNat - 0x10000) % 0x400 - 0xdc00) = c.toNat by omega, Char.ofNat_toNat]
    rfl

private theorem readEscape_eq_ok : readEscape cs = .ok (c, rest) ↔ CharWritten c ('\\' :: cs) rest := by
  constructor
  · intro read
    unfold readEscape at read
    split at read
    case h_10 => exact readCodePoint_eq_ok.mp read
    case h_1 => cases read
    case h_11 => cases read
    all_goals
      cases read
      exact .short (by simp [shortEscapes])
  · intro written
    cases written with
    | plain usual => exact absurd rfl usual.2.1
    | short listed =>
      simp only [shortEscapes, List.mem_cons, Prod.mk.injEq, List.not_mem_nil, or_false] at listed
      rcases listed with ⟨rfl, rfl⟩ | ⟨rfl, rfl⟩ | ⟨rfl, rfl⟩ | ⟨rfl, rfl⟩ | ⟨rfl, rfl⟩ | ⟨rfl, rfl⟩ | ⟨rfl, rfl⟩ |
        ⟨rfl, rfl⟩ <;> rfl
    | unit first => exact readCodePoint_eq_ok.mpr (.unit first)
    | pair beyond high low => exact readCodePoint_eq_ok.mpr (.pair beyond high low)

private theorem CharWritten.shorter (written : CharWritten c cs rest) : rest.length < cs.length := by
  have hex {cs rest : List Char} {n : Nat} (found : fourHex? cs = some (n, rest)) : cs.length = rest.length + 4 := by
    obtain ⟨-, a, b, c, d, rfl⟩ := fourHex?_eq_some found
    rfl
  cases written with
  | plain usual => exact Nat.lt_succ_self _
  | short listed => simp only [List.length_cons]; omega
  | unit first =>
    have := hex first
    simp only [List.length_cons]
    omega
  | pair beyond high low =>
    have := hex high
    have := hex low
    simp only [List.length_cons] at *
    omega

theorem TextWritten.shorter {text : List Char} (written : TextWritten text cs rest) : rest.length < cs.length := by
  induction written with
  | close => exact Nat.lt_succ_self _
  | char first later ih => exact Nat.lt_trans ih first.shorter

private theorem textWritten_quote {text : List Char} : TextWritten text ('"' :: cs) rest ↔ text = [] ∧ cs = rest := by
  constructor
  · intro written
    cases written with
    | close => exact ⟨rfl, rfl⟩
    | char first later =>
      cases first with
      | plain usual => exact absurd rfl usual.1
  · rintro ⟨rfl, rfl⟩
    exact .close

private theorem textWritten_of_ne {text : List Char} (further : c ≠ '"') :
    TextWritten text (c :: cs) rest ↔
      ∃ d ds more, text = d :: ds ∧ CharWritten d (c :: cs) more ∧ TextWritten ds more rest := by
  constructor
  · intro written
    cases written with
    | close => exact absurd rfl further
    | char first later => exact ⟨_, _, _, rfl, first, later⟩
  · rintro ⟨d, ds, more, rfl, first, later⟩
    exact .char first later

/-- Every character but the closing quote is read by itself. -/
theorem readTextFrom_of_ne {text : List Char} {fuel : Nat} (further : c ≠ '"') :
    readTextFrom (fuel + 1) (c :: cs) = .ok (text, rest) ↔
      ∃ d ds more, text = d :: ds ∧ CharWritten d (c :: cs) more ∧ readTextFrom fuel more = .ok (ds, rest) := by
  rw [readTextFrom, if_neg further]
  by_cases slash : c = '\\'
  · subst slash
    rw [if_pos rfl]
    constructor
    · intro read
      obtain ⟨⟨d, more⟩, escape, read⟩ := bind_eq_ok.mp read
      obtain ⟨⟨ds, _⟩, later, made⟩ := bind_eq_ok.mp read
      cases made
      exact ⟨d, ds, more, rfl, readEscape_eq_ok.mp escape, later⟩
    · rintro ⟨d, ds, more, rfl, first, later⟩
      exact bind_eq_ok.mpr ⟨_, readEscape_eq_ok.mpr first, bind_eq_ok.mpr ⟨_, later, rfl⟩⟩
  rw [if_neg slash]
  by_cases control : c.toNat < 0x20
  · rw [if_pos control]
    refine ⟨nofun, ?_⟩
    rintro ⟨d, ds, more, rfl, first, later⟩
    cases first with
    | plain usual => omega
    | _ => exact absurd rfl slash
  · rw [if_neg control]
    constructor
    · intro read
      obtain ⟨⟨ds, _⟩, later, made⟩ := bind_eq_ok.mp read
      cases made
      exact ⟨c, ds, cs, rfl, .plain ⟨further, slash, by omega⟩, later⟩
    · rintro ⟨d, ds, more, rfl, first, later⟩
      cases first with
      | plain usual => exact bind_eq_ok.mpr ⟨_, later, rfl⟩
      | _ => exact absurd rfl slash

/-- A string is read character by character, given fuel for all of the text. -/
theorem readTextFrom_eq_ok {text : List Char} {fuel : Nat} (enough : cs.length < fuel) :
    readTextFrom fuel cs = .ok (text, rest) ↔ TextWritten text cs rest := by
  induction fuel generalizing text cs rest with
  | zero => omega
  | succ fuel ih =>
    cases cs with
    | nil =>
      refine ⟨nofun, fun written => ?_⟩
      have := written.shorter
      simp at this
    | cons c cs =>
      by_cases quote : c = '"'
      · subst quote
        rw [readTextFrom, if_pos rfl, textWritten_quote, Except.ok.injEq, Prod.mk.injEq, eq_comm]
      · rw [readTextFrom_of_ne quote, textWritten_of_ne quote]
        have next {d : Char} {ds more : List Char} (first : CharWritten d (c :: cs) more) :
            readTextFrom fuel more = .ok (ds, rest) ↔ TextWritten ds more rest :=
          ih (Nat.lt_of_lt_of_le first.shorter (Nat.le_of_lt_succ enough))
        refine exists_congr fun d => exists_congr fun ds => exists_congr fun more => and_congr_right fun _ => ?_
        exact and_congr_right fun first => next first

/-- What is read as a string is written as one. -/
theorem readText_eq_ok {s : String} : readText cs = .ok (s, rest) ↔ TextWritten s.toList cs rest := by
  constructor
  · intro read
    obtain ⟨⟨text, _⟩, found, made⟩ := bind_eq_ok.mp read
    cases made
    rw [String.toList_ofList]
    exact (readTextFrom_eq_ok (Nat.lt_succ_self _)).mp found
  · intro written
    refine bind_eq_ok.mpr ⟨_, (readTextFrom_eq_ok (Nat.lt_succ_self _)).mpr written, ?_⟩
    exact congrArg (fun t => Except.ok (t, rest)) String.ofList_toList

/-- A text of usual characters is written as it is. -/
theorem textWritten_of_usual {text : List Char}
    (usual : text.all (fun c => c ≠ '"' ∧ c ≠ '\\' ∧ 0x20 ≤ c.toNat) = true) :
    TextWritten text (text ++ '"' :: rest) rest := by
  induction text with
  | nil => exact .close
  | cons c text ih =>
    obtain ⟨here, later⟩ := Bool.and_eq_true_iff.mp usual
    exact .char (.plain (of_decide_eq_true here)) (ih later)

end JobPool.Json
