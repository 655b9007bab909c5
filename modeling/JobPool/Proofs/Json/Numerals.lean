import Mathlib.Data.List.TakeWhile
import JobPool.Json.Grammar

/-!
Numerals are read as the grammar has them. What a numeral is read as follows from its parts
(`toOption_readNumeral`), as long as the text after it cannot belong to it, and whatever is read was a numeral
(`exists_numeral`).
-/

namespace JobPool.Json

variable {cs rest : List Char}

section digits

/-- No digit stands at the head of the text. -/
def Digitless (rest : List Char) : Prop := ∀ c ∈ rest.head?, isDigit c = false

private theorem Digitless.takeWhile (stop : Digitless rest) : rest.takeWhile isDigit = [] := by
  cases rest with
  | nil => rfl
  | cons c more => rw [List.takeWhile_cons_of_neg (by simp [stop c rfl])]

private theorem Digitless.dropWhile (stop : Digitless rest) : rest.dropWhile isDigit = rest := by
  cases rest with
  | nil => rfl
  | cons c more => rw [List.dropWhile_cons_of_neg (by simp [stop c rfl])]

private theorem leadingDigits_append (d : Digits) (stop : Digitless rest) :
    leadingDigits (d.chars ++ rest) = d.values := by
  rw [leadingDigits, List.takeWhile_append_of_pos d.decimal, stop.takeWhile, List.append_nil, Digits.values]

private theorem afterDigits_append (d : Digits) (stop : Digitless rest) : afterDigits (d.chars ++ rest) = rest := by
  rw [afterDigits, List.dropWhile_append_of_pos d.decimal, stop.dropWhile]

private theorem Digits.exists_cons (d : Digits) : ∃ c more, d.chars = c :: more ∧ isDigit c = true := by
  obtain ⟨c, more, chars⟩ := List.exists_cons_of_ne_nil d.nonempty
  exact ⟨c, more, chars, d.decimal c (by rw [chars]; exact List.mem_cons_self)⟩

private theorem Digits.values_ne_nil (d : Digits) : d.values ≠ [] := by
  rw [Digits.values]
  exact mt List.map_eq_nil_iff.mp d.nonempty

private theorem digitless_afterDigits (cs : List Char) : Digitless (afterDigits cs) := by
  intro c listed
  have failing := List.head?_dropWhile_not isDigit cs
  rw [afterDigits] at listed
  rw [Option.mem_def.mp listed] at failing
  simpa using failing

private theorem digitless_of_leadingDigits (none : leadingDigits cs = []) : Digitless cs := by
  have whole : afterDigits cs = cs := by
    have split : cs.takeWhile isDigit ++ afterDigits cs = cs := List.takeWhile_append_dropWhile
    rwa [List.map_eq_nil_iff.mp none, List.nil_append] at split
  rw [← whole]
  exact digitless_afterDigits cs

private theorem exists_digits (found : leadingDigits cs ≠ []) : ∃ d : Digits, cs = d.chars ++ afterDigits cs := by
  have nonempty : cs.takeWhile isDigit ≠ [] := fun empty => found (by rw [leadingDigits, empty, List.map_nil])
  exact ⟨⟨_, fun c listed => List.mem_takeWhile_imp listed, nonempty⟩, List.takeWhile_append_dropWhile.symm⟩

private theorem le_amount (n : Nat) (ds : List Nat) : n ≤ ds.foldl (fun n digit => n * 10 + digit) n := by
  induction ds generalizing n with
  | nil => exact Nat.le_refl n
  | cons d ds ih =>
    have := ih (n * 10 + d)
    rw [List.foldl_cons]
    omega

/-- Digits that stand for less than the limit are all absorbed. -/
theorem absorb_of_lt {limit n : Nat} {ds : List Nat}
    (fits : ds.foldl (fun n digit => n * 10 + digit) n < limit) :
    absorb limit n ds = (ds.foldl (fun n digit => n * 10 + digit) n, []) := by
  induction ds generalizing n with
  | nil => rfl
  | cons d ds ih =>
    rw [List.foldl_cons] at fits ⊢
    have room : n * 10 + d < limit := Nat.lt_of_le_of_lt (le_amount _ _) fits
    rw [absorb, if_pos room, ih fits]

/-- Digits that are all absorbed stand for less than the limit. -/
theorem lt_of_absorb {limit n m : Nat} {ds : List Nat} (room : n < limit) (absorbed : absorb limit n ds = (m, [])) :
    ds.foldl (fun n digit => n * 10 + digit) n = m ∧ m < limit := by
  induction ds generalizing n with
  | nil =>
    obtain ⟨rfl, -⟩ := Prod.mk.inj absorbed
    exact ⟨rfl, room⟩
  | cons d ds ih =>
    rw [absorb] at absorbed
    by_cases more : n * 10 + d < limit
    · rw [if_pos more] at absorbed
      exact ih more absorbed
    · rw [if_neg more] at absorbed
      cases absorbed

theorem Digits.absorb_of_value_lt (d : Digits) (limit : Nat) (fits : d.value < limit) :
    absorb limit 0 d.values = (d.value, []) := absorb_of_lt fits

theorem Digits.value_lt_iff (d : Digits) (limit : Nat) (positive : 0 < limit) :
    d.value < limit ↔ (absorb limit 0 d.values).2 = [] := by
  refine ⟨fun fits => by rw [d.absorb_of_value_lt limit fits], fun absorbed => ?_⟩
  obtain ⟨value, fits⟩ := lt_of_absorb positive (Prod.ext rfl absorbed)
  rw [Digits.value, value]
  exact fits

end digits

section values

theorem toOption_eq_some {ε α : Type} {x : Except ε α} {a : α} : x.toOption = some a ↔ x = .ok a := by
  cases x with
  | ok b => exact ⟨fun same => congrArg _ (Option.some.inj same), fun same => congrArg _ (Except.ok.inj same)⟩
  | error e => exact ⟨nofun, nofun⟩

variable {negative : Bool} {significand : Nat} {power : Int}

/-- The letter of an exponent stands in neither case at the head of the text. -/
def Letterless (rest : List Char) : Prop := ∀ more, rest ≠ 'e' :: more ∧ rest ≠ 'E' :: more

/-- Nothing that could belong to the numeral stands at the head of the text. -/
structure Numeral.Ends (n : Numeral) (rest : List Char) : Prop where
  digitless : Digitless rest
  point : n.isWhole = true → ∀ more, rest ≠ '.' :: more
  letter : n.exponent = none → Letterless rest

private theorem toOption_ofParts :
    (ofParts negative significand power rest).toOption =
      (scale significand power).map fun x => (signed negative x, rest) := by
  rw [ofParts]
  cases scale significand power <;> rfl

private theorem toOption_readExponentDigits (e : Exponent) (stop : Digitless rest) :
    (readExponentDigits negative significand power (decide (e.sign = .minus)) (e.digits.chars ++ rest)).toOption =
      (Numeral.raise significand power (some e)).map fun x => (signed negative x, rest) := by
  obtain ⟨d, ds, values⟩ := List.exists_cons_of_ne_nil e.digits.values_ne_nil
  rw [readExponentDigits, leadingDigits_append _ stop, afterDigits_append _ stop, Numeral.raise, values]
  dsimp only
  generalize absorb exponentLimit 0 (d :: ds) = absorbed
  obtain ⟨n, _ | ⟨lost, more⟩⟩ := absorbed
  · simp only [decide_eq_true_eq]
    exact toOption_ofParts
  · by_cases beyond : significand ≠ 0 ∧ e.sign ≠ .minus
    · simp only [if_pos beyond]
      rw [if_pos (by simpa using beyond)]
      rfl
    · simp only [if_neg beyond]
      rw [if_neg (by simpa using beyond)]
      rfl

private theorem toOption_readExponent (e : Exponent) (stop : Digitless rest) :
    (readExponent negative significand power (e.sign.chars ++ (e.digits.chars ++ rest))).toOption =
      (Numeral.raise significand power (some e)).map fun x => (signed negative x, rest) := by
  rw [← toOption_readExponentDigits e stop]
  cases sign : e.sign with
  | plus => rfl
  | minus => rfl
  | absent =>
    obtain ⟨c, more, chars, digit⟩ := e.digits.exists_cons
    rw [Sign.chars, List.nil_append, chars, List.cons_append, readExponent.eq_3]
    · rfl
    all_goals
      rintro other eq
      cases eq
      cases digit

private theorem toOption_readTail (exponent : Option Exponent) (stop : Digitless rest)
    (letter : exponent = none → Letterless rest) :
    (readTail negative significand power (exponentChars exponent ++ rest)).toOption =
      (Numeral.raise significand power exponent).map fun x => (signed negative x, rest) := by
  cases exponent with
  | none =>
    rw [exponentChars, List.nil_append, readTail.eq_3 _ _ _ _ (fun more => (letter rfl more).1)
      (fun more => (letter rfl more).2)]
    exact toOption_ofParts
  | some e =>
    rw [← toOption_readExponent e stop, exponentChars, Exponent.chars]
    cases e.capital with
    | true => rw [if_pos rfl, List.cons_append, List.append_assoc]; rfl
    | false => rw [if_neg Bool.false_ne_true, List.cons_append, List.append_assoc]; rfl

private theorem digitless_exponentChars (exponent : Option Exponent) (stop : Digitless rest) :
    Digitless (exponentChars exponent ++ rest) := by
  cases exponent with
  | none => exact stop
  | some e =>
    intro c listed
    rw [exponentChars, Exponent.chars, List.cons_append, List.head?_cons, Option.mem_some] at listed
    subst listed
    cases e.capital <;> rfl

private theorem digitless_fractionChars (fraction : Option Digits) (stop : Digitless rest) :
    Digitless (fractionChars fraction ++ rest) := by
  cases fraction with
  | none => exact stop
  | some digits =>
    intro c listed
    obtain rfl := Option.some.inj listed
    rfl

private theorem toOption_readFraction (digits : Digits) (exponent : Option Exponent) (stop : Digitless rest)
    (letter : exponent = none → Letterless rest) :
    (readFraction negative significand power (digits.chars ++ (exponentChars exponent ++ rest))).toOption =
      (Numeral.raise (absorb UInt64.size significand digits.values).1
        (power - (digits.values.length - (absorb UInt64.size significand digits.values).2.length : Nat))
        exponent).map fun x => (signed negative x, rest) := by
  obtain ⟨d, ds, values⟩ := List.exists_cons_of_ne_nil digits.values_ne_nil
  have next := digitless_exponentChars exponent stop
  rw [← toOption_readTail exponent stop letter, readFraction, leadingDigits_append _ next,
    afterDigits_append _ next, values]

private theorem toOption_readAfterWhole (n : Numeral) (ends : n.Ends rest) :
    (readAfterWhole n.negative n.whole.values
      (fractionChars n.fraction ++ (exponentChars n.exponent ++ rest))).toOption =
      n.number?.map fun k => (k, rest) := by
  have fitting := n.whole.value_lt_iff UInt64.size (by decide)
  have value := n.whole.absorb_of_value_lt UInt64.size
  unfold readAfterWhole
  rw [Numeral.number?, Numeral.significand]
  generalize absorb UInt64.size 0 n.whole.values = absorbed at fitting value ⊢
  obtain ⟨w, dropped⟩ := absorbed
  dsimp only at fitting value ⊢
  cases fraction : n.fraction with
  | some digits =>
    have broken : n.isWhole = false := by rw [Numeral.isWhole, fraction]; rfl
    rw [if_neg (by simp [broken]), Option.map_map]
    exact toOption_readFraction digits n.exponent ends.digitless ends.letter
  | none =>
    cases exponent : n.exponent with
    | some e =>
      have raised : n.isWhole = false := by rw [Numeral.isWhole, fraction, exponent]; rfl
      rw [if_neg (by simp [raised]), Option.map_map, fractionChars, List.nil_append, exponentChars, Exponent.chars]
      refine Eq.trans ?_ (toOption_readExponent e ends.digitless)
      cases e.capital with
      | true => rw [if_pos rfl, List.cons_append, List.append_assoc]; rfl
      | false => rw [if_neg Bool.false_ne_true, List.cons_append, List.append_assoc]; rfl
    | none =>
      have whole : n.isWhole = true := by rw [Numeral.isWhole, fraction, exponent]; rfl
      rw [fractionChars, List.nil_append, exponentChars, List.nil_append]
      split
      · exact absurd rfl (ends.point whole _)
      · exact absurd rfl (ends.letter exponent _).1
      · exact absurd rfl (ends.letter exponent _).2
      · next same _ _ _ =>
        cases same
        rw [if_pos ⟨whole, fitting.mpr rfl⟩, (Prod.mk.inj (value (fitting.mpr rfl))).1]
        rfl
      · next some same _ _ _ =>
        cases same
        rw [if_neg (fun fits => some (fitting.mp fits.2)), Option.map_map]
        exact toOption_ofParts

private theorem toOption_readMagnitude (n : Numeral) (ends : n.Ends rest) :
    (readMagnitude n.negative
      (n.whole.chars ++ (fractionChars n.fraction ++ (exponentChars n.exponent ++ rest)))).toOption =
      n.number?.map fun k => (k, rest) := by
  rw [← toOption_readAfterWhole n ends]
  have next := digitless_fractionChars n.fraction (digitless_exponentChars n.exponent ends.digitless)
  have found := leadingDigits_append n.whole next
  have after := afterDigits_append n.whole next
  obtain ⟨c, more, chars, digit⟩ := n.whole.exists_cons
  by_cases zero : c = '0'
  · have trimmed : n.whole.chars = ['0'] := n.trimmed (by rw [chars, zero, List.head?_cons])
    have single : n.whole.values = [0] := by rw [Digits.values, trimmed]; rfl
    have none : leadingDigits (fractionChars n.fraction ++ (exponentChars n.exponent ++ rest)) = [] := by
      rw [leadingDigits, next.takeWhile, List.map_nil]
    rw [trimmed, List.singleton_append, readMagnitude.eq_2, none, List.isEmpty_nil, if_pos rfl, single]
  · obtain ⟨d, ds, values⟩ := List.exists_cons_of_ne_nil n.whole.values_ne_nil
    rw [chars, List.cons_append] at found after ⊢
    rw [readMagnitude.eq_3 _ _ (by simp) (by simp [zero]), found, after, values]
    rfl

/-- What a numeral is read as follows from its parts. -/
theorem toOption_readNumeral (n : Numeral) (ends : n.Ends rest) :
    (readNumeral (n.chars ++ rest)).toOption = n.number?.map fun k => (k, rest) := by
  rw [← toOption_readMagnitude n ends, Numeral.chars]
  simp only [List.append_assoc]
  cases n.negative with
  | true => rfl
  | false =>
    obtain ⟨c, more, chars, digit⟩ := n.whole.exists_cons
    rw [if_neg Bool.false_ne_true, List.nil_append, chars, List.cons_append, readNumeral.eq_2]
    rintro other eq
    cases eq
    cases digit

end values

section shapes

variable {negative down : Bool} {significand : Nat} {power : Int} {k : Number}

private theorem rest_of_ofParts (read : ofParts negative significand power cs = .ok (k, rest)) : cs = rest := by
  rw [ofParts] at read
  cases scaled : scale significand power with
  | none => rw [scaled] at read; cases read
  | some x => rw [scaled] at read; cases read; rfl

private theorem exists_exponentDigits (read : readExponentDigits negative significand power down cs = .ok (k, rest)) :
    ∃ d : Digits, cs = d.chars ++ rest ∧ Digitless rest := by
  have found : leadingDigits cs ≠ [] := by
    intro empty
    rw [readExponentDigits, empty] at read
    cases cs <;> cases read
  obtain ⟨d, split⟩ := exists_digits found
  suffices same : afterDigits cs = rest from ⟨d, same ▸ split, same ▸ digitless_afterDigits cs⟩
  obtain ⟨x, xs, digits⟩ := List.exists_cons_of_ne_nil found
  rw [readExponentDigits, digits] at read
  dsimp only at read
  generalize absorb exponentLimit 0 (x :: xs) = absorbed at read
  obtain ⟨n, _ | ⟨lost, more⟩⟩ := absorbed
  · exact rest_of_ofParts read
  · by_cases beyond : significand ≠ 0 ∧ (!down) = true
    · simp only [if_pos beyond] at read
      cases read
    · simp only [if_neg beyond] at read
      cases read
      rfl

private theorem exists_exponent (read : readExponent negative significand power cs = .ok (k, rest)) :
    ∃ (sign : Sign) (d : Digits), cs = sign.chars ++ (d.chars ++ rest) ∧ Digitless rest := by
  unfold readExponent at read
  split at read
  · obtain ⟨d, rfl, stop⟩ := exists_exponentDigits read
    exact ⟨.plus, d, rfl, stop⟩
  · obtain ⟨d, rfl, stop⟩ := exists_exponentDigits read
    exact ⟨.minus, d, rfl, stop⟩
  · obtain ⟨d, rfl, stop⟩ := exists_exponentDigits read
    exact ⟨.absent, d, rfl, stop⟩

/-- What follows a letter of an exponent is the rest of one. -/
theorem exists_lettered (capital : Bool) (read : readExponent negative significand power cs = .ok (k, rest)) :
    ∃ e : Exponent, (if capital then 'E' else 'e') :: cs = exponentChars (some e) ++ rest ∧ Digitless rest := by
  obtain ⟨sign, d, rfl, stop⟩ := exists_exponent read
  refine ⟨⟨capital, sign, d⟩, ?_, stop⟩
  rw [exponentChars, Exponent.chars, List.cons_append, List.append_assoc]

private theorem exists_tail (stop : Digitless cs) (read : readTail negative significand power cs = .ok (k, rest)) :
    ∃ exponent : Option Exponent, cs = exponentChars exponent ++ rest ∧ Digitless rest ∧
      (exponent = none → Letterless rest) := by
  unfold readTail at read
  split at read
  · obtain ⟨e, chars, stop⟩ := exists_lettered false read
    exact ⟨some e, chars, stop, nofun⟩
  · obtain ⟨e, chars, stop⟩ := exists_lettered true read
    exact ⟨some e, chars, stop, nofun⟩
  · next small capital =>
    obtain rfl := rest_of_ofParts read
    exact ⟨none, rfl, stop, fun _ more => ⟨small more, capital more⟩⟩

private theorem exists_fraction (read : readFraction negative significand power cs = .ok (k, rest)) :
    ∃ (d : Digits) (exponent : Option Exponent), cs = d.chars ++ (exponentChars exponent ++ rest) ∧ Digitless rest ∧
      (exponent = none → Letterless rest) := by
  have found : leadingDigits cs ≠ [] := by
    intro empty
    rw [readFraction, empty] at read
    cases cs <;> cases read
  obtain ⟨d, split⟩ := exists_digits found
  obtain ⟨x, xs, digits⟩ := List.exists_cons_of_ne_nil found
  rw [readFraction, digits] at read
  obtain ⟨exponent, chars, stop, letter⟩ := exists_tail (digitless_afterDigits cs) read
  exact ⟨d, exponent, chars ▸ split, stop, letter⟩

private theorem exists_afterWhole {ds : List Nat} (stop : Digitless cs)
    (read : readAfterWhole negative ds cs = .ok (k, rest)) :
    ∃ (fraction : Option Digits) (exponent : Option Exponent),
      cs = fractionChars fraction ++ (exponentChars exponent ++ rest) ∧ Digitless rest ∧
        (fraction = none → exponent = none → ∀ more, rest ≠ '.' :: more) ∧ (exponent = none → Letterless rest) := by
  unfold readAfterWhole at read
  split at read
  · obtain ⟨d, exponent, rfl, stop, letter⟩ := exists_fraction read
    exact ⟨some d, exponent, rfl, stop, nofun, letter⟩
  · obtain ⟨e, chars, stop⟩ := exists_lettered false read
    exact ⟨none, some e, chars, stop, nofun, nofun⟩
  · obtain ⟨e, chars, stop⟩ := exists_lettered true read
    exact ⟨none, some e, chars, stop, nofun, nofun⟩
  · next point small capital =>
    cases read
    exact ⟨none, none, rfl, stop, fun _ _ more => point more, fun _ more => ⟨small more, capital more⟩⟩
  · next point small capital =>
    obtain rfl := rest_of_ofParts read
    exact ⟨none, none, rfl, stop, fun _ _ more => point more, fun _ more => ⟨small more, capital more⟩⟩

private theorem exists_magnitude (read : readMagnitude negative cs = .ok (k, rest)) :
    ∃ n : Numeral, n.negative = negative ∧ n.Ends rest ∧
      cs = n.whole.chars ++ (fractionChars n.fraction ++ (exponentChars n.exponent ++ rest)) := by
  -- what follows the whole digits, once it is known that none of them is idle
  have assemble (whole : Digits) (trimmed : whole.chars.head? = some '0' → whole.chars = ['0']) {more : List Char}
      {ds : List Nat} (stop : Digitless more) (read : readAfterWhole negative ds more = .ok (k, rest)) :
      ∃ n : Numeral, n.negative = negative ∧ n.Ends rest ∧
        whole.chars ++ more = n.whole.chars ++ (fractionChars n.fraction ++ (exponentChars n.exponent ++ rest)) := by
    obtain ⟨fraction, exponent, rfl, stop, point, letter⟩ := exists_afterWhole stop read
    refine ⟨⟨negative, whole, trimmed, fraction, exponent⟩, rfl, ⟨stop, ?_, letter⟩, rfl⟩
    intro isWhole
    rw [Numeral.isWhole, Bool.and_eq_true, Option.isNone_iff_eq_none, Option.isNone_iff_eq_none] at isWhole
    exact point isWhole.1 isWhole.2
  unfold readMagnitude at read
  split at read
  · cases read
  · next more =>
    by_cases single : (leadingDigits more).isEmpty = true
    · rw [if_pos single] at read
      exact assemble ⟨['0'], List.forall_mem_singleton.mpr rfl, nofun⟩ (fun _ => rfl)
        (digitless_of_leadingDigits (by simpa using single)) read
    · rw [if_neg single] at read
      cases read
  · next nonzero =>
    by_cases none : (leadingDigits cs).isEmpty = true
    · rw [if_pos none] at read
      cases read
    · rw [if_neg none] at read
      obtain ⟨whole, split⟩ := exists_digits (fun empty => none (by rw [empty]; rfl))
      have trimmed : whole.chars.head? ≠ some '0' := by
        intro zero
        obtain ⟨more, chars⟩ := List.head?_eq_some_iff.mp zero
        rw [chars, List.cons_append] at split
        exact nonzero _ split
      obtain ⟨n, sign, ends, chars⟩ := assemble whole (fun zero => absurd zero trimmed) (digitless_afterDigits cs) read
      exact ⟨n, sign, ends, split.trans chars⟩

/-- Whatever is read as a number is a numeral. -/
theorem exists_numeral (read : readNumeral cs = .ok (k, rest)) :
    ∃ n : Numeral, cs = n.chars ++ rest ∧ n.Ends rest ∧ n.number? = some k := by
  obtain ⟨n, rfl, ends⟩ : ∃ n : Numeral, cs = n.chars ++ rest ∧ n.Ends rest := by
    unfold readNumeral at read
    split at read
    · obtain ⟨n, sign, ends, rfl⟩ := exists_magnitude read
      refine ⟨n, ?_, ends⟩
      rw [Numeral.chars, sign]
      simp only [if_true, List.cons_append, List.append_assoc, List.nil_append]
    · obtain ⟨n, sign, ends, rfl⟩ := exists_magnitude read
      refine ⟨n, ?_, ends⟩
      rw [Numeral.chars, sign]
      simp only [Bool.false_eq_true, if_false, List.append_assoc, List.nil_append]
  have value := toOption_readNumeral n ends
  rw [read] at value
  obtain ⟨found, number, same⟩ := Option.map_eq_some_iff.mp value.symm
  cases same
  exact ⟨n, rfl, ends, number⟩

/-- The numeral starts with a minus or a digit. -/
theorem Numeral.exists_cons (n : Numeral) : ∃ c more, n.chars = c :: more ∧ (c = '-' ∨ isDigit c = true) := by
  rw [Numeral.chars]
  cases n.negative with
  | true => exact ⟨'-', _, rfl, .inl rfl⟩
  | false =>
    obtain ⟨c, more, chars, digit⟩ := n.whole.exists_cons
    rw [if_neg Bool.false_ne_true, List.nil_append, chars, List.cons_append]
    exact ⟨c, _, rfl, .inr digit⟩

end shapes

/-- A numeral is read as a natural number exactly if it is written as one and small enough. -/
theorem Numeral.number?_eq_natural (n : Numeral) (m : Nat) :
    n.number? = some (.integer m) ↔
      n.negative = false ∧ n.isWhole = true ∧ n.whole.value = m ∧ m < UInt64.size := by
  rw [Numeral.number?]
  by_cases exact : n.isWhole = true ∧ n.whole.value < UInt64.size
  · rw [if_pos exact, Option.some.injEq, ofWhole]
    cases n.negative with
    | false =>
      rw [Bool.not_false, if_pos rfl, Number.integer.injEq, Int.natCast_inj]
      exact ⟨fun same => ⟨rfl, exact.1, same, same ▸ exact.2⟩, fun written => written.2.2.1⟩
    | true =>
      refine ⟨fun read => ?_, fun written => absurd written.1 (by decide)⟩
      rw [Bool.not_true, if_neg Bool.false_ne_true] at read
      split at read
      · have := Number.integer.inj read
        omega
      · cases read
  · rw [if_neg exact]
    refine ⟨fun read => ?_, fun ⟨_, whole, value, small⟩ => absurd ⟨whole, value ▸ small⟩ exact⟩
    obtain ⟨x, -, real⟩ := Option.map_eq_some_iff.mp read
    cases real

end JobPool.Json
