import Mathlib.Data.List.Forall2
import JobPool.Settings.Form
import JobPool.Proofs.Json.Completeness
import JobPool.Proofs.Json.Soundness

/-!
Names, sizes and policies are read from an outline exactly as the document that it shows holds them
(`readName_eq_ok`, `readOptionalSize_eq_ok`, `readPolicyIn_eq_ok`).
-/

namespace JobPool.Settings

open Json (Document Numeral Number Outline Items Members Scalar Value Shows ItemsShow MembersShow)

variable {v : Document} {outline : Outline} {rest : List Char} {size : UInt64}

section sizes

private theorem isSize_numeral {n : Numeral} {k : Number} (number : n.number? = some k) :
    IsSize (.numeral n) size ↔ ∃ i : Int, k = .integer i ∧ ¬i < 0 ∧ UInt64.ofNat i.toNat = size := by
  have small := size.toNat_lt_size
  constructor
  · rintro ⟨_, ⟨⟩, plus, whole, value⟩
    have read := (n.number?_eq_natural size.toNat).mpr ⟨plus, whole, value, small⟩
    rw [number, Option.some.injEq] at read
    refine ⟨_, read, by omega, ?_⟩
    rw [Int.toNat_natCast, UInt64.ofNat_toNat]
  · rintro ⟨i, rfl, natural, rfl⟩
    obtain ⟨m, rfl⟩ := Int.eq_ofNat_of_zero_le (Int.not_lt.mp natural)
    obtain ⟨plus, whole, value, fits⟩ := (n.number?_eq_natural m).mp number
    refine ⟨n, rfl, plus, whole, ?_⟩
    rw [value, Int.toNat_natCast, UInt64.toNat_ofNat_of_lt' fits]

/-- The value is taken for a size exactly if the document is that size. -/
def Alike (value : Value) (v : Document) : Prop := ∀ size, sizeOfValue value = .ok size ↔ IsSize v size

private theorem alike_of_scalar {x : Scalar} (read : v.scalar? = some x) : Alike x.toValue v := by
  intro size
  cases v with
  | numeral n =>
    obtain ⟨k, number, rfl⟩ := Option.map_eq_some_iff.mp read
    rw [isSize_numeral number, Scalar.toValue]
    cases k with
    | real x => exact ⟨nofun, fun ⟨_, other, _⟩ => nomatch other⟩
    | integer i =>
      rw [sizeOfValue]
      by_cases negative : i < 0
      · rw [if_pos negative]
        exact ⟨nofun, fun ⟨_, same, natural, _⟩ => absurd (Number.integer.inj same ▸ negative) natural⟩
      · rw [if_neg negative, Except.ok.injEq]
        exact ⟨fun same => ⟨i, rfl, negative, same⟩, fun ⟨_, same, _, value⟩ => Number.integer.inj same ▸ value⟩
  | array | object => cases read
  | _ =>
    cases read
    exact ⟨nofun, fun ⟨_, other, _⟩ => nomatch other⟩

mutual

private theorem exists_value : ∀ {outline : Outline} {v : Document} {rest : List Char}, Shows outline v rest →
    ∃ w, outline.value = .ok w ∧ Alike w v
  | .scalar x _, _, _, .scalar read => ⟨x.toValue, rfl, alike_of_scalar read⟩
  | .array _ _, _, _, .array content => by
    obtain ⟨ws, made, -⟩ := exists_values content
    refine ⟨.array ws, ?_, fun _ => ⟨nofun, fun ⟨_, other, _⟩ => nomatch other⟩⟩
    rw [Outline.value, made]
    rfl
  | .object _ _, _, _, .object content => by
    obtain ⟨ps, made⟩ := exists_pairs content
    refine ⟨.object ps, ?_, fun _ => ⟨nofun, fun ⟨_, other, _⟩ => nomatch other⟩⟩
    rw [Outline.value, made]
    rfl

private theorem exists_values : ∀ {items : Items} {vs : List Document} {rest : List Char}, ItemsShow items vs rest →
    ∃ ws, items.values = .ok ws ∧ List.Forall₂ Alike ws vs
  | .closed _, _, _, .closed => ⟨[], rfl, .nil⟩
  | .item _ _, _, _, .item first later => by
    obtain ⟨w, made, alike⟩ := exists_value first
    obtain ⟨ws, others, alikes⟩ := exists_values later
    refine ⟨w :: ws, ?_, .cons alike alikes⟩
    rw [Items.values, made, others]
    rfl

private theorem exists_pairs : ∀ {members : Members} {ms : List (String × Document)} {rest : List Char},
    MembersShow members ms rest → ∃ ps, members.pairs = .ok ps
  | .closed _, _, _, .closed => ⟨[], rfl⟩
  | .member name _ _ _, _, _, .member first later => by
    obtain ⟨w, made, -⟩ := exists_value first
    obtain ⟨ps, others⟩ := exists_pairs later
    refine ⟨(name, w) :: ps, ?_⟩
    rw [Members.pairs, made, others]
    rfl

end

private theorem readSize_eq_ok (shown : Shows outline v rest) : readSize outline = .ok size ↔ IsSize v size := by
  cases shown with
  | array | object => exact ⟨nofun, fun ⟨_, other, _⟩ => nomatch other⟩
  | @scalar x _ _ read =>
    rw [← alike_of_scalar read size]
    rcases x with _ | _ | k | _
    · exact ⟨nofun, nofun⟩
    · exact ⟨nofun, nofun⟩
    · cases k with
      | real x => exact ⟨nofun, nofun⟩
      | integer i =>
        rw [readSize, Scalar.toValue, sizeOfValue]
        split_ifs <;> simp
    · exact ⟨nofun, nofun⟩

theorem map_eq_ok {ε α β : Type} {x : Except ε α} {f : α → β} {b : β} :
    x.map f = .ok b ↔ ∃ a, x = .ok a ∧ f a = b := by
  cases x with
  | ok a => simp [Except.map]
  | error e => simp [Except.map]

theorem mapError_eq_ok {ε ε' α : Type} {x : Except ε α} {a : α} (f : ε → ε') : x.mapError f = .ok a ↔ x = .ok a := by
  cases x <;> simp [Except.mapError]

theorem readOptionalSize_eq_ok {given : Option UInt64} (shown : Shows outline v rest) :
    readOptionalSize outline = .ok given ↔ GivesSize (some v) given := by
  by_cases null : ∃ after, outline = .scalar .null after
  · obtain ⟨after, rfl⟩ := null
    cases shown with
    | scalar read =>
      obtain rfl : v = .null := by cases v <;> simp_all [Document.scalar?]
      rw [readOptionalSize, Except.ok.injEq]
      cases given with
      | none => exact ⟨fun _ => rfl, fun _ => rfl⟩
      | some size => exact ⟨nofun, fun ⟨_, other, _⟩ => nomatch other⟩
  · have other : v ≠ .null := by
      rintro rfl
      cases shown with
      | scalar read =>
        cases read
        exact null ⟨_, rfl⟩
    rw [readOptionalSize.eq_2 _ (fun after same => null ⟨after, same⟩), map_eq_ok]
    cases given with
    | none => exact ⟨fun ⟨_, _, same⟩ => absurd same nofun, fun same => absurd same other⟩
    | some size =>
      rw [GivesSize, ← readSize_eq_ok shown]
      exact ⟨fun ⟨_, read, same⟩ => Option.some.inj same ▸ read, fun read => ⟨size, read, rfl⟩⟩

theorem readName_eq_ok {name : String} (shown : Shows outline v rest) :
    readName outline = .ok name ↔ v = .text name := by
  cases shown with
  | array | object => exact ⟨nofun, nofun⟩
  | scalar read =>
    cases v with
    | text s =>
      cases read
      rw [readName, Except.ok.injEq, Document.text.injEq]
    | numeral n =>
      obtain ⟨k, -, rfl⟩ := Option.map_eq_some_iff.mp read
      exact ⟨nofun, nofun⟩
    | array | object => cases read
    | _ =>
      cases read
      exact ⟨nofun, nofun⟩

end sizes

section policies

/-- The name of a kind. -/
def Kind.name : Kind → String
  | discard => "discard"
  | log => "log"
  | retry => "retry"

private theorem Kind.ofName?_eq_some {s : String} {kind : Kind} : Kind.ofName? s = some kind ↔ s = kind.name := by
  rw [Kind.ofName?.eq_def]
  split <;> cases kind <;> simp_all [Kind.name]

private theorem Kind.name_injective {kind other : Kind} (same : kind.name = other.name) : kind = other := by
  have found := Kind.ofName?_eq_some.mpr (rfl : kind.name = kind.name)
  rw [Kind.ofName?_eq_some.mpr same] at found
  exact (Option.some.inj found).symm

private theorem readKind_eq_ok {kind : Kind} (shown : Shows outline v rest) :
    readKind outline = .ok kind ↔ v = .text kind.name := by
  rw [← readName_eq_ok shown]
  cases shown with
  | array | object => exact ⟨nofun, nofun⟩
  | @scalar x _ _ read =>
    cases x with
    | text s =>
      rw [readKind, readName, Except.ok.injEq, ← Kind.ofName?_eq_some]
      cases Kind.ofName? s <;> simp
    | _ => exact ⟨nofun, nofun⟩

variable {name : String} {ms : List (String × Document)}

private theorem valuesOf_cons_of_eq : valuesOf name ((name, v) :: ms) = v :: valuesOf name ms := by
  rw [valuesOf, List.filter_cons_of_pos (by simp), List.map_cons, valuesOf]

private theorem valuesOf_cons_of_ne {other : String} (differs : other ≠ name) :
    valuesOf name ((other, v) :: ms) = valuesOf name ms := by
  rw [valuesOf, List.filter_cons_of_neg (by simpa using differs), valuesOf]

/-- The kinds of a policy: the one that was read already, and those that come. -/
def kinds (before : Option Kind) (ms : List (String × Document)) : List Document :=
  (before.map fun kind => Document.text kind.name).toList ++ valuesOf "kind" ms

/-- The other members of a policy and what they are read as. -/
def SameMembers (others : List (String × Value)) (ms : List (String × Document)) : Prop :=
  List.Forall₂ (fun other m => other.1 = m.1 ∧ Alike other.2 m.2) others (ms.filter fun m => m.1 ≠ "kind")

private theorem kinds_of_scanPolicy {kind : Kind} : ∀ {members : Members} {ms : List (String × Document)}
    {before : Option Kind} {others : List (String × Value)}, MembersShow members ms rest →
    scanPolicy before members = .ok (kind, others) → kinds before ms = [.text kind.name] ∧ SameMembers others ms
  | .closed _, _, none, _, .closed, scanned => nomatch scanned
  | .closed _, _, some _, _, .closed, scanned => by
    cases scanned
    exact ⟨rfl, .nil⟩
  | .member name _ value next, (_, v) :: ms, before, others, .member first later, scanned => by
    rw [scanPolicy.eq_3] at scanned
    by_cases key : name = Field.kind.key
    · rw [if_pos key] at scanned
      cases before with
      | some kind => cases scanned
      | none =>
        rw [if_neg (by decide)] at scanned
        cases read : readKind value with
        | error stop =>
          rw [read] at scanned
          cases scanned
        | ok here =>
          rw [read] at scanned
          obtain ⟨only, same⟩ := kinds_of_scanPolicy later scanned
          obtain rfl := (readKind_eq_ok first).mp read
          subst key
          refine ⟨?_, ?_⟩
          · rw [← only, kinds, Field.key, valuesOf_cons_of_eq]
            rfl
          · rw [SameMembers, List.filter_cons_of_neg (by simp [Field.key])]
            exact same
    · rw [if_neg key] at scanned
      obtain ⟨w, made, alike⟩ := exists_value first
      rw [made] at scanned
      obtain ⟨⟨_, _⟩, next, made⟩ := map_eq_ok.mp scanned
      cases made
      obtain ⟨only, same⟩ := kinds_of_scanPolicy later next
      have other : name ≠ "kind" := key
      refine ⟨?_, ?_⟩
      · rw [kinds, valuesOf_cons_of_ne other]
        exact only
      · rw [SameMembers, List.filter_cons_of_pos (by simpa using other)]
        exact .cons ⟨rfl, alike⟩ same

private theorem scanPolicy_of_kinds {kind : Kind} : ∀ {members : Members} {ms : List (String × Document)}
    {before : Option Kind}, MembersShow members ms rest → kinds before ms = [.text kind.name] →
    ∃ others, scanPolicy before members = .ok (kind, others)
  | .closed _, _, none, .closed, only => nomatch only
  | .closed _, _, some before, .closed, only => by
    obtain rfl := Kind.name_injective (Document.text.inj (List.cons.inj only).1)
    exact ⟨[], rfl⟩
  | .member name _ value next, (_, v) :: ms, before, .member first later, only => by
    rw [scanPolicy.eq_3]
    by_cases key : name = Field.kind.key
    · rw [if_pos key]
      subst key
      rw [kinds, Field.key, valuesOf_cons_of_eq] at only
      cases before with
      | some before => exact absurd (congrArg List.length only) (by simp)
      | none =>
        obtain ⟨rfl, none⟩ := List.cons.inj only
        rw [if_neg (by decide), (readKind_eq_ok first).mpr rfl]
        refine scanPolicy_of_kinds later ?_
        rw [kinds, none]
        rfl
    · rw [if_neg key]
      have other : name ≠ "kind" := key
      rw [kinds, valuesOf_cons_of_ne other] at only
      obtain ⟨w, made, -⟩ := exists_value first
      obtain ⟨others, scanned⟩ := scanPolicy_of_kinds later only
      rw [made, scanned]
      exact ⟨_, rfl⟩

variable {retries : UInt64} {policy : PolicySetting} {kind : Kind} {others : List (String × Value)}

/-- The retries that members give: exactly one, counting one that was read already. -/
def GivesRetries (before : Option UInt64) (ms : List (String × Document)) (retries : UInt64) : Prop :=
  match before with
  | none => ∃ v, valuesOf "retries" ms = [v] ∧ IsSize v retries
  | some earlier => valuesOf "retries" ms = [] ∧ earlier = retries

private theorem retriesOfMembers_eq_ok {before : Option UInt64}
    (same : List.Forall₂ (fun other m => other.1 = m.1 ∧ Alike other.2 m.2) others ms) :
    retriesOfMembers before others = .ok retries ↔ GivesRetries before ms retries := by
  induction same generalizing before with
  | nil =>
    cases before with
    | none => exact ⟨nofun, fun ⟨_, other, _⟩ => nomatch other⟩
    | some n =>
      rw [retriesOfMembers, Except.ok.injEq]
      exact ⟨fun same => ⟨rfl, same⟩, fun given => given.2⟩
  | @cons other m others ms here same ih =>
    obtain ⟨name, w⟩ := other
    obtain ⟨name', v⟩ := m
    obtain ⟨rfl, alike⟩ := here
    rw [retriesOfMembers.eq_3]
    by_cases key : name = Field.retries.key
    · rw [if_pos key]
      subst key
      cases before with
      | some n =>
        refine ⟨nofun, fun given => ?_⟩
        rw [GivesRetries, Field.key, valuesOf_cons_of_eq] at given
        cases given.1
      | none =>
        rw [if_neg (by decide), GivesRetries, Field.key, valuesOf_cons_of_eq]
        constructor
        · intro read
          obtain ⟨n, first, later⟩ := Json.bind_eq_ok.mp read
          obtain ⟨none, rfl⟩ := ih.mp later
          exact ⟨v, by rw [none], (alike n).mp first⟩
        · rintro ⟨_, only, size⟩
          obtain ⟨rfl, none⟩ := List.cons.inj only
          exact Json.bind_eq_ok.mpr ⟨retries, (alike retries).mpr size, ih.mpr ⟨none, rfl⟩⟩
    · rw [if_neg key, ih]
      have other : name ≠ "retries" := key
      cases before with
      | none => rw [GivesRetries, GivesRetries, valuesOf_cons_of_ne other]
      | some n => rw [GivesRetries, GivesRetries, valuesOf_cons_of_ne other]

private theorem valuesOf_retries (ms : List (String × Document)) :
    valuesOf "retries" (ms.filter fun m => m.1 ≠ "kind") = valuesOf "retries" ms := by
  rw [valuesOf, valuesOf, List.filter_filter]
  refine congrArg _ (List.filter_congr fun m _ => ?_)
  by_cases key : m.1 = "retries" <;> simp [key]

private theorem policyOfMembers_eq_ok (only : valuesOf "kind" ms = [.text kind.name]) (same : SameMembers others ms) :
    policyOfMembers others kind = .ok policy ↔ IsPolicy (.object ms) policy := by
  cases kind with
  | discard => cases policy <;> simp [policyOfMembers, IsPolicy, only, Kind.name]
  | log => cases policy <;> simp [policyOfMembers, IsPolicy, only, Kind.name]
  | retry =>
    rw [policyOfMembers, map_eq_ok]
    cases policy with
    | retry n =>
      rw [IsPolicy, only, ← valuesOf_retries]
      constructor
      · rintro ⟨_, read, ⟨⟩⟩
        exact ⟨rfl, (retriesOfMembers_eq_ok same).mp read⟩
      · rintro ⟨-, given⟩
        exact ⟨n, (retriesOfMembers_eq_ok same).mpr given, rfl⟩
    | _ => simp [IsPolicy, only, Kind.name]

private theorem policyOfItems_eq_ok {ws : List Value} {vs : List Document} (alike : List.Forall₂ Alike ws vs) :
    policyOfItems ws kind = .ok policy ↔ IsPolicy (.array (.text kind.name :: vs)) policy := by
  cases kind with
  | discard =>
    cases alike <;> cases policy <;> simp [policyOfItems, IsPolicy, Kind.name]
  | log =>
    cases alike <;> cases policy <;> simp [policyOfItems, IsPolicy, Kind.name]
  | retry =>
    cases alike with
    | nil => cases policy <;> simp [policyOfItems, IsPolicy, Kind.name]
    | @cons w v ws vs alike others =>
      have single : ws.isEmpty = true ↔ vs = [] := by
        cases others <;> simp
      constructor
      · intro read
        obtain ⟨n, first, made⟩ := Json.bind_eq_ok.mp read
        by_cases none : ws.isEmpty = true
        · rw [if_pos none] at made
          cases made
          exact ⟨v, by rw [single.mp none, Kind.name], (alike n).mp first⟩
        · rw [if_neg none] at made
          cases made
      · intro given
        cases policy with
        | retry n =>
          obtain ⟨_, only, size⟩ := given
          obtain ⟨-, only⟩ := List.cons.inj only
          obtain ⟨rfl, none⟩ := List.cons.inj only
          refine Json.bind_eq_ok.mpr ⟨n, (alike n).mpr size, ?_⟩
          rw [if_pos (single.mpr none)]
          rfl
        | _ => simp [IsPolicy] at given

private theorem place_eq_ok {α : Type} {x : Except (Json.Stop Complaint) α} {a : α} : place x = .ok a ↔ x = .ok a := by
  cases x <;> simp [place]

private theorem float_eq_ok {α : Type} {x : Except Complaint α} {a : α} : float x = .ok a ↔ x = .ok a := by
  cases x <;> simp [float]

private theorem readPolicy_object {start : List Char} {members : Members} (shown : MembersShow members ms rest) :
    readPolicy (.object start members) = .ok policy ↔ IsPolicy (.object ms) policy := by
  constructor
  · intro read
    obtain ⟨⟨kind, others⟩, scanned, made⟩ := Json.bind_eq_ok.mp read
    obtain ⟨only, same⟩ := kinds_of_scanPolicy shown (place_eq_ok.mp scanned)
    exact (policyOfMembers_eq_ok only same).mp (float_eq_ok.mp made)
  · intro given
    obtain ⟨kind, only⟩ : ∃ kind : Kind, kinds none ms = [.text kind.name] := by
      cases policy with
      | discard => exact ⟨.discard, given⟩
      | log => exact ⟨.log, given⟩
      | retry n => exact ⟨.retry, given.1⟩
    obtain ⟨others, scanned⟩ := scanPolicy_of_kinds shown only
    obtain ⟨only, same⟩ := kinds_of_scanPolicy shown scanned
    refine Json.bind_eq_ok.mpr ⟨_, place_eq_ok.mpr scanned, ?_⟩
    exact float_eq_ok.mpr ((policyOfMembers_eq_ok only same).mpr given)

private theorem readPolicy_array {start : List Char} {items : Items} {vs : List Document}
    (shown : ItemsShow items vs rest) :
    readPolicy (.array start items) = .ok policy ↔ IsPolicy (.array vs) policy := by
  cases shown with
  | closed =>
    refine ⟨nofun, fun given => ?_⟩
    cases policy with
    | retry n =>
      obtain ⟨_, only, _⟩ := given
      cases only
    | _ => cases given
  | @item value next v vs _ _ first later =>
    obtain ⟨ws, made, alike⟩ := exists_values later
    constructor
    · intro read
      obtain ⟨⟨kind, values⟩, scanned, policed⟩ := Json.bind_eq_ok.mp read
      obtain ⟨_, named, scanned⟩ := Json.bind_eq_ok.mp (place_eq_ok.mp scanned)
      rw [made] at scanned
      cases scanned
      obtain rfl := (readKind_eq_ok first).mp named
      exact (policyOfItems_eq_ok alike).mp (float_eq_ok.mp policed)
    · intro given
      obtain ⟨kind, rfl⟩ : ∃ kind : Kind, v = .text kind.name := by
        cases policy with
        | discard => exact ⟨.discard, (List.cons.inj given).1⟩
        | log => exact ⟨.log, (List.cons.inj given).1⟩
        | retry n =>
          obtain ⟨_, only, _⟩ := given
          exact ⟨.retry, (List.cons.inj only).1⟩
      have scanned : scanPolicyItems (.item value next) = .ok (kind, ws) := by
        refine Json.bind_eq_ok.mpr ⟨kind, (readKind_eq_ok first).mpr rfl, ?_⟩
        rw [made]
        rfl
      refine Json.bind_eq_ok.mpr ⟨_, place_eq_ok.mpr scanned, ?_⟩
      exact float_eq_ok.mpr ((policyOfItems_eq_ok alike).mpr given)

private theorem readPolicy_eq_ok (shown : Shows outline v rest) :
    readPolicy outline = .ok policy ↔ IsPolicy v policy := by
  cases shown with
  | object content => exact readPolicy_object content
  | array content => exact readPolicy_array content
  | scalar read =>
    cases v with
    | array | object => cases read
    | _ => exact ⟨nofun, nofun⟩

theorem readPolicyIn_eq_ok (leave : List Char → List Char) (shown : Shows outline v rest) :
    readPolicyIn leave outline = .ok policy ↔ IsPolicy v policy := by
  rw [← readPolicy_eq_ok shown, readPolicyIn, shown.rest_eq]
  cases readPolicy outline with
  | ok policy => simp
  | error refusal => cases refusal <;> simp

end policies

end JobPool.Settings
