import JobPool.Proofs.Settings.Policies

/-!
The draft that is filled while fields are read agrees with the values read so far (`Draft.Agrees`), which one field
preserves (`agrees_of_readField`). By induction, members and items are read exactly if their values give settings
(`readMembers_eq_ok`, `readItems_eq_ok`).
-/

namespace JobPool.Settings

open Json (Document Outline Items Members Shows ItemsShow MembersShow)

variable {v : Document} {outline : Outline} {rest after : List Char} {s : Settings} {d filled : Draft}
  {value? : Field → Option Document} {field : Field}

/-- The fields of settings in the order of an array. -/
def fields : List Field := [.name, .maxWorkers, .queueCapacity, .policy]

/-- The settings that values of their fields give. -/
def GivenBy (value? : Field → Option Document) (s : Settings) : Prop :=
  Gives (value? .name) (value? .maxWorkers) (value? .queueCapacity) (value? .policy) s

private theorem holds_object {ms : List (String × Document)} :
    Holds (.object ms) s ↔ (∀ m ∈ ms, ∃ field ∈ fields, m.1 = field.key) ∧ (ms.map Prod.fst).Nodup ∧
      GivenBy (fun field => ms.lookup field.key) s := by
  have known : ∀ m : String × Document, (∃ field ∈ fields, m.1 = field.key) ↔
      m.1 ∈ ["name", "max_workers", "queue_capacity", "failure_policy"] := by
    simp [fields, Field.key]
  simp only [known]
  rfl

private theorem holds_array {vs : List Document} :
    Holds (.array vs) s ↔ vs.length ≤ fields.length ∧ GivenBy (fun field => (fields.zip vs).lookup field) s := by
  match vs with
  | [] | [_] | [_, _] | [_, _, _] | _ :: _ :: _ :: _ :: _ => rfl

section drafts

private theorem IsSize.unique {a b : UInt64} (left : IsSize v a) (right : IsSize v b) : a = b := by
  obtain ⟨n, rfl, -, -, value⟩ := left
  obtain ⟨m, same, -, -, value'⟩ := right
  cases same
  exact UInt64.toNat_inj.mp (value.symm.trans value')

private theorem GivesSize.unique {v? : Option Document} {a b : Option UInt64} (left : GivesSize v? a)
    (right : GivesSize v? b) :
    a = b := by
  cases v? with
  | none => exact Eq.trans left (Eq.symm right)
  | some v =>
    cases a with
    | none =>
      obtain rfl : v = .null := left
      cases b with
      | none => rfl
      | some b => obtain ⟨n, other, -⟩ := right; cases other
    | some a =>
      cases b with
      | none =>
        obtain rfl : v = .null := right
        obtain ⟨n, other, -⟩ := left
        cases other
      | some b => rw [IsSize.unique left right]

private theorem IsPolicy.unique {p q : PolicySetting} (left : IsPolicy v p) (right : IsPolicy v q) : p = q := by
  cases v with
  | object ms =>
    cases p <;> cases q <;> simp only [IsPolicy] at left right <;> simp_all
    obtain ⟨_, only, size⟩ := left
    simp only [only, List.cons.injEq, and_true, exists_eq_left'] at right
    exact size.unique right.2
  | array vs =>
    cases p <;> cases q <;> simp only [IsPolicy] at left right <;> simp_all
    obtain ⟨v, rfl, size⟩ := left
    simp at right
    exact size.unique right
  | _ => cases p <;> cases left

/-- What a draft holds for a field comes from the field's value. -/
def Draft.Agrees (d : Draft) (field : Field) (v? : Option Document) : Prop :=
  match field with
  | .name => Option.Rel (fun v name => v = .text name) v? d.name
  | .maxWorkers => Option.Rel (fun v size => GivesSize (some v) size) v? d.maxWorkers
  | .queueCapacity => Option.Rel (fun v size => GivesSize (some v) size) v? d.queueCapacity
  | .policy => Option.Rel IsPolicy v? d.policy
  | _ => True

/-- A field that is not a field of settings is not read; all others have a value that the field admits. -/
def Admits (field : Field) (v : Document) : Prop :=
  match field with
  | .name => ∃ name, v = .text name
  | .maxWorkers | .queueCapacity => ∃ size, GivesSize (some v) size
  | .policy => ∃ policy, IsPolicy v policy
  | _ => True

private theorem admits_of_gives (gives : GivenBy value? s) (here : value? field = some v) : Admits field v := by
  cases field with
  | name => exact ⟨_, Option.some.inj (here.symm.trans gives.name)⟩
  | maxWorkers => exact ⟨_, here ▸ gives.maxWorkers⟩
  | queueCapacity => exact ⟨_, here ▸ gives.queueCapacity⟩
  | policy =>
    have policy := gives.policy
    rw [here] at policy
    exact ⟨_, policy⟩
  | _ => trivial

private theorem exists_readField (shown : Shows outline v rest) (d : Draft) :
    (∃ filled, readField d field outline = .ok filled) ↔ Admits field v := by
  have filled {α : Type} {read : Except (Json.Stop Complaint) α} {fill : α → Draft} :
      (∃ filled, read.map fill = .ok filled) ↔ ∃ a, read = .ok a := by
    cases read <;> simp [Except.map]
  cases field with
  | name => exact filled.trans (exists_congr fun _ => readName_eq_ok shown)
  | maxWorkers => exact filled.trans (exists_congr fun _ => readOptionalSize_eq_ok shown)
  | queueCapacity => exact filled.trans (exists_congr fun _ => readOptionalSize_eq_ok shown)
  | policy => exact filled.trans (exists_congr fun _ => readPolicyIn_eq_ok leaveObject shown)
  | kind => exact ⟨fun _ => trivial, fun _ => ⟨d, rfl⟩⟩
  | retries => exact ⟨fun _ => trivial, fun _ => ⟨d, rfl⟩⟩

private theorem agrees_of_readField (agrees : ∀ field, d.Agrees field (value? field)) (shown : Shows outline v rest)
    (read : readField d field outline = .ok filled) (other : Field) :
    filled.Agrees other (if other = field then some v else value? other) := by
  have before := agrees other
  by_cases same : other = field
  · subst same
    rw [if_pos rfl]
    cases other with
    | name =>
      obtain ⟨name, made, rfl⟩ := map_eq_ok.mp read
      exact .some ((readName_eq_ok shown).mp made)
    | maxWorkers =>
      obtain ⟨size, made, rfl⟩ := map_eq_ok.mp read
      exact .some ((readOptionalSize_eq_ok shown).mp made)
    | queueCapacity =>
      obtain ⟨size, made, rfl⟩ := map_eq_ok.mp read
      exact .some ((readOptionalSize_eq_ok shown).mp made)
    | policy =>
      obtain ⟨policy, made, rfl⟩ := map_eq_ok.mp read
      exact .some ((readPolicyIn_eq_ok leaveObject shown).mp made)
    | kind | retries => trivial
  · rw [if_neg same]
    cases field with
    | kind | retries =>
      cases read
      exact before
    | name | maxWorkers | queueCapacity | policy =>
      obtain ⟨a, -, rfl⟩ := map_eq_ok.mp read
      cases other <;> first | exact before | exact absurd rfl same

private theorem has_of_agrees (listed : field ∈ fields) {v? : Option Document} (agrees : d.Agrees field v?) :
    d.has field = v?.isSome := by
  have alike {α : Type} {r : Document → α → Prop} {held : Option α} (related : Option.Rel r v? held) :
      held.isSome = v?.isSome := by
    cases related <;> rfl
  cases field with
  | name | maxWorkers | queueCapacity | policy => exact alike agrees
  | kind | retries => simp [fields] at listed

private theorem size_of_agrees {v? : Option Document} {held : Option (Option UInt64)} {size : Option UInt64}
    (related : Option.Rel (fun v size => GivesSize (some v) size) v? held) :
    held.getD none = size ↔ GivesSize v? size := by
  cases related with
  | none => exact eq_comm
  | some here => exact ⟨fun same => same ▸ here, fun there => GivesSize.unique here there⟩

private theorem policy_of_agrees {v? : Option Document} {held : Option PolicySetting} {policy : PolicySetting}
    (related : Option.Rel IsPolicy v? held) : held.getD .log = policy ↔ GivesPolicy v? policy := by
  cases related with
  | none => exact eq_comm
  | some here => exact ⟨fun same => same ▸ here, fun there => here.unique there⟩

private theorem name_of_agrees {v? : Option Document} {held : Option String} {name : String}
    (related : Option.Rel (fun v name => v = .text name) v? held) : held = some name ↔ v? = some (.text name) := by
  cases related with
  | none => exact ⟨nofun, nofun⟩
  | some here =>
    subst here
    rw [Option.some.injEq, Option.some.injEq, Document.text.injEq]

private theorem finish_eq_ok (agrees : ∀ field, d.Agrees field (value? field)) :
    d.finish = .ok s ↔ GivenBy value? s := by
  have finished : d.finish = .ok s ↔ d.name = some s.name ∧ d.maxWorkers.getD none = s.maxWorkers ∧
      d.queueCapacity.getD none = s.queueCapacity ∧ d.policy.getD .log = s.policy := by
    rw [Draft.finish]
    cases d.name with
    | none => simp
    | some name =>
      cases s
      simp
  rw [finished, name_of_agrees (agrees .name), size_of_agrees (agrees .maxWorkers),
    size_of_agrees (agrees .queueCapacity),
    policy_of_agrees (agrees .policy)]
  exact ⟨fun ⟨a, b, c, d⟩ => ⟨a, b, c, d⟩, fun ⟨a, b, c, d⟩ => ⟨a, b, c, d⟩⟩

end drafts

section objects

variable {ms seen : List (String × Document)}

private theorem lookup_concat {κ α : Type} [DecidableEq κ] {entries : List (κ × α)} {key : κ}
    (fresh : entries.lookup key = none) (value : α) (other : κ) :
    (entries ++ [(key, value)]).lookup other = if other = key then some value else entries.lookup other := by
  rw [List.lookup_append, List.lookup_cons, List.lookup_nil]
  by_cases same : other = key
  · subst same
    rw [if_pos rfl, fresh, beq_self_eq_true, Option.none_or]
  · rw [if_neg same, beq_eq_false_iff_ne.mpr same, Option.or_none]

private theorem lookup_eq_none_iff_keys {κ α : Type} [DecidableEq κ] {entries : List (κ × α)} {key : κ} :
    entries.lookup key = none ↔ key ∉ entries.map Prod.fst := by
  rw [List.lookup_eq_none_iff, List.mem_map]
  constructor
  · rintro absent ⟨entry, listed, rfl⟩
    simpa using absent entry listed
  · intro absent entry listed
    rw [bne_iff_ne]
    rintro rfl
    exact absent ⟨entry, listed, rfl⟩

private theorem fieldOfKey?_eq_some {key : String} :
    fieldOfKey? key = some field ↔ field ∈ fields ∧ field.key = key := by
  constructor
  · intro found
    exact ⟨List.mem_of_find?_eq_some found, by simpa using List.find?_some found⟩
  · rintro ⟨listed, rfl⟩
    cases field with
    | kind | retries => simp [fields] at listed
    | _ => rfl

private theorem key_injective {other : Field} (same : field.key = other.key) : field = other := by
  cases field <;> cases other <;> first | rfl | (revert same; decide)

theorem readMembers_closed {more : List Char} :
    readMembers d (.closed more) = .ok (s, after) ↔ more = after ∧ d.finish = .ok s := by
  rw [readMembers]
  cases d.finish <;> simp [and_comm]

theorem readMembers_member {key : String} {between : List Char} {value : Outline} {next : Members} :
    readMembers d (.member key between value next) = .ok (s, after) ↔
      ∃ field filled, fieldOfKey? key = some field ∧ d.has field = false ∧
        readField d field value = .ok filled ∧ readMembers filled next = .ok (s, after) := by
  rw [readMembers.eq_2]
  cases fieldOfKey? key with
  | none => simp
  | some field =>
    simp only [Option.some.injEq, exists_and_left, exists_eq_left']
    cases d.has field with
    | true => simp
    | false =>
      rw [if_neg Bool.false_ne_true]
      cases readField d field value with
      | error stop => simp
      | ok filled => simp

/-- A draft that agrees with the members before agrees with them and one more after that one is read. -/
theorem agrees_of_member (agrees : ∀ field, d.Agrees field (seen.lookup field.key))
    (fresh : seen.lookup field.key = none) (shown : Shows outline v rest)
    (read : readField d field outline = .ok filled) (other : Field) :
    filled.Agrees other ((seen ++ [(field.key, v)]).lookup other.key) := by
  have agreed := agrees_of_readField agrees shown read other
  rw [lookup_concat fresh]
  by_cases same : other = field
  · subst same
    rwa [if_pos rfl] at agreed ⊢
  · rw [if_neg same] at agreed
    rwa [if_neg (mt key_injective same)]

/-- Members of settings are read exactly if, together with those seen already, they are fields, no two of them alike,
whose values give settings. -/
theorem readMembers_eq_ok {members : Members} (shown : MembersShow members ms rest)
    (known : ∀ m ∈ seen, ∃ field ∈ fields, m.1 = field.key) (distinct : (seen.map Prod.fst).Nodup)
    (agrees : ∀ field, d.Agrees field (seen.lookup field.key)) :
    readMembers d members = .ok (s, after) ↔ after = rest ∧ Holds (.object (seen ++ ms)) s := by
  induction ms generalizing members seen d with
  | nil =>
    cases shown
    rw [readMembers_closed, List.append_nil, holds_object, finish_eq_ok agrees]
    exact ⟨fun ⟨same, gives⟩ => ⟨same.symm, known, distinct, gives⟩, fun ⟨same, _, _, gives⟩ => ⟨same.symm, gives⟩⟩
  | cons m ms ih =>
    obtain ⟨key, v⟩ := m
    cases shown with
    | @member _ value next _ _ _ _ _ first later =>
      have goes {field : Field} {filled : Draft} (listed : field ∈ fields) (unseen : field.key ∉ seen.map Prod.fst)
          (read : readField d field value = .ok filled) :
          readMembers filled next = .ok (s, after) ↔
            after = rest ∧ Holds (.object (seen ++ (field.key, v) :: ms)) s := by
        rw [List.append_cons]
        refine ih later ?_ ?_ (agrees_of_member agrees (lookup_eq_none_iff_keys.mpr unseen) first read)
        · rw [List.forall_mem_append, List.forall_mem_singleton]
          exact ⟨known, field, listed, rfl⟩
        · rw [List.map_append, List.map_singleton, List.nodup_append]
          refine ⟨distinct, List.pairwise_singleton _ _, fun key listed other last => ?_⟩
          obtain rfl := List.mem_singleton.mp last
          rintro rfl
          exact unseen listed
      rw [readMembers_member]
      constructor
      · rintro ⟨field, filled, found, free, read, more⟩
        obtain ⟨listed, rfl⟩ := fieldOfKey?_eq_some.mp found
        rw [has_of_agrees listed (agrees field), Option.isSome_eq_false_iff, Option.isNone_iff_eq_none] at free
        exact (goes listed (lookup_eq_none_iff_keys.mp free) read).mp more
      · rintro ⟨same, holds⟩
        obtain ⟨all, nodup, gives⟩ := holds_object.mp holds
        obtain ⟨field, listed, named⟩ := all (key, v) (List.mem_append_right _ List.mem_cons_self)
        obtain rfl : key = field.key := named
        have unseen : field.key ∉ seen.map Prod.fst := by
          rw [List.map_append, List.map_cons, List.nodup_append] at nodup
          exact fun before => nodup.2.2 _ before _ List.mem_cons_self rfl
        have fresh := lookup_eq_none_iff_keys.mpr unseen
        have here : (seen ++ (field.key, v) :: ms).lookup field.key = some v := by
          rw [List.lookup_append, fresh, Option.none_or, List.lookup_cons_self]
        obtain ⟨filled, read⟩ := (exists_readField first d).mpr (admits_of_gives gives here)
        have free : d.has field = false := by rw [has_of_agrees listed (agrees field), fresh, Option.isSome_none]
        exact ⟨field, filled, fieldOfKey?_eq_some.mpr ⟨listed, rfl⟩, free, read,
          (goes listed unseen read).mpr ⟨same, holds⟩⟩

end objects

section arrays

variable {vs seen : List Document} {done left : List Field}

theorem closeArray_eq_ok : closeArray rest = .ok after ↔ Json.skipBlanks rest = ']' :: after := by
  rw [closeArray.eq_def]
  split
  · next empty => simp [empty]
  · next closing => simp [closing]
  · next comma => split <;> simp [comma]
  · next bracket _ => simpa using bracket after

/-- Reads one item of settings into a draft. -/
def readItem (d : Draft) (field : Field) (value : Outline) : Except (Json.Stop Complaint) Draft :=
  match field with
  | .policy => (readPolicyIn leaveArray value).map fun p => { d with policy := some p }
  | _ => readField d field value

/-- An item is read like a member. -/
theorem readItem_eq_ok (shown : Shows outline v rest) :
    readItem d field outline = .ok filled ↔ readField d field outline = .ok filled := by
  cases field with
  | policy =>
    rw [readItem, readField, map_eq_ok, map_eq_ok]
    exact exists_congr fun policy => by rw [readPolicyIn_eq_ok _ shown, readPolicyIn_eq_ok _ shown]
  | _ => rfl

theorem readItems_closed {more : List Char} :
    readItems d left (.closed more) = .ok (s, after) ↔ more = after ∧ d.finish = .ok s := by
  rw [readItems]
  cases d.finish <;> simp [and_comm]

/-- After an item that is whole the array closes, or the next item comes. -/
theorem readItems_of_ok {value : Outline} {next : Items} {between : List Char}
    (read : readItem d field value = .ok filled) (whole : value.rest = .ok between) :
    readItems d (field :: left) (.item value next) =
      if left.isEmpty then
        closeArray between >>= fun after => (filled.finish.mapError (.after · after)).map (·, after)
      else readItems filled left next := by
  cases field <;> simp only [readItem] at read <;> simp only [readItems, read, whole] <;> cases filled.finish <;> rfl

private theorem readItems_item {value : Outline} {next : Items} :
    readItems d (field :: left) (.item value next) =
      readItem d field value >>= fun filled => value.rest.mapError malformed >>= fun between =>
        if left.isEmpty then
          closeArray between >>= fun after => (filled.finish.mapError (.after · after)).map (·, after)
        else readItems filled left next := by
  cases read : readItem d field value with
  | error stop => cases field <;> simp only [readItem] at read <;> simp only [readItems, read] <;> rfl
  | ok filled =>
    cases whole : value.rest with
    | error stop => cases field <;> simp only [readItem] at read <;> simp only [readItems, read, whole] <;> rfl
    | ok between => exact readItems_of_ok read whole

/-- Items are read one by one; after the last field the array has to close. -/
theorem readItems_cons {value : Outline} {next : Items} :
    readItems d (field :: left) (.item value next) = .ok (s, after) ↔
      ∃ filled between, readItem d field value = .ok filled ∧ value.rest = .ok between ∧
        if left = [] then closeArray between = .ok after ∧ filled.finish = .ok s
        else readItems filled left next = .ok (s, after) := by
  simp only [readItems_item, List.isEmpty_iff, Json.bind_eq_ok, mapError_eq_ok, ← exists_and_left]
  refine exists_congr fun filled => exists_congr fun between => and_congr_right fun _ => and_congr_right fun _ => ?_
  by_cases last : left = []
  · rw [if_pos last, if_pos last, Json.bind_eq_ok]
    simp only [map_eq_ok, mapError_eq_ok]
    constructor
    · rintro ⟨_, closed, made, finished, same⟩
      cases same
      exact ⟨closed, finished⟩
    · rintro ⟨closed, finished⟩
      exact ⟨after, closed, s, finished, rfl⟩
  · rw [if_neg last, if_neg last]

private theorem zip_fields (order : fields = done ++ left) (many : seen.length = done.length) (vs : List Document) :
    fields.zip (seen ++ vs) = done.zip seen ++ left.zip vs := by
  rw [order, List.zip_append many.symm]

private theorem lookup_zip_fields (order : fields = done ++ field :: left) (many : seen.length = done.length) :
    (done.zip seen).lookup field = none := by
  have distinct : (done ++ field :: left).Nodup := order ▸ (by decide : fields.Nodup)
  rw [lookup_eq_none_iff_keys, List.map_fst_zip (Nat.le_of_eq many.symm)]
  exact fun listed => (List.nodup_append.mp distinct).2.2 _ listed _ List.mem_cons_self rfl

/-- A draft that agrees with the items before agrees with them and one more after that one is read. -/
theorem agrees_of_item (order : fields = done ++ field :: left) (many : seen.length = done.length)
    (agrees : ∀ field, d.Agrees field ((fields.zip seen).lookup field)) (shown : Shows outline v rest)
    (read : readField d field outline = .ok filled) (other : Field) :
    filled.Agrees other ((fields.zip (seen ++ [v])).lookup other) := by
  have short : fields.zip seen = done.zip seen := by
    have split := zip_fields order many []
    rwa [List.append_nil, List.zip_nil_right, List.append_nil] at split
  rw [zip_fields order many, List.zip_cons_cons, List.zip_nil_right, lookup_concat
    (lookup_zip_fields order many), ← short]
  exact agrees_of_readField agrees shown read other

/-- Items of settings are read exactly if, together with those seen already, they are at most as many as the fields and
their values give settings. -/
theorem readItems_eq_ok {items : Items} (shown : ItemsShow items vs rest) (linked : items.Linked)
    (order : fields = done ++ field :: left) (many : seen.length = done.length)
    (agrees : ∀ field, d.Agrees field ((fields.zip seen).lookup field)) :
    readItems d (field :: left) items = .ok (s, after) ↔ after = rest ∧ Holds (.array (seen ++ vs)) s := by
  induction vs generalizing items seen done field left d with
  | nil =>
    cases shown
    have room : seen.length ≤ fields.length := by
      rw [many, order, List.length_append]
      omega
    rw [readItems_closed, List.append_nil, holds_array, finish_eq_ok agrees]
    exact ⟨fun ⟨same, gives⟩ => ⟨same.symm, room, gives⟩, fun ⟨same, _, gives⟩ => ⟨same.symm, gives⟩⟩
  | cons v vs ih =>
    cases shown with
    | @item value next _ _ _ _ first later =>
      have fresh := lookup_zip_fields order many
      rw [readItems_cons]
      by_cases admits : Admits field v
      · obtain ⟨filled, read⟩ := (exists_readField first d).mpr admits
        have agreed := agrees_of_item order many agrees first read
        rw [(readItem_eq_ok first).mpr read, first.rest_eq]
        simp only [Except.ok.injEq, exists_and_left, exists_eq_left']
        cases left with
        | nil =>
          rw [if_pos rfl, closeArray_eq_ok, ← linked.1 _ first.rest_eq, finish_eq_ok agreed, holds_array]
          cases later with
          | closed =>
            have room : (seen ++ [v]).length ≤ fields.length := by
              rw [order, List.length_append, List.length_append, many]
              exact Nat.le_refl _
            rw [Items.closed.injEq]
            exact ⟨fun ⟨same, gives⟩ => ⟨same.symm, room, gives⟩, fun ⟨same, _, gives⟩ => ⟨same.symm, gives⟩⟩
          | item =>
            refine ⟨fun ⟨closed, _⟩ => absurd closed nofun, fun ⟨_, room, _⟩ => absurd room ?_⟩
            rw [order]
            simp only [List.length_append, List.length_cons, List.length_nil]
            omega
        | cons field' left =>
          have many' : (seen ++ [v]).length = (done ++ [field]).length := by
            rw [List.length_append, List.length_append, many]
            rfl
          rw [if_neg (List.cons_ne_nil _ _), List.append_cons]
          exact ih later linked.2 (order.trans (List.append_cons _ _ _)) many' agreed
      · refine ⟨fun ⟨filled, _, read, _⟩ => absurd ⟨filled, (readItem_eq_ok first).mp read⟩
          (mt (exists_readField first d).mp admits), ?_⟩
        rintro ⟨-, holds⟩
        have gives := (holds_array.mp holds).2
        refine absurd (admits_of_gives gives (?_ : (fields.zip (seen ++ v :: vs)).lookup field = some v)) admits
        rw [zip_fields order many, List.lookup_append, fresh, Option.none_or, List.zip_cons_cons, List.lookup_cons_self]

end arrays

end JobPool.Settings
