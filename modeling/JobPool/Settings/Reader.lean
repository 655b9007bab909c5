import JobPool.Settings.Basic
import JobPool.Settings.Complaint

/-!
Reading settings from a JSON text. Settings are an object or an array of their fields in order; a
policy is an object or an array that starts with its kind. The kind of a policy is checked where
it stands, everything else in a policy once the whole of it has been read; complaints of the
second sort are placed where the settings around it end.
-/

namespace JobPool.Settings

open Json (Outline Items Members Scalar Value Stop skipBlanks)

/-- A complaint that has its place, or one that gets its place from the value around it. -/
inductive Refusal where
  | placed (stop : Stop Complaint)
  | floating (complaint : Complaint)

/-- What a scalar is. -/
def foundScalar : Scalar → Found
  | .null => .null
  | .bool b => .bool b
  | .number (.integer n) => .integer n
  | .number (.real x) => .real x
  | .text s => .text s

/-- What a value is. -/
def foundValue : Value → Found
  | .null => .null
  | .bool b => .bool b
  | .number (.integer n) => .integer n
  | .number (.real x) => .real x
  | .text s => .text s
  | .array _ => .sequence
  | .object _ => .map

/-- A break of the text as a complaint. -/
def malformed (stop : Stop Json.SyntaxError) : Stop Complaint := stop.map .malformed

/-- The complaint about a value of the wrong kind: after a scalar, before a bracket. -/
def mismatch (expected : Expected) : Outline → Stop Complaint
  | .scalar value rest => .after (.wrongType (foundScalar value) expected) rest
  | .array start _ => .after (.wrongType .sequence expected) start
  | .object start _ => .after (.wrongType .map expected) start
  | .broken stop => malformed stop

/-- Reads a string. -/
def readName : Outline → Except (Stop Complaint) String
  | .scalar (.text s) _ => .ok s
  | value => .error (mismatch .text value)

/-- Reads a size. -/
def readSize : Outline → Except (Stop Complaint) UInt64
  | .scalar (.number (.integer n)) rest =>
    if n < 0 then .error (.after (.negative n) rest) else .ok (UInt64.ofNat n.toNat)
  | value => .error (mismatch .size value)

/-- Reads a size that may be `null`. -/
def readOptionalSize : Outline → Except (Stop Complaint) (Option UInt64)
  | .scalar .null _ => .ok none
  | value => (readSize value).map some

/-- The kind of a policy. -/
inductive Kind where
  | discard
  | log
  | retry
  deriving DecidableEq, Repr

/-- The kind with this name. -/
def Kind.ofName? : String → Option Kind
  | "discard" => some .discard
  | "log" => some .log
  | "retry" => some .retry
  | _ => none

/-- Reads the kind of a policy. -/
def readKind : Outline → Except (Stop Complaint) Kind
  | .scalar (.text s) rest =>
    match Kind.ofName? s with
    | some kind => .ok kind
    | none => .error (.after (.unknownKind s) rest)
  | value => .error (mismatch .kind value)

/-- The text after an array whose reading was given up at `rest`: its bracket goes too if it comes
next, and so does a comma. -/
def leaveArray (rest : List Char) : List Char :=
  match skipBlanks rest with
  | ']' :: more => more
  | ',' :: more => skipBlanks more
  | more => more

/-- The text after an object whose reading was given up at `rest`: its brace goes too if it comes
next. -/
def leaveObject (rest : List Char) : List Char :=
  match skipBlanks rest with
  | '}' :: more => more
  | more => more

/-- Reads the end of an array that may have no more items. -/
def closeArray (rest : List Char) : Except (Stop Complaint) (List Char) :=
  match skipBlanks rest with
  | [] => .error (.on (.malformed .endInArray) [])
  | ']' :: more => .ok more
  | ',' :: more =>
    match skipBlanks more with
    | ']' :: last => .error (.on (.malformed .commaAtEnd) (']' :: last))
    | last => .error (.on (.malformed .charactersAtEnd) last)
  | more => .error (.on (.malformed .charactersAtEnd) more)

/-- The members of a policy: its kind and, in order, all others. -/
def scanPolicy : Option Kind → Members → Except (Stop Complaint) (Kind × List (String × Value))
  | none, .closed rest => .error (.after (.missingField .kind) rest)
  | some kind, .closed _ => .ok (kind, [])
  | kind?, .member name rest value next =>
    if name = Field.kind.key then
      if kind?.isSome then .error (.after (.repeatedField .kind) (leaveObject rest))
      else
        match readKind value with
        | .error stop => .error stop
        | .ok kind => scanPolicy (some kind) next
    else
      match value.value with
      | .error stop => .error (malformed stop)
      | .ok v => (scanPolicy kind? next).map fun r => (r.1, (name, v) :: r.2)
  | _, .broken stop => .error (malformed stop)

/-- The kind that a policy starts with, and the values after it. -/
def scanPolicyItems : Items → Except (Stop Complaint) (Kind × List Value)
  | .closed rest => .error (.after (.missingField .kind) rest)
  | .item value next => do
    let kind ← readKind value
    match next.values with
    | .error stop => .error (malformed stop)
    | .ok values => return (kind, values)
  | .broken stop => .error (malformed stop)

/-- A size among the members of a policy. -/
def sizeOfValue : Value → Except Complaint UInt64
  | .number (.integer n) => if n < 0 then .error (.negative n) else .ok (UInt64.ofNat n.toNat)
  | value => .error (.wrongType (foundValue value) .size)

/-- The retries among the members of a policy, other members ignored. -/
def retriesOfMembers : Option UInt64 → List (String × Value) → Except Complaint UInt64
  | none, [] => .error (.missingField .retries)
  | some n, [] => .ok n
  | n?, (name, value) :: rest =>
    if name = Field.retries.key then
      if n?.isSome then .error (.repeatedField .retries)
      else do
        let n ← sizeOfValue value
        retriesOfMembers (some n) rest
    else retriesOfMembers n? rest

/-- The policy of a kind with these members. -/
def policyOfMembers (members : List (String × Value)) : Kind → Except Complaint PolicySetting
  | .discard => .ok .discard
  | .log => .ok .log
  | .retry => (retriesOfMembers none members).map .retry

/-- The policy of a kind followed by these values. -/
def policyOfItems (items : List Value) : Kind → Except Complaint PolicySetting
  | .discard =>
    if items.isEmpty then .ok .discard else .error (.wrongLength items.length (.items 0))
  | .log => if items.isEmpty then .ok .log else .error (.wrongLength items.length (.items 0))
  | .retry =>
    match items with
    | [] => .error (.wrongLength 0 .retries)
    | value :: more => do
      let n ← sizeOfValue value
      if more.isEmpty then return .retry n else .error (.wrongLength items.length (.items 1))

/-- Gives a complaint its place later. -/
def float {α : Type} : Except Complaint α → Except Refusal α
  | .ok a => .ok a
  | .error complaint => .error (.floating complaint)

/-- Marks a complaint as placed. -/
def place {α : Type} : Except (Stop Complaint) α → Except Refusal α
  | .ok a => .ok a
  | .error stop => .error (.placed stop)

/-- Reads a policy. -/
def readPolicy : Outline → Except Refusal PolicySetting
  | .object _ members => do
    let (kind, others) ← place (scanPolicy none members)
    float (policyOfMembers others kind)
  | .array _ items => do
    let (kind, values) ← place (scanPolicyItems items)
    float (policyOfItems values kind)
  | value => .error (.placed (mismatch .policy value))

/-- Reads a policy inside settings that are left, when it is refused, at `leave`. -/
def readPolicyIn (leave : List Char → List Char) (value : Outline) :
    Except (Stop Complaint) PolicySetting :=
  match readPolicy value, value.rest with
  | .ok policy, _ => .ok policy
  | .error (.placed stop), _ => .error stop
  | .error (.floating complaint), .ok rest => .error (.after complaint (leave rest))
  | .error (.floating _), .error stop => .error (malformed stop)

/-- The fields read so far. -/
structure Draft where
  name : Option String
  maxWorkers : Option (Option UInt64)
  queueCapacity : Option (Option UInt64)
  policy : Option PolicySetting

namespace Draft

/-- No field yet. -/
def empty : Draft := ⟨none, none, none, none⟩

/-- A field is there already. -/
def has (d : Draft) : Field → Bool
  | .name => d.name.isSome
  | .maxWorkers => d.maxWorkers.isSome
  | .queueCapacity => d.queueCapacity.isSome
  | .policy => d.policy.isSome
  | _ => false

/-- Settings with the fields read; only the name has to be there. -/
def finish (d : Draft) : Except Complaint Settings :=
  match d.name with
  | none => .error (.missingField .name)
  | some name =>
    .ok ⟨name, d.maxWorkers.getD none, d.queueCapacity.getD none, d.policy.getD .log⟩

end Draft

/-- The field of settings with this key. -/
def fieldOfKey? (key : String) : Option Field :=
  [Field.name, .maxWorkers, .queueCapacity, .policy].find? fun field => field.key = key

/-- Reads one field into a draft. -/
def readField (d : Draft) (field : Field) (value : Outline) : Except (Stop Complaint) Draft :=
  match field with
  | .name => (readName value).map fun name => { d with name := some name }
  | .maxWorkers => (readOptionalSize value).map fun n => { d with maxWorkers := some n }
  | .queueCapacity => (readOptionalSize value).map fun n => { d with queueCapacity := some n }
  | .policy => (readPolicyIn leaveObject value).map fun p => { d with policy := some p }
  | _ => .ok d

/-- Reads the members of settings, in any order. -/
def readMembers (d : Draft) : Members → Except (Stop Complaint) (Settings × List Char)
  | .closed rest =>
    match d.finish with
    | .ok settings => .ok (settings, rest)
    | .error complaint => .error (.after complaint rest)
  | .member key rest value next =>
    match fieldOfKey? key with
    | none => .error (.after (.unknownField key) (leaveObject rest))
    | some field =>
      if d.has field then .error (.after (.repeatedField field) (leaveObject rest))
      else
        match readField d field value with
        | .error stop => .error stop
        | .ok d => readMembers d next
  | .broken stop => .error (malformed stop)

/-- Reads the items of settings: what `fields` lists is still to come. -/
def readItems (d : Draft) : List Field → Items → Except (Stop Complaint) (Settings × List Char)
  | _, .broken stop => .error (malformed stop)
  | _, .closed rest =>
    match d.finish with
    | .ok settings => .ok (settings, rest)
    | .error _ => .error (.after (.wrongLength 0 .fourElements) rest)
  | [], .item _ _ => .error ⟨.malformed .charactersAtEnd, 0⟩
  | field :: fields, .item value next =>
    let read := match field with
      | .policy => (readPolicyIn leaveArray value).map fun p => { d with policy := some p }
      | _ => readField d field value
    match read, value.rest with
    | .error stop, _ => .error stop
    | .ok d, .ok rest =>
      if fields.isEmpty then do
        let rest ← closeArray rest
        match d.finish with
        | .ok settings => return (settings, rest)
        | .error complaint => .error (.after complaint rest)
      else readItems d fields next
    | .ok _, .error stop => .error (malformed stop)

/-- Reads settings at the head of a text. -/
def readOutline : Outline → Except (Stop Complaint) (Settings × List Char)
  | .object _ members => readMembers .empty members
  | .array _ items => readItems .empty [.name, .maxWorkers, .queueCapacity, .policy] items
  | value => .error (mismatch .settings value)

/-- Reads a text that holds settings and nothing else. -/
def readChars (cs : List Char) : Except (Stop Complaint) Settings := do
  let (settings, rest) ← readOutline (Json.outline cs)
  match skipBlanks rest with
  | [] => return settings
  | rest => .error (.on (.malformed .charactersAtEnd) rest)

/-- A complaint about a text and its place. -/
def report (text : String) (stop : Stop Complaint) : String :=
  stop.cause.message ++ " " ++ (stop.position text).text

/-- Reads settings from a text. -/
def ofText (text : String) : Except (Stop Complaint) Settings := readChars text.toList

end JobPool.Settings
