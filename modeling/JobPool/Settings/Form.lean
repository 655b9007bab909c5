import JobPool.Json.Grammar
import JobPool.Settings.Reader

/-!
Which documents hold settings, and which settings they hold. Settings are an object whose names are
fields, none of them twice, or an array of the fields in order; only the name has to be there.
Inside a policy unknown names are ignored.
-/

namespace JobPool.Settings

open Json (Document Numeral)

/-- A size is a natural number below `2 ^ 64`, written without sign, fraction and exponent. -/
def IsSize (v : Document) (size : UInt64) : Prop :=
  ∃ n : Numeral, v = .numeral n ∧ n.negative = false ∧ n.isWhole = true ∧ n.whole.value = size.toNat

/-- The values that members give to a name, in their order. -/
def valuesOf (name : String) (members : List (String × Document)) : List Document :=
  (members.filter fun m => m.1 = name).map Prod.snd

/-- The document holds the policy. -/
def IsPolicy : Document → PolicySetting → Prop
  | .object members, .discard => valuesOf "kind" members = [.text "discard"]
  | .object members, .log => valuesOf "kind" members = [.text "log"]
  | .object members, .retry retries =>
    valuesOf "kind" members = [.text "retry"] ∧ ∃ v, valuesOf "retries" members = [v] ∧ IsSize v retries
  | .array items, .discard => items = [.text "discard"]
  | .array items, .log => items = [.text "log"]
  | .array items, .retry retries => ∃ v, items = [.text "retry", v] ∧ IsSize v retries
  | _, _ => False

/-- The size that a value gives, if there is a value; `null` gives none. -/
def GivesSize : Option Document → Option UInt64 → Prop
  | none, size => size = none
  | some v, none => v = .null
  | some v, some size => IsSize v size

/-- The policy that a value gives, if there is a value. -/
def GivesPolicy : Option Document → PolicySetting → Prop
  | none, policy => policy = .log
  | some v, policy => IsPolicy v policy

/-- The settings that values of the four fields give, as far as there are values. -/
structure Gives (name? maxWorkers? queueCapacity? policy? : Option Document) (s : Settings) :
    Prop where
  name : name? = some (.text s.name)
  maxWorkers : GivesSize maxWorkers? s.maxWorkers
  queueCapacity : GivesSize queueCapacity? s.queueCapacity
  policy : GivesPolicy policy? s.policy

/-- The document holds the settings. -/
def Holds : Document → Settings → Prop
  | .object members, s =>
    (∀ m ∈ members, m.1 ∈ ["name", "max_workers", "queue_capacity", "failure_policy"]) ∧
      (members.map Prod.fst).Nodup ∧
      Gives (members.lookup "name") (members.lookup "max_workers")
        (members.lookup "queue_capacity") (members.lookup "failure_policy") s
  | .array items, s => items.length ≤ 4 ∧ Gives items[0]? items[1]? items[2]? items[3]? s
  | _, _ => False

end JobPool.Settings
