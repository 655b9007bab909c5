import JobPool.Proofs.Json.Writing
import JobPool.Proofs.Settings.Acceptance

/-!
Settings come back from their JSON form. The form of settings writes a document (`Settings.document`) that holds them,
and the document is in reach, so the form is accepted as just these settings.
-/

namespace JobPool.Settings

open Json (Document Numeral Writes WritesMembers)

/-- The document of a size. -/
def sizeDocument : Option UInt64 → Document
  | none => .null
  | some size => .numeral (.ofNat size.toNat)

/-- The members of a policy. -/
def policyMembers : PolicySetting → List (String × Document)
  | .discard => [("kind", .text "discard")]
  | .log => [("kind", .text "log")]
  | .retry retries => [("kind", .text "retry"), ("retries", sizeDocument (some retries))]

/-- The members of settings. -/
def members (s : Settings) : List (String × Document) :=
  [("name", .text s.name), ("max_workers", sizeDocument s.maxWorkers), ("queue_capacity", sizeDocument s.queueCapacity),
    ("failure_policy", .object (policyMembers s.policy))]

/-- The document of settings. -/
def document (s : Settings) : Document := .object s.members

section writing

private theorem writes_size (size : Option UInt64) : Writes (sizeToJson size) (sizeDocument size) := by
  cases size with
  | none => exact Json.writes_null
  | some size => exact Json.writes_ofWord size

private theorem writes_policy (policy : PolicySetting) : Writes policy.toJson (.object (policyMembers policy)) := by
  have kind (name : String) : "kind" = "kind" ∧ Writes (.text name) (.text name) := ⟨rfl, Json.writes_text name⟩
  cases policy with
  | discard => exact Json.writes_object (.cons (kind _) .nil)
  | log => exact Json.writes_object (.cons (kind _) .nil)
  | retry retries => exact Json.writes_object (.cons (kind _) (.cons ⟨rfl, writes_size (some retries)⟩ .nil))

theorem writes_document (s : Settings) : Writes s.toJson s.document :=
  Json.writes_object (.cons ⟨rfl, Json.writes_text s.name⟩ (.cons ⟨rfl, writes_size s.maxWorkers⟩
    (.cons ⟨rfl, writes_size s.queueCapacity⟩ (.cons ⟨rfl, writes_policy s.policy⟩ .nil))))

end writing

section holding

private theorem isSize_sizeDocument (size : UInt64) : IsSize (sizeDocument (some size)) size :=
  ⟨_, rfl, rfl, rfl, Json.Digits.value_ofNat size.toNat⟩

private theorem givesSize_sizeDocument (size : Option UInt64) : GivesSize (some (sizeDocument size)) size := by
  cases size with
  | none => rfl
  | some size => exact isSize_sizeDocument size

private theorem isPolicy_policyMembers (policy : PolicySetting) : IsPolicy (.object (policyMembers policy)) policy := by
  cases policy with
  | discard => rfl
  | log => rfl
  | retry retries => exact ⟨rfl, _, rfl, isSize_sizeDocument retries⟩

theorem holds_document (s : Settings) : Holds s.document s := by
  refine ⟨?_, ?_, ?_⟩
  · simp [members]
  · simp [members]
  · exact ⟨rfl, givesSize_sizeDocument s.maxWorkers, givesSize_sizeDocument s.queueCapacity,
      isPolicy_policyMembers s.policy⟩

private theorem fits_sizeDocument (depth : Nat) (size : Option UInt64) : (sizeDocument size).Fits depth := by
  cases size with
  | none => exact ⟨Nat.zero_le _, trivial⟩
  | some size => exact ⟨Nat.zero_le _, Numeral.inReach_ofNat size.toNat_lt_size⟩

theorem fits_document (s : Settings) : s.document.Fits Json.depthLimit := by
  have text (depth : Nat) (t : String) : (Document.text t).Fits depth := ⟨Nat.zero_le _, trivial⟩
  have policy : (Document.object (policyMembers s.policy)).Fits 1 := by
    rw [Json.fits_object]
    cases s.policy <;> simp [policyMembers, text, fits_sizeDocument]
  have whole : s.document.Fits 2 := by
    rw [document, Json.fits_object, members]
    simp [text, fits_sizeDocument, policy]
  exact ⟨Nat.le_trans whole.1 (by decide), whole.2⟩

end holding

/-- Settings come back from their JSON form, compact or laid out. So does whatever is read from a text. -/
theorem comes_back : (∀ s : Settings, ofText s.toJson.write = .ok s ∧ ofText s.toJson.layOut = .ok s) ∧
    ∀ (text : String) (s : Settings), ofText text = .ok s → ofText s.toJson.write = .ok s := by
  have writes := writes_document
  have compact (s : Settings) : ofText s.toJson.write = .ok s :=
    (ofText_of_written (writes s).writtenAs_write (fits_document s)).mpr (holds_document s)
  have laidOut (s : Settings) : ofText s.toJson.layOut = .ok s :=
    (ofText_of_written (writes s).writtenAs_layOut (fits_document s)).mpr (holds_document s)
  exact ⟨fun s => ⟨compact s, laidOut s⟩, fun _ s _ => compact s⟩

theorem array_comes_back : ofText "[\"\\u0000\\\"\",null,18446744073709551615,[\"retry\",0]]" =
      .ok ⟨"\x00\"", none, some 18446744073709551615, .retry 0⟩ ∧
    ofText (toJson ⟨"\x00\"", none, some 18446744073709551615, .retry 0⟩).write =
      .ok ⟨"\x00\"", none, some 18446744073709551615, .retry 0⟩ := by
  have read : ofText "[\"\\u0000\\\"\",null,18446744073709551615,[\"retry\",0]]" =
      .ok ⟨"\x00\"", none, some 18446744073709551615, .retry 0⟩ := by
    decide +kernel
  exact ⟨read, comes_back.2 _ _ read⟩

end JobPool.Settings
