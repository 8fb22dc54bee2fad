import PathSeal.Proofs.Json.Record
import PathSeal.Service.Body

/-!
# PathSeal.Proofs.Service.Bodies

What is read from the JSON bodies of the service. A body is an object with the fields of
its record (`toJson_eq`), so it is read back from its own text, and just as well from any
object that carries these fields (`bodies_survive_json`).
-/

namespace PathSeal.Service

open Json (Carries Entry WritesObject)

namespace ErrorBody

variable (b : ErrorBody)

/-- The fields of a body. -/
def row : Json.Row schema.fields :=
  (b.code, b.message, ())

theorem toJson_eq : b.toJson = .object (Json.Row.members schema.fields b.row) := rfl

theorem parse_of_read {text : String} (h : schema.read text = .ok b.row) : parse text = .ok b := by
  rw [parse, h]
  rfl

/-- A body is read back from its text. -/
theorem parse_toJson : parse b.toJson.compact = .ok b := by
  apply b.parse_of_read
  rw [toJson_eq]
  exact Json.Schema.read_compact (by decide)

end ErrorBody

namespace HealthBody

variable (b : HealthBody)

/-- The fields of a body. -/
def row : Json.Row schema.fields :=
  (b.status, b.encryptionEnabled, b.keysConfigured, ())

theorem toJson_eq : b.toJson = .object (Json.Row.members schema.fields b.row) := rfl

theorem parse_of_read {text : String} (h : schema.read text = .ok b.row) : parse text = .ok b := by
  rw [parse, h]
  rfl

/-- A body is read back from its text. -/
theorem parse_toJson : parse b.toJson.compact = .ok b := by
  apply b.parse_of_read
  rw [toJson_eq]
  exact Json.Schema.read_compact (by decide)

end HealthBody

/-- **Bodies survive their JSON encoding.** A body is read back from its own text. It is also read
from every text of an object that carries its fields: in any order, with names and strings written
in any way that JSON knows and a count in its digits, with any blanks between the parts, and with
further members of other names and any values among them. -/
theorem bodies_survive_json :
    (∀ b : ErrorBody, ErrorBody.parse b.toJson.compact = .ok b ∧
      ∀ (entries : List Entry) (text : String), WritesObject entries text →
        Carries ErrorBody.schema.fields b.row entries → ErrorBody.parse text = .ok b) ∧
    ∀ b : HealthBody, HealthBody.parse b.toJson.compact = .ok b ∧
      ∀ (entries : List Entry) (text : String), WritesObject entries text →
        Carries HealthBody.schema.fields b.row entries → HealthBody.parse text = .ok b := by
  constructor
  · intro b
    refine ⟨b.parse_toJson, fun entries text h hcarries => ?_⟩
    exact b.parse_of_read (Json.Schema.read_of_carries (by decide) h hcarries)
  · intro b
    refine ⟨b.parse_toJson, fun entries text h hcarries => ?_⟩
    exact b.parse_of_read (Json.Schema.read_of_carries (by decide) h hcarries)

/-- The fields come in another order, after a member that is not known. -/
theorem bodies_survive_json_shuffled :
    let more : Json.Value := .list [.object [("a", .null)]]
    let error : ErrorBody := ⟨"c", "\"\\\n😀"⟩
    let health : HealthBody := ⟨"ok", false, 18446744073709551615⟩
    ErrorBody.parse (Json.Value.object [("more", more), ("message", .text error.message),
      ("code", .text error.code)]).compact = .ok error ∧
    HealthBody.parse (Json.Value.object [("more", more),
      ("keys_configured", .count 18446744073709551615), ("encryption_enabled", .boolean false),
      ("status", .text "ok")]).compact = .ok health := by
  intro more error health
  have hkey : Json.IsQuotable ['a'] := (Json.spells_written ['a']).isQuotable
  have hnull : Json.Derives .value ['n', 'u', 'l', 'l'] := .named (by decide)
  have hmember : Json.Derives (.items .object) _ :=
    .last (.member Json.blanks_nil hkey Json.blanks_nil
      (.spaced Json.blanks_nil hnull Json.blanks_nil))
  have hobject : Json.Derives .spaced _ :=
    .spaced Json.blanks_nil (.full hmember) Json.blanks_nil
  have hmore : Json.Derives .value more.written := .full (.last (.element hobject))
  have hothers {names : List String} (hname : "more" ∉ names) :
      ∀ entry ∈ [("more", more.written)], entry.1 ∉ names ∧ Json.Derives .value entry.2 := by
    intro entry hentry
    rw [List.mem_singleton.mp hentry]
    exact ⟨hname, hmore⟩
  have hown := Json.writesRow_members ErrorBody.schema.fields error.row
  have hown' := Json.writesRow_members HealthBody.schema.fields health.row
  constructor
  · refine (bodies_survive_json.1 error).2 _ _ (Json.writesObject_compact _) ?_
    exact ⟨_, _, (List.reverse_perm _).symm, hown, hothers (by decide)⟩
  · refine (bodies_survive_json.2 health).2 _ _ (Json.writesObject_compact _) ?_
    exact ⟨_, _, (List.reverse_perm _).symm, hown', hothers (by decide)⟩

end PathSeal.Service
