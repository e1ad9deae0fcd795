import ModScript.Proofs.Json.Games
import ModScript.Session.Message

/-!
# Messages as data

Callbacks and the messages between host and script are objects that say their kind beside their fields: what is
sent, logged, written or returned is data of any shape, inside of them. Whatever is written of them is read back
as it was, with the order of names in the data; a stack that is absent stays absent.

Results:
1. `Tree.kind?_ofJson`: a kind is told from the fields beside it, unless a field has its name.
2. `Callback.ofTree?_toJson`, `Inbound.ofTree?_toJson`, `Outbound.ofTree?_toJson`: each is read from its tree.
3. `Callback.readable_toJson` and its likes: how much deeper than their data they are.
4. `messages_read_back`: all of them are read from their texts.
-/

namespace ModScript

/-! ## Kinds -/

namespace Tree

theorem ofMembers_eq_map (members : List (String × Json)) :
    ofMembers members = members.map fun member => (member.1, ofJson member.2) := by
  induction members with
  | nil => rfl
  | cons member rest ih => rw [ofMembers, ih, List.map_cons]

/-- An object that says its kind under a tag that no field has is split into the kind and the fields. -/
theorem kind?_ofJson {tag : String} {fields : List (String × Json)} (fresh : tag ∉ fields.map Prod.fst)
    (kind : String) :
    (ofJson (.object ((tag, .string kind) :: fields))).kind? tag = some (kind, ofJson (.object fields)) := by
  have other : ∀ member ∈ ofMembers fields, member.1 ≠ tag := by
    rw [ofMembers_eq_map]
    intro member present
    obtain ⟨field, inFields, rfl⟩ := List.mem_map.1 present
    intro same
    exact fresh (same ▸ List.mem_map_of_mem inFields)
  have tagged : onlyMember? ((tag, .text kind) :: ofMembers fields) tag = some (some (.text kind)) := by
    have none : (ofMembers fields).filter (fun member => member.1 == tag) = [] :=
      List.filter_eq_nil_iff.2 fun member present => by simpa using other member present
    rw [onlyMember?, List.filter_cons, none]
    simp
  have kept : ((tag, .text kind) :: ofMembers fields).filter (fun member => member.1 != tag) = ofMembers fields := by
    rw [List.filter_cons]
    simpa using other
  rw [ofJson, ofMembers, kind?, ofJson, tagged]
  dsimp only
  rw [kept, ofJson]

end Tree

/-- An object with its kind is one level deeper than its fields. -/
theorem Json.readable_tagged {tag kind : String} {fields : List (String × Json)} {room : Nat}
    (each : ∀ field ∈ fields, field.2.Readable room) :
    (Json.object ((tag, .string kind) :: fields)).Readable (room + 1) := by
  refine readable_object fun member present => ?_
  rcases List.mem_cons.1 present with rfl | inFields
  · exact readable_string kind
  · exact each member inFields

/-! ## Callbacks -/

theorem LogLevel.ofTree?_name (level : LogLevel) : LogLevel.ofTree? (.text level.name) = some level := by
  cases level <;> rfl

namespace Callback

/-- The data values that a callback carries. -/
def values : Callback → List Json
  | .writeVariable _ value => [value]
  | .returnValue value => [value]
  | _ => []

theorem ofKind?_fields (callback : Callback) (distinct : ∀ value ∈ callback.values, value.HasDistinctKeys) :
    ofKind? callback.kindName (.ofJson (.object callback.fields)) = some callback := by
  cases callback with
  | script source => rfl
  | noop => rfl
  | log level message =>
    have read := level.ofTree?_name
    simp [kindName, fields, ofKind?, Tree.ofJson, Tree.ofMembers, Tree.record?, Tree.tableFields?, Tree.onlyMember?,
      Field.required, Field.defaulted, Tree.fieldOr?, read, Tree.text?]
  | emit event => rfl
  | writeVariable name value =>
    have read := Json.toJson?_ofJson value (distinct value List.mem_cons_self)
    simp [kindName, fields, ofKind?, Tree.ofJson, Tree.ofMembers, Tree.record?, Tree.tableFields?, Tree.onlyMember?,
      Field.required, read, Tree.text?]
  | returnValue value =>
    have read := Json.toJson?_ofJson value (distinct value List.mem_cons_self)
    simp [kindName, fields, ofKind?, Tree.ofJson, Tree.ofMembers, Tree.record?, Tree.tableFields?, Tree.onlyMember?,
      Field.required, read]

/-- A callback reads back if no object in its values repeats a name. -/
theorem ofTree?_toJson {callback : Callback} (distinct : ∀ value ∈ callback.values, value.HasDistinctKeys) :
    ofTree? (.ofJson callback.toJson) = some callback := by
  have fresh : "kind" ∉ callback.fields.map Prod.fst := by
    cases callback <;> simp [fields]
  have kind := Tree.kind?_ofJson fresh callback.kindName
  have fields := callback.ofKind?_fields distinct
  rw [ofTree?, if_pos (Json.isSound_ofJson _), toJson, kind]
  exact fields

/-- A callback is one level deeper than its values. -/
theorem readable_toJson {callback : Callback} {room : Nat}
    (values : ∀ value ∈ callback.values, value.Readable room) : callback.toJson.Readable (room + 1) := by
  refine Json.readable_tagged fun field present => ?_
  cases callback with
  | noop => cases present
  | log level message =>
    rcases List.mem_pair.1 present with rfl | rfl
    · exact Json.readable_string level.name
    · exact Json.readable_string message
  | writeVariable name value =>
    rcases List.mem_pair.1 present with rfl | rfl
    · exact Json.readable_string name
    · exact values value List.mem_cons_self
  | returnValue value =>
    rw [List.mem_singleton.1 present]
    exact values value List.mem_cons_self
  | script text | emit text =>
    rw [List.mem_singleton.1 present]
    exact Json.readable_string text

end Callback

/-! ## Messages -/

namespace Inbound

/-- The data values that a message carries. -/
def values : Inbound → List Json
  | .command _ data => [data]
  | .cleanup => []

theorem ofTree?_toJson {message : Inbound} (distinct : ∀ value ∈ message.values, value.HasDistinctKeys) :
    ofTree? (.ofJson message.toJson) = some message := by
  cases message with
  | cleanup => rfl
  | command name data =>
    have fresh : "type" ∉ [("name", Json.string name), ("data", data)].map Prod.fst := by simp
    have kind := Tree.kind?_ofJson fresh "command"
    have read := Json.toJson?_ofJson data (distinct data List.mem_cons_self)
    rw [ofTree?, if_pos (Json.isSound_ofJson _), toJson, kind]
    simp [ofKind?, Tree.ofJson, Tree.ofMembers, Tree.record?, Tree.tableFields?, Tree.onlyMember?,
      Field.required, read, Tree.text?]

theorem readable_toJson {message : Inbound} {room : Nat}
    (values : ∀ value ∈ message.values, value.Readable room) : message.toJson.Readable (room + 1) := by
  cases message with
  | cleanup => exact Json.readable_tagged fun _ none => absurd none List.not_mem_nil
  | command name data =>
    refine Json.readable_tagged fun field present => ?_
    rcases List.mem_pair.1 present with rfl | rfl
    · exact Json.readable_string name
    · exact values data List.mem_cons_self

end Inbound

namespace Outbound

/-- The data values that a message carries. -/
def values : Outbound → List Json
  | .send _ data => [data]
  | .fault _ _ => []
  | .log _ payload => [payload]

/-- The fields of a message beside its kind. -/
def fields : Outbound → List (String × Json)
  | .send event data => [("payload", .object [("event", .string event), ("data", data)])]
  | .fault description stack => ("description", .string description) :: Json.optionalField "stack" .string stack
  | .log level payload => [("level", .string level), ("payload", payload)]

def kindName : Outbound → String
  | .send _ _ => "send"
  | .fault _ _ => "error"
  | .log _ _ => "log"

theorem toJson_eq (message : Outbound) :
    message.toJson = .object (("type", .string message.kindName) :: message.fields) := by
  cases message with
  | fault description stack => cases stack <;> rfl
  | send event data => rfl
  | log level payload => rfl

theorem ofPayload?_ofJson (event : String) {data : Json} (distinct : data.HasDistinctKeys) :
    ofPayload? (.ofJson (.object [("event", .string event), ("data", data)])) = some (.send event data) := by
  have read := Json.toJson?_ofJson data distinct
  simp [ofPayload?, Tree.ofJson, Tree.ofMembers, Tree.record?, Tree.tableFields?, Tree.onlyMember?, Field.required,
    Field.defaulted, Tree.fieldOr?, Tree.text?, read]

theorem ofKind?_fields {message : Outbound} (distinct : ∀ value ∈ message.values, value.HasDistinctKeys) :
    ofKind? message.kindName (.ofJson (.object message.fields)) = some message := by
  cases message with
  | send event data =>
    have payload := ofPayload?_ofJson event (distinct data List.mem_cons_self)
    rw [← payload]
    simp [kindName, fields, ofKind?, Tree.ofJson, Tree.ofMembers, Tree.record?, Tree.tableFields?, Tree.onlyMember?,
      Field.required]
  | fault description stack => cases stack <;> rfl
  | log level payload =>
    have read := Json.toJson?_ofJson payload (distinct payload List.mem_cons_self)
    simp [kindName, fields, ofKind?, Tree.ofJson, Tree.ofMembers, Tree.record?, Tree.tableFields?, Tree.onlyMember?,
      Field.required, Field.defaulted, Tree.fieldOr?, Tree.text?, read]

theorem ofTree?_toJson {message : Outbound} (distinct : ∀ value ∈ message.values, value.HasDistinctKeys) :
    ofTree? (.ofJson message.toJson) = some message := by
  have fresh : "type" ∉ message.fields.map Prod.fst := by
    cases message with
    | fault description stack => cases stack <;> simp [fields, Json.optionalField]
    | _ => simp [fields]
  have kind := Tree.kind?_ofJson fresh message.kindName
  have fields := ofKind?_fields distinct
  rw [ofTree?, if_pos (Json.isSound_ofJson _), toJson_eq, kind]
  exact fields

theorem readable_toJson {message : Outbound} {room : Nat}
    (values : ∀ value ∈ message.values, value.Readable room) : message.toJson.Readable (room + 2) := by
  rw [toJson_eq]
  refine Json.readable_tagged fun field present => ?_
  cases message with
  | send event data =>
    rw [List.mem_singleton.1 present]
    refine Json.readable_object fun member inPayload => ?_
    rcases List.mem_pair.1 inPayload with rfl | rfl
    · exact Json.readable_string event
    · exact values data List.mem_cons_self
  | fault description stack =>
    rcases List.mem_cons.1 present with rfl | inStack
    · exact Json.readable_string description
    · obtain ⟨trace, -, rfl⟩ := Json.mem_optionalField.1 inStack
      exact Json.readable_string trace
  | log level payload =>
    rcases List.mem_pair.1 present with rfl | rfl
    · exact Json.readable_string level
    · exact (values payload List.mem_cons_self).mono (Nat.le_succ room)

end Outbound

/-! ## Texts -/

/-- A value is read from its text if it is read from its tree. -/
theorem readDocument_compact {α : Type} {read : Tree → Option α} {a : α} {value : Json}
    (readable : value.Readable Json.depthLimit) (back : read (.ofJson value) = some a) :
    readDocument read value.compact = .ok a := by
  rw [readDocument, Json.read?_compact readable, Option.bind_some, back]

/-- Callbacks and messages are read back from what is written of them, if the data values that they carry are at
most 100 levels deep. Of the floating point numbers in the values it is taken for granted that they read back;
no object in a value repeats a name. -/
theorem messages_read_back :
    (∀ callback : Callback, (∀ value ∈ callback.values, value.Storable 100) →
      readDocument Callback.ofTree? callback.toJson.compact = .ok callback) ∧
    (∀ message : Inbound, (∀ value ∈ message.values, value.Storable 100) →
      readDocument Inbound.ofTree? message.toJson.compact = .ok message) ∧
    ∀ message : Outbound, (∀ value ∈ message.values, value.Storable 100) →
      readDocument Outbound.ofTree? message.toJson.compact = .ok message := by
  refine ⟨fun callback storable => ?_, fun message storable => ?_, fun message storable => ?_⟩
  · have readable := Callback.readable_toJson fun value present => (storable value present).toReadable
    have back := Callback.ofTree?_toJson fun value present => (storable value present).distinct
    exact readDocument_compact (readable.mono (by decide)) back
  · have readable := Inbound.readable_toJson fun value present => (storable value present).toReadable
    have back := Inbound.ofTree?_toJson fun value present => (storable value present).distinct
    exact readDocument_compact (readable.mono (by decide)) back
  · have readable := Outbound.readable_toJson fun value present => (storable value present).toReadable
    have back := Outbound.ofTree?_toJson fun value present => (storable value present).distinct
    exact readDocument_compact (readable.mono (by decide)) back

/-- The highest and the lowest whole number, a fraction and nothing, under names that are not in order. -/
def mixedValue : Json :=
  .object [("z\n", .array [.number (.whole 18446744073709551615 (by decide)), .null]),
    ("a", .array [.number (.whole (-9223372036854775808) (by decide)), .number Game.threeHalves])]

theorem messages_read_back_mixed :
    mixedValue.Storable 100 ∧
    readDocument Callback.ofTree? (Callback.writeVariable "Hp" mixedValue).toJson.compact =
      .ok (.writeVariable "Hp" mixedValue) ∧
    readDocument Inbound.ofTree? (Inbound.command "go" .null).toJson.compact = .ok (.command "go" .null) ∧
    readDocument Outbound.ofTree? (Outbound.send "__ready" mixedValue).toJson.compact =
      .ok (.send "__ready" mixedValue) ∧
    readDocument Outbound.ofTree? (Outbound.fault "é \"x\"" none).toJson.compact = .ok (.fault "é \"x\"" none) := by
  have storable : mixedValue.Storable 100 := by
    refine ⟨⟨by decide, ?_⟩, ?_⟩
    · exact ⟨⟨trivial, trivial, trivial⟩, ⟨trivial, Game.readsBack_threeHalves, trivial⟩, trivial⟩
    · simp [mixedValue, Json.HasDistinctKeys, Json.ItemsHaveDistinctKeys, Json.MembersHaveDistinctKeys]
  have null : Json.null.Storable 100 := ⟨⟨Nat.zero_le _, trivial⟩, trivial⟩
  obtain ⟨callbacks, inbound, outbound⟩ := messages_read_back
  refine ⟨storable, callbacks _ ?_, inbound _ ?_, outbound _ ?_, outbound _ ?_⟩
  · intro value present
    rwa [List.mem_singleton.1 present]
  · intro value present
    rwa [List.mem_singleton.1 present]
  · intro value present
    rwa [List.mem_singleton.1 present]
  · intro value present
    cases present

end ModScript
