import RecordSql.Handler
import RecordSql.Proofs.Timestamp.Written
import RecordSql.Proofs.Uuid.Written

/-!
# Handlers read what they store

A handler stores every value of its own type and reads the stored form back to the normal form of
the value: the zero that refers to no row is null, a timestamp is in whole microseconds, and
everything else is itself.  The normal form is stored as the value is, so a second pass through
the store changes nothing.
-/

namespace RecordSql

/-- The values of a type: null, and those of its kind that its handler has a stored form for.  Of
documents only null is counted. -/
inductive SemanticType.Owns : SemanticType → Value → Prop
  | null (type : SemanticType) : Owns type .null
  | bool (value : Bool) : Owns .bool (.bool value)
  | int (value : Int64) : Owns .int (.int value)
  | real (value : Binary64) (hfinite : value.isFinite = true) : Owns .real (.real value)
  | text (value : String) : Owns .text (.text value)
  | ref (value : Int64) : Owns .ref (.int value)
  | uuid (value : Uuid) : Owns .uuid (.uuid value)
  | timestamp (value : Timestamp) (hordinary : value.Ordinary) :
      Owns .timestamp (.timestamp value)

/-- What is left of a value after it was stored. -/
def SemanticType.normal (type : SemanticType) (value : Value) : Value :=
  match type, value with
  | .ref, .int value => if value = 0 then .null else .int value
  | .timestamp, .timestamp value => .timestamp value.inMicros
  | _, value => value

namespace Handler

variable {type : SemanticType} {handler : Handler} {value : Value}

/-- Every value of a type has a stored form. -/
theorem exists_serialize (hbuiltin : builtin? type = some handler) (h : type.Owns value) :
    ∃ stored, handler.serialize value = .ok stored := by
  cases h with
  | null =>
      cases type with
      | custom name => contradiction
      | _ =>
          obtain rfl := Option.some.inj hbuiltin
          exact ⟨_, rfl⟩
  | real value hfinite =>
      obtain rfl := Option.some.inj hbuiltin
      exact ⟨_, if_pos hfinite⟩
  | _ =>
      obtain rfl := Option.some.inj hbuiltin
      exact ⟨_, rfl⟩

/-- The stored form of a value of a type is read as the normal form of the value. -/
theorem deserialize_of_serialize {stored : Value} (hbuiltin : builtin? type = some handler)
    (h : type.Owns value) (hstored : handler.serialize value = .ok stored) :
    handler.deserialize stored = .ok (type.normal value) := by
  cases h with
  | null =>
      cases type with
      | custom name => contradiction
      | _ =>
          obtain rfl := Option.some.inj hbuiltin
          obtain rfl := Except.ok.inj hstored
          rfl
  | bool value =>
      obtain rfl := Option.some.inj hbuiltin
      obtain rfl := Except.ok.inj hstored
      cases value <;> rfl
  | real value hfinite =>
      obtain rfl := Option.some.inj hbuiltin
      obtain rfl := Except.ok.inj ((if_pos hfinite).symm.trans hstored)
      rfl
  | ref value =>
      obtain rfl := Option.some.inj hbuiltin
      obtain rfl := Except.ok.inj hstored
      by_cases hzero : value = 0
      · simp [Handler.ref, SemanticType.normal, hzero]
      · simp [Handler.ref, SemanticType.normal, hzero]
  | uuid value =>
      obtain rfl := Option.some.inj hbuiltin
      obtain rfl := Except.ok.inj hstored
      simp [Handler.uuid, SemanticType.normal, Uuid.read_text]
  | timestamp value hordinary =>
      obtain rfl := Option.some.inj hbuiltin
      obtain rfl := Except.ok.inj hstored
      simp [Handler.timestamp, SemanticType.normal, Timestamp.read_text hordinary]
  | int value | text value =>
      obtain rfl := Option.some.inj hbuiltin
      obtain rfl := Except.ok.inj hstored
      rfl

/-- A value and its normal form are stored alike. -/
theorem serialize_normal (hbuiltin : builtin? type = some handler) (h : type.Owns value) :
    handler.serialize (type.normal value) = handler.serialize value := by
  cases h with
  | null => cases type <;> rfl
  | ref value =>
      obtain rfl := Option.some.inj hbuiltin
      by_cases hzero : value = 0
      · simp [Handler.ref, SemanticType.normal, hzero]
      · simp [SemanticType.normal, hzero]
  | timestamp value hordinary =>
      obtain rfl := Option.some.inj hbuiltin
      simp [Handler.timestamp, SemanticType.normal, Timestamp.text_inMicros hordinary]
  | _ => rfl

/-- **A builtin handler stores every value of its type, and what it stores is read back as the
normal form of the value, which is stored alike.** -/
theorem exists_stored_normal (hbuiltin : builtin? type = some handler) (h : type.Owns value) :
    ∃ stored, handler.serialize value = .ok stored ∧
      handler.deserialize stored = .ok (type.normal value) ∧
      handler.serialize (type.normal value) = .ok stored := by
  obtain ⟨stored, hstored⟩ := exists_serialize hbuiltin h
  refine ⟨stored, hstored, deserialize_of_serialize hbuiltin h hstored, ?_⟩
  rw [serialize_normal hbuiltin h, hstored]

/-- A nanosecond before 1970 is stored as the last microsecond of 1969. -/
theorem exists_stored_normal_before1970 :
    builtin? .timestamp = some timestamp ∧
      SemanticType.timestamp.Owns (.timestamp ⟨-1, 999999999, by decide⟩) ∧
      ∃ stored, timestamp.serialize (.timestamp ⟨-1, 999999999, by decide⟩) = .ok stored ∧
        timestamp.deserialize stored = .ok (.timestamp ⟨-1, 999999000, by decide⟩) ∧
        timestamp.serialize (.timestamp ⟨-1, 999999000, by decide⟩) = .ok stored := by
  have howns : SemanticType.timestamp.Owns (.timestamp ⟨-1, 999999999, by decide⟩) :=
    .timestamp _ ⟨by decide, by decide, by decide⟩
  exact ⟨rfl, howns, exists_stored_normal rfl howns⟩

end Handler

end RecordSql
