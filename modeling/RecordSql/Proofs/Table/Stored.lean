import RecordSql.Predicate.Evaluate
import RecordSql.Proofs.Predicate.Comparison

/-!
# Values in their stored form

What the builtin handlers store, as far as comparisons see it.  No truth value is stored as such,
and a literal compares with a stored value as its stored form does, but for the zero that refers
to no row.
-/

namespace RecordSql

/-! ## Truth values as numbers -/

/-- A value, with a truth value as zero or one. -/
def Value.counted : Value → Value
  | bool value => int (if value then 1 else 0)
  | other => other

@[simp] theorem Value.isNull_counted (value : Value) : value.counted.isNull = value.isNull := by
  cases value <;> rfl

theorem checkValues_eq_ok_iff {a b : Value} :
    checkValues a b = .ok () ↔
      a.isNull = true ∨ b.isNull = true ∨ a.kind = b.kind ∨
        (a.isNumeric = true ∧ b.isNumeric = true) := by
  unfold checkValues
  split
  · next h => simpa [or_assoc] using h
  · next h => simpa [or_assoc] using h

/-- Values that may be compared keep their order when truth values become numbers. -/
theorem Comparison.truth_counted (op : Comparison) {a b : Value}
    (h : checkValues a b = .ok ()) : op.truth a.counted b.counted = op.truth a b := by
  rcases checkValues_eq_ok_iff.mp h with hnull | hnull | hkind | ⟨ha, hb⟩
  · cases a <;> cases b <;> simp_all [Value.isNull, Value.counted, truth, Value.order?]
  · cases a <;> cases b <;> simp_all [Value.isNull, Value.counted, truth, Value.order?]
  · cases a with
    | bool x =>
        cases b with
        | bool y => cases x <;> cases y <;> rfl
        | _ => simp [Value.kind] at hkind
    | _ => cases b <;> simp_all [Value.kind, Value.counted]
  · cases a <;> cases b <;> simp_all [Value.isNumeric, Value.counted]

/-! ## What the builtin handlers store -/

theorem Column.serialize_eq_ok_iff {column : Column} {value stored : Value} :
    column.serialize value = .ok stored ↔ column.handler.serialize value = .ok stored :=
  mapError_eq_ok_iff

theorem Column.deserialize_eq_ok_iff {column : Column} {value logical : Value} :
    column.deserialize value = .ok logical ↔ column.handler.deserialize value = .ok logical :=
  mapError_eq_ok_iff

/-- What a column of a builtin type holds: null, and otherwise values of one kind. -/
inductive Stored : SemanticType → Value → Prop
  | null {type : SemanticType} : Stored type .null
  | bool (value : Bool) : Stored .bool (.int (if value then 1 else 0))
  | int (value : Int64) : Stored .int (.int value)
  | real (value : Binary64) : Stored .real (.real value)
  | ref (value : Int64) : Stored .ref (.int value)
  | text (value : String) {type : SemanticType}
      (htype : type ∈ [.text, .uuid, .timestamp, .json]) : Stored type (.text value)

theorem stored_of_serialize {type : SemanticType} {handler : Handler} {value stored : Value}
    (hbuiltin : Handler.builtin? type = some handler) (h : handler.serialize value = .ok stored) :
    Stored type stored := by
  cases type with
  | custom name => contradiction
  | bool =>
      obtain rfl := Option.some.inj hbuiltin
      cases value with
      | bool value => obtain rfl := Except.ok.inj h; exact .bool value
      | null => obtain rfl := Except.ok.inj h; exact .null
      | _ => contradiction
  | int =>
      obtain rfl := Option.some.inj hbuiltin
      cases value with
      | int value => obtain rfl := Except.ok.inj h; exact .int value
      | null => obtain rfl := Except.ok.inj h; exact .null
      | _ => contradiction
  | real =>
      obtain rfl := Option.some.inj hbuiltin
      cases value with
      | real value =>
          simp only [Handler.real] at h
          split at h
          · obtain rfl := Except.ok.inj h
            exact .real value
          · contradiction
      | int value => obtain rfl := Except.ok.inj h; exact .real _
      | null => obtain rfl := Except.ok.inj h; exact .null
      | _ => contradiction
  | ref =>
      obtain rfl := Option.some.inj hbuiltin
      cases value with
      | int value =>
          -- Zero refers to no row and is stored as null.
          obtain rfl := Except.ok.inj h
          split
          · exact .null
          · exact .ref value
      | null => obtain rfl := Except.ok.inj h; exact .null
      | _ => contradiction
  | text =>
      obtain rfl := Option.some.inj hbuiltin
      cases value with
      | text value => obtain rfl := Except.ok.inj h; exact .text value (by simp)
      | null => obtain rfl := Except.ok.inj h; exact .null
      | _ => contradiction
  | uuid =>
      obtain rfl := Option.some.inj hbuiltin
      cases value with
      | uuid value => obtain rfl := Except.ok.inj h; exact .text _ (by simp)
      | text value => obtain rfl := Except.ok.inj h; exact .text _ (by simp)
      | null => obtain rfl := Except.ok.inj h; exact .null
      | _ => contradiction
  | timestamp =>
      obtain rfl := Option.some.inj hbuiltin
      cases value with
      | timestamp value => obtain rfl := Except.ok.inj h; exact .text _ (by simp)
      | text value => obtain rfl := Except.ok.inj h; exact .text _ (by simp)
      | null => obtain rfl := Except.ok.inj h; exact .null
      | _ => contradiction
  | json =>
      obtain rfl := Option.some.inj hbuiltin
      cases value with
      | json value =>
          obtain rfl := Except.ok.inj h
          split
          · exact .null
          · exact .text _ (by simp)
      | text value => obtain rfl := Except.ok.inj h; exact .text _ (by simp)
      | null => obtain rfl := Except.ok.inj h; exact .null
      | _ => contradiction

/-- A column of truth values has the handler of their type. -/
theorem type_eq_bool {column : Column}
    (hbuiltin : Handler.builtin? column.type = some column.handler)
    (hfamily : column.family = .boolean) : column.type = .bool ∧ column.handler = .bool := by
  rw [Column.family] at hfamily
  cases htype : column.type with
  | bool =>
      rw [htype] at hbuiltin
      exact ⟨rfl, (Option.some.inj hbuiltin).symm⟩
  | custom name => simp [htype, Handler.builtin?] at hbuiltin
  | _ =>
      rw [htype] at hbuiltin
      rw [← Option.some.inj hbuiltin] at hfamily
      contradiction

/-- No truth value is stored as such. -/
theorem Stored.counted_eq {type : SemanticType} {value : Value} (h : Stored type value) :
    value.counted = value := by
  cases h <;> rfl

/-- A stored truth value that is used as a predicate has the outcome of its comparison with one. -/
theorem valueTruth_of_stored {column : Column} {stored : Value} (field : String)
    (hbuiltin : Handler.builtin? column.type = some column.handler)
    (hfamily : column.family = .boolean) (h : Stored column.type stored) :
    (column.deserialize stored >>= Scope.valueTruth field) =
      .ok (Comparison.eq.truth stored (.int 1)) := by
  obtain ⟨htype, hhandler⟩ := type_eq_bool hbuiltin hfamily
  rw [htype] at h
  cases h with
  | null =>
      have hlogical : column.deserialize .null = .ok .null := by
        rw [Column.deserialize_eq_ok_iff, hhandler]
        rfl
      rw [hlogical]
      rfl
  | bool value =>
      have hlogical : column.deserialize (.int (if value then 1 else 0)) = .ok (.bool value) := by
        rw [Column.deserialize_eq_ok_iff, hhandler]
        cases value <;> rfl
      rw [hlogical]
      cases value <;> rfl
  | text value htype => simp at htype

/-- A finite real keeps its value when it is compared with numbers, whatever the type of the
column. -/
theorem serializeOperand_real {column : Column} {value : Binary64}
    (hbuiltin : Handler.builtin? column.type = some column.handler)
    (hfamily : column.family = .numeric) (hfinite : value.isFinite = true) :
    column.serializeOperand (.real value) = .ok (.real value) := by
  by_cases hwritten : column.comparesRealAsWritten = true
  · simp [Column.serializeOperand, hwritten, hfinite]
  · have htype : column.type = .real := by
      simpa [Column.comparesRealAsWritten, hfamily] using hwritten
    rw [htype] at hbuiltin
    have hstored : column.serialize (.real value) = .ok (.real value) := by
      rw [Column.serialize_eq_ok_iff, ← Option.some.inj hbuiltin]
      simp [Handler.real, hfinite]
    simpa [Column.serializeOperand, hwritten] using hstored

/-- A real that takes the form that a column compares with is finite. -/
theorem isFinite_of_serializeOperand {column : Column} {value : Binary64} {operand : Value}
    (hbuiltin : Handler.builtin? column.type = some column.handler)
    (h : column.serializeOperand (.real value) = .ok operand) : value.isFinite = true := by
  refine Decidable.byContradiction fun hfinite => ?_
  unfold Column.serializeOperand at h
  dsimp only at h
  split at h
  · contradiction
  · have hserialize := Column.serialize_eq_ok_iff.mp h
    cases htype : column.type with
    | real =>
        rw [htype] at hbuiltin
        rw [← Option.some.inj hbuiltin] at hserialize
        simp [Handler.real, hfinite] at hserialize
    | _ =>
        rw [htype] at hbuiltin
        first
        | contradiction
        | rw [← Option.some.inj hbuiltin] at hserialize
          contradiction

/-- A value that may be compared with a column takes the form that the column compares with, unless
it is a real and not finite. -/
theorem exists_serializeOperand_iff {column : Column} {value : Value}
    (hbuiltin : Handler.builtin? column.type = some column.handler)
    (hfamily : column.family.accepts value = true) :
    (∃ operand, column.serializeOperand value = .ok operand) ↔
      ∀ real, value = .real real → real.isFinite = true := by
  constructor
  · rintro ⟨operand, h⟩ real rfl
    exact isFinite_of_serializeOperand hbuiltin h
  · intro hfinite
    obtain ⟨field, name, type, modifiers, handler⟩ := column
    cases type with
    | custom name => contradiction
    | bool | int | real | text | ref | uuid | timestamp | json =>
        obtain rfl := Option.some.inj hbuiltin
        cases value with
        | real value =>
            first
            | contradiction
            | exact ⟨_, serializeOperand_real hbuiltin rfl (hfinite value rfl)⟩
        | _ =>
            first
            | contradiction
            | exact ⟨_, rfl⟩

/-- What takes the form that a column compares with is no truth value. -/
theorem counted_eq_of_serializeOperand {column : Column} {value operand : Value}
    (hbuiltin : Handler.builtin? column.type = some column.handler)
    (h : column.serializeOperand value = .ok operand) : operand.counted = operand := by
  have hstored {value : Value} (hvalue : column.serialize value = .ok operand) :
      operand.counted = operand :=
    (stored_of_serialize hbuiltin (Column.serialize_eq_ok_iff.mp hvalue)).counted_eq
  unfold Column.serializeOperand at h
  split at h
  · split at h
    · split at h
      · obtain rfl := Except.ok.inj h
        rfl
      · contradiction
    · exact hstored h
  · exact hstored h

/-- A literal that is compared with a column takes a stored form that stands to every stored value
as the literal itself does, unless it is the zero that refers to no row. -/
theorem exists_operand_of_literal {column : Column} {value : Literal}
    (hbuiltin : Handler.builtin? column.type = some column.handler)
    (hfamily : column.family.accepts value.toValue = true)
    (hfinite : ∀ real, value = .real real → real.isFinite = true)
    (hzero : column.type = .ref → value ≠ .int 0) :
    ∃ operand, column.serializeOperand value.toValue = .ok operand ∧
      ∀ (op : Comparison) (stored : Value), Stored column.type stored →
        op.truth stored operand = op.truth stored value.toValue.counted := by
  obtain ⟨field, name, type, modifiers, handler⟩ := column
  have hkeep {operand : Value} (h : operand = value.toValue.counted) (op : Comparison)
      (stored : Value) (_ : Stored type stored) :
      op.truth stored operand = op.truth stored value.toValue.counted := by rw [h]
  cases type with
  | custom name => contradiction
  | bool =>
      obtain rfl := Option.some.inj hbuiltin
      cases value with
      | null | bool => exact ⟨_, rfl, hkeep rfl⟩
      | _ => contradiction
  | int =>
      obtain rfl := Option.some.inj hbuiltin
      cases value with
      | null | int => exact ⟨_, rfl, hkeep rfl⟩
      | real real =>
          exact ⟨.real real, serializeOperand_real hbuiltin rfl (hfinite real rfl), hkeep rfl⟩
      | _ => contradiction
  | ref =>
      obtain rfl := Option.some.inj hbuiltin
      cases value with
      | null => exact ⟨_, rfl, hkeep rfl⟩
      | int value =>
          have hne : value ≠ 0 := fun h => hzero rfl (congrArg Literal.int h)
          exact ⟨_, rfl, hkeep (by simp [Literal.toValue, Value.counted, hne])⟩
      | real real =>
          exact ⟨.real real, serializeOperand_real hbuiltin rfl (hfinite real rfl), hkeep rfl⟩
      | _ => contradiction
  | real =>
      obtain rfl := Option.some.inj hbuiltin
      cases value with
      | null => exact ⟨_, rfl, hkeep rfl⟩
      | real real =>
          exact ⟨.real real, serializeOperand_real hbuiltin rfl (hfinite real rfl), hkeep rfl⟩
      | int value =>
          -- The stored form is the nearest real, which is what a whole number is compared as.
          refine ⟨_, rfl, ?_⟩
          intro op stored hstored
          cases hstored <;> rfl
      | _ => contradiction
  | text | uuid | timestamp | json =>
      obtain rfl := Option.some.inj hbuiltin
      cases value with
      | null | text => exact ⟨_, rfl, hkeep rfl⟩
      | _ => contradiction

end RecordSql
