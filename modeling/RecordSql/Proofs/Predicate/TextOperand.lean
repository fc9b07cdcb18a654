import RecordSql.Proofs.Predicate.RowComparison

/-!
# Text that is compared with uuids and timestamps

A uuid or a timestamp is compared in its one stored form.  Text that is compared with it is taken to
be stored already, in whatever spelling it is: it is not read first.  So text that denotes a value
is compared as the value is only if it is the stored form of the value, letter by letter.
-/

namespace RecordSql

/-! ## Operands that are compared as texts -/

section Spelled

variable {α : Type}

/-- Next to a field whose values are stored as texts, an operand is compared as a text, and null
compares with nothing. -/
structure Table.ComparesAs (table : Table) (field name : String) (make : α → Value)
    (spell : α → String) (operand : Value) (text : String) : Prop where
  null : ∀ (op : Comparison) (row values : FieldValues), row field = some .null →
    values name = some operand →
      (Predicate.compare op (.row field) (.param name)).evaluate table row (some values) = .ok false
  value : ∀ (op : Comparison) (row values : FieldValues) (a : α), row field = some (make a) →
    values name = some operand →
      (Predicate.compare op (.row field) (.param name)).evaluate table row (some values) =
        .ok (op.allows (Ord.compare (spell a) text))

/-- Two operands mean the same next to a field: no comparison tells them apart, on any row. -/
def Table.Interchangeable (table : Table) (field name : String) (make : α → Value)
    (operand operand' : Value) : Prop :=
  ∀ (op : Comparison) (row values values' : FieldValues),
    row field = some .null ∨ (∃ a, row field = some (make a)) →
    values name = some operand → values' name = some operand' →
      (Predicate.compare op (.row field) (.param name)).evaluate table row (some values) =
        (Predicate.compare op (.row field) (.param name)).evaluate table row (some values')

variable {table : Table} {field name : String} {column : Column} {make : α → Value}
  {spell : α → String} {operand operand' : Value} {text : String}

/-- An operand that counts as set takes the form that the column compares with. -/
theorem comparesAs_of_serialize (hcolumn : table.find? field = some column)
    (hnull : column.serialize .null = .ok .null)
    (hmake : ∀ a, column.serialize (make a) = .ok (.text (spell a)))
    (hfamily : column.family.accepts operand = true) (hset : operand.isDefault = false)
    (hoperand : column.serializeOperand operand = .ok (.text text)) :
    table.ComparesAs field name make spell operand text where
  null _ _ _ hrow hbound :=
    Predicate.evaluate_of_truth (Predicate.truth_row_param hcolumn hrow hnull hbound hfamily
      (fun _ => hset) hoperand)
  value _ _ _ a hrow hbound :=
    Predicate.evaluate_row_param_text hcolumn hrow (hmake a) hbound hfamily (fun _ => hset) hoperand

/-- Operands that are compared as texts mean the same only if these are one text. -/
theorem Table.ComparesAs.interchangeable_iff {a : α}
    (h : table.ComparesAs field name make spell operand text)
    (h' : table.ComparesAs field name make spell operand' (spell a)) :
    table.Interchangeable field name make operand operand' ↔ text = spell a := by
  constructor
  · intro hsame
    -- The value itself is in a row: what denotes it has to be equal to it.
    have heq := hsame .eq (fun _ => some (make a)) (fun _ => some operand)
      (fun _ => some operand') (Or.inr ⟨a, rfl⟩) rfl rfl
    rw [h.value .eq _ _ a rfl rfl, h'.value .eq _ _ a rfl rfl] at heq
    have hself : Ord.compare (spell a) (spell a) = .eq := Std.ReflCmp.compare_self
    have hallows := Except.ok.inj heq
    rw [hself] at hallows
    cases hcompare : Ord.compare (spell a) text with
    | eq => exact (Std.LawfulEqCmp.eq_of_compare hcompare).symm
    | lt | gt =>
        rw [hcompare] at hallows
        contradiction
  · rintro rfl op row values values' (hnull | ⟨b, hvalue⟩) hbound hbound'
    · rw [h.null op row values hnull hbound, h'.null op row values' hnull hbound']
    · rw [h.value op row values b hvalue hbound, h'.value op row values' b hvalue hbound']

/-- A column that takes text to be stored already compares it letter by letter. -/
theorem comparesAs_text_of_serialize (hcolumn : table.find? field = some column)
    (hnull : column.serialize .null = .ok .null)
    (hmake : ∀ a, column.serialize (make a) = .ok (.text (spell a)))
    (htext : column.serialize (.text text) = .ok (.text text))
    (hfamily : column.family.accepts (.text text) = true) (hne : text ≠ "")
    {a : α} (hfamily' : column.family.accepts (make a) = true)
    (hset : (make a).isDefault = false)
    (hoperand : column.serializeOperand (make a) = .ok (.text (spell a))) :
    table.ComparesAs field name make spell (.text text) text ∧
      table.ComparesAs field name make spell (make a) (spell a) ∧
      (table.Interchangeable field name make (.text text) (make a) ↔ text = spell a) := by
  have hgiven : table.ComparesAs field name make spell (.text text) text :=
    comparesAs_of_serialize hcolumn hnull hmake hfamily (by simp [Value.isDefault, hne]) htext
  have hmeant : table.ComparesAs field name make spell (make a) (spell a) :=
    comparesAs_of_serialize hcolumn hnull hmake hfamily' hset hoperand
  exact ⟨hgiven, hmeant, hgiven.interchangeable_iff hmeant⟩

end Spelled

/-! ## Texts that denote a value -/

theorem Uuid.ne_empty_of_read {text : String} {u : Uuid} (h : read text = .ok u) : text ≠ "" := by
  rintro rfl
  contradiction

theorem Timestamp.ne_empty_of_read {text : String} {t : Timestamp} (h : read text = .ok t) :
    text ≠ "" := by
  rintro rfl
  contradiction

theorem Handler.read_of_deserialize_uuid {text : String} {u : Uuid}
    (h : uuid.deserialize (.text text) = .ok (.uuid u)) : Uuid.read text = .ok u := by
  simp only [uuid] at h
  split at h
  · next hread =>
    obtain rfl := Value.uuid.inj (Except.ok.inj h)
    exact hread
  · contradiction

theorem Handler.read_of_deserialize_timestamp {text : String} {t : Timestamp}
    (h : timestamp.deserialize (.text text) = .ok (.timestamp t)) :
    Timestamp.read text = .ok t := by
  simp only [timestamp] at h
  split at h
  · next hread =>
    obtain rfl := Value.timestamp.inj (Except.ok.inj h)
    exact hread
  · contradiction

/-- **Text that denotes a uuid or a timestamp is compared letter by letter** with the stored form of
what is in the row, while the value itself is compared in its own stored form.  So the two mean the
same just if the text is this form. -/
theorem Predicate.comparesAs_text {schema : Schema} {table : Table} {field : String}
    {column : Column} (hresolve : Table.resolve schema .builtin = .ok table)
    (hcolumn : table.find? field = some column) (name : String) :
    (column.type = .uuid → ∀ text u, Handler.uuid.deserialize (.text text) = .ok (.uuid u) →
      u ≠ Uuid.zero →
        table.ComparesAs field name .uuid Uuid.text (.text text) text ∧
        table.ComparesAs field name .uuid Uuid.text (.uuid u) u.text ∧
        (table.Interchangeable field name .uuid (.text text) (.uuid u) ↔ text = u.text)) ∧
    (column.type = .timestamp → ∀ text t,
      Handler.timestamp.deserialize (.text text) = .ok (.timestamp t) → t ≠ Timestamp.epoch →
        table.ComparesAs field name .timestamp (·.text .micros) (.text text) text ∧
        table.ComparesAs field name .timestamp (·.text .micros) (.timestamp t) (t.text .micros) ∧
        (table.Interchangeable field name .timestamp (.text text) (.timestamp t) ↔
          text = t.text .micros)) := by
  have hbuiltin := (Table.sound_of_resolve hresolve).builtin?_eq column
    (Table.mem_and_field_of_find? hcolumn).1
  constructor
  · intro htype text u hreads hset
    rw [htype] at hbuiltin
    have hhandler : column.handler = .uuid := (Option.some.inj hbuiltin).symm
    have hfamily : column.family = .identifier := congrArg Handler.family hhandler
    have hstores {value stored : Value} (h : Handler.uuid.serialize value = .ok stored) :
        column.serialize value = .ok stored :=
      Column.serialize_eq_ok_iff.mpr (hhandler ▸ h)
    refine comparesAs_text_of_serialize hcolumn (hstores rfl) (fun _ => hstores rfl) (hstores rfl)
      ?_ (Uuid.ne_empty_of_read (Handler.read_of_deserialize_uuid hreads)) ?_ ?_ (hstores rfl)
    · rw [hfamily]
      rfl
    · rw [hfamily]
      rfl
    · simp [Value.isDefault, Uuid.isZero, hset]
  · intro htype text t hreads hset
    rw [htype] at hbuiltin
    have hhandler : column.handler = .timestamp := (Option.some.inj hbuiltin).symm
    have hfamily : column.family = .temporal := congrArg Handler.family hhandler
    have hstores {value stored : Value} (h : Handler.timestamp.serialize value = .ok stored) :
        column.serialize value = .ok stored :=
      Column.serialize_eq_ok_iff.mpr (hhandler ▸ h)
    refine comparesAs_text_of_serialize hcolumn (hstores rfl) (fun _ => hstores rfl) (hstores rfl)
      ?_ (Timestamp.ne_empty_of_read (Handler.read_of_deserialize_timestamp hreads)) ?_ ?_
      (hstores rfl)
    · rw [hfamily]
      rfl
    · rw [hfamily]
      rfl
    · simp [Value.isDefault, hset]

namespace Stock

/-- The highest key without its hyphens. -/
def bareKey : String := "ffffffffffffffffffffffffffffffff"

/-- Half a second before 1970. -/
def halfSecond : Timestamp := ⟨-1, 500000000, by decide⟩

/-- The same time by a clock that is two hours ahead. -/
def ahead : String := "1970-01-01T01:59:59.5+02:00"

/-- A delivery of that key at that time. -/
def dueBefore1970 : FieldValues :=
  FieldMap.get [("ID", .int 1), ("Key", .uuid lastKey), ("Due", .timestamp halfSecond)]

theorem deserialize_bareKey :
    Handler.uuid.deserialize (.text bareKey) = .ok (.uuid lastKey) := by
  rfl

theorem deserialize_ahead :
    Handler.timestamp.deserialize (.text ahead) = .ok (.timestamp halfSecond) := by
  have hread : Timestamp.read ahead = .ok halfSecond := by decide
  simp only [Handler.timestamp, hread]

/-- Bare digits and a clock ahead are no stored forms, so they do not mean what they denote. -/
theorem comparesAs_text_delivery :
    Table.resolve deliverySchema .builtin = .ok deliveryTable ∧
      (deliveryTable.find? "Key" = some keyColumn ∧ keyColumn.type = .uuid ∧
        Handler.uuid.deserialize (.text bareKey) = .ok (.uuid lastKey) ∧ lastKey ≠ Uuid.zero ∧
        ¬deliveryTable.Interchangeable "Key" "Key" .uuid (.text bareKey) (.uuid lastKey)) ∧
      deliveryTable.find? "Due" = some dueColumn ∧ dueColumn.type = .timestamp ∧
        Handler.timestamp.deserialize (.text ahead) = .ok (.timestamp halfSecond) ∧
        halfSecond ≠ Timestamp.epoch ∧
        ¬deliveryTable.Interchangeable "Due" "Due" .timestamp (.text ahead)
          (.timestamp halfSecond) := by
  have hresolve : Table.resolve deliverySchema .builtin = .ok deliveryTable := rfl
  have hkey : deliveryTable.find? "Key" = some keyColumn := rfl
  have hdue : deliveryTable.find? "Due" = some dueColumn := rfl
  have hlast : lastKey ≠ Uuid.zero := by decide
  have hhalf : halfSecond ≠ Timestamp.epoch := by decide
  obtain ⟨-, -, huuid⟩ := (Predicate.comparesAs_text hresolve hkey "Key").1 rfl _ _
    deserialize_bareKey hlast
  obtain ⟨-, -, htime⟩ := (Predicate.comparesAs_text hresolve hdue "Due").2 rfl _ _
    deserialize_ahead hhalf
  refine ⟨hresolve, ⟨hkey, rfl, deserialize_bareKey, hlast, ?_⟩, hdue, rfl, deserialize_ahead,
    hhalf, ?_⟩
  · rw [huuid]
    decide
  · rw [htime]
    decide

/-- A row holds the very uuid and the very time that the texts denote, and equals neither text. -/
theorem evaluate_text_differs :
    Handler.uuid.deserialize (.text bareKey) = .ok (.uuid lastKey) ∧
      (Predicate.compare .eq (.row "Key") (.param "Key")).evaluate deliveryTable dueBefore1970
        (some (FieldMap.get [("Key", .text bareKey)])) = .ok false ∧
      (Predicate.compare .eq (.row "Key") (.param "Key")).evaluate deliveryTable dueBefore1970
        (some (FieldMap.get [("Key", .uuid lastKey)])) = .ok true ∧
      Handler.timestamp.deserialize (.text ahead) = .ok (.timestamp halfSecond) ∧
      (Predicate.compare .eq (.row "Due") (.param "Due")).evaluate deliveryTable dueBefore1970
        (some (FieldMap.get [("Due", .text ahead)])) = .ok false ∧
      (Predicate.compare .eq (.row "Due") (.param "Due")).evaluate deliveryTable dueBefore1970
        (some (FieldMap.get [("Due", .timestamp halfSecond)])) = .ok true := by
  refine ⟨deserialize_bareKey, ?_, ?_, deserialize_ahead, ?_, ?_⟩ <;> rfl

end Stock

end RecordSql
