import RecordSql.Declaration.Derive
import RecordSql.Proofs.Binary64.Rounding
import RecordSql.Proofs.Handler.Inverse

/-!
# Fields read back what they store

A field is declared with a type for what it holds, and the declaration gives it a semantic type for
how that is stored.  What was stored and read again is what the field held, but for the zero of a
reference: it is stored as null, which an optional field holds as such and a whole number cannot.
-/

namespace RecordSql

namespace FieldType

/-- The values of a field type. -/
inductive Holds : FieldType → Value → Prop
  | int (width : IntWidth) (value : Int64) (hleast : width.least ≤ value.toInt)
      (hgreatest : value.toInt ≤ width.greatest) : Holds (.int width) (.int value)
  | bool (value : Bool) : Holds .bool (.bool value)
  | real (value : Binary64) : Holds .real (.real value)
  | single (value : Binary64) (hsingle : value.IsSingle) : Holds .single (.real value)
  | text (value : String) : Holds .text (.text value)
  | uuid (value : Uuid) : Holds .uuid (.uuid value)
  | timestamp (value : Timestamp) : Holds .timestamp (.timestamp value)
  | json (value : Document) : Holds .json (.json value)
  | none (type : FieldType) : Holds (.optional type) .null
  | some {type : FieldType} {value : Value} (h : Holds type value) : Holds (.optional type) value

variable {type : FieldType} {value : Value}

/-- Reading keeps a value that the field holds. -/
theorem read_of_holds (h : type.Holds value) : type.read value = .ok value := by
  induction h with
  | int width value hleast hgreatest => simp [read, readInt, hleast, hgreatest]
  | single value hsingle =>
      simp only [read, readReal, Binary64.toSingle_of_isSingle hsingle]
  | @some type value _ ih =>
      cases value with
      | null => rfl
      | _ => exact ih
  | _ => rfl

/-- What holds whole numbers refuses null, or is optional and holds it too. -/
theorem read_null_of_holds_int {number : Int64} (h : type.Holds (.int number)) :
    (∃ width, type = .int width ∧ type.read .null = unexpected .int .null) ∨
      (∃ inner, type = .optional inner ∧ type.read .null = .ok .null) := by
  cases h with
  | int width => exact Or.inl ⟨width, rfl, rfl⟩
  | @some inner => exact Or.inr ⟨inner, rfl, rfl⟩

/-- What a field of the type stores as the type means it, or as a reference, is a value of the
semantic type. -/
theorem owns_of_serialize {semantic : SemanticType} {handler : Handler} {stored : Value}
    (hsemantic : semantic = type.semanticType ∨ semantic = .ref)
    (hbuiltin : Handler.builtin? semantic = some handler) (h : type.Holds value)
    (hdocument : value.kind ≠ .json)
    (hordinary : ∀ time, value = .timestamp time → time.Ordinary)
    (hstored : handler.serialize value = .ok stored) : semantic.Owns value := by
  rcases hsemantic with rfl | rfl
  · induction h with
    | int width number => exact .int number
    | bool flag => exact .bool flag
    | real number | single number =>
        obtain rfl := Option.some.inj hbuiltin
        refine .real number ?_
        by_contra hinfinite
        simp [Handler.real, hinfinite] at hstored
    | text text => exact .text text
    | uuid uuid => exact .uuid uuid
    | timestamp time => exact .timestamp time (hordinary time rfl)
    | json document => exact absurd rfl hdocument
    | none type => exact .null _
    | some _ ih => exact ih hdocument hordinary hstored hbuiltin
  · obtain rfl := Option.some.inj hbuiltin
    cases value with
    | null => exact .null _
    | int number => exact .ref number
    | _ => contradiction

end FieldType

/-- A value in whole microseconds is its own normal form, unless it refers to no row. -/
theorem SemanticType.normal_eq {type : SemanticType} {value : Value}
    (hmicros : ∀ time, value = .timestamp time → time.inMicros = time)
    (hrow : ¬ (type = .ref ∧ value = .int 0)) : type.normal value = value := by
  unfold normal
  split
  · next number =>
      have hnumber : number ≠ 0 := fun hzero => hrow ⟨rfl, congrArg Value.int hzero⟩
      exact if_neg hnumber
  · next time => rw [hmicros time rfl]
  · rfl

namespace Declaration

variable {rule : Option Text.NamingRule} {options : FieldOptions} {member : Member}

theorem semanticType_ne_ref (type : FieldType) : type.semanticType ≠ .ref := by
  induction type with
  | optional type ih => exact ih
  | _ => simp [FieldType.semanticType]

/-- A field has the semantic type of what it holds, unless it is declared to be a reference. -/
theorem type_field :
    (field rule options member).type = member.type.semanticType ∨
      (field rule options member).type = .ref := by
  unfold field
  dsimp only
  split
  · exact Or.inr rfl
  · exact Or.inl rfl

theorem type_field_eq_ref_iff :
    (field rule options member).type = .ref ↔ options.isReference = true := by
  unfold field
  dsimp only
  split
  · next h => simp [h]
  · next h => simp [h, semanticType_ne_ref]

/-- **What a declared field stored and reads again is the value that it held; only the zero of a
reference is read as null, which an optional field holds and a whole number refuses.** -/
theorem exists_readBack {handler : Handler} {value stored : Value}
    (hbuiltin : Handler.builtin? (field rule options member).type = some handler)
    (hholds : member.type.Holds value) (hdocument : value.kind ≠ .json)
    (htime : ∀ time, value = .timestamp time → time.Ordinary ∧ time.inMicros = time)
    (hstored : handler.serialize value = .ok stored) :
    ∃ logical, handler.deserialize stored = .ok logical ∧
      (¬ (options.isReference = true ∧ value = .int 0) →
        member.type.read logical = .ok value) ∧
      (options.isReference = true → value = .int 0 →
        (∃ width, member.type = .int width ∧
          member.type.read logical = FieldType.unexpected .int .null) ∨
        (∃ inner, member.type = .optional inner ∧ member.type.read logical = .ok .null)) := by
  have howns := FieldType.owns_of_serialize type_field hbuiltin hholds hdocument
    (fun time h => (htime time h).1) hstored
  refine ⟨_, Handler.deserialize_of_serialize hbuiltin howns hstored, ?_, ?_⟩
  · intro hrow
    rw [SemanticType.normal_eq (fun time h => (htime time h).2)
      (fun h => hrow ⟨type_field_eq_ref_iff.mp h.1, h.2⟩)]
    exact FieldType.read_of_holds hholds
  · rintro href rfl
    rw [type_field_eq_ref_iff.mpr href]
    exact FieldType.read_null_of_holds_int hholds

/-- A field of the 32-bit format. -/
def weight : Member := ⟨"weight", .single, []⟩

/-- The least negative real of the 32-bit format. -/
def leastSingle : Binary64 :=
  .finite true (1 <<< 52) 873 (by decide)

/-- The least negative real of a field of 32 bits is read back. -/
theorem exists_readBack_leastSingle :
    (Handler.builtin? (field none FieldOptions.empty weight).type = some .real ∧
      weight.type.Holds (.real leastSingle) ∧
      Handler.real.serialize (.real leastSingle) = .ok (.real leastSingle)) ∧
      ∃ logical, Handler.real.deserialize (.real leastSingle) = .ok logical ∧
        weight.type.read logical = .ok (.real leastSingle) := by
  have hbuiltin : Handler.builtin? (field none FieldOptions.empty weight).type = some .real := rfl
  have hholds : weight.type.Holds (.real leastSingle) :=
    .single _ fun _ => ⟨1, ⟨1, 0, by decide, by decide, by decide⟩, by decide⟩
  have hstored : Handler.real.serialize (.real leastSingle) = .ok (.real leastSingle) := rfl
  obtain ⟨logical, hlogical, hread, -⟩ :=
    exists_readBack hbuiltin hholds (by decide) (by simp) hstored
  exact ⟨⟨hbuiltin, hholds, hstored⟩, logical, hlogical, hread (by simp)⟩

/-- A whole number that refers to a row. -/
def shipper : Member := ⟨"shipper", .int .int64, [⟨"reference", .none⟩]⟩

/-- Not every field reads back what it stored: a whole number that is declared to be a reference
stores its zero as null, and refuses null. -/
theorem not_readBack_zeroReference :
    ¬ ∀ (rule : Option Text.NamingRule) (options : FieldOptions) (member : Member)
        (handler : Handler) (value stored : Value),
      FieldOptions.read member.attributes = .ok options →
      Handler.builtin? (field rule options member).type = some handler →
      member.type.Holds value → value.kind ≠ .json →
      (∀ time, value = .timestamp time → time.Ordinary ∧ time.inMicros = time) →
      handler.serialize value = .ok stored →
      ∃ logical, handler.deserialize stored = .ok logical ∧
        (member.type.read logical = .ok value ∨
          (∃ inner, member.type = .optional inner) ∧ value = .int 0 ∧
            member.type.read logical = .ok .null) := by
  intro hback
  obtain ⟨logical, hlogical, hread⟩ :=
    hback none { FieldOptions.empty with isReference := true } shipper Handler.ref (.int 0) .null
      rfl rfl (.int .int64 0 (by decide) (by decide)) (by decide) (by simp) rfl
  obtain rfl := Except.ok.inj hlogical
  rcases hread with hread | ⟨⟨inner, hinner⟩, -⟩
  · contradiction
  · contradiction

end Declaration

end RecordSql
