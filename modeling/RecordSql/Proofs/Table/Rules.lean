import Mathlib.Data.List.Forall2
import RecordSql.Proofs.Predicate.Comparison

/-!
# The rules of schemas

A schema is checked rule by rule: the name of its table, then four rules for each field in order of
declaration, and at the end that there is an identity.  Resolution answers with the columns of the
fields where every rule holds, and with the error of the first rule that does not hold otherwise.
-/

namespace RecordSql

variable {α β : Type}

theorem exists_of_mem_right {r : α → β → Prop} {items : List α} {results : List β}
    (h : List.Forall₂ r items results) {b : β} (hb : b ∈ results) : ∃ a ∈ items, r a b := by
  induction h with
  | nil => simp at hb
  | @cons a first rest others hfirst hrest ih =>
      rcases List.mem_cons.mp hb with rfl | hlater
      · exact ⟨a, List.mem_cons_self, hfirst⟩
      · obtain ⟨other, hother, hrel⟩ := ih hlater
        exact ⟨other, List.mem_cons_of_mem a hother, hrel⟩

theorem forall₂_of_mapM {ε : Type} {f : α → Except ε β} {items : List α} {results : List β}
    (h : items.mapM f = .ok results) : List.Forall₂ (fun a b => f a = .ok b) items results := by
  induction items generalizing results with
  | nil =>
      obtain rfl := Except.ok.inj h
      exact .nil
  | cons a rest ih =>
      rw [List.mapM_cons] at h
      obtain ⟨first, hfirst, h⟩ := bind_eq_ok_iff.mp h
      obtain ⟨others, hothers, h⟩ := bind_eq_ok_iff.mp h
      obtain rfl := Except.ok.inj h
      exact .cons hfirst (ih hothers)

theorem exists_mapM_iff {ε : Type} {f : α → Except ε β} {items : List α} :
    (∃ results, items.mapM f = .ok results) ↔ ∀ a ∈ items, ∃ b, f a = .ok b := by
  induction items with
  | nil => simp [pure, Except.pure]
  | cons a rest ih =>
      rw [List.forall_mem_cons, ← ih]
      simp only [List.mapM_cons, bind_eq_ok_iff]
      constructor
      · rintro ⟨results, first, hfirst, others, hothers, -⟩
        exact ⟨⟨first, hfirst⟩, others, hothers⟩
      · rintro ⟨⟨first, hfirst⟩, others, hothers⟩
        exact ⟨_, first, hfirst, others, hothers, rfl⟩

/-! ## Names -/

namespace Ident

/-- The ASCII letters. -/
def IsLetter (c : Char) : Prop :=
  ('A' ≤ c ∧ c ≤ 'Z') ∨ ('a' ≤ c ∧ c ≤ 'z')

/-- Texts of the form `[A-Za-z_][A-Za-z0-9_]*`. -/
def Plain (text : String) : Prop :=
  ∃ first rest, text.toList = first :: rest ∧ (IsLetter first ∨ first = '_') ∧
    ∀ c ∈ rest, IsLetter c ∨ ('0' ≤ c ∧ c ≤ '9') ∨ c = '_'

theorem isAlpha_iff {c : Char} : c.isAlpha = true ↔ IsLetter c := by
  have hupper : c.isUpper = decide ('A' ≤ c ∧ c ≤ 'Z') := rfl
  have hlower : c.isLower = (decide ('a' ≤ c) && decide (c ≤ 'z')) := rfl
  have halpha : c.isAlpha = (c.isUpper || c.isLower) := rfl
  simp [IsLetter, halpha, hupper, hlower]

theorem isDigit_iff {c : Char} : c.isDigit = true ↔ '0' ≤ c ∧ c ≤ '9' := by
  have hdigit : c.isDigit = (decide ('0' ≤ c) && decide (c ≤ '9')) := rfl
  simp [hdigit]

theorem isStart_iff {c : Char} : isStart c = true ↔ IsLetter c ∨ c = '_' := by
  simp [isStart, isAlpha_iff, or_comm]

theorem isPart_iff {c : Char} :
    isPart c = true ↔ IsLetter c ∨ ('0' ≤ c ∧ c ≤ '9') ∨ c = '_' := by
  simp [isPart, Char.isAlphanum, isAlpha_iff, isDigit_iff, or_comm, or_assoc]

theorem isName_iff_plain {text : String} : isName text.toList = true ↔ Plain text := by
  unfold Plain
  cases text.toList with
  | nil => simp [isName]
  | cons first rest => simp [isName, isStart_iff, isPart_iff]

instance (text : String) : Decidable (Plain text) :=
  decidable_of_iff (isName text.toList = true) isName_iff_plain

end Ident

/-! ## Rules -/

namespace Field

/-- A storage name as it is told from others: without regard to the case of ASCII letters. -/
def foldedName (field : Field) : List Char :=
  field.storageName.toList.map Char.toLower

/-- Fields that can be declared side by side. -/
structure Apart (a b : Field) : Prop where
  folded_ne : a.foldedName ≠ b.foldedName
  name_ne : a.name ≠ b.name

end Field

/-- A rule and what is looked at: the rules of a field look at the fields before it. -/
inductive Rule where
  | tableName
  | storageName (field : Field)
  | apart (earlier : List Field) (field : Field)
  | oneIdentity (earlier : List Field) (field : Field)
  | handler (field : Field)
  | identity

namespace Rule

/-- What a rule asks for. -/
def Holds (schema : Schema) (registry : Registry) : Rule → Prop
  | tableName => Ident.Plain schema.tableName
  | storageName field => Ident.Plain field.storageName
  | apart earlier field => ∀ other ∈ earlier, other.Apart field
  | oneIdentity earlier field =>
      field.isIdentity = true → ∀ other ∈ earlier, other.isIdentity = false
  | handler field => registry.contains field.type = true
  | identity => ∃ field ∈ schema.fields, field.isIdentity = true

/-- The errors of a rule that does not hold. -/
inductive Raises (schema : Schema) : Rule → Error → Prop
  | tableName :
      Raises schema .tableName
        (.schema (.badName schema.name (Ident.fault schema.tableName)))
  | storageName (field : Field) :
      Raises schema (.storageName field)
        (.schema (.badName schema.name (Ident.fault field.storageName)))
  | apart {earlier : List Field} {other : Field} (field : Field) (hmem : other ∈ earlier)
      (hclash : ¬other.Apart field) :
      Raises schema (.apart earlier field)
        (.schema (.collision schema.name field.name other.name field.storageName))
  | oneIdentity {earlier : List Field} {other : Field} (field : Field) (hmem : other ∈ earlier)
      (hother : other.isIdentity = true) :
      Raises schema (.oneIdentity earlier field)
        (.schema (.secondIdentity schema.name other.name field.name))
  | handler (field : Field) :
      Raises schema (.handler field)
        (.unsupportedType (.unregisteredField schema.name field.name field.type))
  | identity : Raises schema .identity (.schema (.noIdentity schema.name))

/-- A rule that does not hold, while all before it do. -/
def FirstBroken (schema : Schema) (registry : Registry) (rules : List Rule) (rule : Rule) : Prop :=
  ∃ before after, rules = before ++ rule :: after ∧
    (∀ earlier ∈ before, earlier.Holds schema registry) ∧ ¬rule.Holds schema registry

/-- The rules of a field, in the order in which they are checked. -/
def ofField (earlier : List Field) (field : Field) : List Rule :=
  [.storageName field, .apart earlier field, .oneIdentity earlier field, .handler field]

/-- The rules of fields that come after others. -/
def ofFields (earlier : List Field) : List Field → List Rule
  | [] => []
  | field :: rest => ofField earlier field ++ ofFields (earlier ++ [field]) rest

end Rule

/-- The rules of a schema, in the order in which they are checked. -/
def Schema.rules (schema : Schema) : List Rule :=
  [.tableName] ++ (Rule.ofFields [] schema.fields ++ [.identity])

/-! ## Following rules -/

section Checked

variable {schema : Schema} {registry : Registry} {rules more : List Rule} {rule : Rule}
  {good : α → Prop} {best : β → Prop}

/-- A result follows rules: it is a good one where all of them hold, and otherwise the error of the
first that does not. -/
inductive Checked (schema : Schema) (registry : Registry) (rules : List Rule) (good : α → Prop) :
    Except Error α → Prop
  | passed {a : α} (hrules : ∀ rule ∈ rules, rule.Holds schema registry) (hgood : good a) :
      Checked schema registry rules good (.ok a)
  | failed {rule : Rule} {e : Error} (hfirst : Rule.FirstBroken schema registry rules rule)
      (hraises : rule.Raises schema e) : Checked schema registry rules good (.error e)

theorem checked_pure {a : α} (hgood : good a) : Checked schema registry [] good (.ok a) :=
  .passed (by simp) hgood

theorem checked_of_holds {a : α} (hrule : rule.Holds schema registry) (hgood : good a) :
    Checked schema registry [rule] good (.ok a) :=
  .passed (by simpa using hrule) hgood

theorem checked_of_not_holds {e : Error} (hrule : ¬rule.Holds schema registry)
    (hraises : rule.Raises schema e) : Checked schema registry [rule] good (.error e) :=
  .failed ⟨[], [], rfl, by simp, hrule⟩ hraises

theorem Checked.after_passed {result : Except Error α}
    (hrules : ∀ rule ∈ rules, rule.Holds schema registry)
    (h : Checked schema registry more good result) :
    Checked schema registry (rules ++ more) good result := by
  cases h with
  | passed hmore hgood => exact .passed (List.forall_mem_append.mpr ⟨hrules, hmore⟩) hgood
  | failed hfirst hraises =>
      obtain ⟨before, after, rfl, hbefore, hrule⟩ := hfirst
      exact .failed ⟨rules ++ before, after, by rw [List.append_assoc],
        List.forall_mem_append.mpr ⟨hrules, hbefore⟩, hrule⟩ hraises

/-- What goes on after rules that it may rely on follows its own rules after them. -/
theorem Checked.bind {x : Except Error α} {f : α → Except Error β}
    (h : Checked schema registry rules good x)
    (hf : ∀ a, good a → Checked schema registry more best (f a)) :
    Checked schema registry (rules ++ more) best (x >>= f) := by
  cases h with
  | passed hrules hgood => exact (hf _ hgood).after_passed hrules
  | failed hfirst hraises =>
      obtain ⟨before, after, rfl, hbefore, hrule⟩ := hfirst
      exact .failed ⟨before, after ++ more, by simp, hbefore, hrule⟩ hraises

end Checked

/-! ## Columns of fields -/

/-- A column has all that its field declares, and the handler that is registered for its type. -/
structure Column.Carries (registry : Registry) (column : Column) (field : Field) : Prop where
  field_eq : column.field = field.name
  name_eq : column.name.name = field.storageName
  type_eq : column.type = field.type
  modifiers_eq : column.modifiers = field.modifiers
  handler_eq : registry.handler? field.type = some column.handler

/-- Whether a new field collides with an earlier one can be read off the column of that. -/
theorem Column.Carries.apart_iff {registry : Registry} {column : Column} {other field : Field}
    {name : Ident} (h : column.Carries registry other) (hname : name.name = field.storageName) :
    other.Apart field ↔
      (column.name.sameIgnoringCase name || column.field == field.name) = false := by
  have hfolded : column.name.sameIgnoringCase name = (other.foldedName == field.foldedName) := by
    rw [Ident.sameIgnoringCase, h.name_eq, hname]
    rfl
  rw [hfolded, h.field_eq, Bool.or_eq_false_iff, beq_eq_false_iff_ne, beq_eq_false_iff_ne]
  constructor
  · rintro ⟨hstorage, hfield⟩
    exact ⟨hstorage, hfield⟩
  · rintro ⟨hstorage, hfield⟩
    exact ⟨hstorage, hfield⟩

namespace Table

/-- A draft has the columns of the fields so far, and knows the identity among them. -/
inductive Draft.Covers (registry : Registry) : Draft → List Field → Prop
  | searching {leading : List Column} {fields : List Field}
      (hleading : List.Forall₂ (Column.Carries registry) leading fields)
      (hfields : ∀ field ∈ fields, field.isIdentity = false) :
      Covers registry ⟨leading, none⟩ fields
  | found {leading trailing : List Column} {identity : Column} {before after : List Field}
      {field : Field} (hleading : List.Forall₂ (Column.Carries registry) leading before)
      (hidentity : identity.Carries registry field)
      (htrailing : List.Forall₂ (Column.Carries registry) trailing after)
      (hbefore : ∀ other ∈ before, other.isIdentity = false) (hfield : field.isIdentity = true)
      (hafter : ∀ other ∈ after, other.isIdentity = false) :
      Covers registry ⟨leading, some (identity, trailing)⟩ (before ++ field :: after)

namespace Draft

variable {registry : Registry} {draft : Draft} {earlier : List Field} {column : Column}
  {field : Field}

/-- Append the column of a field. -/
def place (draft : Draft) (field : Field) (column : Column) : Draft :=
  if field.isIdentity then draft.pushIdentity column else draft.push column

theorem Covers.columns (h : draft.Covers registry earlier) :
    List.Forall₂ (Column.Carries registry) draft.columns earlier := by
  cases h with
  | searching hleading => exact hleading
  | found hleading hidentity htrailing =>
      exact List.rel_append hleading (.cons hidentity htrailing)

/-- A draft has an identity if one of its fields is one. -/
theorem Covers.exists_iff (h : draft.Covers registry earlier) :
    (∃ field ∈ earlier, field.isIdentity = true) ↔ draft.rest ≠ none := by
  cases h with
  | searching hleading hfields =>
      simp only [ne_eq, not_true_eq_false, iff_false]
      rintro ⟨field, hmem, hfield⟩
      exact absurd hfield (by simp [hfields field hmem])
  | @found _ _ _ before after field hleading hidentity htrailing hbefore hfield hafter =>
      exact ⟨fun _ => Option.some_ne_none _, fun _ => ⟨field, by simp, hfield⟩⟩

theorem Covers.place (h : draft.Covers registry earlier) (hcolumn : column.Carries registry field)
    (hfirst : field.isIdentity = true → draft.rest = none) :
    (draft.place field column).Covers registry (earlier ++ [field]) := by
  unfold Draft.place
  cases h with
  | searching hleading hfields =>
      cases hid : field.isIdentity with
      | true => exact .found hleading hcolumn .nil hfields hid (by simp)
      | false =>
          refine .searching (List.rel_append hleading (.cons hcolumn .nil)) ?_
          exact List.forall_mem_append.mpr ⟨hfields, by simpa using hid⟩
  | found hleading hidentity htrailing hbefore hfield hafter =>
      cases hid : field.isIdentity with
      | true => exact absurd (hfirst hid) (by simp)
      | false =>
          rw [List.append_assoc, List.cons_append]
          refine .found hleading hidentity (List.rel_append htrailing (.cons hcolumn .nil))
            hbefore hfield ?_
          exact List.forall_mem_append.mpr ⟨hafter, by simpa using hid⟩

end Draft

/-! ## One field -/

section Field

variable {schema : Schema} {registry : Registry} {draft : Draft} {earlier : List Field}
  {field : Field} {name : Ident}

/-- The field has no collision with an earlier one. -/
def checkApart (record : String) (draft : Draft) (field : Field) (name : Ident) :
    Except Error Unit :=
  match draft.collision? field.name name with
  | some other => .error (.schema (.collision record field.name other.field name.name))
  | none => .ok ()

/-- The field is no second identity. -/
def checkOneIdentity (record : String) (draft : Draft) (field : Field) : Except Error Unit :=
  match field.isIdentity, draft.rest with
  | true, some (identity, _) => .error (.schema (.secondIdentity record identity.field field.name))
  | _, _ => .ok ()

/-- The type of the field has a handler. -/
def findHandler (registry : Registry) (record : String) (field : Field) : Except Error Handler :=
  match registry.handler? field.type with
  | some handler => .ok handler
  | none => .error (.unsupportedType (.unregisteredField record field.name field.type))

/-- A field is added check by check. -/
theorem addField_eq (registry : Registry) (record : String) (draft : Draft) (field : Field) :
    addField registry record draft field = do
      let name ← schemaName record field.storageName
      checkApart record draft field name
      checkOneIdentity record draft field
      let handler ← findHandler registry record field
      return draft.place field ⟨field.name, name, field.type, field.modifiers, handler⟩ := by
  unfold addField checkApart checkOneIdentity findHandler Draft.place
  -- The steps stand inside one another there, so the two agree once every one is decided.
  refine congrArg (schemaName record field.storageName >>= ·) (funext fun name => ?_)
  cases draft.collision? field.name name <;> cases field.isIdentity <;> cases draft.rest <;>
    cases registry.handler? field.type <;> rfl

/-- A name is read where the rule for it holds. -/
theorem checked_schemaName {rule : Rule} {text : String}
    (hrule : rule.Holds schema registry ↔ Ident.Plain text)
    (hraises : rule.Raises schema (.schema (.badName schema.name (Ident.fault text)))) :
    Checked schema registry [rule] (fun name : Ident => name.name = text)
      (schemaName schema.name text) := by
  rw [← Ident.isName_iff_plain] at hrule
  unfold schemaName Ident.parse
  split
  · next hname => exact checked_of_holds (hrule.mpr hname) rfl
  · next hname => exact checked_of_not_holds (mt hrule.mp hname) hraises

theorem checked_checkApart (hcovers : draft.Covers registry earlier)
    (hname : name.name = field.storageName) :
    Checked schema registry [.apart earlier field] (fun _ => True)
      (checkApart schema.name draft field name) := by
  have hcolumns := hcovers.columns
  unfold checkApart
  cases hcollision : draft.collision? field.name name with
  | none =>
      refine checked_of_holds (fun other hother => ?_) trivial
      obtain ⟨column, hcolumn, hcarries⟩ := exists_of_mem_right hcolumns hother
      have := List.find?_eq_none.mp hcollision column hcolumn
      exact (hcarries.apart_iff hname).mpr (by simpa using this)
  | some column =>
      obtain ⟨other, hother, hcarries⟩ :=
        exists_of_mem_right hcolumns.flip (List.mem_of_find?_eq_some hcollision)
      have hclash : ¬other.Apart field := by
        rw [hcarries.apart_iff hname, List.find?_some hcollision]
        simp
      simp only [hcarries.field_eq, hname]
      exact checked_of_not_holds (fun hall => hclash (hall other hother))
        (.apart field hother hclash)

theorem checked_checkOneIdentity (hcovers : draft.Covers registry earlier) :
    Checked schema registry [.oneIdentity earlier field]
      (fun _ => field.isIdentity = true → draft.rest = none)
      (checkOneIdentity schema.name draft field) := by
  unfold checkOneIdentity
  cases hid : field.isIdentity with
  | false => exact checked_of_holds (fun h => absurd h (by simp [hid])) (by simp)
  | true =>
      cases hcovers with
      | searching hleading hfields => exact checked_of_holds (fun _ => hfields) (fun _ => rfl)
      | @found _ _ _ before after first hleading hidentity htrailing hbefore hfield hafter =>
          have hmem : first ∈ before ++ first :: after := by simp
          simp only [hidentity.field_eq]
          refine checked_of_not_holds (fun hall => ?_) (.oneIdentity field hmem hfield)
          rw [hall hid first hmem] at hfield
          contradiction

theorem checked_findHandler :
    Checked schema registry [.handler field]
      (fun handler => registry.handler? field.type = some handler)
      (findHandler registry schema.name field) := by
  have hrule : (Rule.handler field).Holds schema registry ↔
      (registry.handler? field.type).isSome = true := Iff.rfl
  unfold findHandler
  cases hhandler : registry.handler? field.type with
  | some handler => exact checked_of_holds (by simp [hrule, hhandler]) rfl
  | none => exact checked_of_not_holds (by simp [hrule, hhandler]) (.handler field)

/-- A field is added by its four rules. -/
theorem checked_addField (hcovers : draft.Covers registry earlier) :
    Checked schema registry (Rule.ofField earlier field)
      (fun next => next.Covers registry (earlier ++ [field]))
      (addField registry schema.name draft field) := by
  rw [addField_eq]
  refine (checked_schemaName Iff.rfl (.storageName field)).bind fun name hname =>
    (checked_checkApart hcovers hname).bind fun _ _ =>
    (checked_checkOneIdentity hcovers).bind fun _ hfirst =>
    checked_findHandler.bind fun handler hhandler => checked_pure ?_
  exact hcovers.place ⟨rfl, hname, rfl, rfl, hhandler⟩ hfirst

end Field

/-! ## All fields -/

section Schema

variable {schema : Schema} {registry : Registry}

theorem checked_foldlM {fields earlier : List Field} {draft : Draft}
    (hcovers : draft.Covers registry earlier) :
    Checked schema registry (Rule.ofFields earlier fields)
      (fun last => last.Covers registry (earlier ++ fields))
      (fields.foldlM (addField registry schema.name) draft) := by
  -- Each field is checked against those before it, so the induction is for any that came before.
  induction fields generalizing earlier draft with
  | nil => exact checked_pure (by simpa using hcovers)
  | cons field rest ih =>
      rw [List.foldlM_cons]
      refine (checked_addField hcovers).bind fun next hnext => ?_
      have hrest := ih hnext
      rw [List.append_assoc, List.singleton_append] at hrest
      exact hrest

/-- A table as the draft of its columns. -/
def draft (table : Table) : Draft :=
  ⟨table.leading, some (table.identity, table.trailing)⟩

/-- A table has the names that a schema declares and the columns of its fields. -/
structure Answers (registry : Registry) (schema : Schema) (table : Table) : Prop where
  record_eq : table.record = schema.name
  name_eq : table.name.name = schema.tableName
  covers : table.draft.Covers registry schema.fields

/-- Resolution follows the rules of the schema. -/
theorem checked_resolve (schema : Schema) (registry : Registry) :
    Checked schema registry schema.rules (Answers registry schema) (resolve schema registry) := by
  refine (checked_schemaName Iff.rfl .tableName).bind fun name hname => ?_
  refine (checked_foldlM (.searching .nil (by simp))).bind fun last hlast => ?_
  rw [List.nil_append] at hlast
  have hidentity : Rule.identity.Holds schema registry ↔ last.rest ≠ none := hlast.exists_iff
  obtain ⟨leading, rest⟩ := last
  cases rest with
  | none => exact checked_of_not_holds (by simp [hidentity]) .identity
  | some found => exact checked_of_holds (by simp [hidentity]) ⟨rfl, hname, hlast⟩

end Schema

end Table

end RecordSql
