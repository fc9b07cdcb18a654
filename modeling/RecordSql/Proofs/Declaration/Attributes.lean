import Mathlib.Data.List.Induction
import RecordSql.Declaration.Attribute
import RecordSql.Proofs.Predicate.Comparison

/-!
# What attributes say

Attributes are read from left to right into options.  The reading succeeds for lists of known
attributes with valid values that do not contradict each other, and the options can be told from the
list as a whole: whether an attribute is in it, and what the last one of a name was given.
-/

namespace RecordSql

namespace Attribute

/-- The attributes that a structure can have. -/
inductive OnRecord : Attribute → Prop
  | table (name : String) : OnRecord ⟨"table", .text name⟩
  | namingRule {name : String}
      (h : name ∈ ["PascalCase", "camelCase", "snake_case", "SCREAMING_SNAKE_CASE"]) :
      OnRecord ⟨"rename_all", .text name⟩

/-- The attributes that a field can have. -/
inductive OnField : Attribute → Prop
  | mark {name : String}
      (h : name ∈ ["id", "currency", "nullable", "not_null", "reference", "skip"]) :
      OnField ⟨name, .none⟩
  | column (name : String) : OnField ⟨"column", .text name⟩
  | precision {total fractional : Nat} (htotal : total < 256) (hfractional : fractional < 256) :
      OnField ⟨"precision", .numbers [total, fractional]⟩

/-! ## Lists of attributes -/

/-- Whether there is an attribute of a name. -/
def isGiven (name : String) (attributes : List Attribute) : Bool :=
  attributes.any (·.name == name)

/-- What the last attribute of a name is given. -/
def given? (name : String) (attributes : List Attribute) : Option Argument :=
  ((attributes.filter (·.name == name)).getLast?).map (·.argument)

/-- The text that an attribute is given. -/
def Argument.text? : Argument → Option String
  | .text value => some value
  | _ => Option.none

/-- The two numbers that an attribute is given. -/
def Argument.precision? : Argument → Option Precision
  | .numbers [total, fractional] => some ⟨total.toNat, fractional.toNat⟩
  | _ => Option.none

variable {name : String} {attributes : List Attribute} {item : Attribute}

@[simp] theorem isGiven_concat (name : String) (attributes : List Attribute) (item : Attribute) :
    isGiven name (attributes ++ [item]) = (isGiven name attributes || item.name == name) := by
  simp [isGiven]

@[simp] theorem given?_concat (name : String) (attributes : List Attribute) (item : Attribute) :
    given? name (attributes ++ [item]) =
      if item.name == name then some item.argument else given? name attributes := by
  unfold given?
  rw [List.filter_append]
  cases h : item.name == name with
  | true => simp [h]
  | false => simp [h]

end Attribute

namespace Declaration

open Attribute

/-! ## Attributes of a structure -/

theorem textArgument_eq_ok_iff {argument : Argument} {value : String} :
    textArgument argument = .ok value ↔ argument = .text value := by
  cases argument <;> simp [textArgument]

namespace RecordOptions

/-- The options that attributes come to. -/
def told (attributes : List Attribute) : RecordOptions where
  table := (given? "table" attributes).bind Argument.text?
  namingRule := ((given? "rename_all" attributes).bind Argument.text?).bind Text.NamingRule.ofName?

end RecordOptions

theorem exists_ofName?_iff {name : String} :
    (∃ rule, Text.NamingRule.ofName? name = some rule) ↔
      name ∈ ["PascalCase", "camelCase", "snake_case", "SCREAMING_SNAKE_CASE"] := by
  unfold Text.NamingRule.ofName?
  split <;> simp_all

namespace RecordOptions

variable {attributes : List Attribute} {item : Attribute} {options next : RecordOptions}

theorem onRecord_of_add (h : options.add item = .ok next) : item.OnRecord := by
  obtain ⟨name, argument⟩ := item
  unfold add at h
  dsimp only at h
  split at h
  · obtain ⟨value, hvalue, -⟩ := bind_eq_ok_iff.mp h
    obtain rfl := textArgument_eq_ok_iff.mp hvalue
    exact .table value
  · obtain ⟨value, hvalue, hnamed⟩ := bind_eq_ok_iff.mp h
    obtain rfl := textArgument_eq_ok_iff.mp hvalue
    cases hrule : Text.NamingRule.ofName? value with
    | none =>
        rw [hrule] at hnamed
        contradiction
    | some rule => exact .namingRule (exists_ofName?_iff.mp ⟨rule, hrule⟩)
  · contradiction

theorem add_told (attributes : List Attribute) (h : item.OnRecord) :
    (told attributes).add item = .ok (told (attributes ++ [item])) := by
  cases h with
  | table value =>
      simp [add, told, textArgument, Argument.text?, bind, Except.bind, pure, Except.pure]
  | @namingRule name hname =>
      obtain ⟨rule, hrule⟩ := exists_ofName?_iff.mpr hname
      simp [add, told, textArgument, Argument.text?, hrule, bind, Except.bind, pure, Except.pure]

/-- The attributes of a structure are read just if each of them is right by itself. -/
theorem read_eq_ok_iff :
    RecordOptions.read attributes = .ok options ↔
      (∀ item ∈ attributes, item.OnRecord) ∧ options = told attributes := by
  unfold RecordOptions.read
  induction attributes using List.reverseRecOn generalizing options with
  | nil => simp [told, given?, empty, pure, Except.pure, eq_comm]
  | append_singleton attributes item ih =>
      rw [List.foldlM_append, bind_eq_ok_iff]
      simp only [ih, List.foldlM_cons, List.foldlM_nil, bind_pure, List.forall_mem_append,
        List.forall_mem_singleton]
      constructor
      · rintro ⟨middle, ⟨hall, rfl⟩, hadd⟩
        have hitem := onRecord_of_add hadd
        rw [add_told attributes hitem] at hadd
        exact ⟨⟨hall, hitem⟩, (Except.ok.inj hadd).symm⟩
      · rintro ⟨⟨hall, hitem⟩, rfl⟩
        exact ⟨told attributes, ⟨hall, rfl⟩, add_told attributes hitem⟩

end RecordOptions

/-! ## Attributes of a field -/

theorem noArgument_eq_ok_iff {argument : Argument} : noArgument argument = .ok () ↔
    argument = .none := by
  cases argument <;> simp [noArgument]

theorem byteNumber_eq_ok_iff {number : Int} {byte : Nat} :
    byteNumber number = .ok byte ↔ number = byte ∧ byte < 256 := by
  unfold byteNumber
  split
  · simp only [reduceCtorEq, false_iff]
    omega
  · split
    · simp only [Except.ok.injEq]
      omega
    · simp only [reduceCtorEq, false_iff]
      omega

namespace FieldOptions

variable {attributes : List Attribute} {item : Attribute} {options next : FieldOptions}

theorem setNullable_eq_ok_iff {nullable : Bool} :
    options.setNullable nullable = .ok next ↔
      options.nullable ≠ some (!nullable) ∧ { options with nullable := some nullable } = next := by
  unfold setNullable
  split
  · next h => simp [h]
  · next h => simp [h]

/-- The options that attributes come to. -/
def told (attributes : List Attribute) : FieldOptions where
  isIdentity := isGiven "id" attributes
  column := (given? "column" attributes).bind Argument.text?
  isCurrency := isGiven "currency" attributes
  precision := (given? "precision" attributes).bind Argument.precision?
  nullable :=
    if isGiven "nullable" attributes then some true
    else if isGiven "not_null" attributes then some false
    else none
  isReference := isGiven "reference" attributes
  isSkipped := isGiven "skip" attributes

/-- Null is not both allowed and forbidden. -/
def Consistent (attributes : List Attribute) : Prop :=
  ¬(isGiven "nullable" attributes = true ∧ isGiven "not_null" attributes = true)

theorem Consistent.of_concat (h : Consistent (attributes ++ [item])) : Consistent attributes := by
  rintro ⟨hnullable, hnotNull⟩
  exact h ⟨by simp [hnullable], by simp [hnotNull]⟩

theorem onField_of_add (hsurplus : hasSurplus item = false) (h : options.add item = .ok next) :
    item.OnField := by
  obtain ⟨name, argument⟩ := item
  unfold add at h
  dsimp only at h
  split at h
  case h_2 =>
    obtain ⟨value, hvalue, -⟩ := bind_eq_ok_iff.mp h
    obtain rfl := textArgument_eq_ok_iff.mp hvalue
    exact .column value
  case h_4 =>
    obtain ⟨precision, hprecision, -⟩ := bind_eq_ok_iff.mp h
    unfold precisionArgument at hprecision
    split at hprecision
    · next total fractional rest =>
      obtain ⟨first, hfirst, hrest⟩ := bind_eq_ok_iff.mp hprecision
      obtain ⟨second, hsecond, -⟩ := bind_eq_ok_iff.mp hrest
      obtain ⟨rfl, htotal⟩ := byteNumber_eq_ok_iff.mp hfirst
      obtain ⟨rfl, hfractional⟩ := byteNumber_eq_ok_iff.mp hsecond
      obtain rfl : rest = [] := by simpa [hasSurplus] using hsurplus
      exact .precision htotal hfractional
    all_goals contradiction
  case h_5 | h_6 =>
    obtain ⟨_, -, hmarked⟩ := bind_eq_ok_iff.mp h
    obtain ⟨_, hnone, -⟩ := bind_eq_ok_iff.mp hmarked
    obtain rfl := noArgument_eq_ok_iff.mp hnone
    exact .mark (by simp)
  case h_9 => contradiction
  all_goals
    obtain ⟨_, hnone, -⟩ := bind_eq_ok_iff.mp h
    obtain rfl := noArgument_eq_ok_iff.mp hnone
    exact .mark (by simp)

theorem nullable_told_eq_true_iff :
    (told attributes).nullable = some true ↔ isGiven "nullable" attributes = true := by
  cases hnullable : isGiven "nullable" attributes <;>
    cases hnotNull : isGiven "not_null" attributes <;> simp [told, hnullable, hnotNull]

theorem nullable_told_eq_false_iff (hconsistent : Consistent attributes) :
    (told attributes).nullable = some false ↔ isGiven "not_null" attributes = true := by
  cases hnullable : isGiven "nullable" attributes <;>
    cases hnotNull : isGiven "not_null" attributes <;>
      simp_all [told, Consistent]

/-- Reading one more attribute contradicts none before it. -/
theorem consistent_of_add (hconsistent : Consistent attributes)
    (h : (told attributes).add item = .ok next) : Consistent (attributes ++ [item]) := by
  obtain ⟨name, argument⟩ := item
  by_cases hnullable : name = "nullable"
  · subst hnullable
    obtain ⟨_, hset, -⟩ := bind_eq_ok_iff.mp h
    have hallowed := (setNullable_eq_ok_iff.mp hset).1
    rw [Bool.not_true, ne_eq, nullable_told_eq_false_iff hconsistent] at hallowed
    simpa [Consistent] using hallowed
  · by_cases hnotNull : name = "not_null"
    · subst hnotNull
      obtain ⟨_, hset, -⟩ := bind_eq_ok_iff.mp h
      have hforbidden := (setNullable_eq_ok_iff.mp hset).1
      rw [Bool.not_false, ne_eq, nullable_told_eq_true_iff] at hforbidden
      simpa [Consistent] using hforbidden
    · simpa [Consistent, hnullable, hnotNull] using hconsistent

/-- One more attribute that is right and contradicts none is read. -/
theorem add_told (hitem : item.OnField) (hconsistent : Consistent (attributes ++ [item])) :
    (told attributes).add item = .ok (told (attributes ++ [item])) := by
  have hbefore := hconsistent.of_concat
  -- The two marks about null are read only where the other one was not, all others in any case.
  cases hitem with
  | mark h =>
      simp only [List.mem_cons, List.not_mem_nil, or_false] at h
      rcases h with rfl | rfl | rfl | rfl | rfl | rfl
      · simp [add, told, noArgument, bind, Except.bind, pure, Except.pure]
      · simp [add, told, noArgument, bind, Except.bind, pure, Except.pure]
      · have hfree : isGiven "not_null" attributes = false := by
          simpa [Consistent] using hconsistent
        have hset : (told attributes).setNullable true =
            .ok (told (attributes ++ [⟨"nullable", .none⟩])) := by
          refine setNullable_eq_ok_iff.mpr ⟨?_, by simp [told]⟩
          simp [nullable_told_eq_false_iff hbefore, hfree]
        simp [add, hset, noArgument, bind, Except.bind, pure, Except.pure]
      · have hfree : isGiven "nullable" attributes = false := by
          simpa [Consistent] using hconsistent
        have hset : (told attributes).setNullable false =
            .ok (told (attributes ++ [⟨"not_null", .none⟩])) := by
          refine setNullable_eq_ok_iff.mpr ⟨?_, by simp [told, hfree]⟩
          simp [nullable_told_eq_true_iff, hfree]
        simp [add, hset, noArgument, bind, Except.bind, pure, Except.pure]
      · simp [add, told, noArgument, bind, Except.bind, pure, Except.pure]
      · simp [add, told, noArgument, bind, Except.bind, pure, Except.pure]
  | column value =>
      simp [add, told, textArgument, Argument.text?, bind, Except.bind, pure, Except.pure]
  | precision htotal hfractional =>
      have hfirst := byteNumber_eq_ok_iff.mpr ⟨rfl, htotal⟩
      have hsecond := byteNumber_eq_ok_iff.mpr ⟨rfl, hfractional⟩
      simp [add, told, precisionArgument, hfirst, hsecond, Argument.precision?, bind, Except.bind,
        pure, Except.pure]

theorem hasSurplus_of_onField (h : item.OnField) : hasSurplus item = false := by
  cases h <;> simp [hasSurplus]

/-- Attributes without surplus numbers are read one by one just if each is right by itself and null
is not both allowed and forbidden. -/
theorem foldlM_add_eq_ok_iff (hsurplus : attributes.any hasSurplus = false) :
    attributes.foldlM add empty = .ok options ↔
      (∀ item ∈ attributes, item.OnField) ∧ Consistent attributes ∧ options = told attributes := by
  induction attributes using List.reverseRecOn generalizing options with
  | nil => simp [told, given?, isGiven, Consistent, empty, pure, Except.pure, eq_comm]
  | append_singleton attributes item ih =>
      simp only [List.any_append, List.any_cons, List.any_nil, Bool.or_false,
        Bool.or_eq_false_iff] at hsurplus
      rw [List.foldlM_append, bind_eq_ok_iff]
      simp only [ih hsurplus.1, List.foldlM_cons, List.foldlM_nil, bind_pure,
        List.forall_mem_append, List.forall_mem_singleton]
      constructor
      · rintro ⟨middle, ⟨hall, hbefore, rfl⟩, hadd⟩
        have hitem := onField_of_add hsurplus.2 hadd
        have hconsistent := consistent_of_add hbefore hadd
        rw [add_told hitem hconsistent] at hadd
        exact ⟨⟨hall, hitem⟩, hconsistent, (Except.ok.inj hadd).symm⟩
      · rintro ⟨⟨hall, hitem⟩, hconsistent, rfl⟩
        exact ⟨told attributes, ⟨hall, hconsistent.of_concat, rfl⟩, add_told hitem hconsistent⟩

/-- The attributes of a field are read just if each is right by itself, null is not both allowed and
forbidden, and the identity is not skipped. -/
theorem read_eq_ok_iff :
    FieldOptions.read attributes = .ok options ↔
      (∀ item ∈ attributes, item.OnField) ∧ Consistent attributes ∧
        ¬(isGiven "skip" attributes = true ∧ isGiven "id" attributes = true) ∧
        options = told attributes := by
  unfold FieldOptions.read
  rw [bind_eq_ok_iff]
  cases hsurplus : attributes.any hasSurplus with
  | true =>
      simp only [if_true]
      constructor
      · rintro ⟨middle, -, hthrow⟩
        contradiction
      · rintro ⟨hall, -⟩
        obtain ⟨item, hmem, hitem⟩ := List.any_eq_true.mp hsurplus
        rw [hasSurplus_of_onField (hall item hmem)] at hitem
        contradiction
  | false =>
      -- What is left to check is that the identity is stored.
      simp only [foldlM_add_eq_ok_iff hsurplus]
      constructor
      · rintro ⟨middle, ⟨hall, hconsistent, rfl⟩, hrest⟩
        cases hstored : (told attributes).isSkipped && (told attributes).isIdentity with
        | true =>
            rw [hstored] at hrest
            contradiction
        | false =>
            rw [hstored] at hrest
            refine ⟨hall, hconsistent, ?_, (Except.ok.inj hrest).symm⟩
            simpa [told] using hstored
      · rintro ⟨hall, hconsistent, hstored, rfl⟩
        refine ⟨told attributes, ⟨hall, hconsistent, rfl⟩, ?_⟩
        have hkept : ((told attributes).isSkipped && (told attributes).isIdentity) = false := by
          simpa [told] using hstored
        rw [hkept]
        rfl

end FieldOptions

end Declaration

end RecordSql
