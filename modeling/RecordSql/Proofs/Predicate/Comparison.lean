import RecordSql.Predicate.Operand

/-!
# Comparisons that pass the checks

Everything that a comparison can become once its operands are known, case by case: which test it
is, and what was checked on the way.  What compiles a comparison and what evaluates one start from
the same test, so both are taken apart by the same cases.
-/

namespace RecordSql

theorem bind_eq_ok_iff {ε α β : Type} {x : Except ε α} {f : α → Except ε β} {b : β} :
    (x >>= f) = .ok b ↔ ∃ a, x = .ok a ∧ f a = .ok b := by
  cases x <;> simp [bind, Except.bind]

theorem map_eq_ok_iff {ε α β : Type} {x : Except ε α} {f : α → β} {b : β} :
    x.map f = .ok b ↔ ∃ a, x = .ok a ∧ f a = b := by
  cases x <;> simp [Except.map]

theorem mapError_eq_ok_iff {ε ε' α : Type} {x : Except ε α} {f : ε → ε'} {a : α} :
    x.mapError f = .ok a ↔ x = .ok a := by
  cases x with
  | error e =>
      constructor
      · intro h
        contradiction
      · intro h
        contradiction
  | ok b =>
      constructor
      · intro h
        obtain rfl := Except.ok.inj h
        rfl
      · intro h
        obtain rfl := Except.ok.inj h
        rfl

theorem boundField_eq_ok_iff {values : FieldValues} {field : String} {value : Value} :
    boundField values field = .ok value ↔ values field = some value := by
  unfold boundField
  cases values field <;> simp

theorem checkFamily_eq_ok_iff {column : Column} {value : Value} :
    checkFamily column value = .ok () ↔ column.family.accepts value = true := by
  unfold checkFamily
  split <;> simp_all

theorem predicateColumn_eq_ok_iff {table : Table} {name : String} {column : Column} :
    predicateColumn table name = .ok column ↔
      table.find? name = some column ∧ column.family = .boolean := by
  unfold predicateColumn Table.column
  cases table.find? name with
  | none => simp [bind, Except.bind]
  | some found =>
      by_cases hfamily : found.family = .boolean
      · simp only [bind, Except.bind, hfamily, if_true, pure, Except.pure, Except.ok.injEq,
          Option.some.injEq]
        exact ⟨fun h => ⟨h, h ▸ hfamily⟩, fun h => h.1⟩
      · simp only [bind, Except.bind, hfamily, if_false, throw, throwThe, MonadExceptOf.throw,
          Option.some.injEq]
        constructor
        · intro h
          contradiction
        · rintro ⟨rfl, h⟩
          contradiction

/-- The operand that a predicate is, case by case. -/
inductive Operand.Reads (table : Table) : Predicate → Operand → Prop
  | column {name : String} {column : Column} (hcolumn : table.find? name = some column) :
      Operand.Reads table (.field name .row) (.column column)
  | param {name : String} : Operand.Reads table (.field name .param) (.param name)
  | literal {value : Literal} : Operand.Reads table (.literal value) (.literal value)

theorem Operand.reads_of_ofPredicate {table : Table} {predicate : Predicate} {operand : Operand}
    (h : Operand.ofPredicate table predicate = .ok operand) :
    Operand.Reads table predicate operand := by
  cases predicate with
  | literal value =>
      obtain rfl := Except.ok.inj h
      exact .literal
  | field name slot =>
      cases slot with
      | row =>
          obtain ⟨column, hcolumn, rfl⟩ := map_eq_ok_iff.mp h
          unfold Table.column at hcolumn
          split at hcolumn
          · next hfind =>
            obtain rfl := Except.ok.inj hcolumn
            exact .column hfind
          · contradiction
      | param =>
          obtain rfl := Except.ok.inj h
          exact .param
  | compare op left right => contradiction
  | join op left right => contradiction

theorem Operand.ofPredicate_of_reads {table : Table} {predicate : Predicate} {operand : Operand}
    (h : Operand.Reads table predicate operand) :
    Operand.ofPredicate table predicate = .ok operand := by
  cases h with
  | column hcolumn => simp [ofPredicate, Table.column, hcolumn, Except.map]
  | param => rfl
  | literal => rfl

namespace Test

/-! ## The cases -/

/-- What a comparison of operands in order can become. -/
inductive Settled (lookup : Lookup) (op : Comparison) : Operand → Operand → Test → Prop
  /-- A comparison with null asks about null. -/
  | null {operand : Operand} : Settled lookup op operand (.literal .null) (.null op operand)
  /-- So does a comparison for equality with a field of the parameter that is not set. -/
  | unset {column : Column} {field : String} {value : Value}
      (hlookup : lookup field = .ok (some value)) (hfamily : column.family.accepts value = true)
      (hdefault : value.isDefault = true) (hop : op.isEquality = true) :
      Settled lookup op (.column column) (.param field) (.null op (.column column))
  | columns {a b : Column} (hfamily : a.family = b.family) :
      Settled lookup op (.column a) (.column b) (.compare op (.column a) (.column b))
  | columnLiteral {column : Column} {value : Literal} (hvalue : value ≠ .null)
      (hfamily : column.family.accepts value.toValue = true) :
      Settled lookup op (.column column) (.literal value)
        (.compare op (.column column) (.literal value))
  | columnFree {column : Column} {field : String} (hlookup : lookup field = .ok none) :
      Settled lookup op (.column column) (.param field)
        (.compare op (.column column) (.param field))
  | columnBound {column : Column} {field : String} {value : Value}
      (hlookup : lookup field = .ok (some value)) (hfamily : column.family.accepts value = true)
      (hset : (value.isDefault && op.isEquality) = false) :
      Settled lookup op (.column column) (.param field)
        (.compare op (.column column) (.param field))
  | paramLiteral {field : String} {bound : Option Value} {value : Literal} (hvalue : value ≠ .null)
      (hlookup : lookup field = .ok bound)
      (hvalues : ∀ held ∈ bound, checkValues held value.toValue = .ok ()) :
      Settled lookup op (.param field) (.literal value)
        (.compare op (.param field) (.literal value))
  | params {a b : String} {first second : Option Value} (hfirst : lookup a = .ok first)
      (hsecond : lookup b = .ok second)
      (hvalues : ∀ x ∈ first, ∀ y ∈ second, checkValues x y = .ok ()) :
      Settled lookup op (.param a) (.param b) (.compare op (.param a) (.param b))
  | literals {a b : Literal} (hvalue : b ≠ .null)
      (hvalues : checkValues a.toValue b.toValue = .ok ()) :
      Settled lookup op (.literal a) (.literal b) (.compare op (.literal a) (.literal b))

/-- A test for null asks about the operand that is first in order. -/
theorem Settled.of_null {lookup : Lookup} {op asked : Comparison} {left right operand : Operand}
    (h : Settled lookup op left right (.null asked operand)) : asked = op ∧ operand = left := by
  cases h <;> exact ⟨rfl, rfl⟩

/-- A comparison is of the operands in order. -/
theorem Settled.of_compare {lookup : Lookup} {op asked : Comparison}
    {left right first second : Operand}
    (h : Settled lookup op left right (.compare asked first second)) :
    asked = op ∧ first = left ∧ second = right := by
  cases h <;> exact ⟨rfl, rfl, rfl⟩

theorem isNull_eq_true_iff {operand : Operand} :
    operand.isNull = true ↔ operand = .literal .null := by
  cases operand with
  | column column => simp [Operand.isNull]
  | param field => simp [Operand.isNull]
  | literal value => cases value <;> simp [Operand.isNull]

theorem isNull_literal {value : Literal} (h : value ≠ .null) :
    (Operand.literal value).isNull = false := by
  cases value with
  | null => contradiction
  | _ => rfl

/-- A comparison of operands in order that passes the checks is one of the cases. -/
theorem settled_of_settle {lookup : Lookup} {op : Comparison} {left right : Operand} {test : Test}
    (horder : left.rank ≤ right.rank) (h : settle lookup op left right = .ok test) :
    Settled lookup op left right test := by
  unfold settle at h
  split at h
  case isTrue hnull =>
    obtain rfl := isNull_eq_true_iff.mp hnull
    obtain rfl := Except.ok.inj h
    exact .null
  case isFalse hnull =>
    have hliteral (value : Literal) (hright : right = .literal value) : value ≠ .null := by
      rintro rfl
      exact hnull (isNull_eq_true_iff.mpr hright)
    split at h
    · obtain ⟨_, hcheck, h⟩ := bind_eq_ok_iff.mp h
      obtain rfl := Except.ok.inj h
      refine .columns ?_
      unfold checkColumns at hcheck
      split at hcheck <;> simp_all
    · obtain ⟨_, hcheck, h⟩ := bind_eq_ok_iff.mp h
      obtain rfl := Except.ok.inj h
      exact .columnLiteral (hliteral _ rfl) (checkFamily_eq_ok_iff.mp hcheck)
    · obtain ⟨bound, hlookup, h⟩ := bind_eq_ok_iff.mp h
      cases bound with
      | none =>
          obtain rfl := Except.ok.inj h
          exact .columnFree hlookup
      | some value =>
          obtain ⟨_, hcheck, h⟩ := bind_eq_ok_iff.mp h
          have hfamily := checkFamily_eq_ok_iff.mp hcheck
          obtain rfl := Except.ok.inj h
          split
          · next hunset =>
            rw [Bool.and_eq_true] at hunset
            exact .unset hlookup hfamily hunset.1 hunset.2
          · next hset => exact .columnBound hlookup hfamily (Bool.eq_false_iff.mpr hset)
    · obtain ⟨bound, hlookup, h⟩ := bind_eq_ok_iff.mp h
      cases bound with
      | none =>
          obtain rfl := Except.ok.inj h
          exact .paramLiteral (hliteral _ rfl) hlookup (by simp)
      | some value =>
          obtain ⟨_, hcheck, h⟩ := bind_eq_ok_iff.mp h
          obtain rfl := Except.ok.inj h
          exact .paramLiteral (hliteral _ rfl) hlookup (by simpa using hcheck)
    · obtain ⟨first, hfirst, h⟩ := bind_eq_ok_iff.mp h
      obtain ⟨second, hsecond, h⟩ := bind_eq_ok_iff.mp h
      cases first with
      | none =>
          obtain rfl := Except.ok.inj h
          exact .params hfirst hsecond (by simp)
      | some x =>
          cases second with
          | none =>
              obtain rfl := Except.ok.inj h
              exact .params hfirst hsecond (by simp)
          | some y =>
              obtain ⟨_, hcheck, h⟩ := bind_eq_ok_iff.mp h
              obtain rfl := Except.ok.inj h
              exact .params hfirst hsecond (by simpa using hcheck)
    · obtain ⟨_, hcheck, h⟩ := bind_eq_ok_iff.mp h
      obtain rfl := Except.ok.inj h
      exact .literals (hliteral _ rfl) hcheck
    · -- What is left is out of order: a column or a parameter behind something of higher rank.
      have hliteral (value : Literal) : 2 ≤ (Operand.literal value).rank := by
        cases value <;> simp [Operand.rank]
      cases left <;> cases right <;> simp_all [Operand.rank] <;> grind

/-- A comparison of predicates that passes the checks is one of the cases, of its operands or of
its operands exchanged. -/
theorem settled_of_ofComparison {table : Table} {lookup : Lookup} {op : Comparison}
    {left right : Predicate} {test : Test}
    (h : ofComparison table lookup op left right = .ok test) :
    ∃ a b, Operand.Reads table left a ∧ Operand.Reads table right b ∧
      ((b.rank < a.rank ∧ Settled lookup op.flip b a test) ∨
        (a.rank ≤ b.rank ∧ Settled lookup op a b test)) := by
  unfold ofComparison at h
  obtain ⟨a, ha, h⟩ := bind_eq_ok_iff.mp h
  obtain ⟨b, hb, h⟩ := bind_eq_ok_iff.mp h
  refine ⟨a, b, Operand.reads_of_ofPredicate ha, Operand.reads_of_ofPredicate hb, ?_⟩
  by_cases horder : b.rank < a.rank
  · simp only [arrange, horder, if_true] at h
    exact Or.inl ⟨horder, settled_of_settle (Nat.le_of_lt horder) h⟩
  · simp only [arrange, horder, if_false] at h
    exact Or.inr ⟨Nat.le_of_not_lt horder, settled_of_settle (Nat.le_of_not_lt horder) h⟩

/-! ## From the cases to the checks -/

section Converse

variable {lookup : Lookup} {op : Comparison} {left right : Operand} {test : Test}

/-- Every one of the cases passes the checks. -/
theorem settle_of_settled (h : Settled lookup op left right test) :
    settle lookup op left right = .ok test := by
  cases h with
  | null => rfl
  | unset hlookup hfamily hdefault hop =>
      have hcheck := checkFamily_eq_ok_iff.mpr hfamily
      simp [settle, Operand.isNull, hlookup, hcheck, hdefault, hop, bind, Except.bind, pure,
        Except.pure]
  | columns hfamily =>
      simp [settle, Operand.isNull, checkColumns, hfamily, bind, Except.bind, pure, Except.pure]
  | columnLiteral hvalue hfamily =>
      have hnull := isNull_literal hvalue
      have hcheck := checkFamily_eq_ok_iff.mpr hfamily
      simp [settle, hnull, hcheck, bind, Except.bind, pure, Except.pure]
  | columnFree hlookup =>
      simp [settle, Operand.isNull, hlookup, bind, Except.bind, pure, Except.pure]
  | columnBound hlookup hfamily hset =>
      have hcheck := checkFamily_eq_ok_iff.mpr hfamily
      simp [settle, Operand.isNull, hlookup, hcheck, hset, bind, Except.bind, pure, Except.pure]
  | @paramLiteral field bound value hvalue hlookup hvalues =>
      have hnull := isNull_literal hvalue
      cases bound with
      | none => simp [settle, hnull, hlookup, bind, Except.bind, pure, Except.pure]
      | some held =>
          have hcheck := hvalues held rfl
          simp [settle, hnull, hlookup, hcheck, bind, Except.bind, pure, Except.pure]
  | @params a b first second hfirst hsecond hvalues =>
      cases first with
      | none => simp [settle, Operand.isNull, hfirst, hsecond, bind, Except.bind, pure, Except.pure]
      | some x =>
          cases second with
          | none =>
              simp [settle, Operand.isNull, hfirst, hsecond, bind, Except.bind, pure, Except.pure]
          | some y =>
              have hcheck := hvalues x rfl y rfl
              simp [settle, Operand.isNull, hfirst, hsecond, hcheck, bind, Except.bind, pure,
                Except.pure]
  | literals hvalue hvalues =>
      have hnull := isNull_literal hvalue
      simp [settle, hnull, hvalues, bind, Except.bind, pure, Except.pure]

/-- The cases depend on no field of the parameter but those of the operands. -/
theorem Settled.of_lookup {lookup' : Lookup} (h : Settled lookup op left right test)
    (hlookup' : ∀ field, left = .param field ∨ right = .param field →
      lookup' field = lookup field) : Settled lookup' op left right test := by
  cases h with
  | null => exact .null
  | unset hlookup hfamily hdefault hop =>
      exact .unset (by rwa [hlookup' _ (Or.inr rfl)]) hfamily hdefault hop
  | columns hfamily => exact .columns hfamily
  | columnLiteral hvalue hfamily => exact .columnLiteral hvalue hfamily
  | columnFree hlookup => exact .columnFree (by rwa [hlookup' _ (Or.inr rfl)])
  | columnBound hlookup hfamily hset =>
      exact .columnBound (by rwa [hlookup' _ (Or.inr rfl)]) hfamily hset
  | paramLiteral hvalue hlookup hvalues =>
      exact .paramLiteral hvalue (by rwa [hlookup' _ (Or.inl rfl)]) hvalues
  | params hfirst hsecond hvalues =>
      exact .params (by rwa [hlookup' _ (Or.inl rfl)]) (by rwa [hlookup' _ (Or.inr rfl)]) hvalues
  | literals hvalue hvalues => exact .literals hvalue hvalues

end Converse

/-- A comparison of predicates is one of the cases, of its operands in order. -/
theorem ofComparison_of_settled {table : Table} {lookup : Lookup} {op : Comparison}
    {left right : Predicate} {a b : Operand} {test : Test} (hleft : Operand.Reads table left a)
    (hright : Operand.Reads table right b)
    (h : (b.rank < a.rank ∧ Settled lookup op.flip b a test) ∨
      (a.rank ≤ b.rank ∧ Settled lookup op a b test)) :
    ofComparison table lookup op left right = .ok test := by
  have ha := Operand.ofPredicate_of_reads hleft
  have hb := Operand.ofPredicate_of_reads hright
  rcases h with ⟨horder, hsettled⟩ | ⟨horder, hsettled⟩
  · simp [ofComparison, ha, hb, arrange, horder, settle_of_settled hsettled, bind, Except.bind]
  · simp [ofComparison, ha, hb, arrange, Nat.not_lt.mpr horder, settle_of_settled hsettled, bind,
      Except.bind]

end Test

end RecordSql
