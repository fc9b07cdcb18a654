import RecordSql.Predicate.Evaluate
import RecordSql.Proofs.Predicate.Comparison

/-!
# Opposite operators

Every operator has one that says the opposite of it.  The two are checked alike and compare the
same values, so one of them is decided exactly when the other one is, and then the other way.
What is unknown of one is unknown of both, so two comparisons with opposite operators do not share
the rows among them: a row with a null in it is matched by neither.
-/

namespace RecordSql

namespace Comparison

/-- The operator that holds of two ordered values when this one does not. -/
def opposite : Comparison → Comparison
  | eq => ne
  | ne => eq
  | gt => le
  | lt => ge
  | ge => lt
  | le => gt

@[simp]
theorem opposite_opposite (op : Comparison) : op.opposite.opposite = op := by
  cases op <;> rfl

theorem flip_opposite (op : Comparison) : op.opposite.flip = op.flip.opposite := by
  cases op <;> rfl

theorem isEquality_opposite (op : Comparison) : op.opposite.isEquality = op.isEquality := by
  cases op <;> rfl

theorem allows_opposite (op : Comparison) (order : Ordering) :
    op.opposite.allows order = !op.allows order := by
  cases op <;> cases order <;> rfl

/-- The opposite of an operator is its negation, of documents and of values without an order
too. -/
theorem truth_opposite (op : Comparison) (a b : Value) :
    op.opposite.truth a b = Truth.not (op.truth a b) := by
  have hordered : (a.order? b).map op.opposite.allows = Truth.not ((a.order? b).map op.allows) := by
    cases a.order? b with
    | none => rfl
    | some order => exact congrArg some (op.allows_opposite order)
  unfold truth
  split
  · -- Two documents, which have no order.
    cases op <;> simp [opposite, Truth.not]
  · exact hordered

end Comparison

namespace Test

/-- The same operands under the opposite operator. -/
def opposite : Test → Test
  | null op operand => null op.opposite operand
  | compare op left right => compare op.opposite left right

variable {lookup : Lookup} {op : Comparison}

/-- Which test a comparison becomes depends on the operator only by whether it is one for
equality, and then its opposite is one too. -/
theorem Settled.opposite {left right : Operand} {test : Test}
    (h : Settled lookup op left right test) :
    Settled lookup op.opposite left right test.opposite := by
  cases h with
  | null => exact .null
  | unset hlookup hfamily hdefault hop =>
      exact .unset hlookup hfamily hdefault (op.isEquality_opposite.trans hop)
  | columns hfamily => exact .columns hfamily
  | columnLiteral hvalue hfamily => exact .columnLiteral hvalue hfamily
  | columnFree hlookup => exact .columnFree hlookup
  | columnBound hlookup hfamily hset =>
      exact .columnBound hlookup hfamily (by rwa [op.isEquality_opposite])
  | paramLiteral hvalue hlookup hvalues => exact .paramLiteral hvalue hlookup hvalues
  | params hfirst hsecond hvalues => exact .params hfirst hsecond hvalues
  | literals hvalue hvalues => exact .literals hvalue hvalues

theorem ofComparison_opposite {table : Table} {left right : Predicate} {test : Test}
    (h : ofComparison table lookup op left right = .ok test) :
    ofComparison table lookup op.opposite left right = .ok test.opposite := by
  obtain ⟨a, b, hleft, hright, horder⟩ := settled_of_ofComparison h
  refine ofComparison_of_settled hleft hright (horder.imp ?_ ?_)
  · rintro ⟨hrank, hsettled⟩
    exact ⟨hrank, by simpa only [op.flip_opposite] using hsettled.opposite⟩
  · rintro ⟨hrank, hsettled⟩
    exact ⟨hrank, hsettled.opposite⟩

end Test

theorem nullTest_opposite {op : Comparison} {wanted : Bool} (h : nullTest op = .ok wanted) :
    nullTest op.opposite = .ok (!wanted) := by
  cases op <;> first | contradiction | (obtain rfl := Except.ok.inj h; rfl)

namespace Scope

variable {scope : Scope} {outcome : Truth}

theorem testTruth_opposite {test : Test} (h : scope.testTruth test = .ok outcome) :
    scope.testTruth test.opposite = .ok outcome.not := by
  cases test with
  | null op operand =>
      obtain ⟨value, hvalue, h⟩ := bind_eq_ok_iff.mp h
      obtain ⟨wanted, hwanted, h⟩ := bind_eq_ok_iff.mp h
      obtain rfl := Except.ok.inj h
      refine bind_eq_ok_iff.mpr ⟨value, hvalue, bind_eq_ok_iff.mpr
        ⟨!wanted, nullTest_opposite hwanted, congrArg (Except.ok ∘ some) ?_⟩⟩
      cases value.isNull <;> cases wanted <;> rfl
  | compare op left right =>
      obtain ⟨a, ha, h⟩ := bind_eq_ok_iff.mp h
      obtain ⟨b, hb, h⟩ := bind_eq_ok_iff.mp h
      obtain rfl := Except.ok.inj h
      exact bind_eq_ok_iff.mpr ⟨a, ha, bind_eq_ok_iff.mpr
        ⟨b, hb, congrArg Except.ok (op.truth_opposite a b)⟩⟩

theorem truth_compare_opposite {op : Comparison} {left right : Predicate}
    (h : scope.truth (.compare op left right) = .ok outcome) :
    scope.truth (.compare op.opposite left right) = .ok outcome.not := by
  rw [truth] at h ⊢
  obtain ⟨test, htest, h⟩ := bind_eq_ok_iff.mp h
  exact bind_eq_ok_iff.mpr ⟨test.opposite, Test.ofComparison_opposite htest, testTruth_opposite h⟩

end Scope

namespace Predicate

variable (table : Table) (row : FieldValues) (param : Option FieldValues)

/-- A predicate is evaluated to whether its outcome is true. -/
theorem evaluate_eq_ok_iff {predicate : Predicate} {result : Bool} :
    predicate.evaluate table row param = .ok result ↔
      ∃ outcome, (Scope.mk table row param).truth predicate = .ok outcome ∧
        (outcome == some true) = result := by
  unfold evaluate
  rw [bind_eq_ok_iff]
  simp [pure, Except.pure]

theorem evaluate_eq_error_iff {predicate : Predicate} {error : Error} :
    predicate.evaluate table row param = .error error ↔
      (Scope.mk table row param).truth predicate = .error error := by
  unfold evaluate
  cases (Scope.mk table row param).truth predicate <;>
    simp [bind, Except.bind, pure, Except.pure]

/-- **Opposite operators are negations of each other in three values.**  Two comparisons that
differ only in that have an outcome both or neither, and the outcomes are opposite; so no row
matches both, and a row matches neither exactly when the comparison is unknown. -/
theorem evaluate_compare_opposite (op : Comparison) (left right : Predicate) :
    let truth (op : Comparison) := (Scope.mk table row param).truth (.compare op left right)
    let evaluate (op : Comparison) := (compare op left right).evaluate table row param
    (((∃ error, truth op = .error error) ∧ (∃ error, truth op.opposite = .error error) ∧
        (∃ error, evaluate op = .error error) ∧ ∃ error, evaluate op.opposite = .error error) ∨
      ∃ outcome : Truth, truth op = .ok outcome ∧ truth op.opposite = .ok outcome.not ∧
        evaluate op = .ok (outcome == some true) ∧
        evaluate op.opposite = .ok (outcome == some false)) ∧
    ¬(evaluate op = .ok true ∧ evaluate op.opposite = .ok true) ∧
    (evaluate op = .ok false ∧ evaluate op.opposite = .ok false ↔ truth op = .ok none) := by
  intro truth evaluate
  have hcases : (∃ error, truth op = .error error ∧ ∃ error, truth op.opposite = .error error) ∨
      ∃ outcome : Truth, truth op = .ok outcome ∧ truth op.opposite = .ok outcome.not := by
    cases hop : truth op with
    | ok outcome => exact .inr ⟨outcome, rfl, Scope.truth_compare_opposite hop⟩
    | error error =>
        cases hopposite : truth op.opposite with
        | error other => exact .inl ⟨error, rfl, other, rfl⟩
        | ok outcome =>
            -- The opposite of the opposite is the operator itself, which has no outcome.
            have := Scope.truth_compare_opposite hopposite
            rw [op.opposite_opposite] at this
            exact absurd (hop.symm.trans this) (by simp)
  obtain ⟨error, hop, other, hopposite⟩ | ⟨outcome, hop, hopposite⟩ := hcases
  · have hevaluate : evaluate op = .error error := (evaluate_eq_error_iff ..).mpr hop
    have hother : evaluate op.opposite = .error other := (evaluate_eq_error_iff ..).mpr hopposite
    refine ⟨.inl ⟨⟨_, hop⟩, ⟨_, hopposite⟩, ⟨_, hevaluate⟩, _, hother⟩, ?_, ?_⟩
    · simp [hevaluate]
    · simp [hevaluate, hop]
  · have hevaluate : evaluate op = .ok (outcome == some true) :=
      (evaluate_eq_ok_iff ..).mpr ⟨_, hop, rfl⟩
    have hother : evaluate op.opposite = .ok (outcome == some false) := by
      refine (evaluate_eq_ok_iff ..).mpr ⟨_, hopposite, ?_⟩
      rcases outcome with _ | _ | _ <;> rfl
    refine ⟨.inr ⟨_, hop, hopposite, hevaluate, hother⟩, ?_, ?_⟩
    · rw [hevaluate, hother]
      rcases outcome with _ | _ | _ <;> simp
    · rw [hevaluate, hother, hop]
      rcases outcome with _ | _ | _ <;> simp

end Predicate

end RecordSql
