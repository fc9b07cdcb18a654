import RecordSql.Proofs.Predicate.Mirrored
import RecordSql.Proofs.Sql.Acceptance
import RecordSql.Proofs.Sql.Agreement

/-!
# Compilation of mirrored comparisons

Operands of different kinds are put in order before a comparison is compiled, so which of them
stands first in the predicate leaves no trace: the placeholders are handed out in the same order
and the fragment is the same.  Two operands of one kind stay as they stand, and there the texts
of a comparison and of the mirrored one differ, though no row tells them apart.
-/

namespace RecordSql

/-- What an operand of a comparison is. -/
inductive OperandKind where
  | column
  | param
  | literal
  | null
  deriving DecidableEq

namespace Predicate

/-- The kind of a predicate as an operand; joins and comparisons have none. -/
def operandKind? : Predicate → Option OperandKind
  | .field _ .row => some .column
  | .field _ .param => some .param
  | .literal .null => some .null
  | .literal _ => some .literal
  | _ => none

/-- Two predicates are not operands of one kind. -/
def DifferInKind (left right : Predicate) : Prop :=
  ∀ kind, left.operandKind? = some kind → right.operandKind? ≠ some kind

/-- An operand has a kind, and the place that its kind has among the four. -/
theorem exists_operandKind? {table : Table} {predicate : Predicate} {operand : Operand}
    (h : Operand.Reads table predicate operand) :
    ∃ kind, predicate.operandKind? = some kind ∧
      [OperandKind.column, .param, .literal, .null][operand.rank]? = some kind := by
  cases h with
  | column | param => exact ⟨_, rfl, rfl⟩
  | @literal value => cases value <;> exact ⟨_, rfl, rfl⟩

theorem rank_ne_of_differInKind {table : Table} {left right : Predicate} {a b : Operand}
    (hleft : Operand.Reads table left a) (hright : Operand.Reads table right b)
    (h : left.DifferInKind right) : a.rank ≠ b.rank := by
  obtain ⟨kind, hkind, hplace⟩ := exists_operandKind? hleft
  obtain ⟨other, hother, hplace'⟩ := exists_operandKind? hright
  intro hrank
  rw [hrank, hplace'] at hplace
  obtain rfl := Option.some.inj hplace
  exact h _ hkind hother

namespace Mirrored

variable {may : Predicate → Predicate → Prop}
  {predicate predicate' left right left' right' : Predicate}

theorem operandKind?_eq (h : Mirrored may predicate predicate') :
    predicate'.operandKind? = predicate.operandKind? := by
  cases h <;> rfl

theorem differInKind (hleft : Mirrored may left left') (hright : Mirrored may right right')
    (h : left.DifferInKind right) : right'.DifferInKind left' := by
  intro kind hkind hkind'
  rw [hright.operandKind?_eq] at hkind
  rw [hleft.operandKind?_eq] at hkind'
  exact h kind hkind' hkind

/-- Where operands of different kinds are exchanged the test is the same. -/
theorem ofComparison {table : Table} {lookup : Test.Lookup} {op : Comparison} {test : Test}
    (hleft : Mirrored may left left') (hright : Mirrored may right right')
    (hkinds : left.DifferInKind right)
    (h : Test.ofComparison table lookup op left right = .ok test) :
    Test.ofComparison table lookup op.flip right' left' = .ok test := by
  obtain ⟨a, b, ha, hb, hsettled⟩ := Test.settled_of_ofComparison h
  rw [hleft.eq_of_reads ha, hright.eq_of_reads hb]
  exact Test.ofComparison_flip_of_rank ha hb (rank_ne_of_differInKind ha hb hkinds) hsettled

/-- So the predicate is written alike, if no operands of one kind are exchanged. -/
theorem compiled {compiler : Sql.Compiler} {plan : Sql.Plan}
    (h : Mirrored DifferInKind predicate predicate')
    (hcompiled : Sql.Compiled compiler predicate plan) :
    Sql.Compiled compiler predicate' plan := by
  induction h generalizing plan with
  | literal value => exact hcompiled
  | field name slot => exact hcompiled
  | kept op hleft hright =>
      cases hcompiled with
      | nullTest htest hwanted hside =>
          obtain ⟨rfl, rfl⟩ := hleft.eq_of_ofComparison hright htest
          exact .nullTest htest hwanted hside
      | compare htest hfirst hsecond =>
          obtain ⟨rfl, rfl⟩ := hleft.eq_of_ofComparison hright htest
          exact .compare htest hfirst hsecond
  | mirrored op hkinds hleft hright =>
      cases hcompiled with
      | nullTest htest hwanted hside =>
          exact .nullTest (hleft.ofComparison hright hkinds htest) hwanted hside
      | compare htest hfirst hsecond =>
          exact .compare (hleft.ofComparison hright hkinds htest) hfirst hsecond
  | join op hleft hright ihLeft ihRight =>
      cases hcompiled with
      | join hfirst hsecond => exact .join (ihLeft hfirst) (ihRight hsecond)

/-- The plan is all that the placeholders are handed out for. -/
theorem compile {table : Table} {param : Option FieldValues} {fragment : Sql.Fragment}
    (h : Mirrored DifferInKind predicate predicate')
    (hcompile : Sql.compile table param predicate = .ok fragment) :
    Sql.compile table param predicate' = .ok fragment := by
  obtain ⟨plan, held, hcompiled, hissues, hfragment⟩ := Sql.compile_eq_ok_iff.mp hcompile
  exact Sql.compile_eq_ok_iff.mpr ⟨plan, held, h.compiled hcompiled, hissues, hfragment⟩

end Mirrored

/-- **The order of operands does not matter.**  Whichever comparisons of a predicate are mirrored,
evaluation has the same outcome on every row.  If none of them has two operands of one kind, the
predicate also compiles to the same fragment: one expression, which has one text in every dialect,
with one list of bindings and one of deferred placeholders. -/
theorem sameOutcome_of_mirrored {may : Predicate → Predicate → Prop}
    {predicate predicate' : Predicate} (h : Mirrored may predicate predicate') (table : Table)
    (param : Option FieldValues) :
    (∀ row, SameOutcome (predicate.evaluate table row param)
      (predicate'.evaluate table row param)) ∧
    ((∀ left right, may left right → left.DifferInKind right) →
      SameOutcome (Sql.compile table param predicate) (Sql.compile table param predicate')) := by
  constructor
  · intro row
    have hany : Mirrored (fun _ _ => True) predicate predicate' := h.mono fun _ _ _ => trivial
    have hback := hany.symm fun _ _ _ => trivial
    exact .of_imp (fun _ => hany.evaluate) fun _ => hback.evaluate
  · intro hmay
    have hkinds : Mirrored DifferInKind predicate predicate' := h.mono hmay
    have hback := hkinds.symm Mirrored.differInKind
    exact .of_imp (fun _ => hkinds.compile) fun _ => hback.compile

end Predicate

namespace Stock

/-- A column against a parameter, and the other way. -/
def valuable : Predicate :=
  .join .and (.compare .gt (.row "Value") (.param "least"))
    (.compare .eq (.param "owner") (.row "Owner"))

/-- The first comparison is mirrored and the second one is kept. -/
def valuableMirrored : Predicate :=
  .join .and (.compare .lt (.param "least") (.row "Value"))
    (.compare .eq (.param "owner") (.row "Owner"))

def valuableFragment : Sql.Fragment where
  expr :=
    .join .and (.compare .gt (.column valueName) (.placeholder valueName))
      (.compare .eq (.column ownerName) (.placeholder ownerName))
  bindings := [⟨valueName, "least", .int 2⟩, ⟨ownerName, "owner", .int 7⟩]
  deferred := []

theorem sameOutcome_of_mirrored_valuable :
    Predicate.Mirrored Predicate.DifferInKind valuable valuableMirrored ∧
      (∀ left right : Predicate, left.DifferInKind right → left.DifferInKind right) ∧
      valuableMirrored.evaluate table row (some bounds) = .ok true ∧
      Sql.compile table (some bounds) valuableMirrored = .ok valuableFragment := by
  have hmirrored : Predicate.Mirrored Predicate.DifferInKind valuable valuableMirrored := by
    refine .join .and (.mirrored .gt ?_ (.field ..) (.field ..)) (.kept .eq (.field ..) (.field ..))
    rintro kind ⟨⟩ ⟨⟩
  have hsame := Predicate.sameOutcome_of_mirrored hmirrored table (some bounds)
  refine ⟨hmirrored, fun _ _ => id, (hsame.1 row).eq_ok ?_, (hsame.2 fun _ _ => id).eq_ok ?_⟩
  · rfl
  · rfl

end Stock

end RecordSql
