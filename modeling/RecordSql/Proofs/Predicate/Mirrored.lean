import Mathlib.Order.Basic
import RecordSql.Predicate.Evaluate
import RecordSql.Proofs.Predicate.Comparison

/-!
# Mirrored comparisons

A comparison says the same when its operands are exchanged and its operator is flipped.  Every
rule of a comparison is symmetric in that way: the checks of its operands, the tests for null, the
order of values and the equality of documents.  So any comparisons of a predicate can be mirrored,
however many and wherever they stand, and no row changes sides.
-/

namespace RecordSql

/-! ## The order of values -/

theorem Timestamp.compare_swap (a b : Timestamp) : (a.compare b).swap = b.compare a := by
  unfold compare
  rw [Ordering.swap_then, ← Std.OrientedOrd.eq_swap, ← Std.OrientedOrd.eq_swap]

theorem Uuid.compare_swap (a b : Uuid) : (a.compare b).swap = b.compare a := by
  have hdigit : Std.OrientedCmp fun x y : Fin 16 => Ord.compare x.val y.val :=
    ⟨Std.OrientedOrd.eq_swap⟩
  have hdigits : Std.OrientedCmp (List.compareLex fun x y : Fin 16 => Ord.compare x.val y.val) :=
    List.instOrientedCmpCompareLex
  exact hdigits.eq_swap.symm

theorem Binary64.compare_swap (a b : Binary64) :
    (a.compare b).map Ordering.swap = b.compare a := by
  cases a with
  | nan => cases b <;> rfl
  | infinite negative =>
      cases b with
      | nan => rfl
      | infinite negative' => exact congrArg some Std.OrientedOrd.eq_swap.symm
      | finite => cases negative <;> rfl
  | finite =>
      cases b with
      | nan => rfl
      | infinite negative => cases negative <;> rfl
      | finite => exact congrArg some Std.OrientedOrd.eq_swap.symm

/-- Exchanged values are in the opposite order, or in none again. -/
theorem Value.order?_swap (a b : Value) : (a.order? b).map Ordering.swap = b.order? a := by
  cases a <;> cases b <;>
    first
    | rfl
    | exact Binary64.compare_swap _ _
    | exact congrArg some (Timestamp.compare_swap _ _)
    | exact congrArg some (Uuid.compare_swap _ _)
    | exact congrArg some Std.OrientedOrd.eq_swap.symm

namespace Document

theorem Number.same_comm (a b : Number) : a.same b = b.same a := by
  cases a <;> cases b
  · exact Bool.beq_comm
  · rfl
  · rfl
  · next x y =>
    rw [same, same, ← y.compare_swap x]
    rcases y.compare x with _ | _ | _ | _ <;> rfl

mutual

theorem same_comm : ∀ a b : Document, a.same b = b.same a
  | .null, b => by cases b <;> rfl
  | .bool a, b => by
      cases b with
      | bool b => exact Bool.beq_comm
      | _ => rfl
  | .number a, b => by
      cases b with
      | number b => exact a.same_comm b
      | _ => rfl
  | .text a, b => by
      cases b with
      | text b => exact Bool.beq_comm
      | _ => rfl
  | .array a, b => by
      cases b with
      | array b => exact sameItems_comm a b
      | _ => rfl
  | .object a, b => by
      cases b with
      | object b => exact sameMembers_comm a b
      | _ => rfl

theorem sameItems_comm : ∀ a b : List Document, sameItems a b = sameItems b a
  | a :: as, b :: bs => by rw [sameItems, sameItems, same_comm a b, sameItems_comm as bs]
  | [], [] | [], _ :: _ | _ :: _, [] => rfl

theorem sameMembers_comm : ∀ a b : List (String × Document), sameMembers a b = sameMembers b a
  | (key, a) :: as, (other, b) :: bs => by
      rw [sameMembers, sameMembers, same_comm a b, sameMembers_comm as bs,
        Bool.beq_comm (a := key)]
  | [], [] | [], _ :: _ | _ :: _, [] => rfl

end

end Document

/-- A flipped operator says of exchanged values what the operator says of them. -/
theorem Comparison.truth_flip (op : Comparison) (a b : Value) :
    op.flip.truth b a = op.truth a b := by
  have hordered : (b.order? a).map op.flip.allows = (a.order? b).map op.allows := by
    rw [← a.order?_swap b, Option.map_map]
    exact congrArg (Option.map · (a.order? b)) (funext op.allows_flip)
  cases a with
  | json document =>
      cases b with
      | json other => cases op <;> simp [truth, flip, document.same_comm other]
      | _ => exact hordered
  | _ => cases b <;> exact hordered

/-! ## One comparison -/

theorem checkValues_comm {a b : Value} (h : checkValues a b = .ok ()) :
    checkValues b a = .ok () := by
  unfold checkValues at h ⊢
  have hcomm : (b.isNull || a.isNull || b.kind == a.kind || (b.isNumeric && a.isNumeric)) =
      (a.isNull || b.isNull || a.kind == b.kind || (a.isNumeric && b.isNumeric)) := by
    rw [Bool.or_comm b.isNull, Bool.and_comm b.isNumeric, Bool.beq_comm (a := b.kind)]
  rw [hcomm]
  split at h
  · next hcheck => rw [if_pos hcheck]
  · contradiction

theorem nullTest_flip {op : Comparison} {wanted : Bool} (h : nullTest op = .ok wanted) :
    nullTest op.flip = .ok wanted := by
  cases op <;> first | exact h | contradiction

namespace Test

/-- The test of the exchanged operands. -/
def mirror : Test → Test
  | null op operand => null op.flip operand
  | compare op left right => compare op.flip right left

/-- Only null has the last place. -/
theorem eq_null_of_rank {operand : Operand} (h : operand.rank = 3) :
    operand = .literal .null := by
  cases operand with
  | column | param => simp [Operand.rank] at h
  | literal value =>
      cases value with
      | null => rfl
      | _ => simp [Operand.rank] at h

/-- Operands of one rank pass the checks in either order. -/
theorem Settled.mirror {lookup : Lookup} {op : Comparison} {left right : Operand} {test : Test}
    (hrank : left.rank = right.rank) (h : Settled lookup op left right test) :
    Settled lookup op.flip right left test.mirror := by
  cases h with
  | null =>
      obtain rfl := eq_null_of_rank hrank
      exact .null
  | columns hfamily => exact .columns hfamily.symm
  | params hfirst hsecond hvalues =>
      exact .params hsecond hfirst fun y hy x hx => checkValues_comm (hvalues x hx y hy)
  | @literals a b hvalue hvalues =>
      refine .literals ?_ (checkValues_comm hvalues)
      rintro rfl
      simp [Operand.rank] at hrank
  | columnLiteral | paramLiteral | unset | columnFree | columnBound =>
      simp [Operand.rank] at hrank

end Test

namespace Scope

variable {scope : Scope} {outcome : Truth}

/-- What is opposite to an operand of the same rank does not change the value it has: only a
column changes the other side, and a column is read as it is stored. -/
theorem operandValue_of_rank {left right : Operand} (hrank : left.rank = right.rank) :
    scope.operandValue left.column? right = scope.operandValue none right := by
  cases left with
  | column c =>
      cases right with
      | column => rfl
      | param => contradiction
      | literal value => cases value <;> contradiction
  | param | literal => rfl

theorem testTruth_mirror {lookup : Test.Lookup} {op : Comparison} {left right : Operand}
    {test : Test} (hrank : left.rank = right.rank)
    (hsettled : Test.Settled lookup op left right test)
    (h : scope.testTruth test = .ok outcome) : scope.testTruth test.mirror = .ok outcome := by
  cases test with
  | null asked operand =>
      obtain ⟨value, hvalue, h⟩ := bind_eq_ok_iff.mp h
      obtain ⟨wanted, hwanted, h⟩ := bind_eq_ok_iff.mp h
      exact bind_eq_ok_iff.mpr
        ⟨value, hvalue, bind_eq_ok_iff.mpr ⟨wanted, nullTest_flip hwanted, h⟩⟩
  | compare asked first second =>
      obtain ⟨rfl, rfl, rfl⟩ := hsettled.of_compare
      obtain ⟨a, ha, h⟩ := bind_eq_ok_iff.mp h
      obtain ⟨b, hb, h⟩ := bind_eq_ok_iff.mp h
      rw [operandValue_of_rank hrank] at hb
      rw [← operandValue_of_rank hrank.symm] at ha
      refine bind_eq_ok_iff.mpr ⟨b, hb, bind_eq_ok_iff.mpr ⟨a, ha, ?_⟩⟩
      rw [asked.truth_flip a b]
      exact h

end Scope

/-- Operands of different ranks are put in the same order, whichever stands first. -/
theorem Test.ofComparison_flip_of_rank {table : Table} {lookup : Lookup} {op : Comparison}
    {left right : Predicate} {a b : Operand} {test : Test} (hleft : Operand.Reads table left a)
    (hright : Operand.Reads table right b) (hrank : a.rank ≠ b.rank)
    (h : (b.rank < a.rank ∧ Settled lookup op.flip b a test) ∨
      (a.rank ≤ b.rank ∧ Settled lookup op a b test)) :
    ofComparison table lookup op.flip right left = .ok test := by
  refine ofComparison_of_settled hright hleft ?_
  rcases h with ⟨horder, hsettled⟩ | ⟨horder, hsettled⟩
  · exact .inr ⟨Nat.le_of_lt horder, hsettled⟩
  · exact .inl ⟨Nat.lt_of_le_of_ne horder hrank, by rwa [op.flip_flip]⟩

/-- A comparison has the outcome of the mirrored one. -/
theorem Scope.truth_compare_flip {scope : Scope} {op : Comparison} {left right : Predicate}
    {outcome : Truth} (h : scope.truth (.compare op left right) = .ok outcome) :
    scope.truth (.compare op.flip right left) = .ok outcome := by
  rw [truth] at h ⊢
  obtain ⟨test, htest, h⟩ := bind_eq_ok_iff.mp h
  obtain ⟨a, b, hleft, hright, hsettled⟩ := Test.settled_of_ofComparison htest
  by_cases hrank : a.rank = b.rank
  · rcases hsettled with ⟨horder, -⟩ | ⟨-, hsettled⟩
    · exact absurd hrank (Nat.ne_of_gt horder)
    · have hmirror := Test.ofComparison_of_settled hright hleft
        (.inr ⟨Nat.le_of_eq hrank.symm, hsettled.mirror hrank⟩)
      exact bind_eq_ok_iff.mpr ⟨_, hmirror, testTruth_mirror hrank hsettled h⟩
  · exact bind_eq_ok_iff.mpr
      ⟨_, Test.ofComparison_flip_of_rank hleft hright hrank hsettled, h⟩

/-! ## Any comparisons of a predicate -/

/-- Two computations both fail, or both give the same. -/
inductive SameOutcome {α : Type} : Except Error α → Except Error α → Prop
  | ok (a : α) : SameOutcome (.ok a) (.ok a)
  | error (e e' : Error) : SameOutcome (.error e) (.error e')

namespace SameOutcome

variable {α : Type} {x y : Except Error α}

theorem of_imp (h : ∀ a, x = .ok a → y = .ok a) (h' : ∀ a, y = .ok a → x = .ok a) :
    SameOutcome x y := by
  cases x with
  | ok a =>
      rw [h a rfl]
      exact .ok a
  | error e =>
      cases y with
      | ok a =>
          have := h' a rfl
          contradiction
      | error e' => exact .error e e'

theorem eq_ok {a : α} (h : SameOutcome x y) (hx : x = .ok a) : y = .ok a := by
  cases h with
  | ok b => exact hx
  | error e e' => contradiction

end SameOutcome

namespace Predicate

/-- The second predicate is the first one with some of its comparisons mirrored, of those that may
be. -/
inductive Mirrored (may : Predicate → Predicate → Prop) : Predicate → Predicate → Prop
  | literal (value : Literal) : Mirrored may (.literal value) (.literal value)
  | field (name : String) (slot : Slot) : Mirrored may (.field name slot) (.field name slot)
  | kept (op : Comparison) {left right left' right' : Predicate} (hleft : Mirrored may left left')
      (hright : Mirrored may right right') :
      Mirrored may (.compare op left right) (.compare op left' right')
  | mirrored (op : Comparison) {left right left' right' : Predicate} (hmay : may left right)
      (hleft : Mirrored may left left') (hright : Mirrored may right right') :
      Mirrored may (.compare op left right) (.compare op.flip right' left')
  | join (op : Connective) {left right left' right' : Predicate} (hleft : Mirrored may left left')
      (hright : Mirrored may right right') :
      Mirrored may (.join op left right) (.join op left' right')

namespace Mirrored

variable {may may' : Predicate → Predicate → Prop}
  {predicate predicate' left right left' right' : Predicate}

theorem mono (hmay : ∀ left right, may left right → may' left right)
    (h : Mirrored may predicate predicate') : Mirrored may' predicate predicate' := by
  induction h with
  | literal value => exact .literal value
  | field name slot => exact .field name slot
  | kept op hleft hright ihLeft ihRight => exact .kept op ihLeft ihRight
  | mirrored op hallowed hleft hright ihLeft ihRight =>
      exact .mirrored op (hmay _ _ hallowed) ihLeft ihRight
  | join op hleft hright ihLeft ihRight => exact .join op ihLeft ihRight

/-- Mirrored comparisons can be mirrored back. -/
theorem symm (hmay : ∀ {left right left' right'}, Mirrored may left left' →
      Mirrored may right right' → may left right → may right' left')
    (h : Mirrored may predicate predicate') : Mirrored may predicate' predicate := by
  induction h with
  | literal value => exact .literal value
  | field name slot => exact .field name slot
  | kept op hleft hright ihLeft ihRight => exact .kept op ihLeft ihRight
  | mirrored op hallowed hleft hright ihLeft ihRight =>
      simpa only [op.flip_flip] using
        Mirrored.mirrored op.flip (hmay hleft hright hallowed) ihRight ihLeft
  | join op hleft hright ihLeft ihRight => exact .join op ihLeft ihRight

/-- In an operand there is nothing to mirror. -/
theorem eq_of_reads {table : Table} {operand : Operand} (h : Mirrored may predicate predicate')
    (hreads : Operand.Reads table predicate operand) : predicate' = predicate := by
  cases hreads <;> cases h <;> rfl

/-- So the operands of a comparison that passes the checks stay as they are. -/
theorem eq_of_ofComparison {table : Table} {lookup : Test.Lookup} {op : Comparison} {test : Test}
    (hleft : Mirrored may left left') (hright : Mirrored may right right')
    (h : Test.ofComparison table lookup op left right = .ok test) :
    left' = left ∧ right' = right := by
  obtain ⟨a, b, ha, hb, -⟩ := Test.settled_of_ofComparison h
  exact ⟨hleft.eq_of_reads ha, hright.eq_of_reads hb⟩

/-- What a predicate says of a row, it says with any of its comparisons mirrored. -/
theorem truth {scope : Scope} {outcome : Truth} (h : Mirrored may predicate predicate')
    (htruth : scope.truth predicate = .ok outcome) : scope.truth predicate' = .ok outcome := by
  induction h generalizing outcome with
  | literal value => exact htruth
  | field name slot => exact htruth
  | kept op hleft hright =>
      obtain ⟨test, htest, -⟩ := bind_eq_ok_iff.mp htruth
      obtain ⟨rfl, rfl⟩ := hleft.eq_of_ofComparison hright htest
      exact htruth
  | mirrored op hmay hleft hright =>
      obtain ⟨test, htest, -⟩ := bind_eq_ok_iff.mp htruth
      obtain ⟨rfl, rfl⟩ := hleft.eq_of_ofComparison hright htest
      exact Scope.truth_compare_flip htruth
  | join op hleft hright ihLeft ihRight =>
      obtain ⟨x, hx, htruth⟩ := bind_eq_ok_iff.mp htruth
      obtain ⟨y, hy, htruth⟩ := bind_eq_ok_iff.mp htruth
      exact bind_eq_ok_iff.mpr ⟨x, ihLeft hx, bind_eq_ok_iff.mpr ⟨y, ihRight hy, htruth⟩⟩

theorem evaluate {table : Table} {row : FieldValues} {param : Option FieldValues} {result : Bool}
    (h : Mirrored may predicate predicate')
    (hevaluate : predicate.evaluate table row param = .ok result) :
    predicate'.evaluate table row param = .ok result := by
  obtain ⟨outcome, htruth, hresult⟩ := bind_eq_ok_iff.mp hevaluate
  exact bind_eq_ok_iff.mpr ⟨outcome, h.truth htruth, hresult⟩

end Mirrored

end Predicate

end RecordSql
