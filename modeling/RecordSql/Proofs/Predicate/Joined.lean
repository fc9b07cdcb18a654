import RecordSql.Proofs.Predicate.Mirrored
import RecordSql.Proofs.Table.Resolved
import RecordSql.Record

/-!
# Joined lists of predicates

A list is joined from the left in three values, and what is unknown on the way becomes false only
at the end.  Neither join can tell that from making every item true or false first, so a joined
list is evaluated item by item: it fails with the first item that fails, and otherwise all or some
of the items decide it.  Hence neither order, repetition nor grouping of the items matters.
-/

namespace RecordSql

namespace Connective

/-- Whether a join of items with the given results is satisfied. -/
def ofResults : Connective → List Bool → Bool
  | and, results => results.all id
  | or, results => results.any id

/-- What the items of a join have to be like for it to hold. -/
def Decides {α : Type} (op : Connective) (holds : α → Prop) (items : List α) : Prop :=
  match op with
  | and => ∀ a ∈ items, holds a
  | or => ∃ a ∈ items, holds a

theorem decides_congr {α : Type} (op : Connective) {holds : α → Prop} {items items' : List α}
    (hsubset : items ⊆ items') (hsuperset : items' ⊆ items) :
    op.Decides holds items ↔ op.Decides holds items' := by
  cases op with
  | and => exact ⟨fun h a ha => h a (hsuperset ha), fun h a ha => h a (hsubset ha)⟩
  | or =>
      constructor
      · rintro ⟨a, ha, hholds⟩
        exact ⟨a, hsubset ha, hholds⟩
      · rintro ⟨a, ha, hholds⟩
        exact ⟨a, hsuperset ha, hholds⟩

/-- A join of results is satisfied as the items decide that have the results. -/
theorem ofResults_eq_true_iff {ε α : Type} (op : Connective) {f : α → Except ε Bool}
    {items : List α} {results : List Bool}
    (h : List.Forall₂ (fun a b => f a = .ok b) items results) :
    op.ofResults results = true ↔ op.Decides (fun a => f a = .ok true) items := by
  induction h with
  | nil => cases op <;> simp [ofResults, Decides]
  | cons hfirst hrest ih => cases op <;> simp_all [ofResults, Decides]

/-- Items may be joined among themselves first. -/
theorem ofResults_group (op : Connective) (before part after : List Bool) :
    op.ofResults (before ++ op.ofResults part :: after) =
      op.ofResults (before ++ (part ++ after)) := by
  cases op <;> simp [ofResults]

end Connective

/-- A join of two outcomes is true just if the join of what is true of each is satisfied. -/
theorem Truth.join_beq_true (op : Connective) (a b : Truth) :
    (join op a b == some true) = op.ofResults [a == some true, b == some true] := by
  cases op <;> rcases a with _ | _ | _ <;> rcases b with _ | _ | _ <;> rfl

namespace Predicate

/-- A list joined from the constant that changes nothing in the join; conjunctions and disjunctions
of lists are the two cases. -/
def joined (op : Connective) (predicates : List Predicate) : Predicate :=
  joinAll op (.literal (.bool (op.ofResults []))) predicates

section Results

variable (table : Table) (row : FieldValues) (param : Option FieldValues)

/-- Both sides of a join are evaluated, the left one first. -/
theorem evaluate_join (op : Connective) (left right : Predicate) :
    (join op left right).evaluate table row param = do
      let a ← left.evaluate table row param
      let b ← right.evaluate table row param
      return op.ofResults [a, b] := by
  unfold evaluate
  rw [Scope.truth]
  cases (Scope.mk table row param).truth left with
  | error e => rfl
  | ok a =>
      cases (Scope.mk table row param).truth right with
      | error e => rfl
      | ok b => exact congrArg Except.ok (Truth.join_beq_true op a b)

theorem evaluate_foldl (op : Connective) (first : Predicate) (rest : List Predicate) :
    (rest.foldl (join op) first).evaluate table row param = do
      let a ← first.evaluate table row param
      let results ← rest.mapM fun p => p.evaluate table row param
      return op.ofResults (a :: results) := by
  induction rest generalizing first with
  | nil =>
      have hone (a : Bool) : op.ofResults [a] = a := by cases op <;> simp [Connective.ofResults]
      cases h : first.evaluate table row param <;> simp [h, hone]
  | cons second rest ih =>
      rw [List.foldl_cons, ih, evaluate_join, List.mapM_cons]
      cases first.evaluate table row param with
      | error e => rfl
      | ok a =>
          cases second.evaluate table row param with
          | error e => rfl
          | ok b =>
              cases rest.mapM fun p => p.evaluate table row param with
              | error e => rfl
              | ok results => exact congrArg Except.ok (op.ofResults_group [] [a, b] results)

/-- A joined list is evaluated item by item. -/
theorem evaluate_joined (op : Connective) (predicates : List Predicate) :
    (joined op predicates).evaluate table row param =
      (predicates.mapM fun p : Predicate => p.evaluate table row param).map op.ofResults := by
  cases predicates with
  | nil => cases op <;> rfl
  | cons first rest =>
      rw [joined, joinAll, evaluate_foldl, List.mapM_cons]
      cases first.evaluate table row param with
      | error e => rfl
      | ok a => cases rest.mapM fun p : Predicate => p.evaluate table row param <;> rfl

variable {table row param}

/-- A joined list has a result just if every item has, and then the items decide it. -/
theorem evaluate_joined_eq_ok_iff {op : Connective} {predicates : List Predicate} {result : Bool} :
    (joined op predicates).evaluate table row param = .ok result ↔
      (∀ p ∈ predicates, ∃ r, p.evaluate table row param = .ok r) ∧
        (result = true ↔
          op.Decides (fun p => p.evaluate table row param = .ok true) predicates) := by
  rw [evaluate_joined, map_eq_ok_iff, ← exists_mapM_iff]
  constructor
  · rintro ⟨results, hresults, rfl⟩
    exact ⟨⟨results, hresults⟩, op.ofResults_eq_true_iff (forall₂_of_mapM hresults)⟩
  · rintro ⟨⟨results, hresults⟩, hresult⟩
    refine ⟨results, hresults, ?_⟩
    rw [Bool.eq_iff_iff, hresult]
    exact op.ofResults_eq_true_iff (forall₂_of_mapM hresults)

/-- Only which items are joined matters, not their order or how often they come. -/
theorem sameOutcome_joined (op : Connective) {predicates others : List Predicate}
    (hsubset : predicates ⊆ others) (hsuperset : others ⊆ predicates) :
    SameOutcome ((joined op predicates).evaluate table row param)
      ((joined op others).evaluate table row param) := by
  have himp {items items' : List Predicate} (hle : items ⊆ items') (hge : items' ⊆ items)
      (result : Bool)
      (h : (joined op items).evaluate table row param = .ok result) :
      (joined op items').evaluate table row param = .ok result := by
    obtain ⟨hall, hresult⟩ := evaluate_joined_eq_ok_iff.mp h
    refine evaluate_joined_eq_ok_iff.mpr ⟨fun p hp => hall p (hge hp), hresult.trans ?_⟩
    exact op.decides_congr hle hge
  exact .of_imp (himp hsubset hsuperset) (himp hsuperset hsubset)

end Results

/-! ## Grouping -/

/-- The second list is the first one with consecutive items joined into one, any number of times
and to any depth. -/
inductive Grouped (whole : List Predicate → Predicate) :
    List Predicate → List Predicate → Prop
  | refl (predicates : List Predicate) : Grouped whole predicates predicates
  | group {predicates before part after : List Predicate}
      (h : Grouped whole predicates (before ++ (part ++ after))) :
      Grouped whole predicates (before ++ whole part :: after)

/-- Grouped items are evaluated in the same order, and to the same result. -/
theorem Grouped.evaluate_joined (op : Connective) {predicates groups : List Predicate}
    (h : Grouped (joined op) predicates groups) (table : Table) (row : FieldValues)
    (param : Option FieldValues) :
    (joined op groups).evaluate table row param =
      (joined op predicates).evaluate table row param := by
  induction h with
  | refl => rfl
  | @group before part after h ih =>
      rw [← ih, Predicate.evaluate_joined, Predicate.evaluate_joined]
      simp only [List.mapM_append, List.mapM_cons, Predicate.evaluate_joined]
      cases before.mapM fun p : Predicate => p.evaluate table row param with
      | error e => rfl
      | ok xs =>
          cases part.mapM fun p : Predicate => p.evaluate table row param with
          | error e => rfl
          | ok ys =>
              cases after.mapM fun p : Predicate => p.evaluate table row param with
              | error e => rfl
              | ok zs => exact congrArg Except.ok (op.ofResults_group xs ys zs)

/-- **A conjunction holds where all of its items hold, and a disjunction where one of them does.**
Either has a result exactly where every item has one.  The results do not depend on the order of
the items or on how often they come, and not on how they are grouped. -/
theorem evaluate_all_and_any (table : Table) (row : FieldValues) (param : Option FieldValues)
    (predicates : List Predicate) :
    let evaluate (p : Predicate) := p.evaluate table row param
    ((∃ r, evaluate (all predicates) = .ok r) ↔ ∀ p ∈ predicates, ∃ r, evaluate p = .ok r) ∧
    ((∃ r, evaluate (any predicates) = .ok r) ↔ ∀ p ∈ predicates, ∃ r, evaluate p = .ok r) ∧
    ((∀ p ∈ predicates, ∃ r, evaluate p = .ok r) →
      (evaluate (all predicates) = .ok true ↔ ∀ p ∈ predicates, evaluate p = .ok true) ∧
      (evaluate (any predicates) = .ok true ↔ ∃ p ∈ predicates, evaluate p = .ok true)) ∧
    (∀ others, predicates ⊆ others → others ⊆ predicates →
      SameOutcome (evaluate (all predicates)) (evaluate (all others)) ∧
      SameOutcome (evaluate (any predicates)) (evaluate (any others))) ∧
    (∀ groups, Grouped all predicates groups →
      evaluate (all groups) = evaluate (all predicates)) ∧
    ∀ groups, Grouped any predicates groups →
      evaluate (any groups) = evaluate (any predicates) := by
  intro evaluate
  have hresult (op : Connective) :
      (∃ r, evaluate (joined op predicates) = .ok r) ↔
        ∀ p ∈ predicates, ∃ r, evaluate p = .ok r := by
    simp only [evaluate, evaluate_joined, map_eq_ok_iff, ← exists_mapM_iff]
    exact ⟨fun ⟨_, results, h, _⟩ => ⟨results, h⟩, fun ⟨results, h⟩ => ⟨_, results, h, rfl⟩⟩
  have htrue (op : Connective) (hall : ∀ p ∈ predicates, ∃ r, evaluate p = .ok r) :
      evaluate (joined op predicates) = .ok true ↔
        op.Decides (fun p => evaluate p = .ok true) predicates := by
    refine evaluate_joined_eq_ok_iff.trans ?_
    exact ⟨fun h => h.2.mp rfl, fun h => ⟨hall, fun _ => h, fun _ => rfl⟩⟩
  refine ⟨hresult .and, hresult .or, fun hall => ⟨htrue .and hall, htrue .or hall⟩, ?_, ?_, ?_⟩
  · intro others hsubset hsuperset
    exact ⟨sameOutcome_joined .and hsubset hsuperset, sameOutcome_joined .or hsubset hsuperset⟩
  · intro groups h
    exact Grouped.evaluate_joined .and h table row param
  · intro groups h
    exact Grouped.evaluate_joined .or h table row param

end Predicate

namespace Stock

/-- An item that holds, one that is unknown and one that does not hold. -/
def doubtful : List Predicate := [.row "Active", .param "flag", .never]

def active : FieldValues := FieldMap.get [("Active", .bool true)]

def unsure : FieldValues := FieldMap.get [("flag", .null)]

theorem evaluate_all_and_any_doubtful :
    let evaluate (p : Predicate) := p.evaluate table active (some unsure)
    (∀ p ∈ doubtful, ∃ r, evaluate p = .ok r) ∧
      ¬ evaluate (.all doubtful) = .ok true ∧ evaluate (.any doubtful) = .ok true ∧
      evaluate (.any [.never, .row "Active", .param "flag", .never]) = .ok true ∧
      Predicate.Grouped .any doubtful [.row "Active", .any [.param "flag", .never]] ∧
      evaluate (.any [.row "Active", .any [.param "flag", .never]]) = .ok true := by
  intro evaluate
  obtain ⟨-, -, htrue, hsame, -, hgrouped⟩ :=
    Predicate.evaluate_all_and_any table active (some unsure) doubtful
  have hactive : evaluate (.row "Active") = .ok true := rfl
  have hflag : evaluate (.param "flag") = .ok false := rfl
  have hall : ∀ p ∈ doubtful, ∃ r, evaluate p = .ok r := by
    simp only [doubtful, List.forall_mem_cons]
    exact ⟨⟨_, hactive⟩, ⟨_, hflag⟩, ⟨_, rfl⟩, by simp⟩
  have hany : evaluate (.any doubtful) = .ok true :=
    (htrue hall).2.mpr ⟨_, List.mem_cons_self, hactive⟩
  have hparts : Predicate.Grouped .any doubtful
      ([.row "Active"] ++ ([.param "flag", .never] ++ [])) := .refl doubtful
  have hgroups : Predicate.Grouped .any doubtful [.row "Active", .any [.param "flag", .never]] :=
    .group hparts
  refine ⟨hall, ?_, hany, ?_, hgroups, (hgrouped _ hgroups).trans hany⟩
  · intro h
    have := (htrue hall).1.mp h (.param "flag") (by simp [doubtful])
    exact absurd (hflag.symm.trans this) (by simp)
  · exact (hsame _ (by simp [doubtful]) (by simp [doubtful])).2.eq_ok hany

end Stock

end RecordSql
