import RecordSql.Proofs.Sql.Compilation

/-!
# What compiles

A predicate compiles exactly if it has a plan and placeholders can be handed out for the uses of
the plan, one after another.  They can be handed out without a parameter always, and with one if
every use finds its field there in the form that it needs.
-/

namespace RecordSql

namespace Sql

/-! ## Handing out placeholders -/

section Runs

variable {compiler : Compiler} {param : Option FieldValues} {held middle held' : Placeholders}
  {use : Use} {uses more : List Use}

theorem baseName_of_use {counterpart : Option Column} {field : String}
    (h : Use.of? counterpart field = some use) :
    Compiler.baseName counterpart field = .ok use.base := by
  cases counterpart with
  | some column =>
      obtain rfl := Option.some.inj h
      rfl
  | none =>
      simp only [Use.of?] at h
      split at h
      · obtain rfl := Option.some.inj h
        exact mapError_eq_ok_iff.mpr (Ident.parse_eq_ok_iff.mpr rfl)
      · contradiction

theorem isFresh_eq_true_iff {issued : Issued} {name : Ident} :
    issued.isFresh name = true ↔ issued.lookup name = none :=
  Option.isNone_iff_eq_none

/-- A use that takes its placeholder is a run of `Compiler.issue`. -/
theorem run_of_issue (h : Issue compiler.param held use held') :
    (compiler.issue use.counterpart use.field use.base).run held =
      .ok (use.name held.issued, held') := by
  unfold Compiler.issue
  refine Step.bind_eq_ok_iff.mpr ⟨held, held, Step.get_eq_ok_iff.mpr ⟨rfl, rfl⟩, ?_⟩
  dsimp only
  cases h with
  | again hheld =>
      have hfree : ¬held.issued.isFresh (held.issued.name use.base use.field) = true := by
        rw [isFresh_eq_true_iff, ← Use.name, hheld]
        simp
      rw [if_neg hfree]
      rfl
  | @bind values value stored hfresh hparam hvalue hform =>
      have hfree := isFresh_eq_true_iff.mpr hfresh
      have hlookup : compiler.lookup use.field = .ok (some value) := by
        simp [Compiler.lookup, hparam, boundField, hvalue, Except.map]
      rw [Use.name] at hfree
      rw [if_pos hfree, hlookup]
      refine Step.bind_eq_ok_iff.mpr ⟨some value, held, rfl, ?_⟩
      exact Step.bind_eq_ok_iff.mpr ⟨stored, held, Step.lift_eq_ok_iff.mpr ⟨hform, rfl⟩, rfl⟩
  | defer hfresh hparam =>
      have hfree := isFresh_eq_true_iff.mpr hfresh
      have hlookup : compiler.lookup use.field = .ok none := by simp [Compiler.lookup, hparam]
      rw [Use.name] at hfree
      rw [if_pos hfree, hlookup]
      rfl

theorem placeholder_run_of_issue {counterpart : Option Column} {field : String}
    (huse : Use.of? counterpart field = some use) (h : Issue compiler.param held use held') :
    (compiler.placeholder counterpart field).run held = .ok (use.name held.issued, held') := by
  obtain ⟨rfl, rfl⟩ := Use.eq_of_of? huse
  exact Step.bind_eq_ok_iff.mpr ⟨use.base, held,
    Step.lift_eq_ok_iff.mpr ⟨baseName_of_use huse, rfl⟩, run_of_issue h⟩

theorem Issues.of_singleton (h : Issues param held [use] held') : Issue param held use held' := by
  cases h with
  | cons hfirst hrest =>
      cases hrest
      exact hfirst

theorem Issues.of_append (h : Issues param held (uses ++ more) held') :
    ∃ middle, Issues param held uses middle ∧ Issues param middle more held' := by
  induction uses generalizing held with
  | nil => exact ⟨held, .nil, h⟩
  | cons use rest ih =>
      cases h with
      | cons hfirst hrest =>
          obtain ⟨middle, hleft, hright⟩ := ih hrest
          exact ⟨middle, .cons hfirst hleft, hright⟩

end Runs

/-! ## Runs of the compiler -/

section Runs

variable {compiler : Compiler} {held held' : Placeholders}

theorem literal_of_ofOperand? {counterpart : Option Column} {value : Literal} {side : Side}
    (h : Side.ofOperand? counterpart (.literal value) = some side) :
    Compiler.literal value = .ok (Operand.ofLiteral value) := by
  obtain ⟨-, hfinite⟩ := eq_literal_of_ofOperand? h
  cases value with
  | real value => simp [Compiler.literal, hfinite value rfl, Operand.ofLiteral]
  | null | bool | int | text => rfl

/-- Placeholders handed out for the uses of a side are a run on its operand. -/
theorem operand_run_of_issues {counterpart : Option Column} {operand : RecordSql.Operand}
    {side : Side} (hside : Side.ofOperand? counterpart operand = some side)
    (h : Issues compiler.param held side.uses held') :
    (compiler.operand counterpart operand).run held =
      .ok (side.operand (Use.name held'.issued), held') := by
  cases operand with
  | column c =>
      obtain rfl := Option.some.inj hside
      cases h
      rfl
  | param field =>
      obtain ⟨use, huse, rfl⟩ := Option.map_eq_some_iff.mp hside
      have hissue := h.of_singleton
      refine Step.bind_eq_ok_iff.mpr ⟨_, held', placeholder_run_of_issue huse hissue, ?_⟩
      rw [Side.operand, hissue.name_eq (Issued.Extends.refl _)]
      rfl
  | literal value =>
      obtain ⟨rfl, -⟩ := eq_literal_of_ofOperand? hside
      cases h
      exact Step.lift_eq_ok_iff.mpr ⟨literal_of_ofOperand? hside, rfl⟩

/-- Placeholders handed out for the uses of a plan are a run on its predicate, whatever was handed
out before. -/
theorem run_of_compiled {predicate : Predicate} {plan : Plan}
    (h : Compiled compiler predicate plan) (hissues : Issues compiler.param held plan.uses held') :
    (compiler.expr predicate).run held = .ok (plan.expr (Use.name held'.issued), held') := by
  induction h generalizing held held' with
  | constant =>
      cases hissues
      rfl
  | rowField hcolumn hfamily =>
      cases hissues
      have hpredicate := predicateColumn_eq_ok_iff.mpr ⟨hcolumn, hfamily⟩
      exact Step.bind_eq_ok_iff.mpr ⟨_, held, Step.lift_eq_ok_iff.mpr ⟨hpredicate, rfl⟩, rfl⟩
  | boundField hlookup =>
      cases hissues
      exact Step.bind_eq_ok_iff.mpr ⟨_, held, Step.lift_eq_ok_iff.mpr ⟨hlookup, rfl⟩, rfl⟩
  | freeField hlookup huse =>
      have hissue := Issues.of_singleton hissues
      refine Step.bind_eq_ok_iff.mpr ⟨_, held, Step.lift_eq_ok_iff.mpr ⟨hlookup, rfl⟩, ?_⟩
      refine Step.bind_eq_ok_iff.mpr ⟨_, held', placeholder_run_of_issue huse hissue, ?_⟩
      rw [Plan.expr, Side.operand, hissue.name_eq (Issued.Extends.refl _)]
      rfl
  | nullTest htest hwanted hside =>
      refine Step.bind_eq_ok_iff.mpr ⟨_, held, Step.lift_eq_ok_iff.mpr ⟨htest, rfl⟩, ?_⟩
      refine Step.bind_eq_ok_iff.mpr ⟨_, held, Step.lift_eq_ok_iff.mpr ⟨hwanted, rfl⟩, ?_⟩
      exact Step.bind_eq_ok_iff.mpr ⟨_, held', operand_run_of_issues hside hissues, rfl⟩
  | compare htest hfirst hsecond =>
      obtain ⟨middle, hleft, hright⟩ := Issues.of_append hissues
      refine Step.bind_eq_ok_iff.mpr ⟨_, held, Step.lift_eq_ok_iff.mpr ⟨htest, rfl⟩, ?_⟩
      refine Step.bind_eq_ok_iff.mpr ⟨_, middle, operand_run_of_issues hfirst hleft, ?_⟩
      refine Step.bind_eq_ok_iff.mpr ⟨_, held', operand_run_of_issues hsecond hright, ?_⟩
      rw [Plan.expr, Side.operand_congr fun use huse =>
        hleft.name_eq hright.issued_extends huse]
      rfl
  | join hleft hright ihLeft ihRight =>
      obtain ⟨middle, hissuesLeft, hissuesRight⟩ := Issues.of_append hissues
      refine Step.bind_eq_ok_iff.mpr ⟨_, middle, ihLeft hissuesLeft, ?_⟩
      refine Step.bind_eq_ok_iff.mpr ⟨_, held', ihRight hissuesRight, ?_⟩
      rw [Plan.expr, Plan.expr_congr fun use huse =>
        hissuesLeft.name_eq hissuesRight.issued_extends huse]
      rfl

end Runs

/-! ## Plans that can be carried out -/

/-- The parameter has the field of a use, in the form that the use needs. -/
def Use.Formed (param : Option FieldValues) (use : Use) : Prop :=
  ∃ values value stored, param = some values ∧ values use.field = some value ∧
    Compiler.boundForm use.counterpart value = .ok stored

theorem exists_issue {param : Option FieldValues} {use : Use}
    (h : param = none ∨ use.Formed param) (held : Placeholders) :
    ∃ held', Issue param held use held' := by
  rcases Issued.lookup_name held.issued use.base use.field with hfresh | hheld
  · rcases h with hparam | ⟨values, value, stored, hparam, hvalue, hform⟩
    · exact ⟨_, .defer hfresh hparam⟩
    · exact ⟨_, .bind hfresh hparam hvalue hform⟩
  · exact ⟨held, .again hheld⟩

theorem exists_issues {param : Option FieldValues} {uses : List Use}
    (h : ∀ use ∈ uses, param = none ∨ use.Formed param) (held : Placeholders) :
    ∃ held', Issues param held uses held' := by
  induction uses generalizing held with
  | nil => exact ⟨held, .nil⟩
  | cons use rest ih =>
      obtain ⟨huse, hrest⟩ := List.forall_mem_cons.mp h
      obtain ⟨middle, hfirst⟩ := exists_issue huse held
      obtain ⟨last, hlater⟩ := ih hrest middle
      exact ⟨last, .cons hfirst hlater⟩

/-- A predicate compiles exactly if it has a plan for whose uses placeholders can be handed out. -/
theorem compile_eq_ok_iff {table : Table} {param : Option FieldValues} {predicate : Predicate}
    {fragment : Fragment} :
    compile table param predicate = .ok fragment ↔
      ∃ plan held, Compiled ⟨table, param⟩ predicate plan ∧
        Issues param Placeholders.empty plan.uses held ∧
        fragment = ⟨plan.expr (Use.name held.issued), held.bindings, held.deferred⟩ := by
  constructor
  · exact compiled_of_compile
  · rintro ⟨plan, held, hcompiled, hissues, rfl⟩
    exact bind_eq_ok_iff.mpr ⟨_, run_of_compiled hcompiled hissues, rfl⟩

end Sql

end RecordSql
