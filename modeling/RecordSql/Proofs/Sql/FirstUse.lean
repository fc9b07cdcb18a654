import RecordSql.Proofs.Sql.Agreement

/-!
# First uses

A placeholder is bound once, where it stands first in the text, and every later use of the field
under the same name shares it.  So its value has the form that the first use needs: that of the
column opposite to it, or the parameter's own value where no column is.  A later use may need
another form, and does not get it.
-/

namespace RecordSql.Sql

/-! ## The use that a binding was made for -/

section Runs

variable {param : Option FieldValues} {held held' : Placeholders} {uses : List Use}
  {binding : Binding}

/-- What is bound on the way was bound for the first use of its name, which was not handed out
before. -/
theorem Issues.mem_bindings_or_first (h : Issues param held uses held')
    (hbinding : binding ∈ held'.bindings) :
    binding ∈ held.bindings ∨
      binding.name ∉ held.names ∧
        ∃ use, uses.find? (fun use => use.name held'.issued == binding.name) = some use ∧
          binding.MadeFor param use := by
  induction h with
  | nil => exact Or.inl hbinding
  | @cons held middle last use uses hfirst hrest ih =>
      have hname : use.name last.issued = use.name held.issued :=
        hfirst.name_eq hrest.issued_extends
      rcases ih hbinding with hmem | ⟨hnew, other, hfound, hmade⟩
      · -- The first of the uses bound it, or it was there before.
        cases hfirst with
        | again hheld => exact Or.inl hmem
        | defer hfresh hparam => exact Or.inl hmem
        | bind hfresh hparam hvalue hform =>
            rcases List.mem_append.mp hmem with hmem | hmem
            · exact Or.inl hmem
            · obtain rfl := List.mem_singleton.mp hmem
              refine Or.inr ⟨not_mem_names_of_lookup hfresh, use, ?_, rfl, _, _, hparam, hvalue,
                hform⟩
              simp [hname]
      · -- The name of the first use was handed out by then, so it is another one.
        have hne : use.name last.issued ≠ binding.name := by
          rintro heq
          refine hnew ?_
          rw [← heq, hname]
          exact mem_names_of_lookup hfirst.lookup_name
        refine Or.inr ⟨fun hold => hnew ?_, other, ?_, hmade⟩
        · rw [hfirst.names_eq]
          exact List.mem_append_left _ hold
        · simp [hne, hfound]

/-- A binding was made for the first use of its name. -/
theorem Issues.exists_find?_of_mem (h : Issues param Placeholders.empty uses held)
    (hbinding : binding ∈ held.bindings) :
    ∃ use, uses.find? (fun use => use.name held.issued == binding.name) = some use ∧
      binding.MadeFor param use := by
  rcases h.mem_bindings_or_first hbinding with hmem | ⟨-, hfirst⟩
  · simp [Placeholders.empty] at hmem
  · exact hfirst

end Runs

/-! ## Places in the text -/

theorem find?_zip_map {α β : Type} (f : α → β) (test : β → Bool) (items : List α) :
    (items.zip (items.map f)).find? (fun entry => test entry.2) =
      (items.find? fun a => test (f a)).map fun a => (a, f a) := by
  rw [← List.map_prod_left_eq_zip, List.find?_map]
  rfl

namespace Fragment

/-- The use at the first place in the text where a placeholder stands. -/
def firstUse? (fragment : Fragment) (plan : Plan) (name : Ident) : Option Use :=
  ((fragment.occurrences plan).find? (·.2 == name)).map Prod.fst

/-- The value of a field in the form that is needed at the first place of a placeholder. -/
def FirstForm (fragment : Fragment) (plan : Plan) (values : FieldValues) (name : Ident)
    (field : String) (stored : Value) : Prop :=
  ∃ first value, fragment.firstUse? plan name = some first ∧ first.field = field ∧
    values field = some value ∧ Compiler.boundForm first.counterpart value = .ok stored

end Fragment

section Fragments

variable {values : FieldValues} {plan : Plan} {held : Placeholders}

theorem firstUse?_eq (plan : Plan) (issued : Issued) (bindings : List Binding)
    (deferred : List Deferred) (name : Ident) :
    Fragment.firstUse? ⟨plan.expr (Use.name issued), bindings, deferred⟩ plan name =
      plan.uses.find? fun use => use.name issued == name := by
  rw [Fragment.firstUse?, Fragment.occurrences, Plan.placeholders_expr,
    find?_zip_map (Use.name issued) (· == name)]
  cases plan.uses.find? fun use => use.name issued == name <;> rfl

/-- What is bound has the form that is needed where it stands first. -/
theorem Issues.firstForm (h : Issues (some values) Placeholders.empty plan.uses held)
    {binding : Binding} (hbinding : binding ∈ held.bindings) :
    Fragment.FirstForm ⟨plan.expr (Use.name held.issued), held.bindings, held.deferred⟩ plan values
      binding.name binding.field binding.value := by
  obtain ⟨first, hfound, hfield, _, value, hparam, hvalue, hform⟩ := h.exists_find?_of_mem hbinding
  obtain rfl := Option.some.inj hparam
  refine ⟨first, value, ?_, hfield.symm, hfield ▸ hvalue, hform⟩
  rw [firstUse?_eq, hfound]

end Fragments

/-- Wherever a placeholder of a bound parameter stands, it is bound to the field that is used there,
in the form that is needed at its first place. -/
theorem exists_plan_firstForm {table : Table} {values : FieldValues} {predicate : Predicate}
    {fragment : Fragment} (h : compile table (some values) predicate = .ok fragment) :
    ∃ plan, Plan.ofPredicate? table (some values) predicate = some plan ∧
      fragment.expr.placeholders.length = plan.uses.length ∧
      ∀ use name, (use, name) ∈ fragment.occurrences plan →
        ∃ binding, binding? fragment.bindings name.name = some binding ∧
          binding.field = use.field ∧
          fragment.FirstForm plan values name use.field binding.value := by
  obtain ⟨plan, held, hcompiled, hissues, rfl⟩ := compiled_of_compile h
  have hplaceholders := Plan.placeholders_expr (Use.name held.issued) plan
  refine ⟨plan, ofPredicate?_of_compiled hcompiled, ?_, ?_⟩
  · rw [hplaceholders, List.length_map]
  · intro use name hmem
    rw [Fragment.occurrences, hplaceholders] at hmem
    obtain ⟨huse, rfl⟩ := mem_zip_map_iff.mp hmem
    obtain ⟨binding, hbinding, hfound, hname, hfield⟩ := hissues.exists_binding huse
    refine ⟨binding, hfound, hfield, ?_⟩
    rw [← hname, ← hfield]
    exact hissues.firstForm hbinding

/-! A field of the parameter is compared with a literal first, and then with a column. -/

def flagged : Predicate :=
  .join .and (.compare .eq (.param "Active") (.literal (.bool true)))
    (.compare .eq (.row "Active") (.param "Active"))

def flaggedFragment : Fragment where
  expr :=
    .join .and (.compare .eq (.placeholder Stock.activeName) (.flag true))
      (.compare .eq (.column Stock.activeName) (.placeholder Stock.activeName))
  bindings := [⟨Stock.activeName, "Active", .bool true⟩]
  deferred := []

def raised : FieldValues :=
  FieldMap.get [("Active", .bool true)]

theorem compile_flagged : compile Stock.table (some raised) flagged = .ok flaggedFragment := by
  rfl

theorem exists_plan_firstForm_flagged :
    compile Stock.table (some raised) flagged = .ok flaggedFragment ∧
      ∃ plan, Plan.ofPredicate? Stock.table (some raised) flagged = some plan ∧
        flaggedFragment.expr.placeholders.length = plan.uses.length ∧
        ∀ use name, (use, name) ∈ flaggedFragment.occurrences plan →
          ∃ binding, binding? flaggedFragment.bindings name.name = some binding ∧
            binding.field = use.field ∧
            flaggedFragment.FirstForm plan raised name use.field binding.value :=
  ⟨compile_flagged, exists_plan_firstForm compile_flagged⟩

/-- The value that the column would be compared with is a number, but a truth value is bound. -/
theorem not_bound_as_used_flagged :
    Table.resolve Stock.schema .builtin = .ok Stock.table ∧
      compile Stock.table (some raised) flagged = .ok flaggedFragment ∧
      ¬∀ plan, Plan.ofPredicate? Stock.table (some raised) flagged = some plan →
        ∀ use name, (use, name) ∈ flaggedFragment.occurrences plan →
          ∀ binding, binding? flaggedFragment.bindings name.name = some binding →
            ∀ value, raised use.field = some value →
              Compiler.boundForm use.counterpart value = .ok binding.value := by
  refine ⟨Stock.resolve_schema, compile_flagged, fun h => ?_⟩
  have hform := h _ rfl _ _ (List.mem_cons_of_mem _ List.mem_cons_self) _ rfl _ rfl
  have hstored := Except.ok.inj hform
  contradiction

end RecordSql.Sql
