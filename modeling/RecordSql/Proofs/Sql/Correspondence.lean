import RecordSql.Proofs.Sql.Compilation
import RecordSql.Proofs.Table.Resolved

/-!
# Placeholders and what they stand for

The text of an expression is a row of pieces, some of which are placeholders.  The placeholders of
a compiled predicate are exactly those in its two lists, which are in the order of first occurrence;
no two entries have one name, and every occurrence stands for the field of the use at its place.
-/

namespace RecordSql.Sql

/-! ## Pieces of text -/

/-- A part of the text of an expression: a placeholder, or words that are none. -/
inductive Piece where
  | words (text : Dialect → String)
  | placeholder (name : Ident)

namespace Piece

def render (dialect : Dialect) : Piece → String
  | words text => text dialect
  | placeholder name => dialect.placeholder name.name

def placeholder? : Piece → Option Ident
  | words _ => none
  | placeholder name => some name

@[simp] theorem render_words (dialect : Dialect) (text : Dialect → String) :
    (words text).render dialect = text dialect := rfl

@[simp] theorem placeholder?_words (text : Dialect → String) :
    (words text).placeholder? = none := rfl

end Piece

def Operand.piece : Operand → Piece
  | placeholder name => .placeholder name
  | other => .words fun dialect => other.render dialect

namespace Expr

/-- The pieces of an expression, from left to right. -/
def pieces : Expr → List Piece
  | constant value => [.words fun _ => flagText value]
  | join op left right =>
      .words (fun _ => "(") :: left.pieces ++ .words (fun _ => " " ++ op.symbol ++ " ") ::
        right.pieces ++ [.words fun _ => ")"]
  | compare op left right =>
      [.words fun _ => "(", left.piece, .words fun _ => " " ++ op.symbol ++ " ", right.piece,
        .words fun _ => ")"]
  | nullTest wanted operand =>
      [.words fun _ => "(", operand.piece,
        .words fun _ => if wanted then " IS NULL" else " IS NOT NULL", .words fun _ => ")"]

/-- The placeholders of an expression, at every place where one stands. -/
def placeholders (expr : Expr) : List Ident :=
  expr.pieces.filterMap Piece.placeholder?

end Expr

@[simp] theorem Operand.render_piece (dialect : Dialect) (operand : Operand) :
    operand.piece.render dialect = operand.render dialect := by
  cases operand <;> rfl

/-- The text of an expression is that of its pieces, one after another. -/
theorem Expr.render_eq_join (dialect : Dialect) (expr : Expr) :
    expr.render dialect = String.join (expr.pieces.map (Piece.render dialect)) := by
  induction expr with
  | constant value => simp [render, pieces]
  | join op left right ihLeft ihRight =>
      simp [render, pieces, ihLeft, ihRight, String.append_assoc]
  | compare op left right => simp [render, pieces, String.append_assoc]
  | nullTest wanted operand => simp [render, pieces, String.append_assoc]

theorem Side.placeholder?_piece (name : Use → Ident) (side : Side) :
    (side.operand name).piece.placeholder?.toList = side.uses.map name := by
  cases side with
  | column c => rfl
  | param use => rfl
  | literal value => cases value <;> rfl

/-- The placeholders of an expression are the names of the uses in its plan. -/
theorem Plan.placeholders_expr (name : Use → Ident) (plan : Plan) :
    (plan.expr name).placeholders = plan.uses.map name := by
  unfold Expr.placeholders
  induction plan with
  | constant value => rfl
  | compare op left right =>
      simp only [expr, uses, Expr.pieces, List.map_append, ← Side.placeholder?_piece,
        List.filterMap_cons, Piece.placeholder?_words]
      cases (left.operand name).piece.placeholder? <;>
        cases (right.operand name).piece.placeholder? <;> rfl
  | nullTest wanted side =>
      simp only [expr, uses, Expr.pieces, ← Side.placeholder?_piece, List.filterMap_cons,
        Piece.placeholder?_words]
      cases (side.operand name).piece.placeholder? <;> rfl
  | join op left right ihLeft ihRight =>
      simp [expr, uses, Expr.pieces, List.filterMap_cons, ihLeft, ihRight]

/-! ## The placeholders held -/

namespace Placeholders

/-- The names handed out, in order. -/
def names (held : Placeholders) : List Ident :=
  held.issued.map Prod.fst

@[simp] theorem names_add (held : Placeholders) (name : Ident) (field : String)
    (bindings : List Binding) (deferred : List Deferred) :
    (Placeholders.mk (held.issued.add name field) bindings deferred).names =
      held.names ++ [name] := by
  simp [names, Issued.add]

/-- The names handed out are those of the two lists, one after the other, and one of the lists is
empty: all placeholders are bound where there is a parameter, and none otherwise. -/
structure Aligned (param : Option FieldValues) (held : Placeholders) : Prop where
  issued_eq : held.issued = held.bindings.map (fun binding => (binding.name, binding.field)) ++
    held.deferred.map (fun deferred => (deferred.placeholder, deferred.field))
  nodup : held.names.Nodup
  deferred_eq_nil : param.isSome = true → held.deferred = []
  bindings_eq_nil : param = none → held.bindings = []

theorem aligned_empty (param : Option FieldValues) : Aligned param empty where
  issued_eq := rfl
  nodup := List.nodup_nil
  deferred_eq_nil _ := rfl
  bindings_eq_nil _ := rfl

end Placeholders

section Alignment

variable {param : Option FieldValues} {held held' : Placeholders} {use : Use} {uses : List Use}

/-- A name that stands for no field was not handed out. -/
theorem not_mem_names_of_lookup {name : Ident} (h : held.issued.lookup name = none) :
    name ∉ held.names := by
  intro hmem
  obtain ⟨⟨_, field⟩, hentry, rfl⟩ := List.mem_map.mp hmem
  have := List.lookup_eq_none_iff.mp h _ hentry
  simp at this

theorem mem_names_of_lookup {name : Ident} {field : String}
    (h : held.issued.lookup name = some field) : name ∈ held.names :=
  List.mem_map.mpr ⟨_, Issued.mem_of_lookup h, rfl⟩

/-- One use keeps the placeholders aligned. -/
theorem Issue.aligned (h : Issue param held use held') (haligned : held.Aligned param) :
    held'.Aligned param := by
  cases h with
  | again hheld => exact haligned
  | bind hfresh hparam hvalue hform =>
      -- Nothing is deferred where there is a parameter, so the new binding is the last entry.
      have hdeferred := haligned.deferred_eq_nil (by simp [hparam])
      refine ⟨?_, ?_, fun _ => hdeferred, fun hnone => by simp [hparam] at hnone⟩
      · simp [Issued.add, haligned.issued_eq, hdeferred]
      · rw [Placeholders.names_add, ← List.concat_eq_append]
        exact haligned.nodup.concat (not_mem_names_of_lookup hfresh)
  | defer hfresh hparam =>
      have hbindings := haligned.bindings_eq_nil hparam
      refine ⟨?_, ?_, fun hsome => by simp [hparam] at hsome, fun _ => hbindings⟩
      · simp [Issued.add, haligned.issued_eq, hbindings]
      · rw [Placeholders.names_add, ← List.concat_eq_append]
        exact haligned.nodup.concat (not_mem_names_of_lookup hfresh)

/-- So do any number of uses. -/
theorem Issues.aligned (h : Issues param held uses held') (haligned : held.Aligned param) :
    held'.Aligned param := by
  induction h with
  | nil => exact haligned
  | cons hfirst hrest ih => exact ih (hfirst.aligned haligned)

/-- One use appends its name unless the name is there. -/
theorem Issue.names_eq (h : Issue param held use held') :
    held'.names = held.names ++
      if use.name held.issued ∈ held.names then [] else [use.name held.issued] := by
  cases h with
  | again hheld => simp [mem_names_of_lookup hheld]
  | bind hfresh hparam hvalue hform => simp [not_mem_names_of_lookup hfresh]
  | defer hfresh hparam => simp [not_mem_names_of_lookup hfresh]

/-- Uses append their names in the order of first occurrence, but for those that are there. -/
theorem Issues.names_eq (h : Issues param held uses held') :
    held'.names = held.names ++
      ((uses.map (Use.name held'.issued)).removeAll held.names).eraseDups := by
  induction h with
  | nil => simp
  | @cons held middle last use uses hfirst hrest ih =>
      have hname := hfirst.name_eq hrest.issued_extends
      rw [ih, hfirst.names_eq, List.map_cons, hname, List.cons_removeAll]
      by_cases hmem : use.name held.issued ∈ held.names
      · simp [hmem]
      · -- A new name drops out of what comes after it, as later occurrences do.
        have hfilter (names : List Ident) :
            names.removeAll (held.names ++ [use.name held.issued]) =
              (names.removeAll held.names).filter fun other => !other == use.name held.issued := by
          simp only [List.removeAll, List.filter_filter, List.elem_eq_mem, List.mem_append]
          refine List.filter_congr ?_
          intro other _
          by_cases hother : other = use.name held.issued <;> simp [hother]
        simp [hmem, List.eraseDups_cons, hfilter]

end Alignment

/-! ## Correspondence -/

namespace Fragment

/-- Every placeholder of the two lists with the field that it stands for. -/
def entries (fragment : Fragment) : List (Ident × String) :=
  fragment.bindings.map (fun binding => (binding.name, binding.field)) ++
    fragment.deferred.map fun deferred => (deferred.placeholder, deferred.field)

/-- The names of the two lists. -/
def names (fragment : Fragment) : List Ident :=
  fragment.entries.map Prod.fst

/-- The uses of a plan, each with the placeholder that stands at its place in the text. -/
def occurrences (fragment : Fragment) (plan : Plan) : List (Use × Ident) :=
  plan.uses.zip fragment.expr.placeholders

/-- The placeholders of a fragment and its two lists correspond, where the uses of the parameter
are those of a plan. -/
structure Corresponds (fragment : Fragment) (param : Option FieldValues) (plan : Plan) : Prop where
  text_eq : ∀ dialect,
    fragment.sql dialect = String.join (fragment.expr.pieces.map (Piece.render dialect))
  isName_of_mem : ∀ name ∈ fragment.names, Ident.isName name.name.toList = true
  nodup : fragment.names.Nodup
  mem_iff : ∀ name, name ∈ fragment.names ↔ Piece.placeholder name ∈ fragment.expr.pieces
  /-- The lists are in the order of first occurrence. -/
  names_eq : fragment.names = fragment.expr.placeholders.eraseDups
  /-- A placeholder stands in the text for every use, and nowhere else. -/
  length_eq : fragment.expr.placeholders.length = plan.uses.length
  entry_of_occurrence : ∀ use name, (use, name) ∈ fragment.occurrences plan →
    (name, use.field) ∈ fragment.entries
  /-- A name stands for one field only. -/
  field_eq : ∀ use name use' name', (use, name) ∈ fragment.occurrences plan →
    (use', name') ∈ fragment.occurrences plan → name = name' → use.field = use'.field
  /-- A field compared with one column has one name. -/
  name_eq : ∀ use name use' name', (use, name) ∈ fragment.occurrences plan →
    (use', name') ∈ fragment.occurrences plan → use.field = use'.field →
    use.counterpart = use'.counterpart → name = name'
  /-- What is bound is the value of the field, in the form that a use of it needs. -/
  madeFor_of_mem : ∀ binding ∈ fragment.bindings, ∃ use ∈ plan.uses, binding.MadeFor param use
  deferred_eq_nil : param.isSome = true → fragment.deferred = []
  bindings_eq_nil : param = none → fragment.bindings = []

end Fragment

theorem Piece.placeholder_mem_iff {name : Ident} {expr : Expr} :
    Piece.placeholder name ∈ expr.pieces ↔ name ∈ expr.placeholders := by
  unfold Expr.placeholders
  rw [List.mem_filterMap]
  constructor
  · intro hmem
    exact ⟨_, hmem, rfl⟩
  · rintro ⟨piece, hmem, hname⟩
    cases piece with
    | words text => contradiction
    | placeholder other =>
        obtain rfl := Option.some.inj hname
        exact hmem

theorem mem_zip_map_iff {α β : Type} {f : α → β} {items : List α} {a : α} {b : β} :
    (a, b) ∈ items.zip (items.map f) ↔ a ∈ items ∧ b = f a := by
  induction items with
  | nil => simp
  | cons item rest ih =>
      simp only [List.map_cons, List.zip_cons_cons, List.mem_cons, Prod.mk.injEq, ih]
      grind

/-- The placeholders of a compiled predicate correspond one to one to the entries of its lists,
whatever is bound. -/
theorem exists_plan_corresponds {table : Table} {param : Option FieldValues}
    {predicate : Predicate} {fragment : Fragment}
    (h : compile table param predicate = .ok fragment) :
    ∃ plan, Plan.ofPredicate? table param predicate = some plan ∧
      fragment.Corresponds param plan := by
  obtain ⟨plan, held, hcompiled, hissues, rfl⟩ := compiled_of_compile h
  have haligned := hissues.aligned (Placeholders.aligned_empty param)
  -- Names and occurrences are brought back to the uses of the plan, of which all else is known.
  have hnames : Fragment.names ⟨plan.expr (Use.name held.issued), held.bindings, held.deferred⟩ =
      held.names := by
    rw [Placeholders.names, haligned.issued_eq]
    rfl
  have hfirst : held.names = (plan.uses.map (Use.name held.issued)).eraseDups := by
    simpa [Placeholders.names, Placeholders.empty] using hissues.names_eq
  have hplaceholders := Plan.placeholders_expr (Use.name held.issued) plan
  have hoccurrence {use : Use} {name : Ident}
      (hmem : (use, name) ∈ Fragment.occurrences
        ⟨plan.expr (Use.name held.issued), held.bindings, held.deferred⟩ plan) :
      use ∈ plan.uses ∧ name = use.name held.issued := by
    rw [Fragment.occurrences, hplaceholders] at hmem
    exact mem_zip_map_iff.mp hmem
  refine ⟨plan, ofPredicate?_of_compiled hcompiled, ?_⟩
  constructor
  case text_eq => exact fun dialect => Expr.render_eq_join dialect _
  case isName_of_mem => exact fun name _ => name.valid
  case nodup => rw [hnames]; exact haligned.nodup
  case mem_iff =>
    intro name
    rw [Piece.placeholder_mem_iff, hnames, hfirst, hplaceholders, List.mem_eraseDups]
  case names_eq => rw [hnames, hfirst, hplaceholders]
  case length_eq => rw [hplaceholders, List.length_map]
  case entry_of_occurrence =>
    intro use name hmem
    obtain ⟨huse, rfl⟩ := hoccurrence hmem
    rw [Fragment.entries, ← haligned.issued_eq]
    exact Issued.mem_of_lookup (hissues.lookup_name huse)
  case field_eq =>
    intro use name use' name' hmem hmem' heq
    obtain ⟨huse, rfl⟩ := hoccurrence hmem
    obtain ⟨huse', rfl⟩ := hoccurrence hmem'
    have hlookup := hissues.lookup_name huse
    rw [heq, hissues.lookup_name huse'] at hlookup
    exact (Option.some.inj hlookup).symm
  case name_eq =>
    intro use name use' name' hmem hmem' hfield hcounterpart
    obtain ⟨huse, rfl⟩ := hoccurrence hmem
    obtain ⟨huse', rfl⟩ := hoccurrence hmem'
    have hof := hcompiled.of?_of_mem_uses huse
    rw [hfield, hcounterpart, hcompiled.of?_of_mem_uses huse'] at hof
    rw [Option.some.inj hof]
  case madeFor_of_mem =>
    intro binding hmem
    rcases hissues.mem_bindings hmem with hnone | hmade
    · simp [Placeholders.empty] at hnone
    · exact hmade
  case deferred_eq_nil => exact haligned.deferred_eq_nil
  case bindings_eq_nil => exact haligned.bindings_eq_nil

/-! Two fields of the parameter are compared with one column, so the second gets a number; a third
one, which has no column opposite to it, has the numbered name itself and gets a number in turn. -/

def between : Predicate :=
  .join .and (.compare .gt (.row "Value") (.param "least"))
    (.join .and (.compare .gt (.param "greatest") (.row "Value"))
      (.join .or (.compare .gt (.param "Value_2") (.literal (.int 0)))
        (.compare .ne (.row "Value") (.param "least"))))

def betweenFragment : Fragment where
  expr :=
    .join .and (.compare .gt (.column Stock.valueName) (.placeholder Stock.valueName))
      (.join .and (.compare .lt (.column Stock.valueName) (.placeholder numbered))
        (.join .or (.compare .gt (.placeholder (numbered.suffixed 2)) (.int 0))
          (.compare .ne (.column Stock.valueName) (.placeholder Stock.valueName))))
  bindings := []
  deferred :=
    [⟨Stock.valueName, "least"⟩, ⟨numbered, "greatest"⟩, ⟨numbered.suffixed 2, "Value_2"⟩]
where
  numbered : Ident := Stock.valueName.suffixed 2

theorem compile_between : compile Stock.table none between = .ok betweenFragment := by
  rfl

theorem exists_plan_corresponds_between :
    compile Stock.table none between = .ok betweenFragment ∧
      ∃ plan, Plan.ofPredicate? Stock.table none between = some plan ∧
        betweenFragment.Corresponds none plan :=
  ⟨compile_between, exists_plan_corresponds compile_between⟩

end RecordSql.Sql
