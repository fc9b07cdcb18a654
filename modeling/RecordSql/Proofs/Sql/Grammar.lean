import RecordSql.Proofs.Sql.Correspondence
import RecordSql.Proofs.Sql.Leaf

/-!
# The grammar of written expressions

An expression is `0`, `1`, a join of two expressions, a comparison of two leaves or a test of a
leaf for null, each of the last three between parentheses of its own.  No text has two parses, and
the text of a compiled predicate has one: the tree that the rules assign to the predicate.
-/

namespace RecordSql.Sql

/-! ## Trees -/

/-- An expression as it is read. -/
inductive Tree where
  | constant (value : Bool)
  | join (op : Connective) (left right : Tree)
  | compare (op : Comparison) (left right : Leaf)
  | nullTest (wanted : Bool) (leaf : Leaf)
  deriving DecidableEq

/-- The words of a test for null. -/
def nullWords (wanted : Bool) : String :=
  if wanted then "IS NULL" else "IS NOT NULL"

/-- The texts that a tree parses. -/
inductive Tree.Spells (dialect : Dialect) : Tree → List Char → Prop
  | constant (value : Bool) : Spells dialect (.constant value) (flagText value).toList
  | join {op : Connective} {left right : Tree} {a b : List Char} (hleft : Spells dialect left a)
      (hright : Spells dialect right b) :
      Spells dialect (.join op left right)
        ('(' :: (a ++ ' ' :: (op.symbol.toList ++ ' ' :: (b ++ [')']))))
  | compare {op : Comparison} {left right : Leaf} {a b : List Char}
      (hleft : left.Spells dialect a) (hright : right.Spells dialect b) :
      Spells dialect (.compare op left right)
        ('(' :: (a ++ ' ' :: (op.symbol.toList ++ ' ' :: (b ++ [')']))))
  | nullTest {wanted : Bool} {leaf : Leaf} {a : List Char} (hleaf : leaf.Spells dialect a) :
      Spells dialect (.nullTest wanted leaf)
        ('(' :: (a ++ ' ' :: ((nullWords wanted).toList ++ [')'])))

/-! ## One parse at most -/

section Unique

variable {dialect : Dialect} {a b : List Char}

theorem ends_blank (rest : List Char) : Ends (' ' :: rest) :=
  ⟨' ', rest, rfl, Or.inl rfl⟩

theorem ends_close (rest : List Char) : Ends (')' :: rest) :=
  ⟨')', rest, rfl, Or.inr rfl⟩

theorem Connective.symbol_unique {op op' : Connective}
    (h : op.symbol.toList ++ ' ' :: a = op'.symbol.toList ++ ' ' :: b) : op = op' ∧ a = b := by
  cases op <;> cases op' <;> simp_all [Connective.symbol]

theorem Comparison.symbol_unique {op op' : Comparison}
    (h : op.symbol.toList ++ ' ' :: a = op'.symbol.toList ++ ' ' :: b) : op = op' ∧ a = b := by
  cases op <;> cases op' <;> simp_all [Comparison.symbol]

theorem nullWords_unique {wanted wanted' : Bool}
    (h : (nullWords wanted).toList ++ ')' :: a = (nullWords wanted').toList ++ ')' :: b) :
    wanted = wanted' ∧ a = b := by
  cases wanted <;> cases wanted' <;> simp_all [nullWords]

/-- The word between two expressions is none that stands behind a leaf. -/
theorem symbol_ne (op : Connective) (op' : Comparison) (wanted : Bool) :
    op.symbol.toList ++ ' ' :: a ≠ op'.symbol.toList ++ ' ' :: b ∧
      op.symbol.toList ++ ' ' :: a ≠ (nullWords wanted).toList ++ ')' :: b ∧
      op'.symbol.toList ++ ' ' :: a ≠ (nullWords wanted).toList ++ ')' :: b := by
  refine ⟨?_, ?_, ?_⟩ <;> cases op <;> cases op' <;> cases wanted <;>
    simp [Connective.symbol, Comparison.symbol, nullWords]

/-- No leaf begins with a parenthesis. -/
theorem Leaf.Spells.ne_paren (hmark : dialect.MarksPlaceholders) {leaf : Leaf} {text : List Char}
    (h : leaf.Spells dialect text) : text ++ a ≠ '(' :: b := by
  intro heq
  cases h with
  | identifier name =>
      have hlead := (List.cons.inj heq).1
      cases hquote : dialect.quoteStyle <;> simp [hquote, QuoteStyle.delimiters] at hlead
  | placeholder hname =>
      have hlead := (List.cons.inj heq).1
      rcases hmark with hmark | hmark <;> simp [hmark] at hlead
  | text value =>
      have hlead := (List.cons.inj heq).1
      simp [Text.apostrophes] at hlead
  | number hdigits =>
      obtain ⟨c, rest, hcons, hlead, -⟩ := exists_cons_of_isNumber hdigits
      rw [hcons] at heq
      obtain rfl := (List.cons.inj heq).1
      simp at hlead
  | null => simp at heq

/-- A leaf that reads as an expression is `0` or `1`, so both end at the same place. -/
theorem Leaf.Spells.rest_eq (hmark : dialect.MarksPlaceholders) {leaf : Leaf} {tree : Tree}
    {text text' : List Char} (h : leaf.Spells dialect text) (h' : tree.Spells dialect text')
    (heq : text ++ ' ' :: a = text' ++ ' ' :: b) : a = b := by
  cases h' with
  | constant value =>
      -- As a leaf, `0` or `1` is a number, and of two leaves the front of a text spells one.
      have hnumber : (Leaf.number (flagText value)).Spells dialect (flagText value).toList :=
        .number (isNumber_flagText value)
      obtain ⟨-, -, hrest⟩ := h.unique hmark hnumber (ends_blank a) (ends_blank b) heq
      exact (List.cons.inj hrest).2
  | join hleft hright => exact (h.ne_paren hmark heq).elim
  | compare hleft hright => exact (h.ne_paren hmark heq).elim
  | nullTest hleaf => exact (h.ne_paren hmark heq).elim

/-- What follows an expression of two parts follows its closing parenthesis. -/
theorem between_append (first op second rest : List Char) :
    ('(' :: (first ++ ' ' :: (op ++ ' ' :: (second ++ [')'])))) ++ rest =
      '(' :: (first ++ ' ' :: (op ++ ' ' :: (second ++ ')' :: rest))) := by
  simp

/-- What follows a test for null follows its closing parenthesis. -/
theorem behind_append (first words rest : List Char) :
    ('(' :: (first ++ ' ' :: (words ++ [')']))) ++ rest =
      '(' :: (first ++ ' ' :: (words ++ ')' :: rest)) := by
  simp

/-- `0` and `1` do not begin with a parenthesis. -/
theorem flagText_ne_paren (value : Bool) : (flagText value).toList ++ a ≠ '(' :: b := by
  cases value <;> simp [flagText]

/-- An expression is determined by the front of a text, whatever follows. -/
theorem Tree.Spells.unique (hmark : dialect.MarksPlaceholders) {tree tree' : Tree}
    {text text' rest rest' : List Char} (h : tree.Spells dialect text)
    (h' : tree'.Spells dialect text') (heq : text ++ rest = text' ++ rest') :
    tree = tree' ∧ rest = rest' := by
  -- Behind the parenthesis the parts are compared from left to right: where the first parts end
  -- alike the words behind them decide the kind of the expression.
  induction h generalizing tree' text' rest rest' with
  | constant value =>
      cases h' with
      | constant value' => cases value <;> cases value' <;> simp_all [flagText]
      | _ => exact (flagText_ne_paren value heq).elim
  | @join op left right s t hleft hright ihLeft ihRight =>
      rw [between_append] at heq
      cases h' with
      | constant value' => exact (flagText_ne_paren value' heq.symm).elim
      | join hleft' hright' =>
          rw [between_append] at heq
          obtain ⟨rfl, hmiddle⟩ := ihLeft hleft' (List.cons.inj heq).2
          obtain ⟨rfl, hlast⟩ := Connective.symbol_unique (List.cons.inj hmiddle).2
          obtain ⟨rfl, hrest⟩ := ihRight hright' hlast
          exact ⟨rfl, (List.cons.inj hrest).2⟩
      | @compare op' left' right' s' t' hleft' hright' =>
          rw [between_append] at heq
          have hrest := hleft'.rest_eq hmark hleft (List.cons.inj heq).2.symm
          exact absurd hrest.symm (symbol_ne op op' true).1
      | @nullTest wanted leaf s' hleaf' =>
          rw [behind_append] at heq
          have hrest := hleaf'.rest_eq hmark hleft (List.cons.inj heq).2.symm
          exact absurd hrest.symm (symbol_ne op .eq wanted).2.1
  | @compare op left right s t hleft hright =>
      rw [between_append] at heq
      cases h' with
      | constant value' => exact (flagText_ne_paren value' heq.symm).elim
      | @join op' left' right' s' t' hleft' hright' =>
          rw [between_append] at heq
          have hrest := hleft.rest_eq hmark hleft' (List.cons.inj heq).2
          exact absurd hrest.symm (symbol_ne op' op true).1
      | @compare op' left' right' s' t' hleft' hright' =>
          rw [between_append] at heq
          obtain ⟨rfl, -, hmiddle⟩ :=
            hleft.unique hmark hleft' (ends_blank _) (ends_blank _) (List.cons.inj heq).2
          obtain ⟨rfl, hlast⟩ := Comparison.symbol_unique (List.cons.inj hmiddle).2
          obtain ⟨rfl, -, hrest⟩ := hright.unique hmark hright' (ends_close _) (ends_close _) hlast
          exact ⟨rfl, (List.cons.inj hrest).2⟩
      | @nullTest wanted leaf s' hleaf' =>
          rw [behind_append] at heq
          obtain ⟨-, -, hrest⟩ :=
            hleft.unique hmark hleaf' (ends_blank _) (ends_blank _) (List.cons.inj heq).2
          exact absurd (List.cons.inj hrest).2 (symbol_ne .and op wanted).2.2
  | @nullTest wanted leaf s hleaf =>
      rw [behind_append] at heq
      cases h' with
      | constant value' => exact (flagText_ne_paren value' heq.symm).elim
      | @join op' left' right' s' t' hleft' hright' =>
          rw [between_append] at heq
          have hrest := hleaf.rest_eq hmark hleft' (List.cons.inj heq).2
          exact absurd hrest.symm (symbol_ne op' .eq wanted).2.1
      | @compare op' left' right' s' t' hleft' hright' =>
          rw [between_append] at heq
          obtain ⟨-, -, hrest⟩ :=
            hleaf.unique hmark hleft' (ends_blank _) (ends_blank _) (List.cons.inj heq).2
          exact absurd (List.cons.inj hrest).2.symm (symbol_ne .and op' wanted).2.2
      | @nullTest wanted' leaf' s' hleaf' =>
          rw [behind_append] at heq
          obtain ⟨rfl, -, hlast⟩ :=
            hleaf.unique hmark hleaf' (ends_blank _) (ends_blank _) (List.cons.inj heq).2
          obtain ⟨rfl, hrest⟩ := nullWords_unique (List.cons.inj hlast).2
          exact ⟨rfl, hrest⟩

/-- No text has two parses. -/
theorem Tree.Spells.tree_eq (hmark : dialect.MarksPlaceholders) {tree tree' : Tree}
    {text : List Char} (h : tree.Spells dialect text) (h' : tree'.Spells dialect text) :
    tree = tree' :=
  have heq : text ++ [] = text ++ [] := rfl
  (h.unique hmark h' heq).1

end Unique

/-! ## The tree that is written -/

/-- An operand as it is read: a truth value is a number, and a number is its digits. -/
def Operand.leaf : Operand → Leaf
  | column name => .identifier name.name
  | placeholder name => .placeholder name.name
  | null => .null
  | flag value => .number (flagText value)
  | int value => .number (toString value)
  | real value => .number value.plain
  | text value => .text value

def Expr.tree : Expr → Tree
  | constant value => .constant value
  | join op left right => .join op left.tree right.tree
  | compare op left right => .compare op left.leaf right.leaf
  | nullTest wanted operand => .nullTest wanted operand.leaf

/-- Whether an operand can be written; only a finite real can. -/
def Operand.IsWritable : Operand → Prop
  | real value => value.isFinite = true
  | _ => True

def Expr.IsWritable : Expr → Prop
  | constant _ => True
  | join _ left right => left.IsWritable ∧ right.IsWritable
  | compare _ left right => left.IsWritable ∧ right.IsWritable
  | nullTest _ operand => operand.IsWritable

theorem Operand.spells_render (dialect : Dialect) {operand : Operand} (h : operand.IsWritable) :
    operand.leaf.Spells dialect (operand.render dialect).toList := by
  cases operand with
  | column name =>
      rw [render, Dialect.quote, QuoteStyle.quote, String.toList_ofList]
      exact .identifier name.name
  | placeholder name =>
      have hmark : dialect.placeholderMark.toString.toList = [dialect.placeholderMark] := by
        simp
      rw [render, Dialect.placeholder, String.toList_append, hmark]
      exact .placeholder name.valid
  | null => exact .null
  | flag value => exact .number (isNumber_flagText value)
  | int value => exact .number (isNumber_toString value)
  | real value => exact .number (isNumber_plain h)
  | text value =>
      rw [render, Dialect.textLiteral, String.toList_ofList]
      exact .text value

theorem Expr.spells_render (dialect : Dialect) {expr : Expr} (h : expr.IsWritable) :
    expr.tree.Spells dialect (expr.render dialect).toList := by
  induction expr with
  | constant value => exact .constant value
  | join op left right ihLeft ihRight =>
      have hspells : (Tree.join op left.tree right.tree).Spells dialect _ :=
        .join (ihLeft h.1) (ihRight h.2)
      simpa [render, tree, String.toList_append] using hspells
  | compare op left right =>
      have hspells : (Tree.compare op left.leaf right.leaf).Spells dialect _ :=
        .compare (left.spells_render dialect h.1) (right.spells_render dialect h.2)
      simpa [render, tree, String.toList_append] using hspells
  | nullTest wanted operand =>
      have hspells : (Tree.nullTest wanted operand.leaf).Spells dialect _ :=
        .nullTest (operand.spells_render dialect h)
      cases wanted <;> simpa [render, tree, String.toList_append, nullWords] using hspells

/-! ## Compiled predicates -/

theorem isWritable_of_ofOperand? {counterpart : Option Column} {operand : RecordSql.Operand}
    {side : Side} (name : Use → Ident) (h : Side.ofOperand? counterpart operand = some side) :
    (side.operand name).IsWritable := by
  cases operand with
  | column c =>
      obtain rfl := Option.some.inj h
      trivial
  | param field =>
      obtain ⟨use, -, rfl⟩ := Option.map_eq_some_iff.mp h
      trivial
  | literal value =>
      obtain ⟨rfl, hfinite⟩ := eq_literal_of_ofOperand? h
      cases value with
      | real value => exact hfinite value rfl
      | null | bool | int | text => trivial

/-- Every real in a compiled predicate is finite. -/
theorem Compiled.isWritable {compiler : Compiler} {predicate : Predicate} {plan : Plan}
    (h : Compiled compiler predicate plan) (name : Use → Ident) : (plan.expr name).IsWritable := by
  induction h with
  | constant => trivial
  | rowField hcolumn hfamily => exact ⟨trivial, trivial⟩
  | boundField hlookup => trivial
  | freeField hlookup huse => exact ⟨trivial, trivial⟩
  | nullTest htest hwanted hside => exact isWritable_of_ofOperand? name hside
  | compare htest hfirst hsecond =>
      exact ⟨isWritable_of_ofOperand? name hfirst, isWritable_of_ofOperand? name hsecond⟩
  | join hleft hright ihLeft ihRight => exact ⟨ihLeft, ihRight⟩

/-- The text of a compiled predicate has exactly one parse, which is the tree that the rules
assign to the predicate; it is the same in all dialects. -/
theorem exists_plan_spells_iff {table : Table} {param : Option FieldValues}
    {predicate : Predicate} {fragment : Fragment}
    (h : compile table param predicate = .ok fragment) :
    ∃ plan, Plan.ofPredicate? table param predicate = some plan ∧
      ∀ dialect : Dialect, dialect.MarksPlaceholders → ∀ tree : Tree,
        tree.Spells dialect (fragment.sql dialect).toList ↔
          tree = (plan.expr (Use.name fragment.entries)).tree := by
  obtain ⟨plan, held, hcompiled, hissues, rfl⟩ := compiled_of_compile h
  have haligned := hissues.aligned (Placeholders.aligned_empty param)
  have hentries : Fragment.entries
      ⟨plan.expr (Use.name held.issued), held.bindings, held.deferred⟩ = held.issued :=
    haligned.issued_eq.symm
  refine ⟨plan, ofPredicate?_of_compiled hcompiled, ?_⟩
  intro dialect hmark tree
  rw [hentries]
  have hspells := Expr.spells_render dialect (hcompiled.isWritable (Use.name held.issued))
  constructor
  · intro htree
    exact htree.tree_eq hmark hspells
  · rintro rfl
    exact hspells

/-! A literal that would close itself and add a condition, a field of the parameter that is bound
but not set, and a comparison written the other way round. -/

def hostile : Predicate :=
  .join .or (.compare .ne (.literal (.text "') OR (1 = 1")) (.row "Label"))
    (.join .and (.compare .eq (.row "Owner") (.param "owner"))
      (.compare .lt (.param "least") (.row "Value")))

def hostileBounds : FieldValues
  | "owner" => some (.int 0)
  | "least" => some (.int 2)
  | _ => none

def hostileFragment : Fragment where
  expr :=
    .join .or (.compare .ne (.column Stock.labelName) (.text "') OR (1 = 1"))
      (.join .and (.nullTest true (.column Stock.ownerName))
        (.compare .gt (.column Stock.valueName) (.placeholder Stock.valueName)))
  bindings := [⟨Stock.valueName, "least", .int 2⟩]
  deferred := []

theorem compile_hostile :
    compile Stock.table (some hostileBounds) hostile = .ok hostileFragment := by
  rfl

example : hostileFragment.sql .sqlite =
    "(([Label] != ''') OR (1 = 1') OR (([Owner] IS NULL) AND ([Value] > @Value)))" := by
  decide

theorem exists_plan_spells_iff_hostile :
    compile Stock.table (some hostileBounds) hostile = .ok hostileFragment ∧
      ∃ plan, Plan.ofPredicate? Stock.table (some hostileBounds) hostile = some plan ∧
        ∀ dialect : Dialect, dialect.MarksPlaceholders → ∀ tree : Tree,
          tree.Spells dialect (hostileFragment.sql dialect).toList ↔
            tree = (plan.expr (Use.name hostileFragment.entries)).tree :=
  ⟨compile_hostile, exists_plan_spells_iff compile_hostile⟩

end RecordSql.Sql
