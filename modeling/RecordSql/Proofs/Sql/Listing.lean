import RecordSql.Proofs.Sql.LateBinding
import RecordSql.Proofs.Sql.ListText
import RecordSql.Proofs.Table.Resolved

/-!
# The columns that statements list

What a statement declares, selects, inserts or sets, read off its text, and what is bound for it.
The lists of a statement are written apart from each other and apart from its bindings; they agree
all the same, item by item, whichever column is the identity and whichever fields have values.
-/

namespace RecordSql

theorem exists_error_iff {ε α : Type} {x : Except ε α} :
    (∃ e, x = .error e) ↔ ¬∃ a, x = .ok a := by
  cases x <;> simp

/-! ## Names in a text -/

/-- No two names are the same up to the case of ASCII letters. -/
def Ident.Distinct (names : List Ident) : Prop :=
  names.Pairwise fun a b => a.sameIgnoringCase b = false

theorem Ident.sameIgnoringCase_comm (a b : Ident) :
    a.sameIgnoringCase b = b.sameIgnoringCase a :=
  Bool.beq_comm

theorem Ident.Distinct.perm {names names' : List Ident} (h : Distinct names)
    (hperm : names.Perm names') : Distinct names' :=
  hperm.pairwise h fun {a b} hab => by rwa [b.sameIgnoringCase_comm a]

/-- The text that an insert hands back its row by. -/
def InsertedRow.clause : InsertedRow → String
  | output clause => clause
  | returning clause => clause
  | followUp lastIdentity => lastIdentity

namespace Dialect

variable {dialect : Dialect}

/-- The name that stands between delimiters at the front of a text. -/
def leadingName? (dialect : Dialect) (text : List Char) : Option (List Char) :=
  (dialect.quoteStyle.delimiters.unquote? text).map Prod.fst

/-- The sign of a placeholder stands for nothing else, and the dialect's own clauses have no
placeholders. -/
structure Unmarked (dialect : Dialect) : Prop where
  isPart_mark : Ident.isPart dialect.placeholderMark = false
  mark_not_mem : dialect.placeholderMark ∉ Sql.signs
  insertedRow :
    Sql.placeholdersIn dialect.placeholderMark dialect.insertedRow.clause.toList = []
  updateReturning : ∀ clause ∈ dialect.updateReturning,
    Sql.placeholdersIn dialect.placeholderMark clause.toList = []
  rowIdentity : ∀ pseudo ∈ dialect.rowIdentity,
    Sql.placeholdersIn dialect.placeholderMark pseudo.toList = []

theorem toList_quote (dialect : Dialect) (name : Ident) :
    (dialect.quote name).toList = dialect.quoteStyle.delimiters.opening ::
      (Text.doubled dialect.quoteStyle.delimiters.closing name.name.toList ++
        [dialect.quoteStyle.delimiters.closing]) :=
  String.toList_ofList

theorem mem_of_mem_doubled {closing c : Char} {text : List Char}
    (h : c ∈ Text.doubled closing text) : c ∈ text := by
  induction text with
  | nil => exact h
  | cons d text ih =>
      rw [Text.doubled] at h
      split at h <;> simp_all <;> tauto

/-- A delimited name has no other characters than its own and the delimiters. -/
theorem not_mem_quote {c : Char} (hpart : Ident.isPart c = false)
    (hopening : c ≠ dialect.quoteStyle.delimiters.opening)
    (hclosing : c ≠ dialect.quoteStyle.delimiters.closing) (name : Ident) :
    c ∉ (dialect.quote name).toList := by
  intro hmem
  rw [toList_quote, List.mem_cons, List.mem_append, List.mem_singleton] at hmem
  rcases hmem with h | h | h
  · exact hopening h
  · simp [Ident.isPart_of_mem name.valid c (mem_of_mem_doubled h)] at hpart
  · exact hclosing h

theorem comma_not_mem_quote (dialect : Dialect) (name : Ident) :
    ',' ∉ (dialect.quote name).toList :=
  not_mem_quote (by decide) (by cases dialect.quoteStyle <;> decide)
    (by cases dialect.quoteStyle <;> decide) name

theorem toList_placeholder (dialect : Dialect) (name : String) :
    (dialect.placeholder name).toList = dialect.placeholderMark :: name.toList := by
  simp [placeholder, Char.toString]

/-- A placeholder in a list is an item, whatever the sign is. -/
theorem isItem_placeholder (dialect : Dialect) (name : Ident) :
    Sql.isItem (dialect.placeholder name.name).toList = true := by
  have hparts := Ident.isPart_of_mem name.valid
  have hvalid := name.valid
  rw [toList_placeholder]
  cases hname : name.name.toList with
  | nil => simp [hname, Ident.isName] at hvalid
  | cons c rest =>
      rw [hname] at hparts
      have hnot {d : Char} (hd : Ident.isPart d = false) : d ∉ c :: rest := fun hmem => by
        simp [hparts d hmem] at hd
      refine Sql.isItem_cons ?_ (hnot (by decide))
      rintro rfl
      exact hnot (d := ' ') (by decide) List.mem_cons_self

/-- A delimited name is read back from the front of a text. -/
theorem leadingName?_quote (dialect : Dialect) (name : Ident) {rest : List Char}
    (hrest : ∀ c ∈ rest.head?, c ≠ dialect.quoteStyle.delimiters.closing) :
    dialect.leadingName? ((dialect.quote name).toList ++ rest) = some name.name.toList := by
  rw [leadingName?, toList_quote, List.cons_append, List.append_assoc, Text.Delimiters.unquote?,
    if_pos rfl, List.singleton_append, Text.untilClosing?_doubled hrest]
  rfl

end Dialect

namespace Sql.TableSql

variable (sql : TableSql)

/-! ## What the lists say -/

/-- The declaration of a column: its delimited name, its type, and what is added to it. -/
def Declares (column : Column) (added declaration : String) : Prop :=
  declaration = sql.columnText column ++ " " ++ column.storageType sql.dialect ++ added ∧
    sql.dialect.leadingName? declaration.toList = some column.name.name.toList

/-- A table is created with a declaration of the identity, and then one of every other column. -/
def Creates : Prop :=
  ∃ (first : String) (rest : List String),
    sql.text .createTable = "CREATE TABLE " ++ sql.tableText ++ " (\n    " ++
      ",\n    ".intercalate (first :: rest) ++ "\n);" ∧
    sql.Declares sql.table.identity sql.dialect.identitySuffix first ∧
    List.Forall₂ (fun column declaration => sql.Declares column "" declaration)
      sql.table.nonIdentity rest

/-- What stands before the columns of a select: a pseudo-column that is read as the first one. -/
def leadText : String :=
  match sql.dialect.rowIdentity with
  | some pseudo => pseudo ++ " AS "
  | none => ""

/-- Every select lists these columns. -/
def Selects (columns : List Column) : Prop :=
  ∀ rows, ∃ list more : String,
    sql.text (.select rows) =
      "SELECT " ++ sql.leadText ++ list ++ " FROM " ++ sql.tableText ++ more ∧
    listItems list.toList = columns.map fun column => (sql.columnText column).toList

/-- What stands between the columns of an insert and its values. -/
def outputText : String :=
  match sql.dialect.insertedRow with
  | .output clause => " " ++ clause
  | _ => ""

/-- What stands behind the values of an insert. -/
def returnedText : String :=
  match sql.dialect.insertedRow with
  | .output _ => ""
  | .returning clause => " " ++ clause
  | .followUp lastIdentity =>
      "; " ++ sql.selectText ++ " WHERE " ++ sql.identityText ++ " = " ++ lastIdentity

/-- An insert lists the columns other than the identity, with a placeholder for each, and binds
their fields in the same order. -/
structure Inserts (values : FieldValues) (statement : Statement) : Prop where
  bindings : List.Forall₂ (Binding.Holds values) sql.table.nonIdentity statement.bindings
  deferred_eq_nil : statement.deferred = []
  distinct : Ident.Distinct (statement.bindings.map Binding.name)
  defaults : sql.table.nonIdentity = [] →
    sql.text statement.command = "INSERT INTO " ++ sql.tableText ++ sql.outputText ++
      " DEFAULT VALUES" ++ sql.returnedText ++ ";"
  lists : sql.table.nonIdentity ≠ [] → ∃ names marks : String,
    sql.text statement.command = "INSERT INTO " ++ sql.tableText ++ " (" ++ names ++ ")" ++
      sql.outputText ++ " VALUES (" ++ marks ++ ")" ++ sql.returnedText ++ ";" ∧
    listItems names.toList =
      sql.table.nonIdentity.map (fun column => (sql.columnText column).toList) ∧
    listItems marks.toList =
      statement.bindings.map fun binding => (sql.mark binding.name).toList
  placeholders : sql.dialect.Unmarked →
    placeholdersIn sql.dialect.placeholderMark (sql.text statement.command).toList =
      statement.bindings.map fun binding => binding.name.name.toList

/-- The columns other than the identity whose fields have values. -/
def valued (values : FieldValues) : List Column :=
  sql.table.nonIdentity.filter fun column => (values column.field).isSome

/-- An update sets the columns whose fields have values, each to the placeholder of its name, and
binds the fields in the same order and the identity behind them. -/
structure Updates (values : FieldValues) (id : Int64) (statement : Statement) : Prop where
  identity_not_mem : sql.table.identity ∉ sql.valued values
  bindings : ∃ early stored, statement.bindings = early ++ [.ofColumn sql.table.identity stored] ∧
    List.Forall₂ (Binding.Holds values) (sql.valued values) early ∧
    sql.table.identity.serialize (.int id) = .ok stored
  deferred_eq_nil : statement.deferred = []
  distinct : Ident.Distinct (statement.bindings.map Binding.name)
  list : ∃ list : String,
    sql.text statement.command = "UPDATE " ++ sql.tableText ++ " SET " ++ list ++ " WHERE " ++
      sql.assignment sql.table.identity.name ++ sql.updateReturningText ++ ";" ∧
    listItems list.toList =
      (sql.valued values).map fun column => (sql.assignment column.name).toList
  placeholders : sql.dialect.Unmarked →
    placeholdersIn sql.dialect.placeholderMark (sql.text statement.command).toList =
      statement.bindings.map fun binding => binding.name.name.toList

/-! ## Lists in the text -/

theorem isItem_columnText (column : Column) : isItem (sql.columnText column).toList = true :=
  isItem_of_not_mem (sql.dialect.comma_not_mem_quote column.name)

theorem isItem_assignment (name : Ident) : isItem (sql.assignment name).toList = true := by
  rw [assignment, String.toList_append]
  refine isItem_append ?_ (sql.dialect.isItem_placeholder name)
  rw [String.toList_append, List.mem_append]
  rintro (h | h)
  · exact sql.dialect.comma_not_mem_quote name h
  · exact absurd h (by decide)

theorem declares (column : Column) (added : String) :
    sql.Declares column added
      (sql.columnText column ++ " " ++ column.storageType sql.dialect ++ added) := by
  refine ⟨rfl, ?_⟩
  rw [String.append_assoc, String.append_assoc, String.toList_append]
  refine sql.dialect.leadingName?_quote column.name ?_
  cases sql.dialect.quoteStyle <;> simp [QuoteStyle.delimiters]

/-- Every column is declared under its delimited name. -/
theorem creates : sql.Creates := by
  refine ⟨_, _, rfl, sql.declares sql.table.identity sql.dialect.identitySuffix, ?_⟩
  rw [List.forall₂_map_right_iff, List.forall₂_same]
  intro column _
  simpa using sql.declares column ""

/-- The columns in the order in which they are selected. -/
def selectedColumns : List Column :=
  match sql.dialect.rowIdentity with
  | some _ => sql.table.identity :: sql.table.nonIdentity
  | none => sql.table.columns

theorem perm_selectedColumns : sql.selectedColumns.Perm sql.table.columns := by
  unfold selectedColumns
  split
  · exact List.perm_middle.symm
  · exact .refl _

theorem selectedColumns_ne_nil : sql.selectedColumns ≠ [] := by
  unfold selectedColumns
  split <;> simp [Table.columns]

theorem selectText_eq : sql.selectText = "SELECT " ++ sql.leadText ++
    commaList (sql.selectedColumns.map sql.columnText) ++ " FROM " ++ sql.tableText := by
  have hlist : commaList sql.selected =
      sql.leadText ++ commaList (sql.selectedColumns.map sql.columnText) := by
    unfold selected leadText selectedColumns
    cases sql.dialect.rowIdentity with
    | none => exact String.empty_append.symm
    | some pseudo => exact commaList_cons_append _ _ _
  rw [selectText, hlist, ← String.append_assoc]

theorem selects : sql.Selects sql.selectedColumns := by
  intro rows
  refine ⟨commaList (sql.selectedColumns.map sql.columnText), sql.selectionText rows ++ ";", ?_,
    listItems_map sql.selectedColumns_ne_nil sql.isItem_columnText⟩
  change sql.selectText ++ sql.selectionText rows ++ ";" = _
  rw [selectText_eq, String.append_assoc]

/-! ## Inserts and updates -/

theorem insertText_of_eq_nil (h : sql.table.nonIdentity = []) :
    sql.insertText = "INSERT INTO " ++ sql.tableText ++ sql.outputText ++ " DEFAULT VALUES" ++
      sql.returnedText ++ ";" := by
  unfold insertText outputText returnedText
  cases sql.dialect.insertedRow <;>
    simp only [h, List.isEmpty_nil, if_true, String.append_empty, String.append_assoc]

theorem insertText_of_ne_nil (h : sql.table.nonIdentity ≠ []) :
    sql.insertText = "INSERT INTO " ++ sql.tableText ++ " (" ++
      commaList (sql.table.nonIdentity.map sql.columnText) ++ ")" ++ sql.outputText ++
      " VALUES (" ++ commaList (sql.table.nonIdentity.map fun column => sql.mark column.name) ++
      ")" ++ sql.returnedText ++ ";" := by
  have hne : sql.table.nonIdentity.isEmpty = false := by simpa using h
  unfold insertText outputText returnedText
  cases sql.dialect.insertedRow <;>
    simp only [hne, Bool.false_eq_true, if_false, String.append_assoc, String.empty_append]

/-! ## Placeholders in the text -/

section Placeholders

variable {sql} (hunmarked : sql.dialect.Unmarked)

include hunmarked

/-- The sign is none of the characters of a keyword. -/
theorem mark_not_mem (text : String)
    (h : (text.toList.all fun c => Ident.isPart c || c ∈ signs) = true) :
    sql.dialect.placeholderMark ∉ text.toList := by
  intro hmem
  have hmark := List.all_eq_true.mp h _ hmem
  rw [hunmarked.isPart_mark, Bool.false_or, decide_eq_true_iff] at hmark
  exact hunmarked.mark_not_mem hmark

/-- A text with a keyword in front of it. -/
theorem placeholdersIn_keyword {keyword : String}
    (h : (keyword.toList.all fun c => Ident.isPart c || c ∈ signs) = true) (text : List Char) :
    placeholdersIn sql.dialect.placeholderMark (keyword.toList ++ text) =
      placeholdersIn sql.dialect.placeholderMark text :=
  placeholdersIn_append_of_not_mem (mark_not_mem hunmarked keyword h) text

/-- A text behind a keyword that does not go on with a name. -/
theorem passage_behind (keyword : String)
    (h : (keyword.toList.all fun c => Ident.isPart c || c ∈ signs) = true)
    (hhead : keyword.toList.head?.any (!Ident.isPart ·) = true) {text : List Char}
    {names : List (List Char)}
    (htext : placeholdersIn sql.dialect.placeholderMark text = names) :
    Passage sql.dialect.placeholderMark (keyword.toList ++ text) names where
  head := by
    cases hkeyword : keyword.toList with
    | nil => simp [hkeyword] at hhead
    | cons c rest => simpa [hkeyword] using hhead
  placeholders := (placeholdersIn_keyword hunmarked h text).trans htext

theorem passage_keyword (keyword : String)
    (h : (keyword.toList.all fun c => Ident.isPart c || c ∈ signs) = true)
    (hhead : keyword.toList.head?.any (!Ident.isPart ·) = true) :
    Passage sql.dialect.placeholderMark keyword.toList [] := by
  have hnone := passage_behind hunmarked keyword h hhead
    (show placeholdersIn sql.dialect.placeholderMark [] = [] from rfl)
  rwa [List.append_nil] at hnone

theorem mark_not_mem_quote (name : Ident) :
    sql.dialect.placeholderMark ∉ (sql.dialect.quote name).toList := by
  have hne {c : Char} (hc : c ∈ signs) : sql.dialect.placeholderMark ≠ c := by
    rintro rfl
    exact hunmarked.mark_not_mem hc
  refine Dialect.not_mem_quote hunmarked.isPart_mark (hne ?_) (hne ?_) name
  · cases sql.dialect.quoteStyle <;> decide
  · cases sql.dialect.quoteStyle <;> decide

theorem passage_quote (name : Ident) :
    Passage sql.dialect.placeholderMark (sql.dialect.quote name).toList [] where
  head := by
    rw [Dialect.toList_quote]
    cases sql.dialect.quoteStyle <;> simp [QuoteStyle.delimiters] <;> decide
  placeholders := placeholdersIn_of_not_mem (mark_not_mem_quote hunmarked name)

theorem passage_tableText : Passage sql.dialect.placeholderMark sql.tableText.toList [] :=
  passage_quote hunmarked sql.table.name

theorem passage_mark (name : Ident) :
    Passage sql.dialect.placeholderMark (sql.mark name).toList [name.name.toList] := by
  rw [mark, Dialect.toList_placeholder]
  exact ⟨by simpa using hunmarked.isPart_mark, placeholdersIn_name (hunmarked.isPart_mark) name⟩

theorem passage_columns (columns : List Column) :
    Passage sql.dialect.placeholderMark (commaList (columns.map sql.columnText)).toList [] := by
  have hcolumns := Passage.commaList columns sql.columnText
    (mark_not_mem hunmarked ", " (by decide))
    fun column => passage_quote hunmarked column.name
  rwa [List.flatMap_eq_nil_iff.mpr fun _ _ => rfl] at hcolumns

theorem passage_marks (columns : List Column) :
    Passage sql.dialect.placeholderMark
      (commaList (columns.map fun column => sql.mark column.name)).toList
      (columns.map fun column => column.name.name.toList) := by
  have hmarks := Passage.commaList columns (fun column => sql.mark column.name)
    (mark_not_mem hunmarked ", " (by decide)) fun column => passage_mark hunmarked column.name
  rwa [← List.map_eq_flatMap] at hmarks

theorem passage_assignment (name : Ident) :
    Passage sql.dialect.placeholderMark (sql.assignment name).toList [name.name.toList] := by
  rw [assignment, String.toList_append, String.toList_append, List.append_assoc]
  exact (passage_quote hunmarked name).append (passage_behind hunmarked _ (by decide) (by decide)
    (passage_mark hunmarked name).placeholders)

theorem passage_assignments (names : List Ident) :
    Passage sql.dialect.placeholderMark (commaList (names.map sql.assignment)).toList
      (names.map fun name => name.name.toList) := by
  have hassignments := Passage.commaList names sql.assignment
    (mark_not_mem hunmarked ", " (by decide)) (passage_assignment hunmarked)
  rwa [← List.map_eq_flatMap] at hassignments

theorem placeholdersIn_leadText :
    placeholdersIn sql.dialect.placeholderMark sql.leadText.toList = [] := by
  unfold leadText
  split
  · next pseudo hpseudo =>
    have has := passage_keyword hunmarked " AS " (by decide) (by decide)
    rw [String.toList_append, placeholdersIn_append has.head, has.placeholders,
      hunmarked.rowIdentity pseudo hpseudo]
    rfl
  · rfl

theorem placeholdersIn_selectText :
    placeholdersIn sql.dialect.placeholderMark sql.selectText.toList = [] := by
  have hlist := (passage_columns hunmarked sql.selectedColumns).append
    ((passage_keyword hunmarked " FROM " (by decide) (by decide)).append
      (passage_tableText hunmarked))
  rw [selectText_eq]
  simp only [String.toList_append, List.append_assoc]
  rw [placeholdersIn_keyword hunmarked (by decide), placeholdersIn_append hlist.head,
    placeholdersIn_leadText hunmarked, hlist.placeholders]
  rfl

theorem placeholdersIn_identityText :
    placeholdersIn sql.dialect.placeholderMark sql.identityText.toList = [] := by
  unfold identityText Dialect.identityExpr
  cases hpseudo : sql.dialect.rowIdentity with
  | some pseudo => exact hunmarked.rowIdentity pseudo hpseudo
  | none => exact (passage_quote hunmarked _).placeholders

theorem passage_outputText : Passage sql.dialect.placeholderMark sql.outputText.toList [] := by
  have hclause := hunmarked.insertedRow
  unfold outputText
  cases hrow : sql.dialect.insertedRow with
  | output clause =>
      rw [hrow] at hclause
      rw [String.toList_append]
      exact passage_behind hunmarked _ (by decide) (by decide) hclause
  | returning | followUp => exact .nil

theorem passage_returnedText :
    Passage sql.dialect.placeholderMark sql.returnedText.toList [] := by
  have hclause := hunmarked.insertedRow
  unfold returnedText
  cases hrow : sql.dialect.insertedRow with
  | output => exact .nil
  | returning clause =>
      rw [hrow] at hclause
      rw [String.toList_append]
      exact passage_behind hunmarked _ (by decide) (by decide) hclause
  | followUp lastIdentity =>
      rw [hrow, InsertedRow.clause] at hclause
      have hselect := passage_behind hunmarked "; " (by decide) (by decide)
        (placeholdersIn_selectText hunmarked)
      have hwhere := passage_behind hunmarked " WHERE " (by decide) (by decide)
        (placeholdersIn_identityText hunmarked)
      have hlast := passage_behind hunmarked " = " (by decide) (by decide) hclause
      simpa only [String.toList_append, List.append_assoc, List.nil_append] using
        hselect.append (hwhere.append hlast)

theorem passage_updateReturningText :
    Passage sql.dialect.placeholderMark sql.updateReturningText.toList [] := by
  unfold updateReturningText
  cases hupdate : sql.dialect.updateReturning with
  | none => exact .nil
  | some clause =>
      have hopening : Ident.isStart sql.dialect.quoteStyle.delimiters.opening = false := by
        cases sql.dialect.quoteStyle <;> decide
      have htable := mark_not_mem_quote hunmarked sql.table.name
      have hclause : placeholdersIn sql.dialect.placeholderMark
          (String.ofList (putTable sql.tableText.toList clause.toList)).toList = [] := by
        rw [Dialect.toList_quote] at htable
        rw [String.toList_ofList, tableText, Dialect.toList_quote]
        exact placeholdersIn_putTable hopening htable (mark_not_mem hunmarked _ (by decide))
          (hunmarked.updateReturning clause hupdate)
      rw [String.toList_append]
      exact passage_behind hunmarked _ (by decide) (by decide) hclause

theorem placeholdersIn_insertText :
    placeholdersIn sql.dialect.placeholderMark sql.insertText.toList =
      sql.table.nonIdentity.map fun column => column.name.name.toList := by
  have htable := passage_tableText hunmarked
  have hend := (passage_returnedText hunmarked).append
    (passage_keyword hunmarked ";" (by decide) (by decide))
  by_cases hcolumns : sql.table.nonIdentity = []
  · have hdefaults := (passage_outputText hunmarked).append
      ((passage_keyword hunmarked " DEFAULT VALUES" (by decide) (by decide)).append hend)
    rw [insertText_of_eq_nil sql hcolumns, hcolumns]
    simp only [String.toList_append, List.append_assoc]
    rw [placeholdersIn_keyword hunmarked (by decide)]
    exact (htable.append hdefaults).placeholders
  · have hopen := passage_keyword hunmarked " (" (by decide) (by decide)
    have hclose := passage_keyword hunmarked ")" (by decide) (by decide)
    have hvalues := (passage_keyword hunmarked " VALUES (" (by decide) (by decide)).append
      ((passage_marks hunmarked sql.table.nonIdentity).append (hclose.append hend))
    have hlists := hopen.append ((passage_columns hunmarked sql.table.nonIdentity).append
      (hclose.append ((passage_outputText hunmarked).append hvalues)))
    rw [insertText_of_ne_nil sql hcolumns]
    simp only [String.toList_append, List.append_assoc]
    rw [placeholdersIn_keyword hunmarked (by decide)]
    simpa only [List.nil_append, List.append_nil] using (htable.append hlists).placeholders

theorem placeholdersIn_updateText (names : List Ident) :
    placeholdersIn sql.dialect.placeholderMark (sql.updateText names).toList =
      (names ++ [sql.table.identity.name]).map fun name => name.name.toList := by
  have hset := (passage_keyword hunmarked " SET " (by decide) (by decide)).append
    (passage_assignments hunmarked names)
  have hwhere := (passage_keyword hunmarked " WHERE " (by decide) (by decide)).append
    (passage_assignment hunmarked sql.table.identity.name)
  have hend := (passage_updateReturningText hunmarked).append
    (passage_keyword hunmarked ";" (by decide) (by decide))
  have hall := (passage_tableText hunmarked).append (hset.append (hwhere.append hend))
  unfold updateText
  simp only [String.toList_append, List.append_assoc] at hall ⊢
  rw [placeholdersIn_keyword hunmarked (by decide), hall.placeholders]
  simp

end Placeholders

/-! ## What is bound -/

section Bindings

variable {sql} {values : FieldValues} {id : Int64} {statement : Statement}

/-- Bindings have the names of their columns. -/
theorem map_name_of_holds {α : Type} (f : Ident → α) {columns : List Column}
    {bindings : List Binding} (h : List.Forall₂ (Binding.Holds values) columns bindings) :
    (columns.map fun column => f column.name) = bindings.map fun binding => f binding.name := by
  rw [← List.forall₂_eq_eq_eq, List.forall₂_map_left_iff, List.forall₂_map_right_iff]
  refine h.imp ?_
  rintro column binding ⟨value, stored, -, -, rfl⟩
  rfl

theorem bindField_eq_ok_iff {column : Column} {binding : Binding} :
    sql.bindField values column = .ok binding ↔ Binding.Holds values column binding := by
  unfold bindField
  constructor
  · intro h
    split at h
    · next value hvalue =>
      obtain ⟨stored, hstored, h⟩ := bind_eq_ok_iff.mp h
      exact ⟨value, stored, hvalue, hstored, (Except.ok.inj h).symm⟩
    · contradiction
  · rintro ⟨value, stored, hvalue, hstored, rfl⟩
    rw [hvalue]
    exact bind_eq_ok_iff.mpr ⟨stored, hstored, rfl⟩

/-- A field that has a value which cannot be stored. -/
def Refused (values : FieldValues) (column : Column) : Prop :=
  ∃ value e, values column.field = some value ∧ column.serialize value = .error e

theorem exists_holds_iff {column : Column} :
    (∃ binding, Binding.Holds values column binding) ↔
      ¬(values column.field = none ∨ Refused values column) := by
  constructor
  · rintro ⟨binding, value, stored, hvalue, hstored, -⟩ (hnone | ⟨other, e, hother, herror⟩)
    · simp [hnone] at hvalue
    · obtain rfl := Option.some.inj (hvalue.symm.trans hother)
      simp [hstored] at herror
  · intro h
    obtain ⟨hsome, haccepted⟩ := not_or.mp h
    obtain ⟨value, hvalue⟩ := Option.ne_none_iff_exists'.mp hsome
    cases hstored : column.serialize value with
    | ok stored => exact ⟨_, value, stored, hvalue, hstored, rfl⟩
    | error e => exact absurd ⟨value, e, hvalue, hstored⟩ haccepted

/-- An insert fails just if a field other than the identity is missing or cannot be stored. -/
theorem exists_insert_error_iff :
    (∃ e, sql.insert values = .error e) ↔
      ∃ column ∈ sql.table.nonIdentity,
        values column.field = none ∨ Refused values column := by
  have hinsert : (∃ statement, sql.insert values = .ok statement) ↔
      ∃ bindings, sql.table.nonIdentity.mapM (sql.bindField values) = .ok bindings := by
    unfold insert
    simp only [bind_eq_ok_iff]
    exact ⟨fun ⟨_, bindings, h, _⟩ => ⟨bindings, h⟩, fun ⟨bindings, h⟩ => ⟨_, bindings, h, rfl⟩⟩
  rw [exists_error_iff, hinsert, exists_mapM_iff]
  simp only [bindField_eq_ok_iff, exists_holds_iff, not_forall, not_not, exists_prop]

/-- What an update binds is there and can be stored. -/
theorem exists_update_iff :
    (∃ statement, sql.update values id = .ok statement) ↔
      sql.valued values ≠ [] ∧ (∀ column ∈ sql.table.nonIdentity, ¬Refused values column) ∧
        ∃ stored, sql.table.identity.serialize (.int id) = .ok stored := by
  have hvalues : (∃ bindings, ((sql.assigned values).mapM fun entry => do
      return Binding.ofColumn entry.1 (← entry.1.serialize entry.2)) = .ok bindings) ↔
        ∀ column ∈ sql.table.nonIdentity, ¬Refused values column := by
    rw [exists_mapM_iff]
    constructor
    · rintro h column hmem ⟨value, e, hvalue, herror⟩
      obtain ⟨binding, hbinding⟩ := h (column, value) (mem_assigned_iff.mpr ⟨hmem, hvalue⟩)
      simp [herror, bind, Except.bind] at hbinding
    · rintro h ⟨column, value⟩ hmem
      obtain ⟨hcolumn, hvalue⟩ := mem_assigned_iff.mp hmem
      cases hstored : column.serialize value with
      | ok stored => exact ⟨_, bind_eq_ok_iff.mpr ⟨stored, rfl, rfl⟩⟩
      | error e => exact absurd ⟨value, e, hvalue, hstored⟩ (h column hcolumn)
  have hcommand : (∃ command, sql.assign ((sql.assigned values).map (·.1)) = .ok command) ↔
      sql.valued values ≠ [] := by
    rw [map_fst_assigned, ← valued, assign]
    cases sql.valued values <;> simp
  rw [← hvalues, ← hcommand]
  unfold update bindIdentity
  simp only [bind_eq_ok_iff]
  constructor
  · rintro ⟨-, bindings, hbindings, identity, ⟨stored, hstored, -⟩, command, hcommand, -⟩
    exact ⟨⟨command, hcommand⟩, ⟨bindings, hbindings⟩, stored, hstored⟩
  · rintro ⟨⟨command, hcommand⟩, ⟨bindings, hbindings⟩, stored, hstored⟩
    exact ⟨_, bindings, hbindings, _, ⟨stored, hstored, rfl⟩, command, hcommand, rfl⟩

/-- An update fails just if no field other than the identity has a value, or one has a value that
cannot be stored, or the identity cannot be stored. -/
theorem exists_update_error_iff :
    (∃ e, sql.update values id = .error e) ↔
      (∀ column ∈ sql.table.nonIdentity, values column.field = none) ∨
        (∃ column ∈ sql.table.nonIdentity, Refused values column) ∨
          ∃ e, sql.table.identity.serialize (.int id) = .error e := by
  have hvalued : sql.valued values = [] ↔
      ∀ column ∈ sql.table.nonIdentity, values column.field = none := by
    simp [valued, List.filter_eq_nil_iff]
  rw [exists_error_iff, exists_update_iff, exists_error_iff, ← hvalued]
  simp only [not_and_or, not_not, not_forall, exists_prop, ne_eq]

/-! ## Statements that are built -/

/-- The names of the columns are distinct, and so are those of some of them. -/
theorem distinct_names {registry : Registry} (hsound : Table.Sound registry sql.table.columns) :
    Ident.Distinct ((sql.table.nonIdentity ++ [sql.table.identity]).map (·.name)) := by
  have hcolumns : Ident.Distinct (sql.table.columns.map (·.name)) :=
    List.pairwise_map.mpr (hsound.distinct.imp And.left)
  refine hcolumns.perm (List.Perm.map _ ?_)
  exact List.perm_middle.trans (List.perm_append_singleton _ _).symm

theorem inserts {registry : Registry} (hsound : Table.Sound registry sql.table.columns)
    (h : sql.insert values = .ok statement) : sql.Inserts values statement := by
  obtain ⟨bindings, hbindings, h⟩ := bind_eq_ok_iff.mp h
  obtain rfl := Except.ok.inj h
  have hholds : List.Forall₂ (Binding.Holds values) sql.table.nonIdentity bindings :=
    (forall₂_of_mapM hbindings).imp fun _ _ => bindField_eq_ok_iff.mp
  have hdistinct : Ident.Distinct (bindings.map Binding.name) := by
    have hall := distinct_names hsound
    rw [List.map_append] at hall
    exact map_name_of_holds id hholds ▸ (List.pairwise_append.mp hall).1
  refine ⟨hholds, rfl, hdistinct, sql.insertText_of_eq_nil, ?_, ?_⟩
  · intro hne
    refine ⟨_, _, sql.insertText_of_ne_nil hne, listItems_map hne sql.isItem_columnText, ?_⟩
    have hmark (column : Column) : isItem (sql.mark column.name).toList = true :=
      sql.dialect.isItem_placeholder column.name
    exact (listItems_map hne hmark).trans
      (map_name_of_holds (fun name => (sql.mark name).toList) hholds)
  · intro hunmarked
    exact (placeholdersIn_insertText hunmarked).trans
      (map_name_of_holds (fun name => name.name.toList) hholds)

theorem updates {registry : Registry} (hsound : Table.Sound registry sql.table.columns)
    (h : sql.update values id = .ok statement) : sql.Updates values id statement := by
  obtain ⟨bindings, hbindings, h⟩ := bind_eq_ok_iff.mp h
  obtain ⟨identity, hidentity, h⟩ := bind_eq_ok_iff.mp h
  obtain ⟨stored, hstored, hidentity⟩ := bind_eq_ok_iff.mp hidentity
  obtain ⟨command, hcommand, h⟩ := bind_eq_ok_iff.mp h
  obtain rfl := Except.ok.inj h
  obtain rfl := Except.ok.inj hidentity
  have hholds := forall₂_of_assigned hbindings
  rw [map_fst_assigned, ← valued] at hcommand hholds
  have hne : sql.valued values ≠ [] := by
    rintro hnone
    simp [assign, hnone] at hcommand
  obtain rfl : .update ((sql.valued values).map (·.name)) = command := by
    simpa [assign, hne] using hcommand
  -- The identity stands behind the columns that are set, which are some of the others.
  have hsublist : (sql.valued values ++ [sql.table.identity]).Sublist
      (sql.table.nonIdentity ++ [sql.table.identity]) :=
    List.filter_sublist.append (.refl _)
  have hdistinct : Ident.Distinct
      ((bindings ++ [Binding.ofColumn sql.table.identity stored]).map Binding.name) := by
    have hnames := (distinct_names hsound).sublist (hsublist.map _)
    rw [List.map_append, map_name_of_holds (fun name => name) hholds] at hnames
    rwa [List.map_append]
  refine ⟨?_, ⟨bindings, stored, rfl, hholds, hstored⟩, rfl, hdistinct, ?_, ?_⟩
  · intro hmem
    exact hsound.field_ne_identity (List.mem_filter.mp hmem).1 rfl
  · refine ⟨_, rfl, ?_⟩
    rw [listItems_map (by simpa using hne) sql.isItem_assignment, List.map_map]
    rfl
  · intro hunmarked
    refine (placeholdersIn_updateText hunmarked _).trans ?_
    rw [List.map_append, List.map_append, List.map_map]
    exact congrArg (· ++ _) (map_name_of_holds (fun name => name.name.toList) hholds)

end Bindings

end Sql.TableSql

namespace Stock

theorem unmarked_sqlite : Dialect.sqlite.Unmarked where
  isPart_mark := by decide
  mark_not_mem := by decide
  insertedRow := by decide
  updateReturning := by
    rintro clause ⟨⟩
    decide
  rowIdentity := by
    rintro pseudo ⟨⟩
    decide

end Stock

end RecordSql
