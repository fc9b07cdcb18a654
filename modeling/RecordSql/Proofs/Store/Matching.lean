import RecordSql.Proofs.Predicate.RowComparison
import RecordSql.Proofs.Sql.Matching
import RecordSql.Proofs.Store.Acceptance

/-!
# Rows that match an example

A row matches an example if each column that the example sets has a stored value that is not null
and equals what the example asks for.  Reading by example finds exactly these rows, in the order of
all rows, and it fails exactly where the statement by the same example does.
-/

namespace RecordSql

/-! ## Equality of stored values -/

/-- Two values in stored form are equal: one whole number, one text, or numbers that have one place
in the order of reals, if either of them is a real.  Null is equal to nothing. -/
def Value.Equals : Value → Value → Prop
  | int a, int b => a = b
  | text a, text b => a = b
  | real a, real b => a.compare b = some .eq
  | int a, real b => (Binary64.ofInt a.toInt).compare b = some .eq
  | real a, int b => a.compare (Binary64.ofInt b.toInt) = some .eq
  | _, _ => False

theorem Value.Equals.isNull_eq_false {a b : Value} (h : a.Equals b) : a.isNull = false := by
  cases a with
  | null => exact h.elim
  | _ => rfl

theorem Stored.null_or_plain {type : SemanticType} {value : Value} (h : Stored type value) :
    value = .null ∨ (∃ number, value = .int number) ∨ (∃ real, value = .real real) ∨
      ∃ text, value = .text text := by
  cases h <;> simp

/-- Equality is what a comparison for it asks, of values in stored form. -/
theorem Stored.truth_eq_iff {type type' : SemanticType} {a b : Value} (ha : Stored type a)
    (hb : Stored type' b) : Comparison.eq.truth a b = some true ↔ a.Equals b := by
  rcases ha.null_or_plain with rfl | ⟨_, rfl⟩ | ⟨_, rfl⟩ | ⟨_, rfl⟩ <;>
    rcases hb.null_or_plain with rfl | ⟨_, rfl⟩ | ⟨_, rfl⟩ | ⟨_, rfl⟩ <;>
    simp [Comparison.truth, Value.order?, Comparison.allows, Value.Equals]

/-- What takes the form that a column compares with is a value in stored form. -/
theorem exists_stored_of_serializeOperand {column : Column} {value operand : Value}
    (hbuiltin : Handler.builtin? column.type = some column.handler)
    (h : column.serializeOperand value = .ok operand) : ∃ type, Stored type operand := by
  have hstored {value : Value} (hvalue : column.serialize value = .ok operand) :
      ∃ type, Stored type operand :=
    ⟨_, stored_of_serialize hbuiltin (Column.serialize_eq_ok_iff.mp hvalue)⟩
  unfold Column.serializeOperand at h
  split at h
  · split at h
    · split at h
      · obtain rfl := Except.ok.inj h
        exact ⟨_, .real _⟩
      · contradiction
    · exact hstored h
  · exact hstored h

/-! ## Predicates that decide something -/

/-- A predicate has an outcome, and it is true just if something holds. -/
def Scope.Decides (scope : Scope) (predicate : Predicate) (p : Prop) : Prop :=
  ∃ outcome, scope.truth predicate = .ok outcome ∧ (outcome = some true ↔ p)

namespace Scope

variable {scope : Scope} {p q : Prop}

theorem Decides.congr {predicate : Predicate} (h : scope.Decides predicate p) (hiff : p ↔ q) :
    scope.Decides predicate q := by
  obtain ⟨outcome, houtcome, htrue⟩ := h
  exact ⟨outcome, houtcome, htrue.trans hiff⟩

theorem Decides.and {left right : Predicate} (hleft : scope.Decides left p)
    (hright : scope.Decides right q) : scope.Decides (.join .and left right) (p ∧ q) := by
  obtain ⟨a, ha, hp⟩ := hleft
  obtain ⟨b, hb, hq⟩ := hright
  refine ⟨Truth.and a b, ?_, Truth.and_eq_true_iff.trans (and_congr hp hq)⟩
  rw [truth, ha, hb]
  rfl

variable {α : Type} {part : α → Predicate} {holds : α → Prop} {items : List α}

theorem decides_foldl (hpart : ∀ a ∈ items, scope.Decides (part a) (holds a))
    {start : Predicate} (hstart : scope.Decides start p) :
    scope.Decides ((items.map part).foldl (.join .and) start) (p ∧ ∀ a ∈ items, holds a) := by
  induction items generalizing start p with
  | nil => simpa using hstart
  | cons a rest ih =>
      obtain ⟨ha, hrest⟩ := List.forall_mem_cons.mp hpart
      refine (ih hrest (hstart.and ha)).congr ?_
      rw [List.forall_mem_cons, and_assoc]

/-- A conjunction decides whether all of its parts hold. -/
theorem decides_all (hpart : ∀ a ∈ items, scope.Decides (part a) (holds a)) :
    scope.Decides (.all (items.map part)) (∀ a ∈ items, holds a) := by
  cases items with
  | nil => exact ⟨some true, rfl, by simp⟩
  | cons a rest =>
      obtain ⟨ha, hrest⟩ := List.forall_mem_cons.mp hpart
      exact (decides_foldl hrest ha).congr List.forall_mem_cons.symm

end Scope

/-! ## Rows and an example -/

/-- The stored value of a column is not null, and equals what an example asks for. -/
def Column.Matches (column : Column) (row example? : FieldValues) : Prop :=
  ∃ value stored operand, row column.field = some value ∧ column.serialize value = .ok stored ∧
    column.Asks example? operand ∧ stored.isNull = false ∧ stored.Equals operand

/-- A row equals an example on every column that the example sets. -/
def Table.Matches (table : Table) (row example? : FieldValues) : Prop :=
  ∀ column ∈ table.setColumns example?, column.Matches row example?

section Rows

variable {table : Table} (hsound : Table.Sound .builtin table.columns) {example? : FieldValues}
  (htakes : table.TakesExample example?) {id : Int64} {row : FieldValues}
  (hrow : table.StoredRow id row)

include hsound htakes hrow

/-- The equation of a column decides whether a stored row matches there. -/
theorem decides_equation {column : Column} (hmem : column ∈ table.setColumns example?) :
    (Scope.mk table row (some example?)).Decides column.equation
      (column.Matches row example?) := by
  obtain ⟨hother, wanted, hwanted, hset⟩ := Table.mem_setColumns_iff.mp hmem
  have hcolumn : column ∈ table.columns := Table.mem_columns_iff.mpr (Or.inr hother)
  have hbuiltin := hsound.builtin?_eq column hcolumn
  obtain ⟨haccepts, hfinite⟩ := htakes column hmem wanted hwanted
  obtain ⟨operand, hoperand⟩ := (exists_serializeOperand_iff hbuiltin haccepts).mpr hfinite
  obtain ⟨value, stored, hvalue, hstored⟩ := hrow.storable column hother
  refine ⟨_, Predicate.truth_row_param (hsound.find?_eq hcolumn) hvalue hstored hwanted haccepts
    (fun _ => hset) hoperand, ?_⟩
  have hform := stored_of_serialize hbuiltin (Column.serialize_eq_ok_iff.mp hstored)
  obtain ⟨_, hoperandForm⟩ := exists_stored_of_serializeOperand hbuiltin hoperand
  rw [hform.truth_eq_iff hoperandForm]
  constructor
  · intro hequals
    exact ⟨value, stored, operand, hvalue, hstored, ⟨wanted, hwanted, hoperand⟩,
      hequals.isNull_eq_false, hequals⟩
  · -- The row and the example determine the two values.
    rintro ⟨_, _, _, hvalue', hstored', ⟨_, hwanted', hoperand'⟩, -, hequals⟩
    obtain rfl := Option.some.inj (hvalue.symm.trans hvalue')
    obtain rfl := Except.ok.inj (hstored.symm.trans hstored')
    obtain rfl := Option.some.inj (hwanted.symm.trans hwanted')
    obtain rfl := Except.ok.inj (hoperand.symm.trans hoperand')
    exact hequals

open Classical in
/-- A stored row satisfies the predicate of an example just if it matches. -/
theorem evaluate_matching :
    (Predicate.matching table example?).evaluate table row (some example?) =
      .ok (decide (table.Matches row example?)) := by
  rw [Predicate.matching_eq]
  obtain ⟨outcome, houtcome, htrue⟩ := Scope.decides_all fun _ hmem =>
    decides_equation hsound htakes hrow hmem
  rw [Predicate.evaluate_of_truth houtcome]
  congr 1
  rw [Bool.eq_iff_iff, beq_iff_eq, htrue, decide_eq_true_iff]
  rfl

end Rows

/-! ## Reading by example -/

namespace Store

variable {R : Type} {store : Store R} {size : BucketSize}

/-- What reading by example finds: the rows that match, each once and in the order of all rows.
That is the order of their identities, if bucket sizes are read as they are meant. -/
structure Finds (store : Store R) (example? : FieldValues) (found : List (Int64 × R)) : Prop where
  mem_iff : ∀ id row, (id, row) ∈ found ↔ store.buckets.get? id = some row ∧
    store.table.Matches (store.recordType.get row) example?
  identity_eq : ∀ id row, (id, row) ∈ found →
    store.recordType.get row store.table.identity.field = some (.int id)
  nodup : (found.map (·.1)).Nodup
  sublist : found.Sublist store.buckets.toList
  ascending : store.buckets.size.IsSigned → Buckets.Ascending found

/-- Without a table nothing passes the check; with one a predicate does that compiles with all its
placeholders bound. -/
theorem checkPredicate_eq_ok_iff {predicate : Predicate} {param : Option FieldValues} :
    store.checkPredicate predicate param = .ok () ↔ store.isCreated = true ∧
      ∃ fragment, Sql.compile store.table param predicate = .ok fragment ∧
        fragment.deferred = [] := by
  constructor
  · intro h
    refine ⟨?_, exists_compile_of_checkPredicate h⟩
    obtain ⟨_, hfragment, -⟩ := bind_eq_ok_iff.mp h
    obtain ⟨_, hcreated, -⟩ := bind_eq_ok_iff.mp hfragment
    unfold checkCreated at hcreated
    split at hcreated
    · assumption
    · contradiction
  · rintro ⟨hcreated, fragment, hfragment, hdeferred⟩
    refine bind_eq_ok_iff.mpr ⟨fragment, bind_eq_ok_iff.mpr ⟨(), ?_, hfragment⟩, ?_⟩
    · simp [checkCreated, hcreated]
    · simp [Sql.Fragment.checkBound, hdeferred]

variable (hkept : store.Kept Registry.builtin size) (hcreated : store.isCreated = true)

include hkept

open Classical in
/-- The rows that match are found. -/
theorem Kept.finds (example? : FieldValues) :
    store.Finds example? (store.buckets.toList.filter fun entry =>
      decide (store.table.Matches (store.recordType.get entry.2) example?)) where
  mem_iff id row := by
    rw [List.mem_filter, hkept.rows.placed.mem_toList_iff, decide_eq_true_iff]
  identity_eq id row hmem :=
    (hkept.rows.fits_of_get? id row (hkept.rows.placed.mem_toList_iff.mp
      (List.mem_of_mem_filter hmem))).identity_eq
  nodup := hkept.rows.placed.nodup_keys.sublist (List.filter_sublist.map _)
  sublist := List.filter_sublist
  ascending hsigned :=
    (hkept.rows.placed.keyed hsigned).ascending_toList.sublist List.filter_sublist

open Classical in
/-- A row satisfies the predicate of an example just if it matches. -/
theorem Kept.satisfies_matching {example? : FieldValues}
    (htakes : store.table.TakesExample example?) {entry : Int64 × R}
    (hentry : entry ∈ store.buckets.toList) :
    store.satisfies (.matching store.table example?) (some example?) entry.2 =
      .ok (decide (store.table.Matches (store.recordType.get entry.2) example?)) :=
  evaluate_matching hkept.sound htakes
    (hkept.rows.fits_of_get? entry.1 entry.2 (hkept.rows.placed.mem_toList_iff.mp hentry))

include hcreated

/-- Reading by example succeeds just if all values of the example can be compared, and then it
answers with the rows that match. -/
theorem Kept.readMatching (record : R) :
    ((∃ rows, (store.readMatching record).answer = .ok rows) ↔
      store.table.TakesExample (store.recordType.get record)) ∧
    ∀ rows, (store.readMatching record).answer = .ok rows →
      ∃ found, rows = found.map (·.2) ∧ store.Finds (store.recordType.get record) found := by
  let example? := store.recordType.get record
  have hcheck : store.checkPredicate (.matching store.table example?) (some example?) = .ok () ↔
      store.table.TakesExample example? := by
    rw [checkPredicate_eq_ok_iff, ← Sql.exists_compile_matching_iff hkept.sound example?]
    constructor
    · rintro ⟨-, fragment, hfragment, -⟩
      exact ⟨fragment, hfragment⟩
    · rintro ⟨fragment, hfragment⟩
      exact ⟨hcreated, fragment, hfragment,
        (Sql.of_compile_matching hkept.sound example? hfragment).1⟩
  have hanswer (htakes : store.table.TakesExample example?) :
      ∃ found, (store.readMatching record).answer = .ok (found.map (·.2)) ∧
        store.Finds example? found := by
    refine ⟨_, Failure.lift_eq_ok_iff.mpr (bind_eq_ok_iff.mpr ⟨(), hcheck.mpr htakes, ?_⟩),
      hkept.finds example?⟩
    rw [Buckets.filterM_map, Buckets.filterM_eq_filter fun _ => hkept.satisfies_matching htakes]
    rfl
  have htakes {rows : List R} (h : (store.readMatching record).answer = .ok rows) :
      store.table.TakesExample example? := by
    obtain ⟨_, hok, -⟩ := bind_eq_ok_iff.mp (Failure.lift_eq_ok_iff.mp h)
    exact hcheck.mp hok
  constructor
  · constructor
    · rintro ⟨rows, hrows⟩
      exact htakes hrows
    · intro hall
      obtain ⟨found, hfound, -⟩ := hanswer hall
      exact ⟨_, hfound⟩
  · intro rows hrows
    obtain ⟨found, hfound, hfinds⟩ := hanswer (htakes hrows)
    exact ⟨found, Except.ok.inj (hrows.symm.trans hfound), hfinds⟩

end Store

/-- **Matching by example means what it says.**  In every dialect a selection and a deletion by
example are built exactly if each value that the example sets can be compared with its column; then
they bind one value for each of these columns and state one equation for each.  A store that a run
leads to answers under the same condition, with the rows that equal the example on these columns. -/
theorem Store.matches_example {R : Type} {recordType : RecordType R} {table : Table}
    (hresolve : Table.resolve recordType.schema .builtin = .ok table) (record : R) :
    let example? := recordType.get record
    (∀ dialect, let sql : Sql.TableSql := ⟨table, dialect⟩
      ((∃ statement, sql.byExample .select table example? = .ok statement) ↔
        table.TakesExample example?) ∧
      ((∃ statement, sql.byExample .delete table example? = .ok statement) ↔
        table.TakesExample example?) ∧
      (∀ statement, sql.byExample .select table example? = .ok statement →
        sql.StatesExample sql.selectText example? statement) ∧
      ∀ statement, sql.byExample .delete table example? = .ok statement →
        sql.StatesExample sql.deleteText example? statement) ∧
    ∀ (size : BucketSize) (start : Store R), new recordType size = .ok start →
      recordType.Assigns table → ∀ calls : List (Call R), (start.after calls).isCreated = true →
        ((∃ rows, ((start.after calls).readMatching record).answer = .ok rows) ↔
          table.TakesExample example?) ∧
        ∀ rows, ((start.after calls).readMatching record).answer = .ok rows →
          ∃ found, rows = found.map (·.2) ∧ (start.after calls).Finds example? found := by
  have hsound := Table.sound_of_resolve hresolve
  refine ⟨fun dialect => ⟨?_, ?_, fun statement h => ?_, fun statement h => ?_⟩, ?_⟩
  · exact Sql.TableSql.exists_byExample_iff hsound _ dialect .select
  · exact Sql.TableSql.exists_byExample_iff hsound _ dialect .delete
  · exact Sql.TableSql.statesExample_of_byExample hsound _ dialect (fun _ => rfl) h
  · exact Sql.TableSql.statesExample_of_byExample hsound _ dialect (fun _ => rfl) h
  · intro size start hnew hassigns calls hcreated
    obtain ⟨found, hfound, rfl⟩ := exists_fresh_of_new hnew
    obtain rfl := Except.ok.inj (hfound.symm.trans hresolve)
    have hkept := (kept_fresh hresolve hassigns size).after calls
    have hread := hkept.readMatching hcreated record
    rwa [table_after, recordType_after] at hread

namespace Stock

/-- Lamps worth two, whatever they cost and whoever owns them. -/
def lamp : FieldMap :=
  [("Label", .text "lamp"), ("Value", .int 2), ("Price", .int 0), ("Owner", .int 0),
    ("Active", .bool false)]

def lampStatement : Sql.Statement where
  command := .select (.matching (.matching table (FieldMap.get lamp))
    (.join .and (.compare .eq (.column labelName) (.placeholder labelName))
      (.compare .eq (.column valueName) (.placeholder valueName))))
  bindings := [⟨labelName, "Label", .text "lamp"⟩, ⟨valueName, "Value", .int 2⟩]
  deferred := []

theorem matches_example_lamp :
    Table.resolve schema .builtin = .ok table ∧ Store.new (.ofSchema schema) pairs = .ok store ∧
      (RecordType.ofSchema schema).Assigns table ∧ (store.after filling).isCreated = true ∧
      (Sql.TableSql.mk table .sqlite).byExample .select table (FieldMap.get lamp) =
        .ok lampStatement ∧
      (Sql.TableSql.mk table .sqlite).StatesExample (Sql.TableSql.mk table .sqlite).selectText
        (FieldMap.get lamp) lampStatement ∧
      ((store.after filling).readMatching lamp).answer = .ok [item 2 2] ∧
      ∃ found, [item 2 2] = found.map (·.2) ∧
        (store.after filling).Finds (FieldMap.get lamp) found := by
  have hstatement : (Sql.TableSql.mk table .sqlite).byExample .select table (FieldMap.get lamp) =
      .ok lampStatement := by rfl
  have hrows : ((store.after filling).readMatching lamp).answer = .ok [item 2 2] := by rfl
  obtain ⟨hsql, hstore⟩ :=
    Store.matches_example (show Table.resolve (RecordType.ofSchema schema).schema .builtin =
      .ok table from resolve_schema) lamp
  exact ⟨resolve_schema, new_pairs, assigns_ofSchema, rfl, hstatement,
    (hsql .sqlite).2.2.1 _ hstatement, hrows,
    (hstore pairs store new_pairs assigns_ofSchema filling rfl).2 _ hrows⟩

/-- The greatest bucket size, which is read as minus one. -/
def widest : BucketSize := ⟨18446744073709551615, by decide⟩

def widestStore : Store FieldMap :=
  ⟨.ofSchema schema, table, false, 1, Buckets.empty widest, []⟩

/-- Both rows match, and the later one comes first. -/
theorem readMatching_descends :
    Store.new (.ofSchema schema) widest = .ok widestStore ∧
      (RecordType.ofSchema schema).Assigns table ∧
      (widestStore.after filling).isCreated = true ∧
      ∃ rows ids, ((widestStore.after filling).readMatching [("Owner", .int 7)]).answer =
          .ok rows ∧
        List.Forall₂ (fun id row => FieldMap.get row "ID" = some (.int id)) ids rows ∧
        ¬ids.Pairwise (· < ·) :=
  ⟨rfl, assigns_ofSchema, rfl, [item 3 3, item 2 2, item 1 1], [3, 2, 1], rfl,
    .cons rfl (.cons rfl (.cons rfl .nil)), by decide⟩

end Stock

end RecordSql
