import RecordSql.Proofs.Sql.Outcome
import RecordSql.Proofs.Store.Failure

/-!
# Predicates that a store accepts

A store compiles a predicate before it looks at a row, so that a predicate is refused whatever rows
there are.  One kind of predicate gets past this check and fails on the rows: a real that is not
finite may be bound where it is compared with no column, and the placeholder then stands opposite
to a column that has no form for it.  Every other call has the answer that the empty table gives.
-/

namespace RecordSql

variable {R α : Type}

/-- A call fails. -/
def Outcome.Fails (outcome : Outcome R α) : Prop :=
  ∃ failure, outcome.answer = .error failure

theorem Outcome.not_fails_iff {outcome : Outcome R α} :
    ¬outcome.Fails ↔ ∃ a, outcome.answer = .ok a := by
  unfold Fails
  cases outcome.answer <;> simp

/-! ## Rows whose identity is a whole number -/

/-- Columns of these types store the identities that rows are stored under. -/
def Column.StoresIdentity (column : Column) : Prop :=
  column.type = .int ∨ column.type = .ref

theorem Column.StoresIdentity.exists_serialize {column : Column} (h : column.StoresIdentity)
    (hbuiltin : Handler.builtin? column.type = some column.handler) (id : Int64) :
    ∃ stored, column.serialize (.int id) = .ok stored := by
  rcases h with htype | htype
  · rw [htype] at hbuiltin
    refine ⟨.int id, Column.serialize_eq_ok_iff.mpr ?_⟩
    rw [← Option.some.inj hbuiltin]
    rfl
  · rw [htype] at hbuiltin
    refine ⟨if id = 0 then .null else .int id, Column.serialize_eq_ok_iff.mpr ?_⟩
    rw [← Option.some.inj hbuiltin]
    rfl

/-- A stored row has a storable value for every column. -/
theorem Table.StoredRow.stores {table : Table} {id : Int64} {values : FieldValues}
    (h : table.StoredRow id values) (hidentity : table.identity.StoresIdentity)
    (hbuiltin : ∀ column ∈ table.columns, Handler.builtin? column.type = some column.handler) :
    table.Stores values := by
  intro column hmem
  rcases Table.mem_columns_iff.mp hmem with rfl | hother
  · obtain ⟨stored, hstored⟩ := hidentity.exists_serialize (hbuiltin _ hmem) id
    exact ⟨.int id, stored, h.identity_eq, hstored⟩
  · exact h.storable column hother

namespace Store

/-! ## The check before the rows -/

section Check

variable {store : Store R} {predicate : Predicate} {param : Option FieldValues}

/-- A predicate that passes the check compiles, and all its placeholders are bound. -/
theorem exists_compile_of_checkPredicate (h : store.checkPredicate predicate param = .ok ()) :
    ∃ fragment, Sql.compile store.table param predicate = .ok fragment ∧
      fragment.deferred = [] := by
  obtain ⟨fragment, hfragment, hbound⟩ := bind_eq_ok_iff.mp h
  obtain ⟨_, -, hcompile⟩ := bind_eq_ok_iff.mp hfragment
  refine ⟨fragment, hcompile, ?_⟩
  unfold Sql.Fragment.checkBound at hbound
  split at hbound
  · assumption
  · contradiction

/-- The check reads nothing of a store but its table. -/
theorem checkPredicate_congr {other : Store R} (htable : other.table = store.table)
    (hcreated : other.isCreated = store.isCreated) :
    other.checkPredicate predicate param = store.checkPredicate predicate param := by
  simp only [checkPredicate, Store.compile, checkCreated, htable, hcreated]

/-- Reading succeeds where the predicate passes the check and has an outcome on every row. -/
theorem not_fails_readWhere_iff :
    ¬(store.readWhere predicate param).Fails ↔
      store.checkPredicate predicate param = .ok () ∧
        ∀ entry ∈ store.buckets.toList, ∃ keep,
          store.satisfies predicate param entry.2 = .ok keep := by
  rw [Outcome.not_fails_iff]
  constructor
  · rintro ⟨rows, hrows⟩
    obtain ⟨_, hcheck, hfilter⟩ := bind_eq_ok_iff.mp (Failure.lift_eq_ok_iff.mp hrows)
    rw [Buckets.filterM_map] at hfilter
    obtain ⟨kept, hkept, -⟩ := map_eq_ok_iff.mp hfilter
    exact ⟨hcheck, Buckets.exists_of_filterM hkept⟩
  · rintro ⟨hcheck, hall⟩
    obtain ⟨kept, hkept⟩ := Buckets.exists_filterM_eq hall
    refine ⟨kept.map (·.2), Failure.lift_eq_ok_iff.mpr (bind_eq_ok_iff.mpr ⟨(), hcheck, ?_⟩)⟩
    rw [Buckets.filterM_map, hkept]
    rfl

/-- So does deleting, though it tests bucket by bucket. -/
theorem Kept.not_fails_deleteWhere_iff {size : BucketSize}
    (hkept : store.Kept Registry.builtin size) :
    ¬(store.deleteWhere predicate param).Fails ↔
      store.checkPredicate predicate param = .ok () ∧
        ∀ entry ∈ store.buckets.toList, ∃ keep,
          store.satisfies predicate param entry.2 = .ok keep := by
  rw [Outcome.not_fails_iff]
  unfold deleteWhere
  cases hcheck : store.checkPredicate predicate param with
  | error e => simp [reply]
  | ok checked =>
      rcases Buckets.eraseWhere_cases fun _ ha _ hb =>
          hkept.sameForm_satisfies predicate param ha hb with
        ⟨kept, hfilter, herase⟩ | ⟨e, hfilter, herase⟩
      · simpa [herase] using fun id row hmem => Buckets.exists_of_filterM hfilter (id, row) hmem
      · simp only [herase, reply, reduceCtorEq, exists_false, true_and, false_iff]
        intro hall
        obtain ⟨kept, hkept⟩ := Buckets.exists_filterM_eq hall
        rw [hfilter] at hkept
        contradiction

end Check

/-! ## The rows -/

section Rows

variable {store : Store R} {size : BucketSize} {schema : Schema}
  (hkept : store.Kept Registry.builtin size)
  (hresolve : Table.resolve schema .builtin = .ok store.table)
  (hidentity : store.table.identity.StoresIdentity) (predicate : Predicate)
  (param : Option FieldValues)

include hkept hresolve hidentity

/-- A predicate that passes the check has an outcome on every row, unless there are rows and it
compares one of their fields with a real that is not finite. -/
theorem Kept.exists_satisfies_iff (hcheck : store.checkPredicate predicate param = .ok ()) :
    (∀ entry ∈ store.buckets.toList, ∃ keep,
        store.satisfies predicate param entry.2 = .ok keep) ↔
      ¬(store.size ≠ 0 ∧ predicate.ComparesNonFinite param) := by
  obtain ⟨fragment, hcompile, hbound⟩ := exists_compile_of_checkPredicate hcheck
  have hrow {entry : Int64 × R} (hentry : entry ∈ store.buckets.toList) :
      (∃ keep, store.satisfies predicate param entry.2 = .ok keep) ↔
        ¬predicate.ComparesNonFinite param := by
    have hstored : store.table.StoredRow entry.1 (store.recordType.get entry.2) :=
      hkept.rows.fits_of_get? entry.1 entry.2 (hkept.rows.placed.mem_toList_iff.mp hentry)
    have hstores := hstored.stores hidentity hkept.sound.builtin?_eq
    rw [← Sql.exists_truth_iff hcompile hbound (Sql.represents_storedValue hresolve hstores)]
    constructor
    · rintro ⟨keep, hkeep⟩
      obtain ⟨outcome, houtcome, -⟩ := bind_eq_ok_iff.mp hkeep
      exact ⟨outcome, houtcome⟩
    · rintro ⟨outcome, houtcome⟩
      exact ⟨_, bind_eq_ok_iff.mpr ⟨outcome, houtcome, rfl⟩⟩
  rw [Store.size, Buckets.count_eq_length]
  constructor
  · rintro hall ⟨hsize, hreal⟩
    obtain ⟨entry, hentry⟩ := List.exists_mem_of_length_pos (Nat.pos_of_ne_zero hsize)
    exact (hrow hentry).mp (hall entry hentry) hreal
  · intro hnone entry hentry
    refine (hrow hentry).mpr fun hreal => hnone ⟨?_, hreal⟩
    exact Nat.ne_of_gt (List.length_pos_of_mem hentry)

/-- A call with a predicate fails where the check fails or the rows do. -/
theorem Kept.fails_iff :
    ((store.readWhere predicate param).Fails ↔ store.checkPredicate predicate param ≠ .ok () ∨
      store.size ≠ 0 ∧ predicate.ComparesNonFinite param) ∧
    ((store.deleteWhere predicate param).Fails ↔ store.checkPredicate predicate param ≠ .ok () ∨
      store.size ≠ 0 ∧ predicate.ComparesNonFinite param) := by
  have hpasses := and_congr_right
    (hkept.exists_satisfies_iff hresolve hidentity predicate param)
  constructor
  · rw [← not_iff_not, not_fails_readWhere_iff, hpasses, not_or, not_not]
  · rw [← not_iff_not, hkept.not_fails_deleteWhere_iff, hpasses, not_or, not_not]

end Rows

/-- In every store with a table that a run leads to, a call with a predicate fails exactly if it
fails on the empty table, or there are rows and a field of them is compared with a real that is not
finite. -/
theorem fails_iff_of_created {recordType : RecordType R} {size : BucketSize} {start : Store R}
    (hnew : new recordType size = .ok start) (hassigns : recordType.Assigns start.table)
    (hidentity : start.table.identity.StoresIdentity) (calls : List (Call R))
    (hcreated : (start.after calls).isCreated = true) (predicate : Predicate)
    (param : Option FieldValues) :
    (((start.after calls).readWhere predicate param).Fails ↔
      (start.create.store.readWhere predicate param).Fails ∨
        (start.after calls).size ≠ 0 ∧ predicate.ComparesNonFinite param) ∧
    (((start.after calls).deleteWhere predicate param).Fails ↔
      (start.create.store.deleteWhere predicate param).Fails ∨
        (start.after calls).size ≠ 0 ∧ predicate.ComparesNonFinite param) := by
  obtain ⟨table, hresolve, rfl⟩ := exists_fresh_of_new hnew
  generalize hstart : fresh recordType table size = start at *
  have htable : start.table = table := by rw [← hstart]; rfl
  have hkept : start.Kept Registry.builtin size :=
    hstart ▸ kept_fresh hresolve (htable ▸ hassigns) size
  -- The empty table is a store that a run leads to, too.
  have hfails (calls : List (Call R)) :=
    (hkept.after calls).fails_iff (by rwa [table_after, htable]) (by rwa [table_after]) predicate
      param
  have hempty : (start.after [.create]).size = 0 := by rw [← hstart]; rfl
  have hcheck : (start.after [.create]).checkPredicate predicate param =
      (start.after calls).checkPredicate predicate param := by
    refine checkPredicate_congr ?_ ?_
    · rw [table_after, table_after]
    · rw [hcreated]
      rfl
  obtain ⟨hread, hdelete⟩ := hfails calls
  obtain ⟨hreadEmpty, hdeleteEmpty⟩ := hfails [.create]
  rw [hcheck, hempty] at hreadEmpty hdeleteEmpty
  change ((start.create.store).readWhere predicate param).Fails ↔ _ at hreadEmpty
  change ((start.create.store).deleteWhere predicate param).Fails ↔ _ at hdeleteEmpty
  rw [hread, hdelete, hreadEmpty, hdeleteEmpty]
  simp

end Store

namespace Stock

/-- The parameter is bound as it is where it is first read, and then compared with a column. -/
def lowOrBelow : Predicate :=
  .join .or (.compare .lt (.param "Value") (.literal (.int 0)))
    (.compare .lt (.row "Value") (.param "Value"))

def notNumber : FieldValues :=
  FieldMap.get [("Value", .real .nan)]

theorem fails_iff_of_created_lowOrBelow :
    Store.new (.ofSchema schema) pairs = .ok store ∧
      (RecordType.ofSchema schema).Assigns store.table ∧
      store.table.identity.StoresIdentity ∧ (store.after filling).isCreated = true ∧
      (((store.after filling).readWhere lowOrBelow (some notNumber)).Fails ↔
        (store.create.store.readWhere lowOrBelow (some notNumber)).Fails ∨
          (store.after filling).size ≠ 0 ∧ lowOrBelow.ComparesNonFinite (some notNumber)) ∧
      (((store.after filling).deleteWhere lowOrBelow (some notNumber)).Fails ↔
        (store.create.store.deleteWhere lowOrBelow (some notNumber)).Fails ∨
          (store.after filling).size ≠ 0 ∧ lowOrBelow.ComparesNonFinite (some notNumber)) :=
  ⟨new_pairs, assigns_ofSchema, Or.inl rfl, rfl,
    Store.fails_iff_of_created new_pairs assigns_ofSchema (Or.inl rfl) filling rfl lowOrBelow
      (some notNumber)⟩

/-- The same call succeeds on the empty table and fails on one with rows. -/
theorem fails_of_filling_lowOrBelow :
    Store.new (.ofSchema schema) pairs = .ok store ∧
      (RecordType.ofSchema schema).Assigns store.table ∧
      store.table.identity.StoresIdentity ∧ (store.after filling).isCreated = true ∧
      ¬(((store.after filling).readWhere lowOrBelow (some notNumber)).Fails ↔
        (store.create.store.readWhere lowOrBelow (some notNumber)).Fails) := by
  have hfails : ((store.after filling).readWhere lowOrBelow (some notNumber)).Fails :=
    ⟨.reported (.validation (.comparedReal .nan "Value")), rfl⟩
  have hempty : ¬(store.create.store.readWhere lowOrBelow (some notNumber)).Fails :=
    Outcome.not_fails_iff.mpr ⟨[], rfl⟩
  exact ⟨new_pairs, assigns_ofSchema, Or.inl rfl, rfl, fun h => hempty (h.mp hfails)⟩

end Stock

end RecordSql
