import Mathlib.Data.List.Forall2
import RecordSql.Proofs.Predicate.Failure
import RecordSql.Store.Basic

/-!
# Records that pass the checks

What a store checks of the records of a batch before it changes a row, and what is so of a record
that passes: under the identity that it is given, or that it has, it is a row as rows are stored.
-/

namespace RecordSql

variable {R α : Type}

/-! ## Loops of checks -/

theorem forM_eq_ok_iff {ε : Type} {f : α → Except ε Unit} {items : List α} :
    items.forM f = .ok () ↔ ∀ a ∈ items, f a = .ok () := by
  induction items with
  | nil => simp [pure, Except.pure]
  | cons a rest ih =>
      constructor
      · intro h b hb
        obtain ⟨_, hfirst, hrest⟩ := bind_eq_ok_iff.mp h
        rcases List.mem_cons.mp hb with rfl | hb
        · exact hfirst
        · exact ih.mp hrest b hb
      · intro h
        exact bind_eq_ok_iff.mpr ⟨(), h a List.mem_cons_self,
          ih.mpr fun b hb => h b (List.mem_cons_of_mem a hb)⟩

theorem Failure.lift_eq_ok_iff {answer : Except Error α} {a : α} :
    lift answer = .ok a ↔ answer = .ok a :=
  mapError_eq_ok_iff

/-! ## Single records -/

/-- An identity that a record accepts goes into its identity field, and no other field changes. -/
structure RecordType.Assigns (recordType : RecordType R) (table : Table) : Prop where
  get_identity : ∀ id record row, recordType.setIdentity id record = .ok row →
    recordType.get row table.identity.field = some (.int id)
  get_other : ∀ id record row field, recordType.setIdentity id record = .ok row →
    field ≠ table.identity.field → recordType.get row field = recordType.get record field

theorem storable_of_checkFields {table : Table} {values : FieldValues}
    (h : table.checkFields values = .ok ()) (column : Column) (hmem : column ∈ table.nonIdentity) :
    ∃ value stored, values column.field = some value ∧ column.serialize value = .ok stored := by
  have hfield := forM_eq_ok_iff.mp h column hmem
  unfold Table.checkField at hfield
  cases hvalue : values column.field with
  | none => simp [hvalue, throw, throwThe, MonadExceptOf.throw] at hfield
  | some value =>
      rw [hvalue] at hfield
      obtain ⟨stored, hstored, -⟩ := bind_eq_ok_iff.mp hfield
      exact ⟨value, stored, rfl, hstored⟩

/-- A checked record that accepts an identity is as it is stored. -/
theorem RecordType.Assigns.storedRow {recordType : RecordType R} {table : Table}
    {registry : Registry} (h : recordType.Assigns table)
    (hsound : Table.Sound registry table.columns) {id : Int64} {record row : R}
    (hfields : table.checkFields (recordType.get record) = .ok ())
    (hset : recordType.setIdentity id record = .ok row) :
    table.StoredRow id (recordType.get row) where
  identity_eq := h.get_identity id record row hset
  storable column hmem := by
    have hne := hsound.field_ne_identity hmem
    rw [h.get_other id record row column.field hset hne]
    exact storable_of_checkFields hfields column hmem

/-- The identity of a stored record is a whole number in its field. -/
theorem Table.get_identity_of_identityOf {table : Table} {values : FieldValues} {id : Int64}
    (h : table.identityOf values = .ok id) : values table.identity.field = some (.int id) := by
  unfold identityOf at h
  dsimp only at h
  split at h
  · next found hvalue =>
    split at h
    · obtain rfl := Except.ok.inj h
      exact hvalue
    · contradiction
  · contradiction
  · contradiction

theorem Table.pos_of_identityOf {table : Table} {values : FieldValues} {id : Int64}
    (h : table.identityOf values = .ok id) : 0 < id := by
  unfold identityOf at h
  dsimp only at h
  split at h
  · split at h
    · next hpos =>
      obtain rfl := Except.ok.inj h
      exact hpos
    · contradiction
  · contradiction
  · contradiction

/-- A checked record that has an identity is as it is stored. -/
theorem Table.storedRow_of_identityOf {table : Table} {values : FieldValues} {id : Int64}
    (hfields : table.checkFields values = .ok ()) (hid : table.identityOf values = .ok id) :
    table.StoredRow id values where
  identity_eq := get_identity_of_identityOf hid
  storable := storable_of_checkFields hfields

/-- A record that is as stored under a positive identity passes both checks. -/
theorem Table.StoredRow.checkFields {table : Table} {values : FieldValues} {id : Int64}
    (h : table.StoredRow id values) : table.checkFields values = .ok () := by
  refine forM_eq_ok_iff.mpr fun column hmem => ?_
  obtain ⟨value, stored, hvalue, hstored⟩ := h.storable column hmem
  simp only [checkField, hvalue, hstored]
  rfl

theorem Table.StoredRow.identityOf {table : Table} {values : FieldValues} {id : Int64}
    (h : table.StoredRow id values) (hpos : 0 < id) : table.identityOf values = .ok id := by
  simp [Table.identityOf, h.identity_eq, hpos]

/-! ## Batches -/

/-- Every record of a batch that is staged accepted the identity that it is staged under. -/
theorem forall₂_of_stage {setIdentity : Int64 → R → Except Error R} {next after : Int64}
    {records : List R} {rows : List (Int64 × R)}
    (h : Store.stage setIdentity next records = (.ok rows, after)) :
    List.Forall₂ (fun record entry => setIdentity entry.1 record = .ok entry.2) records rows := by
  induction records generalizing next after rows with
  | nil =>
      obtain ⟨hrows, -⟩ := Prod.mk.inj h
      obtain rfl := Except.ok.inj hrows
      exact .nil
  | cons record rest ih =>
      unfold Store.stage at h
      cases hset : setIdentity next record with
      | error e => simp [hset] at h
      | ok row =>
          cases hrest : Store.stage setIdentity (next + 1) rest with
          | mk staged last =>
              simp only [hset, hrest, Prod.mk.injEq] at h
              obtain ⟨hrows, -⟩ := h
              obtain ⟨later, rfl, rfl⟩ := map_eq_ok_iff.mp hrows
              exact .cons hset (ih hrest)

/-- An identity that is named as missing has no row. -/
theorem Buckets.mem_and_get?_of_missing? {buckets : Buckets R} {ids : List Int64} {id : Int64}
    (h : buckets.missing? ids = some id) : id ∈ ids ∧ buckets.get? id = none := by
  rcases Option.or_eq_some_iff.mp h with hbucket | ⟨-, hrow⟩
  · refine ⟨List.mem_of_find?_eq_some hbucket, ?_⟩
    have hnone := List.find?_some hbucket
    rw [get?, Option.isNone_iff_eq_none.mp hnone]
    rfl
  · have hnone := List.find?_some hrow
    exact ⟨List.mem_of_find?_eq_some hrow, Option.isNone_iff_eq_none.mp hnone⟩

namespace Store

variable {store : Store R}

/-- Reading all rows needs only that the table is there. -/
theorem readAll_of_created (h : store.isCreated = true) :
    store.readAll.answer = .ok (store.buckets.toList.map (·.2)) := by
  simp [readAll, reply, checkCreated, h, bind, Except.bind, pure, Except.pure]

theorem checkKey_of_key {id key : Int64} (h : store.buckets.size.key? id = some key) :
    store.checkKey id = .ok () := by
  simp [checkKey, h]

/-- A missing row is reported, unless its identity has no bucket key. -/
theorem checkPresent_of_missing? {ids : List Int64} {id key : Int64}
    (hmissing : store.buckets.missing? ids = some id)
    (hkey : store.buckets.size.key? id = some key) :
    store.checkPresent ids = .error (.reported (.notFound (.row store.table.record id))) := by
  rw [checkPresent, hmissing]
  simp [checkKey_of_key hkey, bind, Except.bind, throw, throwThe, MonadExceptOf.throw]

/-- All identities that pass the check have rows. -/
theorem exists_row_of_checkPresent {ids : List Int64} (h : store.checkPresent ids = .ok ()) :
    ∀ id ∈ ids, ∃ row, store.buckets.get? id = some row := by
  unfold checkPresent at h
  split at h
  · obtain ⟨_, -, hthrown⟩ := bind_eq_ok_iff.mp h
    contradiction
  · next hnone =>
    intro id hid
    have := List.find?_eq_none.mp (Option.or_eq_none_iff.mp hnone).2 id hid
    exact Option.ne_none_iff_exists'.mp (by simpa using this)

/-- Rows are deleted only where all of them are there. -/
theorem exists_row_of_checkDelete {ids : List Int64} (h : store.checkDelete ids = .ok ()) :
    ∀ id ∈ ids, ∃ row, store.buckets.get? id = some row := by
  obtain ⟨_, -, hpresent⟩ := bind_eq_ok_iff.mp h
  exact exists_row_of_checkPresent hpresent

/-- Records that pass the checks for an update are as they are stored. -/
theorem storedRow_of_checkReplacement {record : R} {entry : Int64 × R}
    (h : store.checkReplacement record = .ok entry) :
    store.table.StoredRow entry.1 (store.recordType.get entry.2) := by
  obtain ⟨_, hfields, h⟩ := bind_eq_ok_iff.mp h
  obtain ⟨id, hid, h⟩ := bind_eq_ok_iff.mp h
  obtain rfl := Except.ok.inj h
  exact Table.storedRow_of_identityOf hfields hid

theorem pos_of_checkReplacement {record : R} {entry : Int64 × R}
    (h : store.checkReplacement record = .ok entry) : 0 < entry.1 := by
  obtain ⟨_, -, h⟩ := bind_eq_ok_iff.mp h
  obtain ⟨id, hid, h⟩ := bind_eq_ok_iff.mp h
  obtain rfl := Except.ok.inj h
  exact Table.pos_of_identityOf hid

/-- Records that are as they are stored, under positive identities, pass the checks. -/
theorem exists_mapM_checkReplacement {ids : List Int64} {records : List R}
    (h : List.Forall₂ (fun id record =>
      0 < id ∧ store.table.StoredRow id (store.recordType.get record)) ids records) :
    ∃ batch, records.mapM store.checkReplacement = .ok batch ∧ batch.map (·.1) = ids := by
  induction h with
  | nil => exact ⟨[], rfl, rfl⟩
  | @cons id record ids records hfirst _ ih =>
      obtain ⟨hpos, hstored⟩ := hfirst
      obtain ⟨batch, hbatch, rfl⟩ := ih
      have hrecord : store.checkReplacement record = .ok (id, record) :=
        bind_eq_ok_iff.mpr ⟨(), hstored.checkFields,
          bind_eq_ok_iff.mpr ⟨id, hstored.identityOf hpos, rfl⟩⟩
      refine ⟨(id, record) :: batch, ?_, rfl⟩
      rw [List.mapM_cons, hrecord, hbatch]
      rfl

/-- A batch that passes the checks replaces stored rows by rows that are as they are stored. -/
theorem of_checkUpdate {records : List R} {batch : List (Int64 × R)}
    (h : store.checkUpdate records = .ok batch) :
    (∀ entry ∈ batch, ∃ row, store.buckets.get? entry.1 = some row) ∧
      ∀ entry ∈ batch, store.table.StoredRow entry.1 (store.recordType.get entry.2) := by
  obtain ⟨_, -, h⟩ := bind_eq_ok_iff.mp h
  obtain ⟨checked, hchecked, h⟩ := bind_eq_ok_iff.mp h
  obtain ⟨_, hpresent, h⟩ := bind_eq_ok_iff.mp h
  obtain rfl := Except.ok.inj h
  rw [Failure.lift_eq_ok_iff] at hchecked
  constructor
  · intro entry hentry
    exact exists_row_of_checkPresent hpresent entry.1 (List.mem_map_of_mem hentry)
  · intro entry hentry
    obtain ⟨record, -, hrecord⟩ := exists_of_mem_right (forall₂_of_mapM hchecked) hentry
    exact storedRow_of_checkReplacement hrecord

end Store

/-! ## A store to look at -/

namespace Stock

/-- Items in buckets of two. -/
def pairs : BucketSize := ⟨2, by decide⟩

def store : Store FieldMap :=
  ⟨.ofSchema schema, table, false, 1, Buckets.empty pairs, []⟩

def item (id value : Int64) : FieldMap :=
  [("ID", .int id), ("Label", .text "lamp"), ("Value", .int value), ("Price", .int 2),
    ("Owner", .int 7), ("Active", .bool true)]

theorem new_pairs : Store.new (.ofSchema schema) pairs = .ok store := by
  rfl

theorem assigns_ofSchema : (RecordType.ofSchema schema).Assigns table where
  get_identity id record row hset := by
    obtain rfl := Except.ok.inj hset
    exact FieldMap.get_put_self record "ID" (.int id)
  get_other id record row field hset hne := by
    obtain rfl := Except.ok.inj hset
    exact FieldMap.get_put_of_ne record (.int id) hne

end Stock

end RecordSql
