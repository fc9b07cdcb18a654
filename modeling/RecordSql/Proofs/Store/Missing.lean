import RecordSql.Proofs.Store.Failure

/-!
# Which missing row is named

A batch that names a row which is not there fails, and the error names one such row.  The check
looks twice: first for an identity whose bucket never came into being, then for one without a row.
A bucket comes into being with the first row that is written to it, and only a dropped table takes
it away.  So the error names the first identity of the batch that is in a bucket which nothing was
written to since the table was last dropped, and the first without a row only if there is none.
-/

namespace RecordSql

variable {R : Type}

/-- The first item of a list with a property. -/
structure IsFirst {α : Type} (p : α → Prop) (items : List α) (a : α) : Prop where
  holds : p a
  exists_split : ∃ before after, items = before ++ a :: after ∧ ∀ b ∈ before, ¬p b

/-- Looking for an item with a property finds the first. -/
theorem find?_eq_some_iff_isFirst {α : Type} {p : α → Prop} {test : α → Bool} {items : List α}
    {a : α} (htest : ∀ b, test b = true ↔ p b) : items.find? test = some a ↔ IsFirst p items a := by
  have hnot (b : α) : (!test b) = true ↔ ¬p b := by
    rw [← htest, Bool.not_eq_true', Bool.not_eq_true]
  simp only [List.find?_eq_some_iff_append, htest, hnot]
  exact ⟨fun ⟨ha, hsplit⟩ => ⟨ha, hsplit⟩, fun ⟨ha, hsplit⟩ => ⟨ha, hsplit⟩⟩

/-! ## Buckets that came into being -/

/-- Nothing was written to the bucket of an identity. -/
def BucketSize.Untouched (size : BucketSize) (written : List Int64) (id : Int64) : Prop :=
  ∀ other ∈ written, size.key? other ≠ size.key? id

namespace Buckets

variable {buckets : Buckets R} {size : BucketSize} {ids : List Int64}

theorem isSome_bucket?_insert (hsize : buckets.size.IsSigned) (id other : Int64) (row : R) :
    ((buckets.insert id row).bucket? other).isSome = true ↔
      (buckets.bucket? other).isSome = true ∨ buckets.size.key? id = buckets.size.key? other := by
  obtain ⟨key, hkey⟩ := hsize.exists_key id
  rw [bucket?_insert hkey, hkey]
  split
  · next hother => simp [hother]
  · next hother => simp [Ne.symm hother]

theorem isSome_bucket?_erase (buckets : Buckets R) (id other : Int64) :
    ((buckets.erase id).bucket? other).isSome = (buckets.bucket? other).isSome := by
  rw [bucket?_erase]
  split
  · rw [Option.isSome_map]
  · rfl

/-- The buckets that are there are those of some identities, and all identities have keys. -/
structure Opened (size : BucketSize) (ids : List Int64) (buckets : Buckets R) : Prop where
  size_eq : buckets.size = size
  isSigned : size.IsSigned
  isSome_iff : ∀ id, (buckets.bucket? id).isSome = true ↔
    ∃ other ∈ ids, size.key? other = size.key? id

theorem opened_empty (hsize : size.IsSigned) : (empty size : Buckets R).Opened size [] where
  size_eq := rfl
  isSigned := hsize
  isSome_iff id := by simp [empty, bucket?]

theorem Opened.isSome_of_get? (h : buckets.Opened size ids) {id : Int64} {row : R}
    (hget : buckets.get? id = some row) : ∃ other ∈ ids, size.key? other = size.key? id := by
  obtain ⟨bucket, hbucket, -⟩ := exists_bucket_of_get? hget
  exact (h.isSome_iff id).mp (by rw [hbucket]; rfl)

theorem Opened.insert (h : buckets.Opened size ids) (id : Int64) (row : R) :
    (buckets.insert id row).Opened size (ids ++ [id]) where
  size_eq := (size_insert buckets id row).trans h.size_eq
  isSigned := h.isSigned
  isSome_iff other := by
    rw [isSome_bucket?_insert (h.size_eq ▸ h.isSigned), h.isSome_iff, h.size_eq]
    simp only [List.mem_append, List.mem_singleton, or_and_right, exists_or, exists_eq_left]

/-- A row that is put over another one opens no bucket. -/
theorem Opened.insert_of_get? (h : buckets.Opened size ids) {id : Int64} {before : R}
    (hget : buckets.get? id = some before) (row : R) :
    (buckets.insert id row).Opened size ids where
  size_eq := (size_insert buckets id row).trans h.size_eq
  isSigned := h.isSigned
  isSome_iff other := by
    rw [isSome_bucket?_insert (h.size_eq ▸ h.isSigned), h.isSome_iff, h.size_eq,
      or_iff_left_of_imp]
    intro hkey
    rw [← hkey]
    exact h.isSome_of_get? hget

theorem Opened.erase (h : buckets.Opened size ids) (id : Int64) :
    (buckets.erase id).Opened size ids where
  size_eq := (size_erase buckets id).trans h.size_eq
  isSigned := h.isSigned
  isSome_iff other := by rw [isSome_bucket?_erase, h.isSome_iff]

theorem Opened.insertAll (h : buckets.Opened size ids) (batch : List (Int64 × R)) :
    (buckets.insertAll batch).Opened size (ids ++ batch.map (·.1)) := by
  induction batch generalizing buckets ids with
  | nil => exact (List.append_nil ids).symm ▸ h
  | cons entry rest ih =>
      have := ih (h.insert entry.1 entry.2)
      rwa [List.append_assoc] at this

theorem Opened.replaceAll (h : buckets.Opened size ids) (batch : List (Int64 × R)) :
    (Store.replaceAll buckets batch).2.Opened size ids :=
  replaceAll_keeps (fun _ entry _ _ hget hkept => hkept.insert_of_get? hget entry.2) h

end Buckets

/-! ## Runs -/

namespace Store

variable {store : Store R} {size : BucketSize} {ids : List Int64}

/-- The identities that were written since the table was last dropped, after a call that gave some
answer. -/
def writtenBy (store : Store R) (before : List Int64) (call : Call R) :
    Except Failure (Answer R) → List Int64
  | .error _ => before
  | .ok _ =>
      match call with
      | .drop => []
      | call => before ++ store.handsOut call

/-- The identities that were written since the table was last dropped, after some calls. -/
def written (store : Store R) (before : List Int64) : List (Call R) → List Int64
  | [] => before
  | call :: rest =>
      (store.step call).store.written (store.writtenBy before call (store.step call).answer) rest

/-- A call opens the buckets of what it writes. -/
theorem Effect.opened {call : Call R} {answer : Except Failure (Answer R)} {after : Store R}
    {changes : List (Change R)} (heffect : store.Effect call answer after changes)
    (h : store.buckets.Opened size ids) :
    after.buckets.Opened size (store.writtenBy ids call answer) := by
  have hgone (buckets : Buckets R) (id : Int64) (hopened : buckets.Opened size ids) :
      (buckets.erase id).Opened size ids := hopened.erase id
  cases heffect with
  | created | subscribed => simpa [writtenBy, handsOut, subscribe] using h
  | dropped => exact h.size_eq ▸ Buckets.opened_empty (h.size_eq.symm ▸ h.isSigned)
  | found hreading =>
      cases call <;> first | contradiction | simpa [writtenBy, handsOut] using h
  | refused | unstaged => exact h
  | overflowed hcheck hstage hkeyless =>
      -- A positive size has a key for every identity.
      obtain ⟨entry, -, hnone⟩ := hkeyless
      exact absurd hnone ((h.size_eq ▸ h.isSigned).key?_ne_none entry.1)
  | @wrote records rows nextId hcheck hstage hkeys =>
      have hout : store.handsOut (.write records) = rows.map (·.1) := by
        simp only [handsOut, hcheck, keys_of_stage hstage]
      simp only [writtenBy, hout]
      exact h.insertAll rows
  | @updated records batch changes buckets hcheck hreplace =>
      have := h.replaceAll batch
      rw [hreplace] at this
      simpa [writtenBy, handsOut] using this
  | @deleted gone changes buckets hcheck hdelete =>
      have := Buckets.deleteAll_keeps hgone h gone
      rw [hdelete] at this
      simpa [writtenBy, handsOut] using this
  | @unfinished predicate param e buckets herase =>
      have := Buckets.eraseWhere_keeps hgone h (store.satisfies predicate param)
      rw [herase] at this
      exact this
  | @deletedWhere predicate param gone buckets herase =>
      have := Buckets.eraseWhere_keeps hgone h (store.satisfies predicate param)
      rw [herase] at this
      simpa [writtenBy, handsOut] using this

/-- So does a run. -/
theorem opened_after (h : store.buckets.Opened size ids) (calls : List (Call R)) :
    (store.after calls).buckets.Opened size (store.written ids calls) := by
  induction calls generalizing store ids with
  | nil => exact h
  | cons call rest ih => exact ih ((step_effect store call).opened h)

/-! ## What a failed batch names -/

/-- The identity of a batch that is named as missing: the first one in a bucket that nothing was
written to, and if there is none the first without a row. -/
inductive Names (store : Store R) (size : BucketSize) (written ids : List Int64) (id : Int64) : Prop
  | untouched (hfirst : IsFirst (size.Untouched written) ids id)
  | vacant (htouched : ∀ other ∈ ids, ¬size.Untouched written other)
      (hfirst : IsFirst (fun other => store.buckets.get? other = none) ids id)

section Opened

variable {written : List Int64} (hopened : store.buckets.Opened size written)

include hopened

theorem isNone_bucket?_iff (id : Int64) :
    (store.buckets.bucket? id).isNone = true ↔ size.Untouched written id := by
  rw [Option.isNone_iff_eq_none, ← Option.not_isSome_iff_eq_none, hopened.isSome_iff]
  simp [BucketSize.Untouched]

theorem names_of_missing? {id : Int64} (h : store.buckets.missing? ids = some id) :
    store.Names size written ids id := by
  rcases Option.or_eq_some_iff.mp h with hfirst | ⟨hnone, hfirst⟩
  · exact .untouched ((find?_eq_some_iff_isFirst (isNone_bucket?_iff hopened)).mp hfirst)
  · refine .vacant (fun other hother huntouched => ?_)
      ((find?_eq_some_iff_isFirst fun _ => Option.isNone_iff_eq_none).mp hfirst)
    exact List.find?_eq_none.mp hnone other hother
      ((isNone_bucket?_iff hopened other).mpr huntouched)

end Opened

theorem exists_missing? (h : ∃ id ∈ ids, store.buckets.get? id = none) :
    ∃ id, store.buckets.missing? ids = some id := by
  obtain ⟨id, hid, hget⟩ := h
  refine Option.ne_none_iff_exists'.mp fun hnone => ?_
  have := List.find?_eq_none.mp (Option.or_eq_none_iff.mp hnone).2 id hid
  simp [hget] at this

section Failure

variable {id : Int64} (hcreated : store.isCreated = true)
  (hmissing : store.buckets.missing? ids = some id)

include hcreated hmissing

theorem delete_of_missing? {key : Int64} (hkey : store.buckets.size.key? id = some key) :
    (store.delete ids).answer =
      .error (.reported (.notFound (.row store.table.record id))) := by
  have hcheck : store.checkDelete ids =
      .error (.reported (.notFound (.row store.table.record id))) := by
    simp [checkDelete, checkCreated, hcreated, checkPresent_of_missing? hmissing hkey, bind,
      Except.bind]
  simp only [delete, hcheck, reply]

theorem update_of_missing? {key : Int64} (hkey : store.buckets.size.key? id = some key)
    {records : List R}
    (hrecords : List.Forall₂ (fun id record =>
      0 < id ∧ store.table.StoredRow id (store.recordType.get record)) ids records) :
    (store.update records).answer =
      .error (.reported (.notFound (.row store.table.record id))) := by
  obtain ⟨batch, hbatch, rfl⟩ := exists_mapM_checkReplacement hrecords
  have hcheck : store.checkUpdate records =
      .error (.reported (.notFound (.row store.table.record id))) := by
    simp [checkUpdate, checkCreated, hcreated, hbatch, checkPresent_of_missing? hmissing hkey,
      bind, Except.bind]
  simp only [update, hcheck, reply]

end Failure

/-- **A failed batch names a row that is missing.**  In every store that a run leads to, by a bucket
size that is positive as a signed number, a deletion of identities of which one has no row, and an
update by records of these identities, fail with the error that names the first of them in a bucket
which nothing was written to since the table was last dropped, or the first without a row if all of
the buckets were written to. -/
theorem batch_names_missing {recordType : RecordType R} {start : Store R} (hsize : size.IsSigned)
    (hnew : new recordType size = .ok start) (calls : List (Call R))
    (hcreated : (start.after calls).isCreated = true)
    (hmissing : ∃ id ∈ ids, (start.after calls).buckets.get? id = none) :
    let store := start.after calls
    ∃ id, store.Names size (start.written [] calls) ids id ∧
      (id ∈ ids ∧ store.buckets.get? id = none) ∧
      (store.delete ids).answer =
        .error (.reported (.notFound (.row store.table.record id))) ∧
      ∀ records, List.Forall₂ (fun id record =>
          0 < id ∧ store.table.StoredRow id (store.recordType.get record)) ids records →
        (store.update records).answer =
          .error (.reported (.notFound (.row store.table.record id))) := by
  intro store
  obtain ⟨table, -, rfl⟩ := exists_fresh_of_new hnew
  have hopened : store.buckets.Opened size ((fresh recordType table size).written [] calls) :=
    opened_after (Buckets.opened_empty hsize) calls
  obtain ⟨id, hid⟩ := exists_missing? hmissing
  obtain ⟨key, hkey⟩ := (hopened.size_eq ▸ hopened.isSigned).exists_key id
  exact ⟨id, names_of_missing? hopened hid, Buckets.mem_and_get?_of_missing? hid,
    delete_of_missing? hcreated hid hkey,
    fun records hrecords => update_of_missing? hcreated hid hkey hrecords⟩

end Store

namespace Stock

/-- Three rows in two buckets, of which the first goes. -/
def gaps : List (Call FieldMap) := filling ++ [.delete [1]]

theorem storedRow_item (id value : Int64) :
    table.StoredRow id (FieldMap.get (item id value)) where
  identity_eq := rfl
  storable := storable_of_checkFields rfl

/-- The first row is missing, but the ninth is named: nothing was written to its bucket. -/
theorem batch_names_missing_gaps :
    pairs.IsSigned ∧ Store.new (.ofSchema schema) pairs = .ok store ∧
      (store.after gaps).isCreated = true ∧ (store.after gaps).buckets.get? 1 = none ∧
      store.written [] gaps = [1, 2, 3] ∧
      ∃ id, (store.after gaps).Names pairs [1, 2, 3] [1, 9] id ∧
        ((store.after gaps).delete [1, 9]).answer =
          .error (.reported (.notFound (.row "Item" id))) ∧
        ((store.after gaps).update [item 1 5, item 9 5]).answer =
          .error (.reported (.notFound (.row "Item" id))) := by
  have hsize : pairs.IsSigned := by unfold BucketSize.IsSigned; decide
  have hcreated : (store.after gaps).isCreated = true := rfl
  have hget : (store.after gaps).buckets.get? 1 = none := rfl
  have hbatch : ∃ id ∈ [1, 9], (store.after gaps).buckets.get? id = none := ⟨1, by decide, hget⟩
  have hwritten : store.written [] gaps = [1, 2, 3] := rfl
  obtain ⟨id, hnames, -, hdelete, hupdate⟩ :=
    Store.batch_names_missing hsize new_pairs gaps hcreated hbatch
  rw [hwritten] at hnames
  exact ⟨hsize, new_pairs, hcreated, hget, hwritten, id, hnames, hdelete, hupdate _
    (.cons ⟨by decide, storedRow_item 1 5⟩ (.cons ⟨by decide, storedRow_item 9 5⟩ .nil))⟩

/-- A deletion and an update of two missing rows name the second, and with larger buckets the
first. -/
theorem batch_skips_missing :
    Store.new (.ofSchema schema) pairs = .ok store ∧ (store.after gaps).isCreated = true ∧
      (store.after gaps).buckets.get? 1 = none ∧ (store.after gaps).buckets.get? 9 = none ∧
      ((store.after gaps).delete [1, 9]).answer =
        .error (.reported (.notFound (.row "Item" 9))) ∧
      ((store.after gaps).update [item 1 5, item 9 5]).answer =
        .error (.reported (.notFound (.row "Item" 9))) ∧
      (((Store.fresh (.ofSchema schema) table .usual).after gaps).delete [1, 9]).answer =
        .error (.reported (.notFound (.row "Item" 1))) := by
  refine ⟨new_pairs, ?_, ?_, ?_, ?_, ?_, ?_⟩ <;> rfl

end Stock

end RecordSql
