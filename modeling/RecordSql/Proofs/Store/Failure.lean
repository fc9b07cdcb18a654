import RecordSql.Proofs.Store.Reachable

/-!
# Calls that fail

A call that reports an error leaves the rows as they are and tells nobody.  Deleting by a predicate
goes from bucket to bucket and could fail on the way; it does not, since a predicate that fails on
one stored row fails on the first that is looked at.
-/

namespace RecordSql

variable {R α : Type}

namespace Store

variable {store : Store R}

section Rows

variable {size : BucketSize} (hkept : store.Kept Registry.builtin size) (predicate : Predicate)
  (param : Option FieldValues)

include hkept

/-- A predicate has an outcome on all rows or fails on all of them alike. -/
theorem Kept.sameForm_satisfies {a b : Int64 × R} (ha : a ∈ store.buckets.toList)
    (hb : b ∈ store.buckets.toList) :
    SameForm (store.satisfies predicate param a.2) (store.satisfies predicate param b.2) := by
  have hstored {entry : Int64 × R} (hentry : entry ∈ store.buckets.toList) :
      store.table.StoredRow entry.1 (store.recordType.get entry.2) :=
    hkept.rows.fits_of_get? entry.1 entry.2 (hkept.rows.placed.mem_toList_iff.mp hentry)
  exact sameForm_evaluate hkept.sound.builtin?_eq (hstored ha) (hstored hb) param predicate

/-- Where a predicate fails no row goes. -/
theorem Kept.eraseWhere_of_error {e : Error} {buckets : Buckets R}
    (h : store.buckets.eraseWhere (store.satisfies predicate param) = (.error e, buckets)) :
    buckets = store.buckets := by
  rcases Buckets.eraseWhere_cases fun _ ha _ hb =>
      hkept.sameForm_satisfies predicate param ha hb with
    ⟨kept, -, herase⟩ | ⟨other, -, herase⟩
  · rw [h] at herase
    simp at herase
  · rw [h] at herase
    exact (Prod.mk.inj herase).2

/-- Where it does not, the rows that go are some of those that there are. -/
theorem Kept.eraseWhere_of_ok {ids : List Int64} {buckets : Buckets R}
    (h : store.buckets.eraseWhere (store.satisfies predicate param) = (.ok ids, buckets)) :
    ids.Sublist (store.buckets.toList.map (·.1)) ∧ buckets = store.buckets.eraseAll ids := by
  rcases Buckets.eraseWhere_cases fun _ ha _ hb =>
      hkept.sameForm_satisfies predicate param ha hb with
    ⟨kept, hfilter, herase⟩ | ⟨other, -, herase⟩
  · rw [h] at herase
    obtain ⟨hids, rfl⟩ := Prod.mk.inj herase
    obtain rfl := Except.ok.inj hids
    exact ⟨(Buckets.sublist_of_filterM hfilter).map _, rfl⟩
  · rw [h] at herase
    simp at herase

end Rows

/-- A call has changed no row and told nobody; it may have used up identities if it writes. -/
structure Spares (store : Store R) (call : Call R) (outcome : Outcome R α) : Prop where
  buckets_eq : outcome.store.buckets = store.buckets
  notices_eq : outcome.notices = []
  changes_eq : outcome.changes = []
  store_eq : outcome.store = { store with nextId := outcome.store.nextId }
  nextId_eq : (∀ records, call ≠ .write records) → outcome.store.nextId = store.nextId

/-- What an effect is that comes with an error. -/
theorem Effect.of_error {size : BucketSize} {call : Call R} {e : Error} {after : Store R}
    {changes : List (Change R)}
    (heffect : store.Effect call (.error (.reported e)) after changes)
    (hkept : store.Kept Registry.builtin size) :
    changes = [] ∧ after = { store with nextId := after.nextId } ∧
      ((∀ records, call ≠ .write records) → after.nextId = store.nextId) := by
  cases heffect with
  | refused => exact ⟨rfl, rfl, fun _ => rfl⟩
  | @unstaged records => exact ⟨rfl, rfl, fun hother => absurd rfl (hother records)⟩
  | @unfinished predicate param _ buckets herase =>
      obtain rfl := hkept.eraseWhere_of_error predicate param herase
      exact ⟨rfl, rfl, fun _ => rfl⟩

/-- In every store that a run leads to, a call that reports an error changes no row and tells
nobody. -/
theorem spares_of_error {recordType : RecordType R} {size : BucketSize} {start : Store R}
    (hnew : new recordType size = .ok start) (hassigns : recordType.Assigns start.table)
    (calls : List (Call R)) (call : Call R) {e : Error}
    (herror : ((start.after calls).step call).answer = .error (.reported e)) :
    (start.after calls).Spares call ((start.after calls).step call) := by
  obtain ⟨table, hresolve, rfl⟩ := exists_fresh_of_new hnew
  have hkept := (kept_fresh hresolve hassigns size).after calls
  have heffect := step_effect ((fresh recordType table size).after calls) call
  rw [herror] at heffect
  obtain ⟨hchanges, hstore, hnext⟩ := heffect.of_error hkept
  refine ⟨?_, ?_, hchanges, hstore, hnext⟩
  · rw [hstore]
  · rw [Outcome.notices, hchanges]
    rfl

end Store

namespace Stock

/-- Rows in two buckets, and somebody who would hear of a change. -/
def filling : List (Call FieldMap) :=
  [.create, .subscribe .recording, .write [item 0 1, item 0 2, item 0 3]]

/-- The parameter is bound as it is where it is first read, so this compiles; the column that it is
compared with next has no place for it. -/
def unordered : Call FieldMap :=
  .deleteWhere
    (.join .or (.compare .lt (.param "Value") (.literal (.int 0)))
      (.compare .lt (.row "Value") (.param "Value")))
    (some (FieldMap.get [("Value", .real .nan)]))

theorem spares_of_error_unordered :
    Store.new (.ofSchema schema) pairs = .ok store ∧
      (RecordType.ofSchema schema).Assigns store.table ∧
      ((store.after filling).step unordered).answer =
        .error (.reported (.validation (.comparedReal .nan "Value"))) ∧
      (store.after filling).Spares unordered ((store.after filling).step unordered) :=
  have herror : ((store.after filling).step unordered).answer =
    .error (.reported (.validation (.comparedReal .nan "Value"))) := by rfl
  ⟨new_pairs, assigns_ofSchema, herror,
    Store.spares_of_error new_pairs assigns_ofSchema filling unordered herror⟩

end Stock

end RecordSql
