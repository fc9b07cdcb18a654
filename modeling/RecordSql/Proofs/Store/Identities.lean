import Mathlib.Algebra.Group.Int.Defs
import RecordSql.Proofs.Store.Reachable

/-!
# Identities are never reused

As long as there are whole numbers left, the identities that a run uses up follow each other from
one on, whether or not rows come to stand under them and whatever becomes of the table.  So a row
that is written goes under an identity that no row ever had.
-/

namespace RecordSql

variable {R : Type}

/-! ## Identities that follow each other -/

/-- Identities that follow each other, from a given number on. -/
inductive Consecutive : Int → List Int64 → Prop
  | nil (first : Int) : Consecutive first []
  | cons {id : Int64} {first : Int} {rest : List Int64} (hfirst : id.toInt = first)
      (hrest : Consecutive (first + 1) rest) : Consecutive first (id :: rest)

namespace Consecutive

variable {first : Int} {ids more : List Int64}

theorem append (h : Consecutive first ids) (hmore : Consecutive (first + ids.length) more) :
    Consecutive first (ids ++ more) := by
  induction h with
  | nil => simpa using hmore
  | @cons id first rest hfirst hrest ih =>
      refine .cons hfirst (ih ?_)
      rw [List.length_cons] at hmore
      rwa [show first + 1 + (rest.length : Int) = first + ((rest.length + 1 : Nat) : Int) by omega]

theorem bounds (h : Consecutive first ids) :
    ∀ id ∈ ids, first ≤ id.toInt ∧ id.toInt < first + ids.length := by
  induction h with
  | nil => simp
  | @cons id first rest hfirst hrest ih =>
      intro other hother
      rw [List.length_cons]
      rcases List.mem_cons.mp hother with rfl | hlater
      · omega
      · have := ih other hlater
        omega

theorem nodup (h : Consecutive first ids) : ids.Nodup := by
  induction h with
  | nil => exact List.nodup_nil
  | @cons id first rest hfirst hrest ih =>
      refine List.nodup_cons.mpr ⟨fun hmem => ?_, ih⟩
      have := hrest.bounds id hmem
      omega

end Consecutive

theorem Int64.toInt_add_one {id : Int64} (h : id.toInt + 1 < 2 ^ 63) :
    (id + 1).toInt = id.toInt + 1 := by
  have hlow := Int64.le_toInt id
  have hone : (1 : Int64).toInt = 1 := rfl
  rw [Int64.toInt_add, hone]
  exact Int.bmod_eq_of_le (by omega) (by omega)

namespace Store

/-! ## One batch -/

section Batch

variable {setIdentity : Int64 → R → Except Error R} {next : Int64} {records : List R}

theorem consecutive_tried (h : next.toInt + (tried setIdentity next records).length < 2 ^ 63) :
    Consecutive next.toInt (tried setIdentity next records) := by
  induction records generalizing next with
  | nil => exact .nil _
  | cons record rest ih =>
      unfold tried at h ⊢
      cases hset : setIdentity next record with
      | error e => exact .cons rfl (.nil _)
      | ok row =>
          simp only [hset, List.length_cons] at h
          have hnext : (next + 1).toInt = next.toInt + 1 := Int64.toInt_add_one (by omega)
          refine .cons rfl ?_
          rw [← hnext]
          exact ih (by omega)

/-- Staging goes on behind the identities that it used up. -/
theorem toInt_stage (h : next.toInt + (tried setIdentity next records).length < 2 ^ 63) :
    (stage setIdentity next records).2.toInt =
      next.toInt + (tried setIdentity next records).length := by
  induction records generalizing next with
  | nil => simp [stage, tried]
  | cons record rest ih =>
      unfold tried at h ⊢
      unfold stage
      cases hset : setIdentity next record with
      | error e =>
          simp only [hset, List.length_cons, List.length_nil] at h ⊢
          exact Int64.toInt_add_one (by omega)
      | ok row =>
          simp only [hset, List.length_cons] at h ⊢
          have hnext : (next + 1).toInt = next.toInt + 1 := Int64.toInt_add_one (by omega)
          rw [ih (by omega), hnext]
          omega

end Batch

/-! ## One call -/

section Step

variable {store after : Store R} {call : Call R} {answer : Except Failure (Answer R)}
  {changes : List (Change R)}

theorem consecutive_handsOut (h : store.nextId.toInt + (store.handsOut call).length < 2 ^ 63) :
    Consecutive store.nextId.toInt (store.handsOut call) := by
  cases call with
  | write records =>
      cases hcheck : store.checkWrite records with
      | error e =>
          simp only [handsOut, hcheck]
          exact .nil _
      | ok _ =>
          simp only [handsOut, hcheck] at h ⊢
          exact consecutive_tried h
  | _ => exact .nil _

/-- The next identity is behind all that a call uses up. -/
theorem Effect.toInt_nextId (heffect : store.Effect call answer after changes)
    (h : store.nextId.toInt + (store.handsOut call).length < 2 ^ 63) :
    after.nextId.toInt = store.nextId.toInt + (store.handsOut call).length := by
  have hstaged {records : List R} {staged : Except Error (List (Int64 × R))} {nextId : Int64}
      (hcheck : store.checkWrite records = .ok ())
      (hstage : stage store.recordType.setIdentity store.nextId records = (staged, nextId))
      (h : store.nextId.toInt + (store.handsOut (.write records)).length < 2 ^ 63) :
      nextId.toInt = store.nextId.toInt + (store.handsOut (.write records)).length := by
    simp only [handsOut, hcheck] at h ⊢
    rw [← toInt_stage h, hstage]
  cases heffect with
  | unstaged hcheck hstage => exact hstaged hcheck hstage h
  | overflowed hcheck hstage => exact hstaged hcheck hstage h
  | wrote hcheck hstage => exact hstaged hcheck hstage h
  | found hreading => simp [handsOut_of_isReading hreading]
  | refused hidle => simp [hidle]
  | _ => simp [handsOut, subscribe]

/-- Every row is under an identity that was used up. -/
structure Numbered (store : Store R) : Prop where
  nextId_pos : 0 < store.nextId.toInt
  row_lt : ∀ id row, store.buckets.get? id = some row →
    0 < id.toInt ∧ id.toInt < store.nextId.toInt

/-- A call keeps the rows under identities that were used up. -/
theorem Numbered.step {registry : Registry} {size : BucketSize} (hnumbered : store.Numbered)
    (hkept : store.Kept registry size)
    (h : store.nextId.toInt + (store.handsOut call).length < 2 ^ 63) :
    (store.step call).store.Numbered := by
  have heffect := step_effect store call
  have hnext := heffect.toInt_nextId h
  have hpos := hnumbered.nextId_pos
  refine ⟨by omega, fun id row hget => ?_⟩
  rcases ((hkept.orderly_of_effect heffect).fits_of_get? id row hget).known with
    ⟨before, hbefore⟩ | hout
  · have := hnumbered.row_lt id before hbefore
    omega
  · have := (consecutive_handsOut h).bounds id hout
    omega

end Step

/-! ## Runs -/

section Run

variable {store : Store R} {calls : List (Call R)}

/-- The identities that a run uses up follow each other, and the next one is behind them. -/
theorem consecutive_handedOut
    (h : store.nextId.toInt + (store.handedOut calls).length < 2 ^ 63) :
    Consecutive store.nextId.toInt (store.handedOut calls) ∧
      (store.after calls).nextId.toInt =
        store.nextId.toInt + (store.handedOut calls).length := by
  induction calls generalizing store with
  | nil => exact ⟨.nil _, by simp [Store.after, handedOut]⟩
  | cons call rest ih =>
      simp only [handedOut, List.length_append] at h ⊢
      have hbound : store.nextId.toInt + (store.handsOut call).length < 2 ^ 63 := by omega
      have hnext := (step_effect store call).toInt_nextId hbound
      obtain ⟨hrest, hlast⟩ := @ih (store.step call).store (by omega)
      rw [hnext] at hrest
      refine ⟨(consecutive_handsOut hbound).append hrest, ?_⟩
      rw [Store.after, hlast]
      omega

theorem Numbered.after {registry : Registry} {size : BucketSize} (hnumbered : store.Numbered)
    (hkept : store.Kept registry size)
    (h : store.nextId.toInt + (store.handedOut calls).length < 2 ^ 63) :
    (store.after calls).Numbered := by
  induction calls generalizing store with
  | nil => exact hnumbered
  | cons call rest ih =>
      simp only [handedOut, List.length_append] at h
      have hnext := (step_effect store call).toInt_nextId (by omega)
      exact ih (hnumbered.step hkept (by omega)) (hkept.step call) (by omega)

end Run

end Store

/-! ## Rows that are written -/

namespace Buckets

variable {buckets : Buckets R} {batch : List (Int64 × R)}

theorem get?_insertAll_of_not_mem {id : Int64} (h : id ∉ batch.map (·.1)) :
    (buckets.insertAll batch).get? id = buckets.get? id := by
  induction batch generalizing buckets with
  | nil => rfl
  | cons entry rest ih =>
      rw [List.map_cons, List.mem_cons, not_or] at h
      exact (ih h.2).trans (get?_insert_of_ne buckets (Ne.symm h.1) entry.2)

theorem get?_insertAll_of_mem (hnodup : (batch.map (·.1)).Nodup)
    (hkeys : ∀ entry ∈ batch, ∃ key, buckets.size.key? entry.1 = some key) {entry : Int64 × R}
    (hentry : entry ∈ batch) : (buckets.insertAll batch).get? entry.1 = some entry.2 := by
  induction batch generalizing buckets with
  | nil => simp at hentry
  | cons first rest ih =>
      obtain ⟨hfirst, hrest⟩ := List.nodup_cons.mp hnodup
      obtain ⟨⟨key, hkey⟩, hlaterKeys⟩ := List.forall_mem_cons.mp hkeys
      rcases List.mem_cons.mp hentry with rfl | hlater
      · refine (get?_insertAll_of_not_mem hfirst).trans ?_
        rw [get?_insert hkey, if_pos rfl]
      · refine ih hrest (fun other hother => ?_) hlater
        rw [size_insert]
        exact hlaterKeys other hother

end Buckets

namespace Store

variable {store : Store R}

/-- Records that are written come to stand under identities that follow each other, that are
larger than all that were used up and that have no rows; other rows stay as they are. -/
structure WritesAnew (store : Store R) (used : List Int64) (records stored : List R)
    (ids : List Int64) : Prop where
  consecutive : Consecutive store.nextId.toInt ids
  length_eq : ids.length = records.length
  identities_eq : stored.map (fun row => store.recordType.get row store.table.identity.field) =
    ids.map fun id => some (.int id)
  lt_of_used : ∀ old ∈ used, ∀ id ∈ ids, old < id
  vacant : ∀ id ∈ ids, store.buckets.get? id = none
  added : ∀ entry ∈ ids.zip stored, (store.write records).store.buckets.get? entry.1 = some entry.2
  kept : ∀ id row, store.buckets.get? id = some row →
    (store.write records).store.buckets.get? id = some row

/-- A batch that is written passed the check, and it was staged as a whole. -/
theorem Effect.exists_rows {records stored : List R} {after : Store R} {changes : List (Change R)}
    (h : store.Effect (.write records) (.ok (.rows stored)) after changes) :
    ∃ rows nextId, store.checkWrite records = .ok () ∧
      stage store.recordType.setIdentity store.nextId records = (.ok rows, nextId) ∧
      (∀ entry ∈ rows, ∃ key, store.buckets.size.key? entry.1 = some key) ∧
      rows.map (·.2) = stored ∧ after.buckets = store.buckets.insertAll rows := by
  cases h with
  | found hreading => contradiction
  | wrote hcheck hstage hkeys => exact ⟨_, _, hcheck, hstage, hkeys, rfl, rfl⟩

theorem writesAnew_of_write {registry : Registry} {size : BucketSize}
    (hkept : store.Kept registry size) (hnumbered : store.Numbered) {used : List Int64}
    (hused : ∀ old ∈ used, old.toInt < store.nextId.toInt) {records stored : List R}
    (hbound : store.nextId.toInt + (store.handsOut (.write records)).length < 2 ^ 63)
    (h : (store.write records).answer = .ok stored) :
    ∃ ids, store.WritesAnew used records stored ids := by
  have hanswer : (store.step (.write records)).answer = .ok (.rows stored) :=
    map_eq_ok_iff.mpr ⟨stored, h, rfl⟩
  have heffect := step_effect store (.write records)
  rw [hanswer] at heffect
  obtain ⟨rows, nextId, hcheck, hstage, hkeys, rfl, hbuckets⟩ := heffect.exists_rows
  change (store.write records).store.buckets = _ at hbuckets
  have hout : store.handsOut (.write records) = rows.map (·.1) := by
    simp only [handsOut, hcheck, keys_of_stage hstage]
  have hconsecutive := consecutive_handsOut hbound
  rw [hout] at hconsecutive
  have hvacant : ∀ id ∈ rows.map (·.1), store.buckets.get? id = none := by
    intro id hid
    have hlow := (hconsecutive.bounds id hid).1
    cases hget : store.buckets.get? id with
    | none => rfl
    | some row =>
        have := (hnumbered.row_lt id row hget).2
        omega
  refine ⟨rows.map (·.1), hconsecutive, ?_, ?_, ?_, hvacant, ?_, ?_⟩
  · rw [List.length_map]
    exact (forall₂_of_stage hstage).length_eq.symm
  · rw [List.map_map, List.map_map]
    refine List.map_congr_left fun entry hentry => ?_
    obtain ⟨record, -, hset⟩ := exists_of_mem_right (forall₂_of_stage hstage) hentry
    exact hkept.assigns.get_identity _ _ _ hset
  · intro old hold id hid
    rw [Int64.lt_iff_toInt_lt]
    have := hused old hold
    have := (hconsecutive.bounds id hid).1
    omega
  · intro entry hentry
    rw [hbuckets]
    rw [← List.zip_of_prod rfl rfl] at hentry
    exact Buckets.get?_insertAll_of_mem hconsecutive.nodup hkeys hentry
  · intro id row hget
    rw [hbuckets, Buckets.get?_insertAll_of_not_mem fun hid => ?_]
    · exact hget
    · rw [hvacant id hid] at hget
      contradiction

/-- A row is in the bucket of the identity that it holds, and its other fields are there and
storable. -/
structure InPlace (store : Store R) (size : BucketSize) (key id : Int64) (row : R) : Prop where
  key_eq : size.key? id = some key
  stored : store.table.StoredRow id (store.recordType.get row)
  one_le : 1 ≤ id
  lt_nextId : id < store.nextId

theorem Kept.inPlace {registry : Registry} {size : BucketSize} (hkept : store.Kept registry size)
    (hnumbered : store.Numbered) {key id : Int64} {bucket : Bucket R} {row : R}
    (hbucket : store.buckets.held[key]? = some bucket) (hrow : bucket[id]? = some row) :
    store.InPlace size key id row := by
  have hmem : id ∈ bucket := Std.TreeMap.mem_iff_isSome_getElem?.mpr (by rw [hrow]; rfl)
  have hkey : store.buckets.size.key? id = some key :=
    hkept.rows.placed.key_eq key bucket id hbucket hmem
  have hget : store.buckets.get? id = some row := by
    simp [Buckets.get?, Buckets.bucket?, hkey, hbucket, hrow]
  obtain ⟨hpos, hlt⟩ := hnumbered.row_lt id row hget
  refine ⟨?_, hkept.rows.fits_of_get? id row hget, ?_, Int64.lt_iff_toInt_lt.mpr hlt⟩
  · rw [← hkept.rows.size_eq, hkey]
  · rw [Int64.le_iff_toInt_le]
    exact hpos

/-- A table that is not there has no rows. -/
theorem Kept.toList_of_not_created {registry : Registry} {size : BucketSize}
    (hkept : store.Kept registry size) (h : store.isCreated = false) :
    store.buckets.toList = [] := by
  refine List.eq_nil_iff_forall_not_mem.mpr ?_
  rintro ⟨id, row⟩ hmem
  have hget := hkept.rows.placed.mem_toList_iff.mp hmem
  rw [hkept.get?_of_not_created h id] at hget
  contradiction

theorem numbered_fresh (recordType : RecordType R) (table : Table) (size : BucketSize) :
    (fresh recordType table size).Numbered where
  nextId_pos := Int.one_pos
  row_lt id row hget := by simp [fresh] at hget

/-- In every run that uses up fewer identities than there are, rows are in their place, and what is
written goes under identities that were never used up. -/
theorem identities_never_reused {registry : Registry} {recordType : RecordType R} {table : Table}
    (size : BucketSize) (hresolve : Table.resolve recordType.schema registry = .ok table)
    (hassigns : recordType.Assigns table) (calls : List (Call R))
    (hfew : ((fresh recordType table size).handedOut calls).length < 2 ^ 63 - 1) :
    let start := fresh recordType table size
    (∀ key bucket id row, (start.after calls).buckets.held[key]? = some bucket →
        bucket[id]? = some row → (start.after calls).InPlace size key id row) ∧
      ((start.after calls).isCreated = false → (start.after calls).buckets.toList = []) ∧
      ∀ earlier records later stored, calls = earlier ++ .write records :: later →
        ((start.after earlier).write records).answer = .ok stored →
          ∃ ids, (start.after earlier).WritesAnew (start.handedOut earlier) records stored ids := by
  intro start
  change (start.handedOut calls).length < 2 ^ 63 - 1 at hfew
  have hstart : start.Kept registry size := kept_fresh hresolve hassigns size
  have hzero : start.Numbered := numbered_fresh recordType table size
  have hnext : start.nextId.toInt = 1 := rfl
  have hnumbered : (start.after calls).Numbered := hzero.after hstart (by omega)
  refine ⟨fun key bucket id row => (hstart.after calls).inPlace hnumbered,
    (hstart.after calls).toList_of_not_created, ?_⟩
  rintro earlier records later stored rfl hanswer
  -- What the run up to the batch used up, the batch itself and the rest share the bound.
  rw [handedOut_append, handedOut, List.length_append, List.length_append] at hfew
  have hearlier : start.nextId.toInt + (start.handedOut earlier).length < 2 ^ 63 := by omega
  obtain ⟨hconsecutive, hlast⟩ := consecutive_handedOut hearlier
  refine writesAnew_of_write (hstart.after earlier) (hzero.after hstart hearlier) ?_ (by omega)
    hanswer
  intro old hold
  have := (hconsecutive.bounds old hold).2
  omega

end Store

namespace Stock

/-- Items that take no identity unless they are active. -/
def activeOnly : RecordType FieldMap :=
  { RecordType.ofSchema schema with
    setIdentity id row :=
      match FieldMap.get row "Active" with
      | some (.bool true) => .ok (row.put "ID" (.int id))
      | _ => .error (.validation (.reported "the item is not active")) }

theorem assigns_activeOnly : activeOnly.Assigns table where
  get_identity id record row hset := by
    simp only [activeOnly] at hset
    split at hset
    · exact assigns_ofSchema.get_identity id record row hset
    · contradiction
  get_other id record row field hset hne := by
    simp only [activeOnly] at hset
    split at hset
    · exact assigns_ofSchema.get_other id record row field hset hne
    · contradiction

def activeStore : Store FieldMap := Store.fresh activeOnly table pairs

/-- A batch whose second record refuses its identity, though all its fields are valid. -/
def refused : List FieldMap :=
  [item 0 3, (item 0 4).put "Active" (.bool false), item 0 5]

def founded : List (Call FieldMap) := [.create, .write [item 0 1, item 0 2]]

/-- A batch that is written, one that is not, and a table that is dropped and comes back. -/
def renewals : List (Call FieldMap) := founded ++ [.write refused, .drop, .create]

/-- The batch that was not written used up two identities, so the next record has the fifth. -/
theorem identities_never_reused_renewals :
    let calls := renewals ++ [.write [item 0 3]]
    Table.resolve schema .builtin = .ok table ∧ activeOnly.Assigns table ∧
      (activeStore.handedOut calls).length < 2 ^ 63 - 1 ∧
      ((activeStore.after founded).write refused).answer =
        .error (.reported (.validation (.reported "the item is not active"))) ∧
      (activeStore.after founded).handsOut (.write refused) = [3, 4] ∧
      ((activeStore.after renewals).write [item 0 3]).answer = .ok [item 5 3] ∧
      ∃ ids, (activeStore.after renewals).WritesAnew [1, 2, 3, 4] [item 0 3] [item 5 3] ids := by
  intro calls
  have hfive : activeStore.handedOut calls = [1, 2, 3, 4, 5] := by decide
  have hfew : (activeStore.handedOut calls).length < 2 ^ 63 - 1 := by
    rw [hfive]
    decide
  have hrefused : ((activeStore.after founded).write refused).answer =
      .error (.reported (.validation (.reported "the item is not active"))) := by rfl
  have hanswer : ((activeStore.after renewals).write [item 0 3]).answer = .ok [item 5 3] := by rfl
  obtain ⟨-, -, hwrites⟩ :=
    Store.identities_never_reused pairs resolve_schema assigns_activeOnly calls hfew
  exact ⟨resolve_schema, assigns_activeOnly, hfew, hrefused, by decide, hanswer,
    hwrites renewals [item 0 3] [] [item 5 3] rfl hanswer⟩

end Stock

end RecordSql
