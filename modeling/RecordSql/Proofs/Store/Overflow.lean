import RecordSql.Proofs.Store.Missing

/-!
# Calls that break off

Every call that looks for the bucket of an identity breaks off where the identity has no key.  This
is a single identity by a single bucket size, and an update never comes upon it.
-/

namespace RecordSql

variable {R α β : Type}

/-! ## Answers that overflow -/

theorem Failure.lift_ne_overflow (answer : Except Error α) :
    Failure.lift answer ≠ .error .overflow := by
  cases answer <;> simp

theorem bind_lift_eq_overflow_iff {answer : Except Error α} {f : α → Except Failure β} :
    (Failure.lift answer >>= f) = .error .overflow ↔
      ∃ a, answer = .ok a ∧ f a = .error .overflow := by
  cases answer <;> simp [bind, Except.bind]

theorem bind_pure_eq_error_iff {answer : Except Failure α} {f : α → β} {failure : Failure} :
    (answer >>= fun a => pure (f a)) = .error failure ↔ answer = .error failure := by
  cases answer <;> simp [bind, Except.bind, pure, Except.pure]

theorem map_eq_error_iff {answer : Except Failure α} {f : α → β} {failure : Failure} :
    answer.map f = .error failure ↔ answer = .error failure := by
  cases answer <;> simp [Except.map]

namespace Store

variable {store : Store R}

/-- Which calls break off for want of a bucket key.  A deletion does where the first of its
identities without a bucket has no key either, a batch of new records only where it hands out an
identity without one. -/
structure BreaksOff (store : Store R) (size : BucketSize) : Prop where
  read_iff : ∀ id, (store.read id).answer = .error .overflow ↔
    store.isCreated = true ∧ size.key? id = none
  delete_iff : ∀ ids, (store.delete ids).answer = .error .overflow ↔
    store.isCreated = true ∧
      ∃ id, IsFirst (fun other => store.buckets.bucket? other = none) ids id ∧
        size.key? id = none
  update_ne : ∀ records, (store.update records).answer ≠ .error .overflow
  exists_of_write : ∀ records, (store.write records).answer = .error .overflow →
    ∃ id ∈ store.handsOut (.write records), size.key? id = none
  count_eq : ∀ call, (store.step call).answer = .error .overflow →
    size.count.toNat = 2 ^ 64 - 1

/-! ## Checks -/

theorem bind_checkCreated_eq_overflow_iff {f : Unit → Except Failure α} :
    (Failure.lift store.checkCreated >>= f) = .error .overflow ↔
      store.isCreated = true ∧ f () = .error .overflow := by
  unfold checkCreated
  split <;> simp_all [bind, Except.bind]

theorem checkKey_eq_overflow_iff {id : Int64} :
    store.checkKey id = .error .overflow ↔ store.buckets.size.key? id = none := by
  unfold checkKey
  cases store.buckets.size.key? id <;> simp

/-- A check that all rows are there breaks off at the identity that it would name as missing. -/
theorem checkPresent_eq_overflow_iff {ids : List Int64} :
    store.checkPresent ids = .error .overflow ↔
      ∃ id, store.buckets.missing? ids = some id ∧ store.buckets.size.key? id = none := by
  unfold checkPresent
  cases store.buckets.missing? ids with
  | none => simp
  | some id =>
      simp only [← checkKey_eq_overflow_iff, Option.some.injEq, exists_eq_left']
      cases store.checkKey id <;> simp [bind, Except.bind, throw, throwThe, MonadExceptOf.throw]

/-- An identity without a key is named only where no one before it is without a bucket. -/
theorem missing?_eq_some_iff_of_no_key {ids : List Int64} {id : Int64}
    (hkey : store.buckets.size.key? id = none) :
    store.buckets.missing? ids = some id ↔
      IsFirst (fun other => store.buckets.bucket? other = none) ids id := by
  rw [← find?_eq_some_iff_isFirst fun _ => Option.isNone_iff_eq_none, Buckets.missing?,
    Option.or_eq_some_iff, or_iff_left]
  -- In the second pass every identity has a bucket, so it has a key.
  rintro ⟨hnone, hfirst⟩
  refine List.find?_eq_none.mp hnone id (List.mem_of_find?_eq_some hfirst) ?_
  rw [Buckets.bucket?, hkey]
  rfl

theorem delete_eq_error_iff {ids : List Int64} {failure : Failure} :
    (store.delete ids).answer = .error failure ↔ store.checkDelete ids = .error failure := by
  unfold delete
  cases store.checkDelete ids <;> simp [reply]

theorem update_eq_error_iff {records : List R} {failure : Failure} :
    (store.update records).answer = .error failure ↔
      store.checkUpdate records = .error failure := by
  unfold update
  cases store.checkUpdate records <;> simp [reply]

/-- Only positive identities are looked up for an update, and these have keys. -/
theorem checkUpdate_ne_overflow (records : List R) :
    store.checkUpdate records ≠ .error .overflow := by
  intro h
  obtain ⟨-, h⟩ := bind_checkCreated_eq_overflow_iff.mp h
  obtain ⟨batch, hbatch, h⟩ := bind_lift_eq_overflow_iff.mp h
  obtain ⟨id, hmissing, hkey⟩ :=
    checkPresent_eq_overflow_iff.mp (bind_pure_eq_error_iff.mp h)
  obtain ⟨entry, hentry, rfl⟩ := List.mem_map.mp (Buckets.mem_and_get?_of_missing? hmissing).1
  obtain ⟨record, -, hrecord⟩ := exists_of_mem_right (forall₂_of_mapM hbatch) hentry
  have hpos := pos_of_checkReplacement hrecord
  rw [((BucketSize.key?_eq_none_iff ..).mp hkey).2] at hpos
  contradiction

theorem exists_no_key_of_write {records : List R}
    (h : (store.write records).answer = .error .overflow) :
    ∃ id ∈ store.handsOut (.write records), store.buckets.size.key? id = none := by
  unfold write at h
  cases hcheck : store.checkWrite records with
  | error e => simp [hcheck, reply] at h
  | ok _ =>
      cases hstage : stage store.recordType.setIdentity store.nextId records with
      | mk staged nextId =>
          cases staged with
          | error e => simp [hcheck, hstage, reply] at h
          | ok rows =>
              rcases store.buckets.keyed_cases rows with ⟨hkeyed, -⟩ | ⟨-, entry, hentry, hkey⟩
              · simp [hcheck, hstage, hkeyed] at h
              · simp only [handsOut, hcheck, ← keys_of_stage hstage]
                exact ⟨entry.1, List.mem_map_of_mem hentry, hkey⟩

theorem deleteWhere_ne_overflow (predicate : Predicate) (param : Option FieldValues) :
    (store.deleteWhere predicate param).answer ≠ .error .overflow := by
  unfold deleteWhere
  cases store.checkPredicate predicate param with
  | error e => simp [reply]
  | ok _ =>
      dsimp only
      cases store.buckets.eraseWhere (store.satisfies predicate param) with
      | mk deleted buckets => cases deleted <;> simp [reply]

theorem breaksOff {size : BucketSize} (hsize : store.buckets.size = size) :
    store.BreaksOff size := by
  subst hsize
  have hread (id : Int64) : (store.read id).answer = .error .overflow ↔
      store.isCreated = true ∧ store.buckets.size.key? id = none := by
    refine bind_checkCreated_eq_overflow_iff.trans (and_congr_right fun _ => ?_)
    rw [← checkKey_eq_overflow_iff]
    exact bind_pure_eq_error_iff
  have hdelete (ids : List Int64) : (store.delete ids).answer = .error .overflow ↔
      store.isCreated = true ∧
        ∃ id, IsFirst (fun other => store.buckets.bucket? other = none) ids id ∧
          store.buckets.size.key? id = none := by
    rw [delete_eq_error_iff]
    refine bind_checkCreated_eq_overflow_iff.trans (and_congr_right fun _ => ?_)
    rw [checkPresent_eq_overflow_iff]
    exact exists_congr fun id => and_congr_left missing?_eq_some_iff_of_no_key
  have hupdate (records : List R) : (store.update records).answer ≠ .error .overflow :=
    fun h => checkUpdate_ne_overflow records (update_eq_error_iff.mp h)
  refine ⟨hread, hdelete, hupdate, fun _ => exists_no_key_of_write, fun call hcall => ?_⟩
  obtain ⟨id, hkey⟩ : ∃ id, store.buckets.size.key? id = none := by
    cases call with
    | create | drop | size | subscribe => contradiction
    | read id => exact ⟨id, ((hread id).mp (map_eq_error_iff.mp hcall)).2⟩
    | delete ids =>
        obtain ⟨-, id, -, hkey⟩ := (hdelete ids).mp (map_eq_error_iff.mp hcall)
        exact ⟨id, hkey⟩
    | write records =>
        obtain ⟨id, -, hkey⟩ := exists_no_key_of_write (map_eq_error_iff.mp hcall)
        exact ⟨id, hkey⟩
    | update records => exact absurd (map_eq_error_iff.mp hcall) (hupdate records)
    | readAll | readWhere | readMatching =>
        exact absurd (map_eq_error_iff.mp hcall) (Failure.lift_ne_overflow _)
    | deleteWhere predicate param =>
        exact absurd (map_eq_error_iff.mp hcall) (deleteWhere_ne_overflow predicate param)
  exact ((BucketSize.key?_eq_none_iff ..).mp hkey).1

end Store

end RecordSql
