import RecordSql.Proofs.Store.Checks
import RecordSql.Proofs.Store.FlatStore
import RecordSql.Proofs.Store.Flattened

/-!
# Stores that runs lead to

What is so of a store after any calls, whatever the size of its buckets and whatever handlers its
registry has: a row is in the bucket of the identity that it holds, and every other field of it is
there and storable.  A call can leave a row only under an identity that had one before or that the
call hands out, so this is said once, for one call, and all that is kept from call to call follows.
-/

namespace RecordSql

variable {R : Type}

/-! ## Changes of many rows -/

namespace Buckets

section Keeps

variable {p : Buckets R → Prop} {buckets : Buckets R}

theorem replaceAll_keeps {batch : List (Int64 × R)}
    (hinsert : ∀ buckets : Buckets R, ∀ entry ∈ batch, ∀ before,
      buckets.get? entry.1 = some before → p buckets → p (buckets.insert entry.1 entry.2))
    (h : p buckets) : p (Store.replaceAll buckets batch).2 := by
  induction batch generalizing buckets with
  | nil => exact h
  | cons entry rest ih =>
      have hrest := fun buckets entry hentry =>
        hinsert buckets entry (List.mem_cons_of_mem _ hentry)
      unfold Store.replaceAll
      cases hget : buckets.get? entry.1 with
      | none => exact ih hrest h
      | some before => exact ih hrest (hinsert buckets entry List.mem_cons_self before hget h)

variable (herase : ∀ (buckets : Buckets R) (id : Int64), p buckets → p (buckets.erase id))

include herase

theorem eraseAll_keeps (h : p buckets) (ids : List Int64) : p (buckets.eraseAll ids) := by
  induction ids generalizing buckets with
  | nil => exact h
  | cons id rest ih => exact ih (herase buckets id h)

theorem deleteAll_keeps (h : p buckets) (ids : List Int64) :
    p (Store.deleteAll buckets ids).2 := by
  induction ids generalizing buckets with
  | nil => exact h
  | cons id rest ih =>
      unfold Store.deleteAll
      cases buckets.get? id with
      | none => exact ih h
      | some row => exact ih (herase buckets id h)

/-- Also where the test fails on the way. -/
theorem eraseWhere_keeps {ε : Type} (h : p buckets) (test : R → Except ε Bool) :
    p (buckets.eraseWhere test).2 := by
  unfold eraseWhere
  generalize buckets.held.values = held
  induction held generalizing buckets with
  | nil => exact h
  | cons bucket rest ih =>
      unfold eraseWhereIn
      cases bucket.toList.filterM fun entry => test entry.2 with
      | error e => exact h
      | ok rows => exact ih (eraseAll_keeps herase h _)

end Keeps

/-! ## Buckets whose rows fit -/

/-- The rows are in the buckets of their identities, and each fits the identity that it is under. -/
structure Orderly (size : BucketSize) (fits : Int64 → R → Prop) (buckets : Buckets R) : Prop where
  size_eq : buckets.size = size
  placed : buckets.Placed
  fits_of_get? : ∀ id row, buckets.get? id = some row → fits id row

variable {size : BucketSize} {fits : Int64 → R → Prop} {buckets : Buckets R}

@[simp] theorem get?_empty (size : BucketSize) (id : Int64) :
    (empty size : Buckets R).get? id = none := by
  simp [empty, get?, bucket?]

theorem orderly_empty (size : BucketSize) : (empty size : Buckets R).Orderly size fits where
  size_eq := rfl
  placed := placed_empty size
  fits_of_get? id row hget := by simp at hget

theorem Orderly.imp {fits' : Int64 → R → Prop} (h : buckets.Orderly size fits)
    (himp : ∀ id row, buckets.get? id = some row → fits id row → fits' id row) :
    buckets.Orderly size fits' where
  size_eq := h.size_eq
  placed := h.placed
  fits_of_get? id row hget := himp id row hget (h.fits_of_get? id row hget)

/-- A row that is found after another one was put is that one, or it was there before. -/
theorem eq_or_of_get?_insert {id other : Int64} {row found : R}
    (h : (buckets.insert id row).get? other = some found) :
    id = other ∧ row = found ∨ buckets.get? other = some found := by
  cases hkey : buckets.size.key? id with
  | none => exact Or.inr (insert_of_no_key hkey row ▸ h)
  | some key =>
      rw [get?_insert hkey] at h
      split at h
      · next hsame => exact Or.inl ⟨hsame, Option.some.inj h⟩
      · exact Or.inr h

theorem Orderly.insert (h : buckets.Orderly size fits) {id : Int64} {row : R}
    (hfits : fits id row) : (buckets.insert id row).Orderly size fits where
  size_eq := (size_insert buckets id row).trans h.size_eq
  placed := h.placed.insert id row
  fits_of_get? other found hget := by
    rcases eq_or_of_get?_insert hget with ⟨rfl, rfl⟩ | hbefore
    · exact hfits
    · exact h.fits_of_get? other found hbefore

theorem Orderly.erase (h : buckets.Orderly size fits) (id : Int64) :
    (buckets.erase id).Orderly size fits where
  size_eq := (size_erase buckets id).trans h.size_eq
  placed := h.placed.erase id
  fits_of_get? other found hget := by
    rw [get?_erase] at hget
    split at hget
    · contradiction
    · exact h.fits_of_get? other found hget

theorem Orderly.insertAll {batch : List (Int64 × R)} (h : buckets.Orderly size fits)
    (hbatch : ∀ entry ∈ batch, fits entry.1 entry.2) :
    (buckets.insertAll batch).Orderly size fits := by
  induction batch generalizing buckets with
  | nil => exact h
  | cons entry rest ih =>
      obtain ⟨hfirst, hrest⟩ := List.forall_mem_cons.mp hbatch
      exact ih (h.insert hfirst) hrest

theorem Orderly.replaceAll {batch : List (Int64 × R)} (h : buckets.Orderly size fits)
    (hbatch : ∀ entry ∈ batch, fits entry.1 entry.2) :
    (Store.replaceAll buckets batch).2.Orderly size fits :=
  replaceAll_keeps (fun _ entry hentry _ _ hkept => hkept.insert (hbatch entry hentry)) h

end Buckets

/-! ## Runs -/

namespace Store

variable {store : Store R}

/-- A store of a table, before the table is created. -/
def fresh (recordType : RecordType R) (table : Table) (size : BucketSize) : Store R :=
  ⟨recordType, table, false, 1, Buckets.empty size, []⟩

theorem exists_fresh_of_new {recordType : RecordType R} {size : BucketSize}
    (h : new recordType size = .ok store) :
    ∃ table, Table.resolve recordType.schema Registry.builtin = .ok table ∧
      store = fresh recordType table size := by
  obtain ⟨table, hresolve, hstore⟩ := bind_eq_ok_iff.mp h
  exact ⟨table, hresolve, (Except.ok.inj hstore).symm⟩

/-- The store after some calls. -/
def after (store : Store R) : List (Call R) → Store R
  | [] => store
  | call :: rest => (store.step call).store.after rest

/-- The identities that a batch uses up from a given one on: one for each record, as long as none
refuses its own. -/
def tried (setIdentity : Int64 → R → Except Error R) (next : Int64) : List R → List Int64
  | [] => []
  | record :: rest =>
      match setIdentity next record with
      | .error _ => [next]
      | .ok _ => next :: tried setIdentity (next + 1) rest

/-- The identities that a call uses up. -/
def handsOut (store : Store R) : Call R → List Int64
  | .write records =>
      match store.checkWrite records with
      | .error _ => []
      | .ok () => tried store.recordType.setIdentity store.nextId records
  | _ => []

/-- The identities that calls use up, in order. -/
def handedOut (store : Store R) : List (Call R) → List Int64
  | [] => []
  | call :: rest => store.handsOut call ++ (store.step call).store.handedOut rest

theorem handedOut_append (store : Store R) (calls later : List (Call R)) :
    store.handedOut (calls ++ later) =
      store.handedOut calls ++ (store.after calls).handedOut later := by
  induction calls generalizing store with
  | nil => rfl
  | cons call rest ih =>
      simp only [List.cons_append, handedOut, ih, List.append_assoc]
      rfl

/-- A batch that is staged has its rows under all the identities that it uses up. -/
theorem keys_of_stage {setIdentity : Int64 → R → Except Error R} {next after : Int64}
    {records : List R} {rows : List (Int64 × R)}
    (h : stage setIdentity next records = (.ok rows, after)) :
    rows.map (·.1) = tried setIdentity next records := by
  induction records generalizing next after rows with
  | nil =>
      obtain ⟨hrows, -⟩ := Prod.mk.inj h
      obtain rfl := Except.ok.inj hrows
      rfl
  | cons record rest ih =>
      unfold stage at h
      cases hset : setIdentity next record with
      | error e => simp [hset] at h
      | ok row =>
          cases hrest : stage setIdentity (next + 1) rest with
          | mk staged last =>
              simp only [hset, hrest, Prod.mk.injEq] at h
              obtain ⟨hrows, -⟩ := h
              obtain ⟨later, rfl, rfl⟩ := map_eq_ok_iff.mp hrows
              simp only [tried, hset, List.map_cons, ih hrest]

end Store

/-! ## What a call can do -/

/-- Calls that look at a store only. -/
def Call.isReading : Call R → Bool
  | .read _ | .readAll | .readWhere _ _ | .readMatching _ | .size => true
  | _ => false

namespace Store

/-- The answer of a call, the store after it and the changes that it made, case by case. -/
inductive Effect (store : Store R) :
    Call R → Except Failure (Answer R) → Store R → List (Change R) → Prop
  | created :
      Effect store .create (.ok (.flag (!store.isCreated))) { store with isCreated := true } []
  | dropped : Effect store .drop (.ok (.flag store.isCreated))
      { store with isCreated := false, buckets := Buckets.empty store.buckets.size } []
  | subscribed (observer : Observer) :
      Effect store (.subscribe observer) (.ok .done) (store.subscribe observer) []
  | found {call : Call R} (hreading : call.isReading = true) (answer : Answer R) :
      Effect store call (.ok answer) store []
  /-- A call that is refused before it uses up an identity. -/
  | refused {call : Call R} (hidle : store.handsOut call = []) (failure : Failure) :
      Effect store call (.error failure) store []
  | unstaged {records : List R} {e : Error} {nextId : Int64}
      (hcheck : store.checkWrite records = .ok ())
      (hstage : stage store.recordType.setIdentity store.nextId records = (.error e, nextId)) :
      Effect store (.write records) (.error (.reported e)) { store with nextId } []
  /-- The rows before the first one without a bucket key are put. -/
  | overflowed {records : List R} {rows : List (Int64 × R)} {nextId : Int64}
      (hcheck : store.checkWrite records = .ok ())
      (hstage : stage store.recordType.setIdentity store.nextId records = (.ok rows, nextId))
      (hkeyless : ∃ entry ∈ rows, store.buckets.size.key? entry.1 = none) :
      Effect store (.write records) (.error .overflow)
        { store with nextId, buckets := store.buckets.insertAll (store.buckets.keyed rows) } []
  | wrote {records : List R} {rows : List (Int64 × R)} {nextId : Int64}
      (hcheck : store.checkWrite records = .ok ())
      (hstage : stage store.recordType.setIdentity store.nextId records = (.ok rows, nextId))
      (hkeys : ∀ entry ∈ rows, ∃ key, store.buckets.size.key? entry.1 = some key) :
      Effect store (.write records) (.ok (.rows (rows.map (·.2))))
        { store with nextId, buckets := store.buckets.insertAll rows }
        ((rows.map (·.2)).map .created)
  | updated {records : List R} {batch : List (Int64 × R)} {changes : List (Change R)}
      {buckets : Buckets R} (hcheck : store.checkUpdate records = .ok batch)
      (hreplace : replaceAll store.buckets batch = (changes, buckets)) :
      Effect store (.update records) (.ok (.count changes.length)) { store with buckets } changes
  | deleted {ids : List Int64} {changes : List (Change R)} {buckets : Buckets R}
      (hcheck : store.checkDelete ids = .ok ())
      (hdelete : deleteAll store.buckets ids = (changes, buckets)) :
      Effect store (.delete ids) (.ok (.count changes.length)) { store with buckets } changes
  /-- The predicate fails on a row, perhaps after rows of earlier buckets went. -/
  | unfinished {predicate : Predicate} {param : Option FieldValues} {e : Error}
      {buckets : Buckets R}
      (herase : store.buckets.eraseWhere (store.satisfies predicate param) = (.error e, buckets)) :
      Effect store (.deleteWhere predicate param) (.error (.reported e)) { store with buckets } []
  | deletedWhere {predicate : Predicate} {param : Option FieldValues} {ids : List Int64}
      {buckets : Buckets R}
      (herase : store.buckets.eraseWhere (store.satisfies predicate param) = (.ok ids, buckets)) :
      Effect store (.deleteWhere predicate param) (.ok (.count ids.length)) { store with buckets }
        (ids.map .deleted)

variable {store : Store R}

theorem handsOut_of_isReading {call : Call R} (h : call.isReading = true) :
    store.handsOut call = [] := by
  cases call <;> first | rfl | contradiction

/-- A call that reads has no effect, whether it finds what it looks for or fails. -/
theorem effect_of_isReading {call : Call R} (h : call.isReading = true)
    (answer : Except Failure (Answer R)) : store.Effect call answer store [] := by
  cases answer with
  | error failure => exact .refused (handsOut_of_isReading h) failure
  | ok answer => exact .found h answer

/-- Every call has one of the effects. -/
theorem step_effect (store : Store R) (call : Call R) :
    store.Effect call (store.step call).answer (store.step call).store
      (store.step call).changes := by
  cases call with
  | create => exact .created
  | drop => exact .dropped
  | subscribe observer => exact .subscribed observer
  | read | readAll | readWhere | readMatching | size => exact effect_of_isReading rfl _
  | write records =>
      simp only [step, write]
      cases hcheck : store.checkWrite records with
      | error e => exact .refused (by simp only [handsOut, hcheck]) (.reported e)
      | ok _ =>
          cases hstage : stage store.recordType.setIdentity store.nextId records with
          | mk staged nextId =>
              cases staged with
              | error e => exact .unstaged hcheck hstage
              | ok rows =>
                  rcases store.buckets.keyed_cases rows with
                    ⟨hkeyed, hkeys⟩ | ⟨hshorter, hkeyless⟩
                  · simp only [hkeyed, Nat.lt_irrefl, if_false]
                    exact .wrote hcheck hstage hkeys
                  · simp only [hshorter, if_true]
                    exact .overflowed hcheck hstage hkeyless
  | update records =>
      simp only [step, update]
      cases hcheck : store.checkUpdate records with
      | error failure => exact .refused rfl failure
      | ok batch => exact .updated hcheck rfl
  | delete ids =>
      simp only [step, delete]
      cases hcheck : store.checkDelete ids with
      | error failure => exact .refused rfl failure
      | ok _ => exact .deleted hcheck rfl
  | deleteWhere predicate param =>
      simp only [step, deleteWhere]
      cases hcheck : store.checkPredicate predicate param with
      | error e => exact .refused rfl (.reported e)
      | ok _ =>
          cases herase : store.buckets.eraseWhere (store.satisfies predicate param) with
          | mk deleted buckets =>
              cases deleted with
              | error e => exact .unfinished herase
              | ok ids => exact .deletedWhere herase

/-! ## What calls keep -/

section Effect

variable {call : Call R} {answer : Except Failure (Answer R)} {after : Store R}
  {changes : List (Change R)}

theorem Effect.recordType_eq (h : store.Effect call answer after changes) :
    after.recordType = store.recordType := by
  cases h <;> rfl

theorem Effect.table_eq (h : store.Effect call answer after changes) :
    after.table = store.table := by
  cases h <;> rfl

/-- A row that a call is to put under an identity. -/
inductive Puts (store : Store R) : Call R → Int64 × R → Prop
  | wrote {records : List R} {rows : List (Int64 × R)} {nextId : Int64} {entry : Int64 × R}
      (hcheck : store.checkWrite records = .ok ())
      (hstage : stage store.recordType.setIdentity store.nextId records = (.ok rows, nextId))
      (hentry : entry ∈ rows) : Puts store (.write records) entry
  | updated {records : List R} {batch : List (Int64 × R)} {entry : Int64 × R}
      (hcheck : store.checkUpdate records = .ok batch) (hentry : entry ∈ batch) :
      Puts store (.update records) entry

/-- Rows fit after a call if they did before and those that the call puts do. -/
theorem Effect.orderly {size : BucketSize} {fits : Int64 → R → Prop}
    (heffect : store.Effect call answer after changes) (h : store.buckets.Orderly size fits)
    (hputs : ∀ entry, store.Puts call entry → fits entry.1 entry.2) :
    after.buckets.Orderly size fits := by
  have hgone (buckets : Buckets R) (id : Int64) (hrows : buckets.Orderly size fits) :
      (buckets.erase id).Orderly size fits := hrows.erase id
  cases heffect with
  | created | subscribed | found | refused | unstaged => exact h
  | dropped => exact h.size_eq ▸ Buckets.orderly_empty _
  | overflowed hcheck hstage =>
      exact h.insertAll fun _ hentry =>
        hputs _ (.wrote hcheck hstage (Buckets.mem_of_mem_keyed hentry))
  | wrote hcheck hstage => exact h.insertAll fun _ hentry => hputs _ (.wrote hcheck hstage hentry)
  | @updated records batch changes buckets hcheck hreplace =>
      have := h.replaceAll fun entry hentry => hputs entry (.updated hcheck hentry)
      rw [hreplace] at this
      exact this
  | @deleted ids changes buckets hcheck hdelete =>
      have := Buckets.deleteAll_keeps hgone h ids
      rw [hdelete] at this
      exact this
  | @unfinished predicate param e buckets herase =>
      have := Buckets.eraseWhere_keeps hgone h (store.satisfies predicate param)
      rw [herase] at this
      exact this
  | @deletedWhere predicate param ids buckets herase =>
      have := Buckets.eraseWhere_keeps hgone h (store.satisfies predicate param)
      rw [herase] at this
      exact this

/-- Where there is no table, there was none before or it was dropped with its rows. -/
theorem Effect.not_created_or_empty (h : store.Effect call answer after changes)
    (hafter : after.isCreated = false) :
    store.isCreated = false ∨ ∀ id, after.buckets.get? id = none := by
  cases h with
  | created => contradiction
  | dropped => exact Or.inr fun id => Buckets.get?_empty _ id
  | _ => exact Or.inl hafter

end Effect

@[simp] theorem recordType_after (store : Store R) (calls : List (Call R)) :
    (store.after calls).recordType = store.recordType := by
  induction calls generalizing store with
  | nil => rfl
  | cons call rest ih => exact (ih _).trans (step_effect store call).recordType_eq

@[simp] theorem table_after (store : Store R) (calls : List (Call R)) :
    (store.after calls).table = store.table := by
  induction calls generalizing store with
  | nil => rfl
  | cons call rest ih => exact (ih _).trans (step_effect store call).table_eq

/-- Rows stay in the buckets of their identities, whatever records do with an identity. -/
theorem orderly_after {size : BucketSize} (h : store.buckets.Orderly size fun _ _ => True)
    (calls : List (Call R)) : (store.after calls).buckets.Orderly size fun _ _ => True := by
  induction calls generalizing store with
  | nil => exact h
  | cons call rest ih => exact ih ((step_effect store call).orderly h fun _ _ => trivial)

/-- Without a table no identity is used up. -/
theorem handsOut_of_not_created (h : store.isCreated = false) (call : Call R) :
    store.handsOut call = [] := by
  cases call with
  | write records =>
      have hcheck : store.checkWrite records = .error (.notFound (.table store.table.name)) := by
        simp [checkWrite, checkCreated, h, bind, Except.bind]
      simp only [handsOut, hcheck]
  | _ => rfl

/-- Every row is as it was stored, in the bucket of its identity, and without a table there are
none. -/
structure Kept (registry : Registry) (size : BucketSize) (store : Store R) : Prop where
  sound : Table.Sound registry store.table.columns
  assigns : store.recordType.Assigns store.table
  rows : store.buckets.Orderly size fun id row =>
    store.table.StoredRow id (store.recordType.get row)
  get?_of_not_created : store.isCreated = false → ∀ id, store.buckets.get? id = none

/-- What a row is that a call leaves: as rows are stored, and under an identity that had a row
before or that the call uses up. -/
structure Leaves (store : Store R) (call : Call R) (id : Int64) (row : R) : Prop where
  stored : store.table.StoredRow id (store.recordType.get row)
  known : (∃ before, store.buckets.get? id = some before) ∨ id ∈ store.handsOut call

section Kept

variable {registry : Registry} {size : BucketSize}

theorem kept_fresh {recordType : RecordType R} {table : Table}
    (hresolve : Table.resolve recordType.schema registry = .ok table)
    (hassigns : recordType.Assigns table) (size : BucketSize) :
    (fresh recordType table size).Kept registry size where
  sound := Table.sound_of_resolve hresolve
  assigns := hassigns
  rows := Buckets.orderly_empty size
  get?_of_not_created _ id := Buckets.get?_empty size id

/-- The rows after a call are rows that it can leave. -/
theorem Kept.orderly_of_effect (h : store.Kept registry size) {call : Call R}
    {answer : Except Failure (Answer R)} {after : Store R} {changes : List (Change R)}
    (heffect : store.Effect call answer after changes) :
    after.buckets.Orderly size (store.Leaves call) := by
  have hrows : store.buckets.Orderly size (store.Leaves call) :=
    h.rows.imp fun id row hget hstored => ⟨hstored, Or.inl ⟨row, hget⟩⟩
  refine heffect.orderly hrows fun entry hputs => ?_
  cases hputs with
  | @wrote records rows nextId entry hcheck hstage hentry =>
      obtain ⟨_, -, hfields⟩ := bind_eq_ok_iff.mp hcheck
      obtain ⟨record, hrecord, hset⟩ := exists_of_mem_right (forall₂_of_stage hstage) hentry
      have hout : store.handsOut (.write records) = rows.map (·.1) := by
        simp only [handsOut, hcheck, keys_of_stage hstage]
      exact ⟨h.assigns.storedRow h.sound (forM_eq_ok_iff.mp hfields record hrecord) hset,
        Or.inr (hout ▸ List.mem_map_of_mem hentry)⟩
  | @updated records batch entry hcheck hentry =>
      obtain ⟨hfound, hstored⟩ := of_checkUpdate hcheck
      exact ⟨hstored entry hentry, Or.inl (hfound entry hentry)⟩

/-- Without a table a call leaves no rows. -/
theorem Kept.get?_of_effect (h : store.Kept registry size) {call : Call R}
    {answer : Except Failure (Answer R)} {after : Store R} {changes : List (Change R)}
    (heffect : store.Effect call answer after changes) (hafter : after.isCreated = false)
    (id : Int64) : after.buckets.get? id = none := by
  rcases heffect.not_created_or_empty hafter with hbefore | hempty
  · cases hget : after.buckets.get? id with
    | none => rfl
    | some row =>
        rcases ((h.orderly_of_effect heffect).fits_of_get? id row hget).known with
          ⟨before, hfound⟩ | hout
        · rw [h.get?_of_not_created hbefore id] at hfound
          contradiction
        · rw [handsOut_of_not_created hbefore] at hout
          contradiction
  · exact hempty id

/-- A call keeps what is so of a store. -/
theorem Kept.step (h : store.Kept registry size) (call : Call R) :
    (store.step call).store.Kept registry size := by
  have heffect := step_effect store call
  refine ⟨?_, ?_, ?_, h.get?_of_effect heffect⟩
  · rw [heffect.table_eq]
    exact h.sound
  · rw [heffect.recordType_eq, heffect.table_eq]
    exact h.assigns
  · rw [heffect.recordType_eq, heffect.table_eq]
    exact (h.orderly_of_effect heffect).imp fun id row _ hleaves => hleaves.stored

/-- So does a run. -/
theorem Kept.after (h : store.Kept registry size) (calls : List (Call R)) :
    (store.after calls).Kept registry size := by
  induction calls generalizing store with
  | nil => exact h
  | cons call rest ih => exact ih (h.step call)

end Kept

end Store

end RecordSql
