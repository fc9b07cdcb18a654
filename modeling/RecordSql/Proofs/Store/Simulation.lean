import RecordSql.Proofs.Store.Checks
import RecordSql.Proofs.Store.FlatStore
import RecordSql.Proofs.Store.Flattened

/-!
# Stores are flat

Whatever the size of its buckets, a store answers every call as the store that keeps one map, and
its observers hear the same.  One call keeps the two in step, so any run of calls does.  The size
has to be positive as a signed number, so that keys grow with the identities and none overflows.
-/

namespace RecordSql

variable {R α β : Type}

/-! ## What is compared -/

/-- A store answers as the one of the other kind does, or both say that a row is missing, of which
each names one.  A call that breaks off answers like none. -/
inductive SameAnswer : Except Failure α → Except Error α → Prop
  | ok (a : α) : SameAnswer (.ok a) (.ok a)
  | error (e : Error) : SameAnswer (.error (.reported e)) (.error e)
  | missing (record : String) (id id' : Int64) :
      SameAnswer (.error (.reported (.notFound (.row record id))))
        (.error (.notFound (.row record id')))

theorem SameAnswer.lift (answer : Except Error α) : SameAnswer (Failure.lift answer) answer := by
  cases answer with
  | ok a => exact .ok a
  | error e => exact .error e

theorem SameAnswer.map {a : Except Failure α} {b : Except Error α} (h : SameAnswer a b)
    (f : α → β) : SameAnswer (a.map f) (b.map f) := by
  cases h with
  | ok a => exact .ok (f a)
  | error e => exact .error e
  | missing record id id' => exact .missing record id id'

theorem SameAnswer.bind {a : Except Failure α} {b : Except Error α} {f : α → Except Failure β}
    {g : α → Except Error β} (h : SameAnswer a b) (hfg : ∀ x, SameAnswer (f x) (g x)) :
    SameAnswer (a >>= f) (b >>= g) := by
  cases h with
  | ok a => exact hfg a
  | error e => exact .error e
  | missing record id id' => exact .missing record id id'

/-- Two checks that agree both pass, or both fail so that any answers from them agree. -/
theorem SameAnswer.pass_or_fail {a : Except Failure α} {b : Except Error α}
    (h : SameAnswer a b) :
    (∃ x, a = .ok x ∧ b = .ok x) ∨
      ∃ failure e, a = .error failure ∧ b = .error e ∧
        ∀ β : Type, SameAnswer (.error failure : Except Failure β) (.error e) := by
  cases h with
  | ok x => exact Or.inl ⟨x, rfl, rfl⟩
  | error e => exact Or.inr ⟨_, _, rfl, rfl, fun _ => .error e⟩
  | missing record id id' => exact Or.inr ⟨_, _, rfl, rfl, fun _ => .missing record id id'⟩

namespace FlatStore

/-- The table is one that a schema resolves to, and every row is as it was stored. -/
structure Valid (flat : FlatStore R) : Prop where
  sound : Table.Sound Registry.builtin flat.table.columns
  assigns : flat.recordType.Assigns flat.table
  stored : ∀ (id : Int64) row, flat.rows[id]? = some row →
    flat.table.StoredRow id (flat.recordType.get row)

/-- The store with buckets in place of the map. -/
def inBuckets (flat : FlatStore R) (observers : Observers) (buckets : Buckets R) : Store R :=
  ⟨flat.recordType, flat.table, flat.isCreated, flat.nextId, buckets, observers⟩

end FlatStore

/-- A store has the rows of a valid store of the other kind, as many of its observers take notice,
and it is like it in everything else. -/
structure Store.Simulates (store : Store R) (flat : FlatStore R) : Prop where
  eq_inBuckets : store = flat.inBuckets store.observers store.buckets
  listeners_eq : flat.listeners = store.observers.recordingCount
  holds : store.buckets.Holds flat.rows
  valid : flat.Valid

/-- A call has the same effects on both. -/
structure Outcome.Matches (outcome : Outcome R α) (flat : FlatOutcome R α) : Prop where
  answer : SameAnswer outcome.answer flat.answer
  changes_eq : outcome.changes = flat.changes
  simulates : outcome.store.Simulates flat.store

theorem Outcome.Matches.map {outcome : Outcome R α} {flat : FlatOutcome R α}
    (h : outcome.Matches flat) (f : α → β) : (outcome.map f).Matches (flat.map f) where
  answer := h.answer.map f
  changes_eq := h.changes_eq
  simulates := h.simulates

theorem Store.Simulates.reply {store : Store R} {flat : FlatStore R} (h : store.Simulates flat)
    {a : Except Failure α} {b : Except Error α} (hsame : SameAnswer a b)
    (events : List Event) :
    (store.reply a events).Matches (flat.reply b) where
  answer := hsame
  changes_eq := rfl
  simulates := h

section Calls

variable {flat : FlatStore R} {observers : Observers} {buckets : Buckets R}

/-! ## The table -/

theorem create_matches (h : (flat.inBuckets observers buckets).Simulates flat) :
    (flat.inBuckets observers buckets).create.Matches flat.create where
  answer := .ok _
  changes_eq := rfl
  simulates :=
    ⟨rfl, h.listeners_eq, h.holds, h.valid.sound, h.valid.assigns, h.valid.stored⟩

theorem drop_matches (h : (flat.inBuckets observers buckets).Simulates flat) :
    (flat.inBuckets observers buckets).drop.Matches flat.drop where
  answer := .ok _
  changes_eq := rfl
  simulates := ⟨rfl, h.listeners_eq, Buckets.holds_empty h.holds.keyed.isSigned, h.valid.sound,
    h.valid.assigns, fun id row hrow => by simp [FlatStore.drop] at hrow⟩

theorem subscribe_matches (h : (flat.inBuckets observers buckets).Simulates flat)
    (observer : Observer) :
    ((flat.inBuckets observers buckets).subscribe observer).Simulates
      (flat.subscribe observer) := by
  have hcount : (flat.subscribe observer).listeners =
      (observers ++ [observer]).recordingCount := by
    rw [Observers.recordingCount, List.count_append, ← Observers.recordingCount]
    cases observer with
    | recording => exact congrArg (· + 1) h.listeners_eq
    | silent => exact h.listeners_eq
  cases observer <;>
    exact ⟨rfl, hcount, h.holds, h.valid.sound, h.valid.assigns, h.valid.stored⟩

/-! ## Reading -/

theorem read_matches (h : (flat.inBuckets observers buckets).Simulates flat) (id : Int64) :
    ((flat.inBuckets observers buckets).read id).Matches (flat.read id) := by
  obtain ⟨key, hkey⟩ := h.holds.keyed.isSigned.exists_key id
  refine h.reply ((SameAnswer.lift flat.checkCreated).bind fun _ => ?_) _
  rw [Store.checkKey_of_key hkey, ← h.holds.get?_eq id]
  exact .ok _

theorem readAll_matches (h : (flat.inBuckets observers buckets).Simulates flat) :
    (flat.inBuckets observers buckets).readAll.Matches flat.readAll := by
  refine h.reply ?_ _
  rw [← h.holds.toList_eq]
  exact .lift _

/-- What selects rows is checked before any row is looked at. -/
theorem select_eq (flat : FlatStore R) (observers : Observers) (buckets : Buckets R)
    (predicate : Predicate) (param : Option FieldValues) :
    flat.select predicate param =
      ((flat.inBuckets observers buckets).checkPredicate predicate param >>= fun _ =>
        flat.rows.toList.filterM fun entry =>
          (flat.inBuckets observers buckets).satisfies predicate param entry.2) := by
  unfold FlatStore.select Store.checkPredicate Store.compile
  simp only [bind_assoc]
  rfl

theorem readWhere_matches (h : (flat.inBuckets observers buckets).Simulates flat)
    (predicate : Predicate) (param : Option FieldValues) :
    ((flat.inBuckets observers buckets).readWhere predicate param).Matches
      (flat.readWhere predicate param) := by
  refine h.reply ?_ _
  have hrows : buckets.toList = flat.rows.toList := h.holds.toList_eq
  rw [select_eq flat observers buckets]
  change SameAnswer (Failure.lift ((flat.inBuckets observers buckets).checkPredicate predicate
    param >>= fun _ => (buckets.toList.map (·.2)).filterM _)) _
  rw [Buckets.filterM_map, hrows]
  cases (flat.inBuckets observers buckets).checkPredicate predicate param with
  | error e => exact .error e
  | ok _ => exact .lift _

/-! ## Deleting by a predicate -/

/-- A predicate has an outcome on all rows or fails on all of them alike. -/
theorem FlatStore.Valid.sameForm_satisfies (hvalid : flat.Valid) (predicate : Predicate)
    (param : Option FieldValues) {a b : Int64 × R} (ha : a ∈ flat.rows.toList)
    (hb : b ∈ flat.rows.toList) :
    SameForm ((flat.inBuckets observers buckets).satisfies predicate param a.2)
      ((flat.inBuckets observers buckets).satisfies predicate param b.2) := by
  exact sameForm_evaluate hvalid.sound.builtin?_eq
    (hvalid.stored a.1 a.2 (Std.TreeMap.mem_toList_iff_getElem?_eq_some.mp ha))
    (hvalid.stored b.1 b.2 (Std.TreeMap.mem_toList_iff_getElem?_eq_some.mp hb)) param predicate

/-- Rows that go leave a valid store. -/
theorem FlatStore.Valid.filter (hvalid : flat.Valid) (keep : Int64 → R → Bool) :
    { flat with rows := flat.rows.filter keep }.Valid where
  sound := hvalid.sound
  assigns := hvalid.assigns
  stored id row hrow := by
    rw [Std.TreeMap.getElem?_filter'] at hrow
    exact hvalid.stored id row (Option.filter_eq_some_iff.mp hrow).1

theorem deleteWhere_matches (h : (flat.inBuckets observers buckets).Simulates flat)
    (predicate : Predicate) (param : Option FieldValues) :
    ((flat.inBuckets observers buckets).deleteWhere predicate param).Matches
      (flat.deleteWhere predicate param) := by
  have hselect := select_eq flat observers buckets predicate param
  unfold Store.deleteWhere FlatStore.deleteWhere
  cases hcheck : (flat.inBuckets observers buckets).checkPredicate predicate param with
  | error e =>
      rw [hcheck] at hselect
      rw [hselect]
      exact h.reply (.error e) _
  | ok _ =>
      rw [hcheck] at hselect
      have hrows : (flat.inBuckets observers buckets).buckets.toList = flat.rows.toList :=
        h.holds.toList_eq
      have hsame : ∀ a ∈ flat.rows.toList, ∀ b ∈ flat.rows.toList,
          SameForm ((flat.inBuckets observers buckets).satisfies predicate param a.2)
            ((flat.inBuckets observers buckets).satisfies predicate param b.2) :=
        fun a ha b hb => h.valid.sameForm_satisfies predicate param ha hb
      rw [← hrows] at hsame hselect
      rcases Buckets.eraseWhere_cases hsame with ⟨kept, hfilter, herase⟩ | ⟨e, hfilter, herase⟩
      · have hselected : flat.select predicate param = .ok kept := hselect.trans hfilter
        rw [hselected, herase]
        refine ⟨?_, rfl, rfl, h.listeners_eq, h.holds.eraseAll _, h.valid.filter _⟩
        change SameAnswer (.ok (kept.map (·.1)).length) (.ok kept.length)
        rw [List.length_map]
        exact .ok _
      · have hselected : flat.select predicate param = .error e := hselect.trans hfilter
        rw [hselected, herase]
        exact h.reply (.error e) _

/-! ## Writing -/

/-- Rows that are as they are stored can be put into a valid store. -/
theorem FlatStore.Valid.insertMany (hvalid : flat.Valid) {batch : List (Int64 × R)}
    (hbatch : ∀ entry ∈ batch, flat.table.StoredRow entry.1 (flat.recordType.get entry.2)) :
    { flat with rows := flat.rows.insertMany batch }.Valid := by
  refine ⟨hvalid.sound, hvalid.assigns, ?_⟩
  change ∀ (id : Int64) row, (flat.rows.insertMany batch)[id]? = some row → _
  -- Only the rows change from one entry to the next.
  have hstored := hvalid.stored
  generalize flat.rows = rows at hstored ⊢
  induction batch generalizing rows with
  | nil => simpa using hstored
  | cons entry rest ih =>
      rw [Std.TreeMap.insertMany_cons]
      refine ih (fun other hother => hbatch other (List.mem_cons_of_mem entry hother)) _ ?_
      intro id row hrow
      rw [Std.TreeMap.getElem?_insert] at hrow
      split at hrow
      · next hsame =>
        obtain rfl := Std.LawfulEqCmp.eq_of_compare hsame
        obtain rfl := Option.some.inj hrow
        exact hbatch entry List.mem_cons_self
      · exact hstored id row hrow

theorem add_ofNat_succ (next : Int64) (count : Nat) :
    next + Int64.ofNat (count + 1) = next + 1 + Int64.ofNat count := by
  rw [Int64.add_assoc, Nat.add_comm, Int64.ofNat_add]
  rfl

theorem FlatStore.numbered_cons (next : Int64) (record : R) (rest : List R) :
    numbered next (record :: rest) = (next, record) :: numbered (next + 1) rest := by
  simp only [numbered, List.mapIdx_cons, add_ofNat_succ]
  rw [show next + Int64.ofNat 0 = next from Int64.add_zero next]

theorem FlatStore.usedUp_cons (refuses : Int64 × R → Bool) (entry : Int64 × R)
    (rest : List (Int64 × R)) :
    usedUp refuses (entry :: rest) = if refuses entry then 1 else usedUp refuses rest + 1 := by
  unfold usedUp
  rw [List.findIdx?_cons]
  cases refuses entry with
  | true => rfl
  | false => cases rest.findIdx? refuses <;> rfl

/-- Staging a batch, record after record, gives each the identity of its position. -/
theorem stage_eq (flat : FlatStore R) (next : Int64) (records : List R) :
    Store.stage flat.recordType.setIdentity next records =
      ((FlatStore.numbered next records).mapM flat.assigned,
        next + Int64.ofNat (FlatStore.usedUp (fun entry => !(flat.assigned entry).isOk)
          (FlatStore.numbered next records))) := by
  induction records generalizing next with
  | nil => exact Prod.ext rfl (Int64.add_zero next).symm
  | cons record rest ih =>
      have hassigned : flat.assigned (next, record) =
          (flat.recordType.setIdentity next record).map fun row => (next, row) := rfl
      rw [Store.stage, FlatStore.numbered_cons, List.mapM_cons, FlatStore.usedUp_cons,
        ih (next + 1), hassigned]
      cases flat.recordType.setIdentity next record with
      | error e => rfl
      | ok row =>
          refine Prod.ext ?_ (add_ofNat_succ next _).symm
          cases (FlatStore.numbered (next + 1) rest).mapM flat.assigned <;> rfl

theorem write_matches (h : (flat.inBuckets observers buckets).Simulates flat)
    (records : List R) :
    ((flat.inBuckets observers buckets).write records).Matches (flat.write records) := by
  have hcheck : (flat.inBuckets observers buckets).checkWrite records = flat.checkWrite records :=
    rfl
  unfold Store.write FlatStore.write
  rw [hcheck]
  cases hchecked : flat.checkWrite records with
  | error e => exact h.reply (.error e) _
  | ok _ =>
      obtain ⟨_, -, hfields⟩ := bind_eq_ok_iff.mp hchecked
      have hstage : Store.stage (flat.inBuckets observers buckets).recordType.setIdentity
          (flat.inBuckets observers buckets).nextId records = _ := stage_eq flat flat.nextId records
      rw [hstage]
      dsimp only
      cases hassigned : (FlatStore.numbered flat.nextId records).mapM flat.assigned with
      | error e =>
          -- Identities that were tried are not given out again, though no row is put.
          exact ⟨.error e, rfl, rfl, h.listeners_eq, h.holds, h.valid.sound, h.valid.assigns,
            h.valid.stored⟩
      | ok rows =>
          have hsize : buckets.size.IsSigned := h.holds.keyed.isSigned
          have hkeyed : (flat.inBuckets observers buckets).buckets.keyed rows = rows :=
            Buckets.keyed_eq_of_isSigned hsize rows
          simp only [hkeyed, Nat.lt_irrefl, if_false]
          have hstored : ∀ entry ∈ rows,
              flat.table.StoredRow entry.1 (flat.recordType.get entry.2) := by
            intro entry hentry
            rw [hassigned] at hstage
            obtain ⟨record, hrecord, hset⟩ := exists_of_mem_right (forall₂_of_stage hstage) hentry
            exact h.valid.assigns.storedRow h.valid.sound
              (forM_eq_ok_iff.mp hfields record hrecord) hset
          have hput := h.valid.insertMany hstored
          refine ⟨.ok _, ?_, rfl, h.listeners_eq, h.holds.insertAll rows, hput.sound, hput.assigns,
            hput.stored⟩
          change (rows.map (·.2)).map Change.created = rows.map fun entry => .created entry.2
          rw [List.map_map]
          rfl

/-! ## Updating and deleting -/

/-- Both find out whether a row is missing, though they may name different ones. -/
theorem checkPresent_same (h : (flat.inBuckets observers buckets).Simulates flat)
    (ids : List Int64) :
    SameAnswer ((flat.inBuckets observers buckets).checkPresent ids) (flat.checkPresent ids) := by
  have hfind : (ids.find? fun id => flat.rows[id]?.isNone) =
      ids.find? fun id => (buckets.get? id).isNone := by
    congr 1
    funext id
    rw [← h.holds.get?_eq]
    rfl
  rw [FlatStore.checkPresent, hfind]
  cases hmissing : (flat.inBuckets observers buckets).buckets.missing? ids with
  | none =>
      have hnone : (ids.find? fun id => (buckets.get? id).isNone) = none :=
        (Option.or_eq_none_iff.mp hmissing).2
      rw [Store.checkPresent, hmissing, hnone]
      exact .ok ()
  | some id =>
      obtain ⟨key, hkey⟩ := h.holds.keyed.isSigned.exists_key id
      rw [Store.checkPresent_of_missing? hmissing hkey]
      cases hfirst : ids.find? fun id => (buckets.get? id).isNone with
      | some other => exact .missing _ id other
      | none =>
          -- What is named has no row, so there is a first one without a row.
          obtain ⟨hid, hget⟩ := Buckets.mem_and_get?_of_missing? hmissing
          exact absurd (Option.isNone_iff_eq_none.mpr hget) (List.find?_eq_none.mp hfirst id hid)

/-- Rows that are there are there after another one is put. -/
theorem present_insert {rows : Std.TreeMap Int64 R} {batch : List (Int64 × R)}
    (hpresent : ∀ entry ∈ batch, ∃ row, rows[entry.1]? = some row) (id : Int64) (row : R) :
    ∀ entry ∈ batch, ∃ found, (rows.insert id row)[entry.1]? = some found := by
  intro entry hentry
  obtain ⟨found, hfound⟩ := hpresent entry hentry
  rw [Std.TreeMap.getElem?_insert]
  split
  · exact ⟨row, rfl⟩
  · exact ⟨found, hfound⟩

/-- Replacing the rows of a batch one after another tells of every record. -/
theorem replaceAll_eq {rows : Std.TreeMap Int64 R} (h : buckets.Holds rows)
    {batch : List (Int64 × R)} (hpresent : ∀ entry ∈ batch, ∃ row, rows[entry.1]? = some row) :
    (Store.replaceAll buckets batch).1 = FlatStore.replacements rows batch ∧
      (Store.replaceAll buckets batch).1.length = batch.length ∧
      (Store.replaceAll buckets batch).2.Holds (rows.insertMany batch) := by
  induction batch generalizing buckets rows with
  | nil => exact ⟨rfl, rfl, h.congr fun id => by rw [Std.TreeMap.insertMany_nil]⟩
  | cons entry rest ih =>
      obtain ⟨id, row⟩ := entry
      obtain ⟨before, hbefore⟩ := hpresent (id, row) List.mem_cons_self
      have hget : buckets.get? id = some before := (h.get?_eq id).trans hbefore
      have hlater := present_insert
        (fun entry hentry => hpresent entry (List.mem_cons_of_mem _ hentry)) id row
      -- The row that is replaced is there, so the change is heard of and counted.
      obtain ⟨hchanges, hlength, hholds⟩ := ih (h.insert id row) hlater
      simp only [Store.replaceAll, hget, FlatStore.replacements, hbefore]
      refine ⟨?_, ?_, ?_⟩
      · simp [hchanges]
      · simp [hlength]
      · rw [Std.TreeMap.insertMany_cons]
        exact hholds

theorem lastOf?_cons (id : Int64) (row : R) (rest : List (Int64 × R)) (other : Int64) :
    FlatStore.lastOf? ((id, row) :: rest) other =
      (FlatStore.lastOf? rest other).or (if other = id then some row else none) := by
  unfold FlatStore.lastOf?
  rw [List.reverse_cons, List.lookup_append]
  by_cases hsame : other = id
  · simp [hsame]
  · have hne : (other == id) = false := by simpa using hsame
    simp [List.lookup_cons, hsame, hne]

/-- A batch of stored rows, put one after another, leaves the last record under each identity. -/
theorem getElem?_insertMany_eq {rows : Std.TreeMap Int64 R} {batch : List (Int64 × R)}
    (hpresent : ∀ entry ∈ batch, ∃ row, rows[entry.1]? = some row) (id : Int64) :
    (rows.insertMany batch)[id]? =
      (rows.map fun id row => (FlatStore.lastOf? batch id).getD row)[id]? := by
  rw [Std.TreeMap.getElem?_map]
  induction batch generalizing rows with
  | nil =>
      rw [Std.TreeMap.insertMany_nil]
      cases rows[id]? <;> simp [FlatStore.lastOf?]
  | cons entry rest ih =>
      obtain ⟨first, row⟩ := entry
      have hlater := present_insert
        (fun entry hentry => hpresent entry (List.mem_cons_of_mem _ hentry)) first row
      rw [Std.TreeMap.insertMany_cons, ih hlater, Std.TreeMap.getElem?_insert]
      simp only [lastOf?_cons]
      by_cases hsame : id = first
      · -- A later record under the same identity wins; without one this record stays.
        subst hsame
        obtain ⟨before, hbefore⟩ := hpresent (id, row) List.mem_cons_self
        rw [hbefore]
        cases FlatStore.lastOf? rest id <;> simp
      · have hne : first ≠ id := Ne.symm hsame
        simp [hsame, hne]

theorem checkUpdate_same (h : (flat.inBuckets observers buckets).Simulates flat)
    (records : List R) :
    SameAnswer ((flat.inBuckets observers buckets).checkUpdate records)
      (flat.checkUpdate records) := by
  refine (SameAnswer.lift flat.checkCreated).bind fun _ => ?_
  refine (SameAnswer.lift (records.mapM flat.checkReplacement)).bind ?_
  intro batch
  exact (checkPresent_same h (batch.map (·.1))).bind fun _ => .ok batch

theorem update_matches (h : (flat.inBuckets observers buckets).Simulates flat)
    (records : List R) :
    ((flat.inBuckets observers buckets).update records).Matches (flat.update records) := by
  unfold Store.update FlatStore.update
  rcases (checkUpdate_same h records).pass_or_fail with
    ⟨batch, hbatch, hbatch'⟩ | ⟨e, e', herror, herror', hsame⟩
  · rw [hbatch, hbatch']
    obtain ⟨hfound, hstored⟩ := Store.of_checkUpdate hbatch
    have hpresent : ∀ entry ∈ batch, ∃ row, flat.rows[entry.1]? = some row := by
      intro entry hentry
      obtain ⟨row, hrow⟩ := hfound entry hentry
      exact ⟨row, (h.holds.get?_eq entry.1).symm.trans hrow⟩
    have hrows : buckets.Holds flat.rows := h.holds
    obtain ⟨hchanges, hlength, hholds⟩ := replaceAll_eq hrows hpresent
    refine ⟨?_, hchanges, rfl, h.listeners_eq, hholds.congr (getElem?_insertMany_eq hpresent),
      h.valid.sound, h.valid.assigns, fun id row hrow => ?_⟩
    · change SameAnswer (.ok (Store.replaceAll buckets batch).1.length) (.ok batch.length)
      rw [hlength]
      exact .ok _
    · change (flat.rows.map _)[id]? = some row at hrow
      rw [← getElem?_insertMany_eq hpresent] at hrow
      exact (h.valid.insertMany hstored).stored id row hrow
  · rw [herror, herror']
    exact h.reply (hsame Nat) _

theorem checkDelete_same (h : (flat.inBuckets observers buckets).Simulates flat)
    (ids : List Int64) :
    SameAnswer ((flat.inBuckets observers buckets).checkDelete ids) (flat.checkDelete ids) :=
  (SameAnswer.lift flat.checkCreated).bind fun _ => checkPresent_same h ids

/-- Deleting rows one after another tells of every identity once, in the order in which they come
first, but for those that are gone. -/
theorem deleteAll_eq {rows : Std.TreeMap Int64 R} (h : buckets.Holds rows) {gone ids : List Int64}
    (hgone : ∀ id ∈ ids, rows[id]?.isSome = true ↔ id ∉ gone) :
    (Store.deleteAll buckets ids).1 = (ids.removeAll gone).eraseDups.map .deleted ∧
      (Store.deleteAll buckets ids).2.Holds (rows.filter fun id _ => id ∉ ids) := by
  -- A row that is found goes, so what is gone grows by its identity on the way.
  induction ids generalizing buckets rows gone with
  | nil => exact ⟨rfl, h.eraseAll []⟩
  | cons first rest ih =>
      cases hget : buckets.get? first with
      | none =>
          have hrow : rows[first]? = none := (h.get?_eq first).symm.trans hget
          have herased (id : Int64) : rows[id]? = (rows.erase first)[id]? := by
            rw [Std.TreeMap.getElem?_erase]
            by_cases hsame : first = id
            · simp [← hsame, hrow]
            · simp [hsame]
          have hmem : first ∈ gone := by
            have := hgone first List.mem_cons_self
            simpa [hrow] using this
          obtain ⟨hchanges, hholds⟩ := ih (h.congr herased) fun id hid => by
            rw [← herased]
            exact hgone id (List.mem_cons_of_mem first hid)
          simp only [Store.deleteAll, hget, List.cons_removeAll, List.contains_eq_mem, hmem]
          exact ⟨hchanges, hholds.congr (Buckets.getElem?_filter_erase rows first rest)⟩
      | some row =>
          have hrow : rows[first]? = some row := (h.get?_eq first).symm.trans hget
          have hmem : first ∉ gone := (hgone first List.mem_cons_self).mp (by simp [hrow])
          have hlater :
              ∀ id ∈ rest, (rows.erase first)[id]?.isSome = true ↔ id ∉ first :: gone := by
            intro id hid
            have hkept := hgone id (List.mem_cons_of_mem first hid)
            rw [Std.TreeMap.getElem?_erase]
            by_cases hsame : first = id
            · simp [hsame]
            · rw [List.mem_cons, not_or, ← hkept]
              simp [hsame, Ne.symm hsame]
          obtain ⟨hchanges, hholds⟩ := ih (h.erase first) hlater
          have hremove : rest.removeAll (first :: gone) =
              (rest.removeAll gone).filter fun id => !id == first := by
            rw [List.removeAll_cons, List.removeAll, List.removeAll, List.filter_filter,
              List.filter_filter]
            exact List.filter_congr fun id _ => Bool.and_comm _ _
          have hfirst : (first :: rest).removeAll gone = first :: rest.removeAll gone := by
            simp [List.cons_removeAll, hmem]
          rw [hfirst, List.eraseDups_cons, ← hremove, List.map_cons, ← hchanges]
          simp only [Store.deleteAll, hget]
          exact ⟨trivial, hholds.congr (Buckets.getElem?_filter_erase rows first rest)⟩

theorem delete_matches (h : (flat.inBuckets observers buckets).Simulates flat)
    (ids : List Int64) :
    ((flat.inBuckets observers buckets).delete ids).Matches (flat.delete ids) := by
  unfold Store.delete FlatStore.delete
  rcases (checkDelete_same h ids).pass_or_fail with
    ⟨_, hcheck, hcheck'⟩ | ⟨e, e', herror, herror', hsame⟩
  · rw [hcheck, hcheck']
    have hall (id : Int64) (hid : id ∈ ids) : flat.rows[id]?.isSome = true ↔ id ∉ [] := by
      obtain ⟨row, hrow⟩ := Store.exists_row_of_checkDelete hcheck id hid
      have hflat : flat.rows[id]? = some row := (h.holds.get?_eq id).symm.trans hrow
      simp [hflat]
    have hrows : buckets.Holds flat.rows := h.holds
    obtain ⟨hchanges, hholds⟩ := deleteAll_eq hrows hall
    rw [List.removeAll_nil] at hchanges
    refine ⟨?_, hchanges, rfl, h.listeners_eq, hholds, h.valid.filter _⟩
    change SameAnswer (.ok (Store.deleteAll buckets ids).1.length) (.ok ids.eraseDups.length)
    rw [hchanges, List.length_map]
    exact .ok _
  · rw [herror, herror']
    exact h.reply (hsame Nat) _

end Calls

/-! ## Runs -/

section Runs

variable {store : Store R} {flat : FlatStore R}

/-- Every call keeps the two stores in step. -/
theorem step_matches (h : store.Simulates flat) (call : Call R) :
    (store.step call).Matches (flat.step call) := by
  obtain ⟨heq, hlisteners, hholds, hvalid⟩ := h
  -- Only the observers and the buckets of the store are not those of the flat one.
  generalize store.observers = observers at heq hlisteners
  generalize store.buckets = buckets at heq hholds
  subst heq
  have h : (flat.inBuckets observers buckets).Simulates flat := ⟨rfl, hlisteners, hholds, hvalid⟩
  cases call with
  | create => exact (create_matches h).map _
  | drop => exact (drop_matches h).map _
  | write records => exact (write_matches h records).map _
  | update records => exact (update_matches h records).map _
  | delete ids => exact (delete_matches h ids).map _
  | read id => exact (read_matches h id).map _
  | readAll => exact (readAll_matches h).map _
  | readWhere predicate param => exact (readWhere_matches h predicate param).map _
  | readMatching record => exact (readWhere_matches h _ _).map _
  | deleteWhere predicate param => exact (deleteWhere_matches h predicate param).map _
  | size =>
      refine h.reply ?_ _
      rw [Store.size, FlatStore.size, ← h.holds.count_eq]
      exact .ok _
  | subscribe observer => exact (subscribe_matches h observer).reply (.ok _) []

/-- What is seen of one call is the same, but for which missing row an answer names. -/
structure Seen.Agrees (seen : Seen Failure R) (seen' : Seen Error R) : Prop where
  answer : SameAnswer seen.answer seen'.answer
  notices_eq : seen.notices = seen'.notices

/-- Those who take notice are told change by change, and of each in the order in which they came. -/
theorem Outcome.Matches.notices_eq {outcome : Outcome R α} {outcome' : FlatOutcome R α}
    (h : outcome.Matches outcome') : outcome.notices = outcome'.notices := by
  rw [Outcome.notices, FlatOutcome.notices, h.simulates.listeners_eq, ← h.changes_eq]
  simp only [Observers.notices, SProd.sprod, List.product, List.map_flatMap, List.map_map]
  rfl

/-- What is seen of a run is the same from stores that are in step. -/
theorem run_agrees_of_simulates (h : store.Simulates flat) (calls : List (Call R)) :
    List.Forall₂ Seen.Agrees (store.run calls) (flat.run calls) := by
  -- A call leaves the stores in step, so the rest of the run starts as the whole run did.
  induction calls generalizing store flat with
  | nil => exact .nil
  | cons call rest ih =>
      have hstep := step_matches h call
      exact .cons ⟨hstep.answer, hstep.notices_eq⟩ (ih hstep.simulates)

/-- A new store is in step with a new store of one map. -/
theorem exists_flat_simulates {recordType : RecordType R} {size : BucketSize}
    (hsize : size.IsSigned) (hnew : Store.new recordType size = .ok store)
    (hassigns : recordType.Assigns store.table) :
    ∃ flat, FlatStore.new recordType = .ok flat ∧ store.Simulates flat := by
  obtain ⟨table, hresolve, hstore⟩ := bind_eq_ok_iff.mp hnew
  obtain rfl := Except.ok.inj hstore
  refine ⟨⟨recordType, table, false, 1, ∅, 0⟩, bind_eq_ok_iff.mpr ⟨table, hresolve, rfl⟩, rfl,
    rfl, Buckets.holds_empty hsize, Table.sound_of_resolve hresolve, hassigns, ?_⟩
  intro id row hrow
  simp at hrow

/-- A store whose bucket size is positive as a signed number answers every run of calls as the
store of one map does, and its observers hear the same. -/
theorem exists_flat_run_agrees {recordType : RecordType R} {size : BucketSize}
    (hsize : size.IsSigned) (hnew : Store.new recordType size = .ok store)
    (hassigns : recordType.Assigns store.table) (calls : List (Call R)) :
    ∃ flat, FlatStore.new recordType = .ok flat ∧
      List.Forall₂ Seen.Agrees (store.run calls) (flat.run calls) := by
  obtain ⟨flat, hflat, hsimulates⟩ := exists_flat_simulates hsize hnew hassigns
  exact ⟨flat, hflat, run_agrees_of_simulates hsimulates calls⟩

end Runs

namespace Stock

/-- Rows across buckets, one identity twice in a batch and in a deletion, a bucket that is emptied,
identities that have no row, and a table that comes back. -/
def calls : List (Call FieldMap) :=
  [.create, .subscribe .recording, .write [item 0 1, item 0 2, item 0 3, item 0 4],
    .update [item 2 5, item 3 6, item 2 7], .delete [1, 1],
    .deleteWhere (.compare .gt (.row "Value") (.literal (.int 5))) none, .readAll, .delete [4, -3],
    .drop, .create, .write [item 0 8], .read 5, .size]

theorem exists_flat_run_agrees_calls :
    pairs.IsSigned ∧ Store.new (.ofSchema schema) pairs = .ok store ∧
      (RecordType.ofSchema schema).Assigns store.table ∧
      ∃ flat, FlatStore.new (.ofSchema schema) = .ok flat ∧
        List.Forall₂ Seen.Agrees (store.run calls) (flat.run calls) :=
  have hsize : pairs.IsSigned := by unfold BucketSize.IsSigned; decide
  ⟨hsize, new_pairs, assigns_ofSchema,
    exists_flat_run_agrees hsize new_pairs assigns_ofSchema calls⟩

end Stock

end RecordSql
