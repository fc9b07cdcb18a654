import RecordSql.Proofs.Store.Failure

/-!
# What observers hear is a log

An observer that knows the rows of a store when it joins, and plays back every change that it hears
of from then on, has the rows of the store after every call.  No change is missing, none is told of
that was not made, and each fits the rows that the ones before it lead to.
-/

namespace RecordSql

variable {R : Type}

/-! ## Playing changes back -/

/-- A change played back onto rows.  A new row goes under the identity that it holds; a row that is
replaced has to be the one that the change says; a row that goes has to be there. -/
def Change.play? [DecidableEq R] (identity? : R → Option Int64) (rows : Std.TreeMap Int64 R) :
    Change R → Option (Std.TreeMap Int64 R)
  | .created row => do
      let id ← identity? row
      return rows.insert id row
  | .updated before row => do
      let id ← identity? before
      if rows[id]? = some before ∧ identity? row = some id then some (rows.insert id row) else none
  | .deleted id => if id ∈ rows then some (rows.erase id) else none

/-- Changes played back one after another; nothing, where one of them does not fit. -/
def replay? [DecidableEq R] (identity? : R → Option Int64) (rows : Std.TreeMap Int64 R)
    (changes : List (Change R)) : Option (Std.TreeMap Int64 R) :=
  changes.foldlM (Change.play? identity?) rows

/-- The identity that a row holds. -/
def Store.identity? (store : Store R) (row : R) : Option Int64 :=
  match store.recordType.get row store.table.identity.field with
  | some (.int id) => some id
  | _ => none

theorem replay?_append [DecidableEq R] (identity? : R → Option Int64)
    (rows : Std.TreeMap Int64 R) (changes more : List (Change R)) :
    replay? identity? rows (changes ++ more) =
      (replay? identity? rows changes).bind fun middle => replay? identity? middle more :=
  List.foldlM_append

namespace Buckets

section Follows

variable [DecidableEq R] {identity? : R → Option Int64} {before middle after : Buckets R}
  {changes more rest : List (Change R)} {id : Int64} {row : R}

/-- Changes that lead from one state of buckets to another: whoever plays them back onto the rows
of the first has the rows of the second. -/
def Follows (identity? : R → Option Int64) (before : Buckets R) (changes : List (Change R))
    (after : Buckets R) : Prop :=
  ∀ rows, before.Holds rows → ∃ rows', replay? identity? rows changes = some rows' ∧
    after.Holds rows'

theorem follows_nil (buckets : Buckets R) : buckets.Follows identity? [] buckets :=
  fun rows h => ⟨rows, rfl, h⟩

theorem Follows.append (h : before.Follows identity? changes middle)
    (hmore : middle.Follows identity? more after) :
    before.Follows identity? (changes ++ more) after := by
  intro rows hrows
  obtain ⟨between, hfirst, hbetween⟩ := h rows hrows
  obtain ⟨rows', hsecond, hafter⟩ := hmore between hbetween
  exact ⟨rows', by rw [replay?_append, hfirst, Option.bind_some, hsecond], hafter⟩

/-- One change that fits, before others. -/
theorem follows_cons {change : Change R}
    (h : ∀ rows, before.Holds rows → ∃ rows', change.play? identity? rows = some rows' ∧
      middle.Holds rows') (hrest : middle.Follows identity? rest after) :
    before.Follows identity? (change :: rest) after := by
  intro rows hrows
  obtain ⟨between, hfirst, hbetween⟩ := h rows hrows
  obtain ⟨rows', hsecond, hafter⟩ := hrest between hbetween
  refine ⟨rows', ?_, hafter⟩
  rw [replay?, List.foldlM_cons, hfirst]
  exact hsecond

theorem follows_created (hid : identity? row = some id)
    (hrest : (before.insert id row).Follows identity? rest after) :
    before.Follows identity? (.created row :: rest) after :=
  follows_cons (fun rows h => ⟨rows.insert id row, by simp [Change.play?, hid], h.insert id row⟩)
    hrest

theorem follows_updated {old : R} (hfound : before.get? id = some old)
    (hold : identity? old = some id) (hid : identity? row = some id)
    (hrest : (before.insert id row).Follows identity? rest after) :
    before.Follows identity? (.updated old row :: rest) after := by
  refine follows_cons (fun rows h => ⟨rows.insert id row, ?_, h.insert id row⟩) hrest
  have hrow : rows[id]? = some old := (h.get?_eq id).symm.trans hfound
  simp [Change.play?, hold, hid, hrow]

theorem follows_deleted (hfound : before.get? id = some row)
    (hrest : (before.erase id).Follows identity? rest after) :
    before.Follows identity? (.deleted id :: rest) after := by
  refine follows_cons (fun rows h => ⟨rows.erase id, ?_, h.erase id⟩) hrest
  have hrow : rows[id]? = some row := (h.get?_eq id).symm.trans hfound
  have hmem : id ∈ rows := Std.TreeMap.mem_iff_isSome_getElem?.mpr (by rw [hrow]; rfl)
  simp [Change.play?, hmem]

/-! ## What calls do to buckets -/

theorem follows_insertAll {batch : List (Int64 × R)}
    (hbatch : ∀ entry ∈ batch, identity? entry.2 = some entry.1) :
    before.Follows identity? ((batch.map (·.2)).map .created) (before.insertAll batch) := by
  induction batch generalizing before with
  | nil => exact follows_nil before
  | cons entry rest ih =>
      obtain ⟨hfirst, hrest⟩ := List.forall_mem_cons.mp hbatch
      exact follows_created hfirst (ih hrest)

/-- A record of a batch replaces the row that the records before it left. -/
theorem follows_replaceAll {size : BucketSize} {batch : List (Int64 × R)}
    (h : before.Orderly size fun id row => identity? row = some id)
    (hbatch : ∀ entry ∈ batch, identity? entry.2 = some entry.1) :
    before.Follows identity? (Store.replaceAll before batch).1
      (Store.replaceAll before batch).2 := by
  induction batch generalizing before with
  | nil => exact follows_nil before
  | cons entry rest ih =>
      obtain ⟨hfirst, hrest⟩ := List.forall_mem_cons.mp hbatch
      unfold Store.replaceAll
      cases hfound : before.get? entry.1 with
      | none => exact ih h hrest
      | some old =>
          exact follows_updated hfound (h.fits_of_get? _ old hfound) hfirst
            (ih (h.insert hfirst) hrest)

theorem follows_deleteAll (ids : List Int64) :
    before.Follows identity? (Store.deleteAll before ids).1 (Store.deleteAll before ids).2 := by
  induction ids generalizing before with
  | nil => exact follows_nil before
  | cons id rest ih =>
      unfold Store.deleteAll
      cases hfound : before.get? id with
      | none => exact ih
      | some row => exact follows_deleted hfound ih

theorem follows_eraseAll {ids : List Int64} (hnodup : ids.Nodup)
    (hfound : ∀ id ∈ ids, ∃ row, before.get? id = some row) :
    before.Follows identity? (ids.map .deleted) (before.eraseAll ids) := by
  induction ids generalizing before with
  | nil => exact follows_nil before
  | cons id rest ih =>
      obtain ⟨hfirst, hrest⟩ := List.nodup_cons.mp hnodup
      obtain ⟨⟨row, hrow⟩, hlater⟩ := List.forall_mem_cons.mp hfound
      refine follows_deleted hrow (ih hrest fun other hother => ?_)
      have hne : id ≠ other := by
        rintro rfl
        exact hfirst hother
      rw [get?_erase, if_neg hne]
      exact hlater other hother

end Follows

/-- Buckets whose keys grow with the identities hold the rows of their list. -/
theorem Keyed.holds_ofList {buckets : Buckets R} (h : buckets.Keyed) :
    buckets.Holds (.ofList buckets.toList) where
  keyed := h
  get?_eq id := by
    have hdistinct : buckets.toList.Pairwise fun a b => ¬compare a.1 b.1 = .eq :=
      h.ascending_toList.imp fun hlt heq => by
        rw [Std.LawfulEqCmp.eq_of_compare heq] at hlt
        exact Int64.lt_irrefl hlt
    cases hget : buckets.get? id with
    | none =>
        have hnone : (buckets.toList.map (·.1)).contains id = false := by
          rw [List.contains_eq_mem, decide_eq_false_iff_not, List.mem_map]
          rintro ⟨⟨other, row⟩, hmem, rfl⟩
          have := h.placed.mem_toList_iff.mp hmem
          rw [hget] at this
          contradiction
        exact (Std.TreeMap.getElem?_ofList_of_contains_eq_false hnone).symm
    | some row =>
        have hmem := h.placed.mem_toList_iff.mpr hget
        exact (Std.TreeMap.getElem?_ofList_of_mem Std.ReflCmp.compare_self hdistinct hmem).symm

end Buckets

namespace Store

/-! ## One call -/

theorem identity?_eq_some_of_storedRow {store : Store R} {id : Int64} {row : R}
    (h : store.table.StoredRow id (store.recordType.get row)) : store.identity? row = some id := by
  simp [identity?, h.identity_eq]

/-- The changes that a call makes lead from the rows before it to those after it. -/
theorem Effect.follows [DecidableEq R] {store : Store R} {size : BucketSize} {call : Call R}
    {answer : Except Failure (Answer R)} {after : Store R} {changes : List (Change R)}
    (heffect : store.Effect call answer after changes)
    (hkept : store.Kept Registry.builtin size) (hsize : size.IsSigned) (hdrop : call ≠ .drop) :
    store.buckets.Follows store.identity? changes after.buckets := by
  cases heffect with
  | created | subscribed | found | refused | unstaged => exact Buckets.follows_nil _
  | dropped => exact absurd rfl hdrop
  | overflowed hcheck hstage hkeyless =>
      obtain ⟨entry, -, hnone⟩ := hkeyless
      exact absurd hnone ((hkept.rows.size_eq ▸ hsize).key?_ne_none entry.1)
  | @wrote records rows nextId hcheck hstage =>
      refine Buckets.follows_insertAll fun entry hentry => ?_
      obtain ⟨record, -, hset⟩ := exists_of_mem_right (forall₂_of_stage hstage) hentry
      simp [identity?, hkept.assigns.get_identity _ _ _ hset]
  | @updated records batch changes buckets hcheck hreplace =>
      obtain ⟨-, hstored⟩ := of_checkUpdate hcheck
      have hrows : store.buckets.Orderly size fun id row => store.identity? row = some id :=
        hkept.rows.imp fun id row _ => identity?_eq_some_of_storedRow
      have hfollows := Buckets.follows_replaceAll hrows fun entry hentry =>
        identity?_eq_some_of_storedRow (hstored entry hentry)
      rw [hreplace] at hfollows
      exact hfollows
  | @deleted ids changes buckets hcheck hdelete =>
      have hfollows : store.buckets.Follows store.identity? (deleteAll store.buckets ids).1
          (deleteAll store.buckets ids).2 := Buckets.follows_deleteAll ids
      rw [hdelete] at hfollows
      exact hfollows
  | @unfinished predicate param e buckets herase =>
      obtain rfl := hkept.eraseWhere_of_error predicate param herase
      exact Buckets.follows_nil _
  | @deletedWhere predicate param ids buckets herase =>
      obtain ⟨hids, rfl⟩ := hkept.eraseWhere_of_ok predicate param herase
      have hkeyed : store.buckets.Keyed :=
        hkept.rows.placed.keyed (hkept.rows.size_eq ▸ hsize)
      refine Buckets.follows_eraseAll (hids.nodup hkeyed.ascending_toList.nodup_keys) ?_
      intro id hid
      obtain ⟨⟨_, row⟩, hmem, rfl⟩ := List.mem_map.mp (hids.subset hid)
      exact ⟨row, hkeyed.placed.mem_toList_iff.mp hmem⟩

end Store

/-! ## What one observer hears -/

/-- What a recording observer notes down of a call. -/
def told (number : Nat) (notices : List (Nat × Change R)) : List (Change R) :=
  (notices.filter (·.1 == number)).map (·.2)

/-- What a recording observer notes down of a run. -/
def heard (number : Nat) (run : List (Seen Failure R)) : List (Change R) :=
  run.flatMap fun seen => told number seen.notices

/-- A recording observer is told of every change, once and in order. -/
theorem told_notices {observers : Observers} {number : Nat}
    (h : number < observers.recordingCount) (changes : List (Change R)) :
    told number (observers.notices changes) = changes := by
  induction changes with
  | nil => rfl
  | cons change rest ih =>
      have honce : (List.range observers.recordingCount).filter (· == number) = [number] := by
        rw [List.filter_beq,
          List.count_eq_one_of_mem List.nodup_range (List.mem_range.mpr h)]
        rfl
      have hone : told number ((List.range observers.recordingCount).map (·, change)) =
          [change] := by
        rw [told, List.filter_map]
        exact congrArg (fun numbers => (numbers.map (·, change)).map (·.2)) honce
      simp only [Observers.notices, told, List.flatMap_cons, List.filter_append,
        List.map_append] at ih hone ⊢
      rw [hone, ih]
      rfl

namespace Store

variable {store : Store R}

theorem Effect.recordingCount_le {call : Call R} {answer : Except Failure (Answer R)}
    {after : Store R} {changes : List (Change R)}
    (h : store.Effect call answer after changes) :
    store.observers.recordingCount ≤ after.observers.recordingCount := by
  cases h with
  | subscribed observer => simp [subscribe, Observers.recordingCount, List.count_append]
  | _ => exact Nat.le_refl _

/-- An observer of a store hears of just the changes that a call makes. -/
theorem told_step {number : Nat} (hnumber : number < store.observers.recordingCount)
    (call : Call R) : told number (store.step call).notices = (store.step call).changes :=
  told_notices (Nat.lt_of_lt_of_le hnumber (step_effect store call).recordingCount_le) _

theorem recordingCount_le_after (store : Store R) (calls : List (Call R)) :
    store.observers.recordingCount ≤ (store.after calls).observers.recordingCount := by
  induction calls generalizing store with
  | nil => exact Nat.le_refl _
  | cons call rest ih => exact Nat.le_trans (step_effect store call).recordingCount_le (ih _)

/-- What an observer hears of a run leads from the rows before it to those after it. -/
theorem follows_heard [DecidableEq R] {size : BucketSize} {number : Nat}
    (hkept : store.Kept Registry.builtin size) (hsize : size.IsSigned)
    (hnumber : number < store.observers.recordingCount) (calls : List (Call R))
    (hdrop : ∀ call ∈ calls, call ≠ .drop) :
    store.buckets.Follows store.identity? (heard number (store.run calls))
      (store.after calls).buckets := by
  induction calls generalizing store with
  | nil => exact Buckets.follows_nil _
  | cons call rest ih =>
      obtain ⟨hfirst, hrest⟩ := List.forall_mem_cons.mp hdrop
      have heffect := step_effect store call
      have hlater := ih (hkept.step call)
        (Nat.lt_of_lt_of_le hnumber heffect.recordingCount_le) hrest
      have hidentity : (store.step call).store.identity? = store.identity? := by
        funext row
        rw [identity?, identity?, heffect.recordType_eq, heffect.table_eq]
      rw [hidentity] at hlater
      have hheard : heard number (store.run (call :: rest)) =
          (store.step call).changes ++ heard number ((store.step call).store.run rest) := by
        rw [← told_step hnumber call]
        rfl
      rw [hheard]
      exact (heffect.follows hkept hsize hfirst).append hlater

end Store

/-! ## How many changes a call answers with -/

/-- How many rows an answer has or counts. -/
def Answer.amount? : Answer R → Option Nat
  | .rows found => some found.length
  | .count value => some value
  | _ => none

namespace Store

variable {store : Store R}

/-- A call that succeeds answers with as many rows, or with the number of rows, as an observer
hears of changes. -/
structure CountsHeard (store : Store R) (number : Nat) : Prop where
  write : ∀ records stored, (store.write records).answer = .ok stored →
    stored.length = (told number (store.write records).notices).length
  update : ∀ records count, (store.update records).answer = .ok count →
    count = (told number (store.update records).notices).length
  delete : ∀ ids count, (store.delete ids).answer = .ok count →
    count = (told number (store.delete ids).notices).length
  deleteWhere : ∀ predicate param count, (store.deleteWhere predicate param).answer = .ok count →
    count = (told number (store.deleteWhere predicate param).notices).length

theorem Effect.amount_eq {call : Call R} {answer : Answer R} {after : Store R}
    {changes : List (Change R)} (h : store.Effect call (.ok answer) after changes)
    (hreading : call.isReading = false) {amount : Nat} (hamount : answer.amount? = some amount) :
    amount = changes.length := by
  cases h with
  | created | dropped | subscribed => simp [Answer.amount?] at hamount
  | found hfound => exact absurd (hreading.symm.trans hfound) Bool.false_ne_true
  | wrote | updated | deleted | deletedWhere => simp_all [Answer.amount?]

/-- What a call that is not a reading one answers with is as much as an observer hears. -/
theorem amount_eq_told {number : Nat} (hnumber : number < store.observers.recordingCount)
    (call : Call R) (hreading : call.isReading = false) {answer : Answer R}
    (hanswer : (store.step call).answer = .ok answer) {amount : Nat}
    (hamount : answer.amount? = some amount) :
    amount = (told number (store.step call).notices).length := by
  have heffect := step_effect store call
  rw [hanswer] at heffect
  rw [told_step hnumber]
  exact heffect.amount_eq hreading hamount

theorem countsHeard {number : Nat} (hnumber : number < store.observers.recordingCount) :
    store.CountsHeard number where
  write records stored hanswer := amount_eq_told hnumber (.write records) rfl
    (map_eq_ok_iff.mpr ⟨stored, hanswer, rfl⟩) rfl
  update records count hanswer := amount_eq_told hnumber (.update records) rfl
    (map_eq_ok_iff.mpr ⟨count, hanswer, rfl⟩) rfl
  delete ids count hanswer := amount_eq_told hnumber (.delete ids) rfl
    (map_eq_ok_iff.mpr ⟨count, hanswer, rfl⟩) rfl
  deleteWhere predicate param count hanswer :=
    amount_eq_told hnumber (.deleteWhere predicate param) rfl
      (map_eq_ok_iff.mpr ⟨count, hanswer, rfl⟩) rfl

/-- An observer that joins a store that a run leads to, and plays back what it hears of the calls
from then on, has the rows that the store has, as long as the table is not dropped. -/
theorem heard_replays [DecidableEq R] {recordType : RecordType R} {size : BucketSize}
    {start : Store R} (hsize : size.IsSigned) (hnew : new recordType size = .ok start)
    (hassigns : recordType.Assigns start.table) (earlier later : List (Call R))
    (hlater : ∀ call ∈ later, call ≠ .drop) :
    let number := (start.after earlier).observers.recordingCount
    let joined := (start.after earlier).subscribe .recording
    let store := joined.after later
    (∃ rows, replay? start.identity? (.ofList joined.buckets.toList)
          (heard number (joined.run later)) = some rows ∧
        rows.toList = store.buckets.toList ∧
        (store.isCreated = true → store.readAll.answer = .ok (rows.toList.map (·.2)))) ∧
      store.CountsHeard number := by
  intro number joined store
  obtain ⟨table, hresolve, rfl⟩ := exists_fresh_of_new hnew
  have hkept : joined.Kept Registry.builtin size :=
    ((kept_fresh hresolve hassigns size).after earlier).step (.subscribe .recording)
  have hnumber : number < joined.observers.recordingCount := by
    simp [number, joined, subscribe, Observers.recordingCount]
  have hidentity : joined.identity? = (fresh recordType table size).identity? := by
    funext row
    simp [identity?, joined, subscribe]
  have hkeyed := hkept.rows.placed.keyed (hkept.rows.size_eq ▸ hsize)
  obtain ⟨rows, hreplay, hholds⟩ :=
    follows_heard hkept hsize hnumber later hlater _ hkeyed.holds_ofList
  rw [hidentity] at hreplay
  refine ⟨⟨rows, hreplay, hholds.toList_eq.symm, fun hcreated => ?_⟩, countsHeard ?_⟩
  · rw [readAll_of_created hcreated, hholds.toList_eq]
  · exact Nat.lt_of_lt_of_le hnumber (recordingCount_le_after joined later)

end Store

namespace Stock

/-- One identity twice in a batch and in a deletion, an update that fails, and a deletion that
leaves one row of two. -/
def changing : List (Call FieldMap) :=
  [.update [item 2 5, item 3 6, item 2 7], .update [item 1 0, item 9 0], .delete [1, 1],
    .deleteWhere (.compare .gt (.row "Value") (.literal (.int 6))) none, .write [item 0 8]]

theorem heard_replays_changing :
    let _ := Classical.decEq FieldMap
    let joined := (store.after filling).subscribe .recording
    pairs.IsSigned ∧ Store.new (.ofSchema schema) pairs = .ok store ∧
      (RecordType.ofSchema schema).Assigns store.table ∧ (∀ call ∈ changing, call ≠ .drop) ∧
      (heard 1 (joined.run changing)).length = 6 ∧
      ∃ rows, replay? store.identity? (.ofList joined.buckets.toList)
          (heard 1 (joined.run changing)) = some rows ∧
        rows.toList = (joined.after changing).buckets.toList := by
  intro _ joined
  have hsize : pairs.IsSigned := by unfold BucketSize.IsSigned; decide
  have hnone : ∀ call ∈ changing, call ≠ .drop := by simp [changing]
  obtain ⟨⟨rows, hreplay, hrows, -⟩, -⟩ :=
    Store.heard_replays hsize new_pairs assigns_ofSchema filling changing hnone
  exact ⟨hsize, new_pairs, assigns_ofSchema, hnone, by decide, rows, hreplay, hrows⟩

end Stock

end RecordSql
