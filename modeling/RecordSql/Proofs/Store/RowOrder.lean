import Mathlib.Data.List.Pairwise
import RecordSql.Proofs.Store.Matching
import RecordSql.Proofs.Store.Overflow

/-!
# The order of rows

Rows come bucket by bucket, and buckets come in the order of their keys, which are quotients of
identities by the bucket size.  For the quotient the size is a signed number.  Sizes below `2 ^ 63`
are positive, so rows come in the order of their identities.  Greater sizes are negative, so buckets
come from the larger identities to the smaller ones, and for the greatest size one identity has no
key: calls that come upon it break off.
-/

namespace RecordSql

/-! ## Lists of rows -/

namespace Buckets

/-- A test that has an outcome on every item selects the items on which it is true. -/
theorem mem_filterM_iff {ε α : Type} {test : α → Except ε Bool} {items kept : List α}
    (h : items.filterM test = .ok kept) (a : α) : a ∈ kept ↔ a ∈ items ∧ test a = .ok true := by
  have hkeep : ∀ a ∈ items, test a = .ok ((test a).toOption.getD false) := by
    intro a ha
    obtain ⟨keep, hkeep⟩ := exists_of_filterM h a ha
    rw [hkeep]
    rfl
  obtain rfl := Except.ok.inj (h.symm.trans (filterM_eq_filter hkeep))
  rw [List.mem_filter]
  refine and_congr_right fun ha => ?_
  obtain ⟨keep, hkeep⟩ := exists_of_filterM h a ha
  simp [hkeep, Except.toOption]

end Buckets

namespace Store

variable {R : Type} {store : Store R} {size : BucketSize}

/-- Rows that are to be kept, each once, under the identity that it holds, and bucket by bucket.
They come in the order of their identities if keys ascend with them, and else if all of them share
a bucket. -/
structure Lists (store : Store R) (size : BucketSize) (keep : R → Prop)
    (found : List (Int64 × R)) : Prop where
  mem_iff : ∀ id row, (id, row) ∈ found ↔ store.buckets.get? id = some row ∧ keep row
  identity_eq : store.recordType.Assigns store.table → ∀ id row, (id, row) ∈ found →
    store.recordType.get row store.table.identity.field = some (.int id)
  pairwise : found.Pairwise fun a b => size.Precedes a.1 b.1
  ascending_iff : Buckets.Ascending found ↔
    size.IsSigned ∨ ∀ a ∈ found, ∀ b ∈ found, size.quotient a.1 = size.quotient b.1

theorem ascending_iff_of_precedes {found : List (Int64 × R)}
    (h : found.Pairwise fun a b => size.Precedes a.1 b.1) :
    Buckets.Ascending found ↔
      size.IsSigned ∨ ∀ a ∈ found, ∀ b ∈ found, size.quotient a.1 = size.quotient b.1 := by
  constructor
  · intro hascending
    by_cases hsigned : size.IsSigned
    · exact Or.inl hsigned
    · let same := fun a b : Int64 × R => size.quotient a.1 = size.quotient b.1
      have hsame : found.Pairwise same :=
        h.imp₂ (fun _ _ hprecedes hlt => (hprecedes.lt_iff.mp hlt).resolve_left hsigned) hascending
      have : Std.Symm same := ⟨fun _ _ => Eq.symm⟩
      exact Or.inr fun a ha b hb =>
        List.Pairwise.forall_of_forall (R := same) (fun _ _ => rfl) hsame ha hb
  · intro hcases
    refine h.imp_of_mem fun ha hb hprecedes => hprecedes.lt_iff.mpr ?_
    exact hcases.imp_right fun hsame => hsame _ ha _ hb

section Reads

variable (hrows : store.buckets.Orderly size fun _ _ => True)
  (hkept : store.recordType.Assigns store.table → store.Kept Registry.builtin size)

include hrows hkept

theorem lists_of_sublist {keep : R → Prop} {found : List (Int64 × R)}
    (hsublist : found.Sublist store.buckets.toList)
    (hmem : ∀ id row, (id, row) ∈ found ↔ (id, row) ∈ store.buckets.toList ∧ keep row) :
    store.Lists size keep found := by
  have hget (id : Int64) (row : R) :
      (id, row) ∈ found ↔ store.buckets.get? id = some row ∧ keep row := by
    rw [hmem, hrows.placed.mem_toList_iff]
  have hpairwise : found.Pairwise fun a b => size.Precedes a.1 b.1 :=
    (hrows.size_eq ▸ hrows.placed.pairwise_toList).sublist hsublist
  refine ⟨hget, fun hassigns id row hfound => ?_, hpairwise, ascending_iff_of_precedes hpairwise⟩
  exact ((hkept hassigns).rows.fits_of_get? id row ((hget id row).mp hfound).1).identity_eq

theorem exists_lists_readAll (hcreated : store.isCreated = true) :
    ∃ found, store.readAll.answer = .ok (found.map (·.2)) ∧
      store.Lists size (fun _ => True) found :=
  ⟨store.buckets.toList, readAll_of_created hcreated,
    lists_of_sublist hrows hkept (List.Sublist.refl _) fun _ _ => by rw [and_true]⟩

theorem lists_of_readWhere {predicate : Predicate} {param : Option FieldValues} {rows : List R}
    (h : (store.readWhere predicate param).answer = .ok rows) :
    ∃ found, rows = found.map (·.2) ∧
      store.Lists size (fun row => store.satisfies predicate param row = .ok true) found := by
  obtain ⟨_, -, hfilter⟩ := bind_eq_ok_iff.mp (Failure.lift_eq_ok_iff.mp h)
  rw [Buckets.filterM_map] at hfilter
  obtain ⟨found, hfound, rfl⟩ := map_eq_ok_iff.mp hfilter
  exact ⟨found, rfl, lists_of_sublist hrows hkept (Buckets.sublist_of_filterM hfound)
    fun _ _ => Buckets.mem_filterM_iff hfound _⟩

end Reads

/-- **Rows are listed in the order of their identities** for every bucket size that is a positive
number for the quotient, in every store that a run leads to.  For a size that is a negative number
they are only if they all share a bucket.  No size divides by zero, and one identity alone has no
key, by the greatest size; calls break off just at this identity. -/
theorem reads_in_order {recordType : RecordType R} {count : UInt64} {start : Store R}
    (hnew : new recordType (.atLeastOne count) = .ok start) (calls : List (Call R)) :
    let size := BucketSize.atLeastOne count
    let store := start.after calls
    (size.IsSigned ↔ count.toNat < 2 ^ 63) ∧ size.divisor ≠ 0 ∧
      (∀ id, size.key? id = none ↔ size.count.toNat = 2 ^ 64 - 1 ∧ id = Int64.minValue) ∧
      store.BreaksOff size ∧
      (store.isCreated = true → ∃ found, store.readAll.answer = .ok (found.map (·.2)) ∧
        store.Lists size (fun _ => True) found) ∧
      ∀ predicate param rows, (store.readWhere predicate param).answer = .ok rows →
        ∃ found, rows = found.map (·.2) ∧
          store.Lists size (fun row => store.satisfies predicate param row = .ok true) found := by
  intro size store
  obtain ⟨table, hresolve, rfl⟩ := exists_fresh_of_new hnew
  have hrows : store.buckets.Orderly size fun _ _ => True :=
    orderly_after (Buckets.orderly_empty size) calls
  have hkept (hassigns : store.recordType.Assigns store.table) :
      store.Kept Registry.builtin size := by
    rw [recordType_after, table_after] at hassigns
    exact (kept_fresh hresolve hassigns size).after calls
  exact ⟨BucketSize.isSigned_atLeastOne_iff count, size.divisor_ne_zero, size.key?_eq_none_iff,
    breaksOff hrows.size_eq, exists_lists_readAll hrows hkept,
    fun predicate param rows => lists_of_readWhere hrows hkept⟩

end Store

namespace Stock

/-- Three rows in two buckets come one after another. -/
theorem reads_in_order_pairs :
    Store.new (.ofSchema schema) pairs = .ok store ∧ (2 : UInt64).toNat < 2 ^ 63 ∧
      (store.after filling).readAll.answer = .ok [item 1 1, item 2 2, item 3 3] ∧
      ∃ found, [item 1 1, item 2 2, item 3 3] = found.map (·.2) ∧ Buckets.Ascending found := by
  have hrows : (store.after filling).readAll.answer = .ok [item 1 1, item 2 2, item 3 3] := by rfl
  obtain ⟨hsigned, -, -, -, hall, -⟩ := Store.reads_in_order
    (show Store.new (.ofSchema schema) (.atLeastOne 2) = .ok store from new_pairs) filling
  obtain ⟨found, hfound, hlists⟩ := hall rfl
  exact ⟨new_pairs, by decide, hrows, found, Except.ok.inj (hrows.symm.trans hfound),
    hlists.ascending_iff.mpr (Or.inl (hsigned.mpr (by decide)))⟩

/-- By the greatest bucket size the three rows come in the opposite order, and to read or delete the
least identity breaks off. -/
theorem readAll_descends :
    Store.new (.ofSchema schema) (.atLeastOne 18446744073709551615) = .ok widestStore ∧
      (widestStore.after filling).readAll.answer = .ok [item 3 3, item 2 2, item 1 1] ∧
      List.Forall₂ (fun id row => FieldMap.get row "ID" = some (.int id)) [3, 2, 1]
        [item 3 3, item 2 2, item 1 1] ∧
      ¬[(3 : Int64), 2, 1].Pairwise (· < ·) ∧
      ((widestStore.after filling).read Int64.minValue).answer = .error .overflow ∧
      ((widestStore.after filling).delete [Int64.minValue]).answer = .error .overflow :=
  ⟨rfl, rfl, .cons rfl (.cons rfl (.cons rfl .nil)), by decide, rfl, rfl⟩

end Stock

end RecordSql
