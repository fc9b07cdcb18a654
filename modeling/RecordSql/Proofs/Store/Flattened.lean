import Mathlib.Data.List.Nodup
import Mathlib.Data.List.Perm.Basic
import Mathlib.Data.List.TakeWhile
import RecordSql.Proofs.Predicate.Failure
import RecordSql.Proofs.Store.Keys

/-!
# Buckets as one map

Buckets hold the rows of one map from identities to rows, in the order of the identities.  This
needs that every bucket holds only identities of its key, and that keys grow with the identities,
which they do for a bucket size that is positive as a signed number.
-/

namespace RecordSql

/-- The values of a map are those of its entries. -/
theorem values_eq_map_toList {α β : Type} {cmp : α → α → Ordering} (map : Std.TreeMap α β cmp) :
    map.values = map.toList.map (·.2) := by
  have hvalues := Std.DTreeMap.Internal.Impl.values_eq_map_snd (t := map.inner.inner)
  have hentries := Std.DTreeMap.Internal.Impl.Const.toList_eq_toListModel_map (t := map.inner.inner)
  change Std.DTreeMap.Internal.Impl.values _ = (Std.DTreeMap.Internal.Impl.Const.toList _).map _
  rw [hvalues, hentries, List.map_map]
  rfl

/-! ## Rows in their buckets -/

namespace Buckets

variable {R : Type}

/-- Every bucket holds only identities of its key. -/
structure Placed (buckets : Buckets R) : Prop where
  key_eq : ∀ key bucket id, buckets.held[key]? = some bucket → id ∈ bucket →
    buckets.size.key? id = some key

theorem placed_empty (size : BucketSize) : (empty size : Buckets R).Placed where
  key_eq key bucket id hbucket := by simp [empty] at hbucket

/-- A bucket of identities of its key can be put over another one. -/
theorem Placed.put {buckets : Buckets R} (h : buckets.Placed) {key : Int64} {bucket : Bucket R}
    (hbucket : ∀ id ∈ bucket, buckets.size.key? id = some key) :
    { buckets with held := buckets.held.insert key bucket }.Placed where
  key_eq other found id hfound hid := by
    change buckets.size.key? id = some other
    by_cases hsame : key = other
    · subst hsame
      obtain rfl : bucket = found := by simpa using hfound
      exact hbucket id hid
    · have hold : buckets.held[other]? = some found := by
        simpa [Std.TreeMap.getElem?_insert, hsame] using hfound
      exact h.key_eq other found id hold hid

theorem Placed.insert {buckets : Buckets R} (h : buckets.Placed) (id : Int64) (row : R) :
    (buckets.insert id row).Placed := by
  cases hkey : buckets.size.key? id with
  | none =>
      rw [insert_of_no_key hkey]
      exact h
  | some key =>
      rw [Buckets.insert, hkey]
      refine h.put fun other hother => ?_
      rcases Std.TreeMap.mem_insert.mp hother with hequal | hmem
      · rw [← Std.LawfulEqCmp.eq_of_compare hequal, hkey]
      · cases hfound : buckets.held[key]? with
        | none => simp [hfound] at hmem
        | some found =>
            rw [hfound] at hmem
            exact h.key_eq key found other hfound hmem

theorem Placed.erase {buckets : Buckets R} (h : buckets.Placed) (id : Int64) :
    (buckets.erase id).Placed := by
  unfold Buckets.erase
  cases buckets.size.key? id with
  | none => exact h
  | some key =>
      cases hfound : buckets.held[key]? with
      | none => simpa only [hfound] using h
      | some found =>
          simp only [hfound]
          exact h.put fun other hother =>
            h.key_eq key found other hfound (Std.TreeMap.mem_of_mem_erase hother)

/-- Every bucket holds only identities of its key, and keys grow with the identities. -/
structure Keyed (buckets : Buckets R) : Prop where
  isSigned : buckets.size.IsSigned
  key_eq : ∀ key bucket id, buckets.held[key]? = some bucket → id ∈ bucket →
    buckets.size.key? id = some key

theorem Keyed.placed {buckets : Buckets R} (h : buckets.Keyed) : buckets.Placed := ⟨h.key_eq⟩

theorem Placed.keyed {buckets : Buckets R} (h : buckets.Placed) (hsize : buckets.size.IsSigned) :
    buckets.Keyed := ⟨hsize, h.key_eq⟩

theorem keyed_empty {size : BucketSize} (h : size.IsSigned) : (empty size : Buckets R).Keyed :=
  (placed_empty size).keyed h

theorem Keyed.insert {buckets : Buckets R} (h : buckets.Keyed) (id : Int64) (row : R) :
    (buckets.insert id row).Keyed :=
  (h.placed.insert id row).keyed (by rw [size_insert]; exact h.isSigned)

theorem Keyed.erase {buckets : Buckets R} (h : buckets.Keyed) (id : Int64) :
    (buckets.erase id).Keyed :=
  (h.placed.erase id).keyed (by rw [size_erase]; exact h.isSigned)

/-- Either all rows of a batch can be put, or one of them has an identity without a key. -/
theorem keyed_cases (buckets : Buckets R) (rows : List (Int64 × R)) :
    (buckets.keyed rows = rows ∧
        ∀ entry ∈ rows, ∃ key, buckets.size.key? entry.1 = some key) ∨
      ((buckets.keyed rows).length < rows.length ∧
        ∃ entry ∈ rows, buckets.size.key? entry.1 = none) := by
  have hfront : buckets.keyed rows <+: rows := List.takeWhile_prefix _
  by_cases hall : ∀ entry ∈ rows, ∃ key, buckets.size.key? entry.1 = some key
  · refine Or.inl ⟨List.takeWhile_eq_self_iff.mpr fun entry hentry => ?_, hall⟩
    exact Option.isSome_iff_exists.mpr (hall entry hentry)
  · have hkeyless : ∃ entry ∈ rows, buckets.size.key? entry.1 = none := by
      simpa only [← Option.ne_none_iff_exists', not_forall, exists_prop, not_not] using hall
    refine Or.inr ⟨Nat.lt_of_not_le fun hlength => hall ?_, hkeyless⟩
    have hself := List.takeWhile_eq_self_iff.mp (hfront.eq_of_length_le hlength)
    exact fun entry hentry => Option.isSome_iff_exists.mp (hself entry hentry)

theorem keyed_eq_of_isSigned {buckets : Buckets R} (h : buckets.size.IsSigned)
    (rows : List (Int64 × R)) : buckets.keyed rows = rows := by
  rcases buckets.keyed_cases rows with ⟨hkeyed, -⟩ | ⟨-, entry, -, hkeyless⟩
  · exact hkeyed
  · exact absurd hkeyless (h.key?_ne_none entry.1)

theorem mem_of_mem_keyed {buckets : Buckets R} {rows : List (Int64 × R)} {entry : Int64 × R}
    (h : entry ∈ buckets.keyed rows) : entry ∈ rows :=
  (List.takeWhile_prefix _).subset h

/-! ## The rows in order -/

theorem toList_eq_flatMap (buckets : Buckets R) :
    buckets.toList = buckets.held.toList.flatMap fun entry => entry.2.toList := by
  rw [toList, values_eq_map_toList, List.flatMap_map]

/-- The key under which a row is found is that of its identity. -/
theorem Placed.key_eq_of_mem_toList {buckets : Buckets R} (h : buckets.Placed)
    {entry : Int64 × Bucket R} {id : Int64} {row : R} (hbucket : entry ∈ buckets.held.toList)
    (hrow : (id, row) ∈ entry.2.toList) : buckets.size.key? id = some entry.1 := by
  obtain ⟨key, bucket⟩ := entry
  rw [Std.TreeMap.mem_toList_iff_getElem?_eq_some] at hbucket hrow
  have hmem : id ∈ bucket := by
    rw [Std.TreeMap.mem_iff_isSome_getElem?, hrow]
    rfl
  exact h.key_eq key bucket id hbucket hmem

theorem Placed.mem_toList_iff {buckets : Buckets R} (h : buckets.Placed) {id : Int64} {row : R} :
    (id, row) ∈ buckets.toList ↔ buckets.get? id = some row := by
  rw [toList_eq_flatMap, List.mem_flatMap]
  constructor
  · rintro ⟨⟨key, bucket⟩, hbucket, hrow⟩
    have hkey := h.key_eq_of_mem_toList hbucket hrow
    rw [Std.TreeMap.mem_toList_iff_getElem?_eq_some] at hbucket hrow
    simp [get?, bucket?, hkey, hbucket, hrow]
  · intro hget
    obtain ⟨bucket, hbucket, hrow⟩ := exists_bucket_of_get? hget
    obtain ⟨key, -, hheld⟩ := exists_key_of_bucket? hbucket
    exact ⟨(key, bucket), Std.TreeMap.mem_toList_iff_getElem?_eq_some.mpr hheld,
      Std.TreeMap.mem_toList_iff_getElem?_eq_some.mpr hrow⟩

/-- The identities in a list of rows ascend. -/
def Ascending (rows : List (Int64 × R)) : Prop :=
  rows.Pairwise fun a b => a.1 < b.1

theorem ascending_toList (rows : Std.TreeMap Int64 R) : Ascending rows.toList :=
  Std.TreeMap.ordered_keys_toList.imp Std.compare_eq_lt.mp

/-- The rows of a smaller key come first, and the rows of one key as their identities are. -/
theorem Placed.pairwise_toList {buckets : Buckets R} (h : buckets.Placed) :
    buckets.toList.Pairwise fun a b => buckets.size.Precedes a.1 b.1 := by
  have hquotient {entry : Int64 × Bucket R} (hmem : entry ∈ buckets.held.toList) {row : Int64 × R}
      (hrow : row ∈ entry.2.toList) : buckets.size.quotient row.1 = entry.1.toInt :=
    (BucketSize.key?_eq_some_iff.mp (h.key_eq_of_mem_toList hmem hrow)).symm
  rw [toList_eq_flatMap, List.pairwise_flatMap]
  -- Inside a bucket all keys are one and the map keeps the order; between buckets the keys differ.
  constructor
  · intro entry hmem
    refine (Buckets.ascending_toList entry.2).imp_of_mem fun hrow hrow' hlt => ?_
    exact Or.inr ⟨(hquotient hmem hrow).trans (hquotient hmem hrow').symm, hlt⟩
  · refine (Buckets.ascending_toList buckets.held).imp_of_mem ?_
    intro entry entry' hmem hmem' hlt row hrow row' hrow'
    refine Or.inl ?_
    rw [hquotient hmem hrow, hquotient hmem' hrow']
    exact Int64.lt_iff_toInt_lt.mp hlt

/-- The rows stand in the order of their identities, across the buckets too. -/
theorem Keyed.ascending_toList {buckets : Buckets R} (h : buckets.Keyed) :
    Ascending buckets.toList :=
  h.placed.pairwise_toList.imp h.isSigned.lt_of_precedes

theorem Ascending.nodup_keys {rows : List (Int64 × R)} (h : Ascending rows) :
    (rows.map (·.1)).Nodup := by
  refine List.pairwise_map.mpr (h.imp ?_)
  intro a b hlt heq
  rw [heq] at hlt
  exact Int64.lt_irrefl hlt

/-- No identity comes twice, in whatever order the buckets are. -/
theorem Placed.nodup_keys {buckets : Buckets R} (h : buckets.Placed) :
    (buckets.toList.map (·.1)).Nodup :=
  List.pairwise_map.mpr (h.pairwise_toList.imp BucketSize.Precedes.ne)

/-- Rows in ascending order are determined by what they are. -/
theorem Ascending.eq_of_mem_iff {a b : List (Int64 × R)} (ha : Ascending a) (hb : Ascending b)
    (h : ∀ entry, entry ∈ a ↔ entry ∈ b) : a = b := by
  have hperm := (List.perm_ext_iff_of_nodup (List.Nodup.of_map _ ha.nodup_keys)
    (List.Nodup.of_map _ hb.nodup_keys)).mpr h
  -- Two rows cannot stand before each other.
  have hantisymm (x y : Int64 × R) (hxy : x.1 < y.1) (hyx : y.1 < x.1) : x = y :=
    absurd (Int64.lt_trans hxy hyx) Int64.lt_irrefl
  exact hperm.eq_of_pairwise (fun x y _ _ => hantisymm x y) ha hb

/-- Buckets with the rows of one map list them as the map does. -/
theorem Keyed.toList_eq {buckets : Buckets R} {rows : Std.TreeMap Int64 R} (h : buckets.Keyed)
    (hrows : ∀ id, buckets.get? id = rows[id]?) : buckets.toList = rows.toList := by
  refine h.ascending_toList.eq_of_mem_iff (Buckets.ascending_toList rows) ?_
  rintro ⟨id, row⟩
  rw [h.placed.mem_toList_iff, hrows, Std.TreeMap.mem_toList_iff_getElem?_eq_some]

/-- The number of rows is that of the list. -/
theorem count_eq_length (buckets : Buckets R) : buckets.count = buckets.toList.length := by
  rw [count, toList, List.length_flatMap, List.sum_eq_foldr]
  congr 1
  exact List.map_congr_left fun bucket _ => bucket.length_toList.symm

/-! ## The map that buckets hold -/

/-- The rows of the buckets are those of a map. -/
structure Holds (buckets : Buckets R) (rows : Std.TreeMap Int64 R) : Prop where
  keyed : buckets.Keyed
  get?_eq : ∀ id, buckets.get? id = rows[id]?

section Holds

variable {buckets : Buckets R} {rows rows' : Std.TreeMap Int64 R}

theorem holds_empty {size : BucketSize} (h : size.IsSigned) : (empty size : Buckets R).Holds ∅ where
  keyed := keyed_empty h
  get?_eq id := by simp [get?, bucket?, empty]

theorem Holds.congr (h : buckets.Holds rows) (heq : ∀ id : Int64, rows[id]? = rows'[id]?) :
    buckets.Holds rows' where
  keyed := h.keyed
  get?_eq id := (h.get?_eq id).trans (heq id)

theorem Holds.insert (h : buckets.Holds rows) (id : Int64) (row : R) :
    (buckets.insert id row).Holds (rows.insert id row) where
  keyed := h.keyed.insert id row
  get?_eq other := by
    obtain ⟨key, hkey⟩ := h.keyed.isSigned.exists_key id
    simp [get?_insert hkey, Std.TreeMap.getElem?_insert, h.get?_eq]

theorem Holds.erase (h : buckets.Holds rows) (id : Int64) :
    (buckets.erase id).Holds (rows.erase id) where
  keyed := h.keyed.erase id
  get?_eq other := by simp [get?_erase, Std.TreeMap.getElem?_erase, h.get?_eq]

theorem Holds.insertAll (h : buckets.Holds rows) (batch : List (Int64 × R)) :
    (buckets.insertAll batch).Holds (rows.insertMany batch) := by
  induction batch generalizing buckets rows with
  | nil => exact h.congr fun id => by rw [Std.TreeMap.insertMany_nil]
  | cons entry rest ih =>
      refine (ih (h.insert entry.1 entry.2)).congr ?_
      intro id
      rw [← Std.TreeMap.insertMany_cons]

/-- Taking one row away and then others is taking all of them away. -/
theorem getElem?_filter_erase (rows : Std.TreeMap Int64 R) (first : Int64) (rest : List Int64)
    (id : Int64) :
    ((rows.erase first).filter fun id _ => id ∉ rest)[id]? =
      (rows.filter fun id _ => id ∉ first :: rest)[id]? := by
  rw [Std.TreeMap.getElem?_filter', Std.TreeMap.getElem?_filter', Std.TreeMap.getElem?_erase]
  by_cases hsame : first = id
  · simp [hsame]
  · have hne : id ≠ first := Ne.symm hsame
    simp [hsame, hne]

theorem Holds.eraseAll (h : buckets.Holds rows) (ids : List Int64) :
    (buckets.eraseAll ids).Holds (rows.filter fun id _ => id ∉ ids) := by
  induction ids generalizing buckets rows with
  | nil =>
      refine h.congr ?_
      intro id
      rw [Std.TreeMap.getElem?_filter']
      cases rows[id]? <;> simp [Option.filter]
  | cons first rest ih =>
      exact (ih (h.erase first)).congr (getElem?_filter_erase rows first rest)

theorem Holds.toList_eq (h : buckets.Holds rows) : buckets.toList = rows.toList :=
  h.keyed.toList_eq h.get?_eq

theorem Holds.count_eq (h : buckets.Holds rows) : buckets.count = rows.size := by
  rw [count_eq_length, h.toList_eq, Std.TreeMap.length_toList]

end Holds

/-! ## Rows that pass a test -/

section Test

variable {ε α β : Type}

theorem filterAuxM_eq (test : α → Except ε Bool) (items kept : List α) :
    items.filterAuxM test kept = (items.filterAuxM test []).map (· ++ kept) := by
  induction items generalizing kept with
  | nil => rfl
  | cons a rest ih =>
      simp only [List.filterAuxM]
      cases test a with
      | error e => rfl
      | ok keep =>
          cases keep with
          | false => exact ih kept
          | true =>
              change rest.filterAuxM test (a :: kept) = (rest.filterAuxM test [a]).map (· ++ kept)
              rw [ih (a :: kept), ih [a]]
              cases rest.filterAuxM test [] <;> simp [Except.map]

theorem filterM_cons (test : α → Except ε Bool) (a : α) (rest : List α) :
    (a :: rest).filterM test = do
      let keep ← test a
      let kept ← rest.filterM test
      return if keep then a :: kept else kept := by
  simp only [List.filterM, List.filterAuxM]
  cases test a with
  | error e => rfl
  | ok keep =>
      cases keep with
      | false =>
          change (rest.filterAuxM test [] >>= fun kept => Except.ok kept.reverse) = _
          cases rest.filterAuxM test [] <;> rfl
      | true =>
          change (rest.filterAuxM test [a] >>= fun kept => Except.ok kept.reverse) = _
          rw [filterAuxM_eq]
          cases rest.filterAuxM test [] with
          | error e => rfl
          | ok kept => simp [Except.map, bind, Except.bind, pure, Except.pure]

theorem filterM_append (test : α → Except ε Bool) (a b : List α) :
    (a ++ b).filterM test = do
      let first ← a.filterM test
      let second ← b.filterM test
      return first ++ second := by
  induction a with
  | nil =>
      change b.filterM test = b.filterM test >>= fun second => Except.ok ([] ++ second)
      cases b.filterM test <;> rfl
  | cons x rest ih =>
      rw [List.cons_append, filterM_cons, filterM_cons, ih]
      cases test x with
      | error e => rfl
      | ok keep =>
          cases rest.filterM test with
          | error e => rfl
          | ok kept =>
              cases b.filterM test with
              | error e => rfl
              | ok more => cases keep <;> rfl

theorem filterM_map (f : β → α) (test : α → Except ε Bool) (items : List β) :
    (items.map f).filterM test = (items.filterM fun b => test (f b)).map (List.map f) := by
  induction items with
  | nil => rfl
  | cons b rest ih =>
      rw [List.map_cons, filterM_cons, filterM_cons, ih]
      cases test (f b) with
      | error e => rfl
      | ok keep =>
          cases rest.filterM fun b => test (f b) with
          | error e => rfl
          | ok kept => cases keep <;> rfl

theorem exists_filterM_eq {test : α → Except ε Bool} {items : List α}
    (h : ∀ a ∈ items, ∃ keep, test a = .ok keep) : ∃ kept, items.filterM test = .ok kept := by
  induction items with
  | nil => exact ⟨[], rfl⟩
  | cons a rest ih =>
      obtain ⟨keep, hkeep⟩ := h a List.mem_cons_self
      obtain ⟨kept, hkept⟩ := ih fun b hb => h b (List.mem_cons_of_mem a hb)
      rw [filterM_cons, hkeep, hkept]
      exact ⟨_, rfl⟩

/-- A test that has an outcome on every item selects the items by it. -/
theorem filterM_eq_filter {test : α → Except ε Bool} {keep : α → Bool} {items : List α}
    (h : ∀ a ∈ items, test a = .ok (keep a)) : items.filterM test = .ok (items.filter keep) := by
  induction items with
  | nil => rfl
  | cons a rest ih =>
      obtain ⟨ha, hrest⟩ := List.forall_mem_cons.mp h
      rw [filterM_cons, ha, ih hrest, List.filter_cons]
      rfl

theorem exists_of_filterM {test : α → Except ε Bool} {items kept : List α}
    (h : items.filterM test = .ok kept) : ∀ a ∈ items, ∃ keep, test a = .ok keep := by
  induction items generalizing kept with
  | nil => simp
  | cons a rest ih =>
      rw [filterM_cons] at h
      obtain ⟨keep, hkeep, h⟩ := bind_eq_ok_iff.mp h
      obtain ⟨later, hlater, -⟩ := bind_eq_ok_iff.mp h
      exact List.forall_mem_cons.mpr ⟨⟨keep, hkeep⟩, ih hlater⟩

theorem sublist_of_filterM {test : α → Except ε Bool} {items kept : List α}
    (h : items.filterM test = .ok kept) : kept.Sublist items := by
  induction items generalizing kept with
  | nil =>
      obtain rfl := Except.ok.inj h
      exact .slnil
  | cons a rest ih =>
      rw [filterM_cons] at h
      obtain ⟨keep, -, h⟩ := bind_eq_ok_iff.mp h
      obtain ⟨later, hlater, h⟩ := bind_eq_ok_iff.mp h
      obtain rfl := Except.ok.inj h
      split
      · exact (ih hlater).cons_cons a
      · exact (ih hlater).cons a

/-- Buckets whose rows all pass through the test lose the rows that it selects. -/
theorem eraseWhereIn_of_ok {test : R → Except ε Bool} {buckets : Buckets R}
    {held : List (Bucket R)} {kept : List (Int64 × R)}
    (h : (held.flatMap Std.TreeMap.toList).filterM (fun entry => test entry.2) = .ok kept) :
    buckets.eraseWhereIn test held = (.ok (kept.map (·.1)), buckets.eraseAll (kept.map (·.1))) := by
  -- The buckets change while the list of those to look at does not, so they vary in the induction.
  induction held generalizing buckets kept with
  | nil =>
      obtain rfl := Except.ok.inj h
      rfl
  | cons bucket rest ih =>
      rw [List.flatMap_cons, filterM_append] at h
      cases hfirst : bucket.toList.filterM fun entry => test entry.2 with
      | error e => simp [hfirst, bind, Except.bind] at h
      | ok first =>
          cases hsecond : (rest.flatMap Std.TreeMap.toList).filterM fun entry => test entry.2 with
          | error e => simp [hfirst, hsecond, bind, Except.bind] at h
          | ok second =>
              obtain rfl : first ++ second = kept := by
                simpa [hfirst, hsecond, bind, Except.bind, pure, Except.pure] using h
              simp only [eraseWhereIn, hfirst, ih hsecond]
              simp [Except.map, eraseAll, List.foldl_append]

/-- Where the test fails on all rows alike no row goes. -/
theorem eraseWhereIn_of_error {test : R → Except ε Bool} {buckets : Buckets R}
    {held : List (Bucket R)} {e : ε}
    (hsame : ∀ a ∈ held.flatMap Std.TreeMap.toList, ∀ b ∈ held.flatMap Std.TreeMap.toList,
      SameForm (test a.2) (test b.2))
    (h : (held.flatMap Std.TreeMap.toList).filterM (fun entry => test entry.2) = .error e) :
    buckets.eraseWhereIn test held = (.error e, buckets) := by
  induction held with
  | nil => contradiction
  | cons bucket rest ih =>
      rw [List.flatMap_cons] at hsame h
      cases hrows : bucket.toList with
      | nil =>
          -- An empty bucket is passed without a test.
          rw [hrows, List.nil_append] at hsame h
          have hnone : ([] : List (Int64 × R)).filterM (fun entry => test entry.2) = .ok [] := rfl
          simp only [eraseWhereIn, hrows, hnone, eraseAll, List.map_nil, List.foldl_nil,
            ih hsame h]
          rfl
      | cons first more =>
          rw [hrows] at hsame h
          cases hfirst : test first.2 with
          | error e' =>
              rw [List.cons_append, filterM_cons, hfirst] at h
              obtain rfl : e' = e := Except.error.inj h
              simp only [eraseWhereIn, hrows, filterM_cons, hfirst]
              rfl
          | ok keep =>
              -- The first row has an outcome, so all rows have, and nothing fails.
              have hall : ∀ entry ∈ first :: more ++ rest.flatMap Std.TreeMap.toList,
                  ∃ keep, test entry.2 = .ok keep := by
                intro entry hentry
                have hform := hsame first (by simp) entry hentry
                rw [hfirst] at hform
                generalize test entry.2 = outcome at hform
                cases hform with
                | ok _ other => exact ⟨other, rfl⟩
              obtain ⟨kept, hkept⟩ := exists_filterM_eq hall
              rw [hkept] at h
              contradiction

/-- A test that has an outcome on all rows, or fails on all of them alike, takes away the rows that
it selects or none. -/
theorem eraseWhere_cases {test : R → Except ε Bool} {buckets : Buckets R}
    (hsame : ∀ a ∈ buckets.toList, ∀ b ∈ buckets.toList, SameForm (test a.2) (test b.2)) :
    (∃ kept, buckets.toList.filterM (fun entry => test entry.2) = .ok kept ∧
        buckets.eraseWhere test = (.ok (kept.map (·.1)), buckets.eraseAll (kept.map (·.1)))) ∨
      ∃ e, buckets.toList.filterM (fun entry => test entry.2) = .error e ∧
        buckets.eraseWhere test = (.error e, buckets) := by
  cases hfilter : buckets.toList.filterM fun entry => test entry.2 with
  | ok kept => exact Or.inl ⟨kept, rfl, eraseWhereIn_of_ok hfilter⟩
  | error e => exact Or.inr ⟨e, rfl, eraseWhereIn_of_error hsame hfilter⟩

end Test

end Buckets

end RecordSql
