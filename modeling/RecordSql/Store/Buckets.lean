import Std.Data.TreeMap

/-!
# Buckets

Rows under their identities, kept in buckets of consecutive ones.  A bucket comes into being with
its first row and stays when its last row goes.  Bucket keys are quotients by the bucket size,
which is read as a signed number: a size of `2 ^ 63` or more counts buckets downwards.  A key has 64
bits, so an identity whose quotient needs more has no key, no bucket and no row.
-/

namespace RecordSql

/-- How many consecutive identities share a bucket; never none. -/
structure BucketSize where
  count : UInt64
  count_ne : count ≠ 0

namespace BucketSize

/-- A size of zero counts as one. -/
def atLeastOne (count : UInt64) : BucketSize :=
  if h : count = 0 then ⟨1, by decide⟩ else ⟨count, h⟩

/-- The size of a bucket unless another is asked for. -/
def usual : BucketSize := atLeastOne 100

/-- What identities are divided by. -/
def divisor (size : BucketSize) : Int :=
  size.count.toInt64.toInt

/-- The quotient of an identity by the bucket size, as an exact number. -/
def quotient (size : BucketSize) (id : Int64) : Int :=
  id.toInt / size.divisor

/-- The key of the bucket that an identity belongs to: the quotient, where 64 bits can hold it. -/
def key? (size : BucketSize) (id : Int64) : Option Int64 :=
  let key := Int64.ofInt (size.quotient id)
  if key.toInt = size.quotient id then some key else none

theorem key?_eq_some_iff {size : BucketSize} {id key : Int64} :
    size.key? id = some key ↔ key.toInt = size.quotient id := by
  simp only [key?, Option.ite_none_right_eq_some, Option.some.injEq]
  constructor
  · rintro ⟨hfits, rfl⟩
    exact hfits
  · intro hkey
    rw [← hkey, Int64.ofInt_toInt]
    exact ⟨rfl, rfl⟩

end BucketSize

/-- The rows of one bucket. -/
abbrev Bucket (R : Type) := Std.TreeMap Int64 R

/-- The buckets by their keys, in ascending order. -/
structure Buckets (R : Type) where
  size : BucketSize
  held : Std.TreeMap Int64 (Bucket R)

namespace Buckets

variable {R : Type}

def empty (size : BucketSize) : Buckets R := ⟨size, ∅⟩

/-- The bucket of an identity, if it ever had a row. -/
def bucket? (buckets : Buckets R) (id : Int64) : Option (Bucket R) := do
  buckets.held[← buckets.size.key? id]?

/-- The row of an identity. -/
def get? (buckets : Buckets R) (id : Int64) : Option R := do
  (← buckets.bucket? id)[id]?

theorem bucket?_of_key {buckets : Buckets R} {id key : Int64}
    (h : buckets.size.key? id = some key) : buckets.bucket? id = buckets.held[key]? := by
  rw [bucket?, h]
  rfl

/-- An identity that has a bucket has a key. -/
theorem exists_key_of_bucket? {buckets : Buckets R} {id : Int64} {bucket : Bucket R}
    (h : buckets.bucket? id = some bucket) :
    ∃ key, buckets.size.key? id = some key ∧ buckets.held[key]? = some bucket :=
  Option.bind_eq_some_iff.mp h

/-- So has one that has a row. -/
theorem exists_bucket_of_get? {buckets : Buckets R} {id : Int64} {row : R}
    (h : buckets.get? id = some row) :
    ∃ bucket : Bucket R, buckets.bucket? id = some bucket ∧ bucket[id]? = some row :=
  Option.bind_eq_some_iff.mp h

/-- Put a row under an identity, over an earlier one.  Without a key there is no place for it. -/
def insert (buckets : Buckets R) (id : Int64) (row : R) : Buckets R :=
  match buckets.size.key? id with
  | none => buckets
  | some key =>
      let bucket := buckets.held[key]?.getD ∅
      { buckets with held := buckets.held.insert key (bucket.insert id row) }

@[simp] theorem size_insert (buckets : Buckets R) (id : Int64) (row : R) :
    (buckets.insert id row).size = buckets.size := by
  unfold insert
  split <;> rfl

theorem insert_of_no_key {buckets : Buckets R} {id : Int64} (h : buckets.size.key? id = none)
    (row : R) : buckets.insert id row = buckets := by
  rw [insert, h]

/-- Only the bucket of the identity is touched. -/
theorem bucket?_insert {buckets : Buckets R} {id key : Int64}
    (hkey : buckets.size.key? id = some key) (other : Int64) (row : R) :
    (buckets.insert id row).bucket? other =
      if buckets.size.key? other = some key then
        some ((buckets.held[key]?.getD ∅).insert id row)
      else buckets.bucket? other := by
  simp only [insert, hkey, bucket?]
  cases hother : buckets.size.key? other with
  | none => simp
  | some otherKey =>
      by_cases hsame : key = otherKey
      · simp [hsame]
      · simp [hsame, Ne.symm hsame, Std.TreeMap.getElem?_insert]

/-- A row that is put is found, and no other one is touched. -/
theorem get?_insert {buckets : Buckets R} {id key : Int64}
    (hkey : buckets.size.key? id = some key) (other : Int64) (row : R) :
    (buckets.insert id row).get? other = if id = other then some row else buckets.get? other := by
  rw [get?, bucket?_insert hkey]
  split
  · next hother =>
    rw [get?, bucket?_of_key hother]
    cases buckets.held[key]? <;> simp [Std.TreeMap.getElem?_insert]
  · next hother =>
    have hne : id ≠ other := by
      rintro rfl
      exact hother hkey
    rw [if_neg hne, get?]

theorem get?_insert_of_ne (buckets : Buckets R) {id other : Int64} (h : id ≠ other) (row : R) :
    (buckets.insert id row).get? other = buckets.get? other := by
  cases hkey : buckets.size.key? id with
  | none => rw [insert_of_no_key hkey]
  | some key => rw [get?_insert hkey, if_neg h]

/-- The rows up to the first whose identity has no key. -/
def keyed (buckets : Buckets R) (rows : List (Int64 × R)) : List (Int64 × R) :=
  rows.takeWhile fun (id, _) => (buckets.size.key? id).isSome

/-- Put many rows, one after another. -/
def insertAll (buckets : Buckets R) (rows : List (Int64 × R)) : Buckets R :=
  rows.foldl (fun held (id, row) => held.insert id row) buckets

/-- Take the row of an identity away; its bucket stays. -/
def erase (buckets : Buckets R) (id : Int64) : Buckets R :=
  match buckets.size.key? id with
  | none => buckets
  | some key =>
      match buckets.held[key]? with
      | none => buckets
      | some bucket => { buckets with held := buckets.held.insert key (bucket.erase id) }

@[simp] theorem size_erase (buckets : Buckets R) (id : Int64) :
    (buckets.erase id).size = buckets.size := by
  unfold erase
  split
  · rfl
  · split <;> rfl

/-- The bucket of the identity loses its row, and no other one is touched. -/
theorem bucket?_erase (buckets : Buckets R) (id other : Int64) :
    (buckets.erase id).bucket? other =
      if buckets.size.key? other = buckets.size.key? id then
        (buckets.bucket? other).map (·.erase id)
      else buckets.bucket? other := by
  rw [bucket?, bucket?, size_erase]
  cases hother : buckets.size.key? other with
  | none => simp
  | some otherKey =>
      cases hkey : buckets.size.key? id with
      | none => simp [erase, hkey]
      | some key =>
          by_cases hsame : otherKey = key
          · cases hbucket : buckets.held[key]? <;> simp [erase, hkey, hbucket, hsame]
          · cases hbucket : buckets.held[key]? <;>
              simp [erase, hkey, hbucket, hsame, Ne.symm hsame, Std.TreeMap.getElem?_insert]

/-- A row that is taken away is gone, and no other one is. -/
theorem get?_erase (buckets : Buckets R) (id other : Int64) :
    (buckets.erase id).get? other = if id = other then none else buckets.get? other := by
  rw [get?, get?, bucket?_erase]
  split
  · cases buckets.bucket? other <;> simp [Std.TreeMap.getElem?_erase]
  · next hkey =>
    have hne : id ≠ other := by
      rintro rfl
      exact hkey rfl
    rw [if_neg hne]

/-- Take many rows away. -/
def eraseAll (buckets : Buckets R) (ids : List Int64) : Buckets R :=
  ids.foldl erase buckets

/-- All rows, bucket by bucket, and by identity inside a bucket. -/
def toList (buckets : Buckets R) : List (Int64 × R) :=
  buckets.held.values.flatMap Std.TreeMap.toList

/-- The number of rows. -/
def count (buckets : Buckets R) : Nat :=
  (buckets.held.values.map Std.TreeMap.size).foldr (· + ·) 0

/-- The first of some identities that has no row.  Identities whose bucket never had a row come
before all others. -/
def missing? (buckets : Buckets R) (ids : List Int64) : Option Int64 :=
  (ids.find? fun id => (buckets.bucket? id).isNone).or
    (ids.find? fun id => (buckets.get? id).isNone)

/-- Take the rows away that pass a test, one of the given buckets after another.  The result has
the identities that went; where the test fails, the rows of earlier buckets are gone. -/
def eraseWhereIn {ε : Type} (test : R → Except ε Bool) (buckets : Buckets R) :
    List (Bucket R) → Except ε (List Int64) × Buckets R
  | [] => (.ok [], buckets)
  | bucket :: rest =>
      match bucket.toList.filterM fun (_, row) => test row with
      | .error error => (.error error, buckets)
      | .ok rows =>
          let ids := rows.map (·.1)
          let (later, after) := eraseWhereIn test (buckets.eraseAll ids) rest
          (later.map (ids ++ ·), after)

/-- Take all rows away that pass a test. -/
def eraseWhere {ε : Type} (buckets : Buckets R) (test : R → Except ε Bool) :
    Except ε (List Int64) × Buckets R :=
  eraseWhereIn test buckets buckets.held.values

end Buckets

end RecordSql
