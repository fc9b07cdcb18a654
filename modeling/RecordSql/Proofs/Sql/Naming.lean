import Mathlib.Data.List.Nodup
import Mathlib.Data.List.Perm.Subperm
import RecordSql.Sql.Placeholder

/-!
# Names of placeholders

The name that is handed out for a field is the first candidate that can stand for it.  It can be
characterised without the search: the candidate of the least number that is free or already stands
for the field.  From this follows what compilation relies on: a name that once stands for a field
is found again for the same base, whatever else is handed out in between.
-/

namespace RecordSql.Sql.Issued

variable {Name : Type}

/-! ## Names handed out so far -/

section Lookup

variable [DecidableEq Name]

theorem mem_of_lookup {issued : Issued Name} {name : Name} {field : String}
    (h : issued.lookup name = some field) : (name, field) ∈ issued := by
  obtain ⟨before, after, hsplit, -⟩ := List.lookup_eq_some_iff.mp h
  rw [hsplit]
  simp

/-- A name that cannot stand for a field stands for another one. -/
theorem exists_holder_of_not_admits {issued : Issued Name} {field : String} {name : Name}
    (h : issued.admits field name = false) :
    ∃ holder, issued.lookup name = some holder ∧ holder ≠ field := by
  unfold admits at h
  cases hlookup : issued.lookup name with
  | none => simp [hlookup] at h
  | some holder => exact ⟨holder, rfl, by simpa [hlookup] using h⟩

/-- Every name that stood for a field still does. -/
def Extends (later issued : Issued Name) : Prop :=
  ∀ name field, issued.lookup name = some field → later.lookup name = some field

theorem Extends.refl (issued : Issued Name) : issued.Extends issued :=
  fun _ _ h => h

theorem Extends.trans {last later issued : Issued Name} (h : last.Extends later)
    (h' : later.Extends issued) : last.Extends issued :=
  fun name field hlookup => h name field (h' name field hlookup)

theorem extends_add (issued : Issued Name) (name : Name) (field : String) :
    (issued.add name field).Extends issued := by
  intro other holder hlookup
  rw [add, List.lookup_append, hlookup]
  rfl

theorem lookup_add_self {issued : Issued Name} {name : Name} (h : issued.lookup name = none)
    (field : String) : (issued.add name field).lookup name = some field := by
  rw [add, List.lookup_append, h]
  simp

/-- A candidate that stands for another field does so later too. -/
theorem Extends.admits_eq_false {later issued : Issued Name} (h : later.Extends issued)
    {field : String} {name : Name} (hfalse : issued.admits field name = false) :
    later.admits field name = false := by
  obtain ⟨holder, hlookup, hne⟩ := exists_holder_of_not_admits hfalse
  unfold admits
  rw [h name holder hlookup]
  simpa using hne

end Lookup

variable [Numbered Name]

/-! ## Candidates -/

/-- Two candidates of one base are equal only if they have the same number. -/
theorem candidate_injective (base : Name) : Function.Injective (candidate base) := by
  intro m n h
  -- Only the first candidate has no number.
  by_cases hm1 : m = 1 <;> by_cases hn1 : n = 1
  · omega
  · simp only [candidate, hm1, hn1, if_true, if_false] at h
    exact absurd h.symm (Numbered.suffixed_ne base n)
  · simp only [candidate, hm1, hn1, if_true, if_false] at h
    exact absurd h (Numbered.suffixed_ne base m)
  · simp only [candidate, hm1, hn1, if_false] at h
    exact Numbered.eq_of_suffixed base m n h

/-- The candidates that the search goes through are different from each other. -/
theorem candidates_nodup (base : Name) (count : Nat) :
    ((List.range count).map fun i => candidate base (i + 1)).Nodup := by
  refine List.nodup_range.map ?_
  intro i j h
  have := candidate_injective base h
  omega

variable [DecidableEq Name]

/-! ## The name handed out -/

/-- There are more candidates than names handed out, so one of them can stand for the field. -/
theorem exists_admitted (issued : Issued Name) (base : Name) (field : String) :
    ∃ i, i < issued.length + 1 ∧ issued.admits field (candidate base (i + 1)) = true := by
  by_contra hnone
  push Not at hnone
  -- If none could, every candidate would be a name that stands for another field.
  let candidates := (List.range (issued.length + 1)).map fun i => candidate base (i + 1)
  have hheld : candidates ⊆ issued.map Prod.fst := by
    intro name hname
    obtain ⟨i, hi, rfl⟩ := List.mem_map.mp hname
    have hfalse := hnone i (List.mem_range.mp hi)
    obtain ⟨holder, hlookup, -⟩ := exists_holder_of_not_admits (Bool.eq_false_iff.mpr hfalse)
    exact List.mem_map.mpr ⟨_, mem_of_lookup hlookup, rfl⟩
  -- The candidates are all different, so they are no more than the names handed out.
  have hle := (List.subperm_of_subset (candidates_nodup base _) hheld).length_le
  have hlength : candidates.length = issued.length + 1 := by
    simp only [candidates, List.length_map, List.length_range]
  rw [hlength, List.length_map] at hle
  omega

theorem name_of_find? {issued : Issued Name} {base : Name} {field : String} {n : Nat}
    (h : (((List.range (issued.length + 1)).map (· + 1)).find? fun number =>
      issued.admits field (candidate base number)) = some n) :
    issued.name base field = candidate base n := by
  unfold name
  simp only [h]

/-- The name handed out is the candidate of the least number that can stand for the field. -/
theorem exists_name_eq (issued : Issued Name) (base : Name) (field : String) :
    ∃ n, 1 ≤ n ∧ n ≤ issued.length + 1 ∧ issued.name base field = candidate base n ∧
      issued.admits field (candidate base n) = true ∧
      ∀ m, 1 ≤ m → m < n → issued.admits field (candidate base m) = false := by
  obtain ⟨i, hi, hadmits⟩ := exists_admitted issued base field
  let numbers := (List.range (issued.length + 1)).map (· + 1)
  let test := fun number => issued.admits field (candidate base number)
  have hfound : (numbers.find? test).isSome = true := by
    rw [List.find?_isSome]
    exact ⟨i + 1, List.mem_map.mpr ⟨i, List.mem_range.mpr hi, rfl⟩, hadmits⟩
  obtain ⟨n, hn⟩ := Option.isSome_iff_exists.mp hfound
  obtain ⟨htest, before, after, hsplit, hbefore⟩ := List.find?_eq_some_iff_append.mp hn
  have hlength : before.length < issued.length + 1 := by
    have := congrArg List.length hsplit
    simp [numbers] at this
    omega
  -- The numbers run from one without a gap, so `n` is one more than how many stand before it.
  have hget (k : Nat) (hk : k < issued.length + 1) : numbers[k]? = some (k + 1) := by
    simp [numbers, hk]
  have hnumber : n = before.length + 1 := by
    have := hget before.length hlength
    rw [hsplit, List.getElem?_append_right (Nat.le_refl _)] at this
    simpa using this
  refine ⟨n, by omega, by omega, ?_, htest, ?_⟩
  · exact name_of_find? hn
  · intro m hm hmn
    have hmem : m ∈ before := by
      have := hget (m - 1) (by omega)
      rw [hsplit, List.getElem?_append_left (by omega)] at this
      have := List.mem_of_getElem? this
      rwa [show m - 1 + 1 = m by omega] at this
    simpa [test] using hbefore m hmem

/-- The name handed out can stand for the field. -/
theorem admits_name (issued : Issued Name) (base : Name) (field : String) :
    issued.admits field (issued.name base field) = true := by
  obtain ⟨n, -, -, hname, hadmits, -⟩ := exists_name_eq issued base field
  rw [hname]
  exact hadmits

/-- The name handed out is the only candidate that can stand for the field while no candidate of
a smaller number can. -/
theorem name_eq_candidate {issued : Issued Name} {base : Name} {field : String} {n : Nat}
    (hn : 1 ≤ n) (hadmits : issued.admits field (candidate base n) = true)
    (hleast : ∀ m, 1 ≤ m → m < n → issued.admits field (candidate base m) = false) :
    issued.name base field = candidate base n := by
  obtain ⟨k, hk, -, hname, hkadmits, hkleast⟩ := exists_name_eq issued base field
  rcases Nat.lt_trichotomy k n with hlt | heq | hgt
  · rw [hleast k hk hlt] at hkadmits
    contradiction
  · rw [hname, heq]
  · rw [hkleast n hn hgt] at hadmits
    contradiction

/-- A name that was not handed out before is free, and any other one stands for the field. -/
theorem lookup_name (issued : Issued Name) (base : Name) (field : String) :
    issued.lookup (issued.name base field) = none ∨
      issued.lookup (issued.name base field) = some field := by
  have hadmits := admits_name issued base field
  unfold admits at hadmits
  cases hlookup : issued.lookup (issued.name base field) with
  | none => exact Or.inl rfl
  | some holder =>
      rw [hlookup] at hadmits
      exact Or.inr (congrArg some (eq_of_beq hadmits))

/-- Once the name of a field has been handed out, the same name is found again later. -/
theorem Extends.name_eq {later issued : Issued Name} (h : later.Extends issued) {base : Name}
    {field : String} (hheld : later.lookup (issued.name base field) = some field) :
    later.name base field = issued.name base field := by
  obtain ⟨n, hn, -, hname, -, hleast⟩ := exists_name_eq issued base field
  rw [hname] at hheld ⊢
  -- What refused the candidates of smaller numbers then refuses them later too.
  refine name_eq_candidate hn ?_ fun m hm hmn => h.admits_eq_false (hleast m hm hmn)
  unfold admits
  rw [hheld]
  simp

end RecordSql.Sql.Issued
