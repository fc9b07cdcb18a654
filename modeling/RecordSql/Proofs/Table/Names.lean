import RecordSql.Proofs.Table.WellFormed

/-!
# Schemas that can fail on names alone

The rules of schemas are of two kinds: those about the names that the database sees, and the others.
Where the others hold, resolution succeeds just if the names fit, and an error is about a name that
is no identifier or about two storage names that are equal up to case.
-/

namespace RecordSql

/-- The rules of a field among others are about it and those before it. -/
def Rule.Regards (fields : List Field) : Rule → Prop
  | .tableName => True
  | .storageName field => field ∈ fields
  | .apart earlier field => ∃ after, fields = earlier ++ field :: after
  | .oneIdentity earlier field => ∃ after, fields = earlier ++ field :: after
  | .handler field => field ∈ fields
  | .identity => True

namespace Schema

variable {schema : Schema} {registry : Registry}

/-- The names that the database sees are identifiers, and no two storage names are equal up to
case. -/
structure NamesFit (schema : Schema) : Prop where
  tableName : Ident.Plain schema.tableName
  storageNames : ∀ field ∈ schema.fields, Ident.Plain field.storageName
  nodup_foldedNames : (schema.fields.map Field.foldedName).Nodup

/-- What is asked of a schema apart from these names. -/
structure FitsButForNames (registry : Registry) (schema : Schema) : Prop where
  nodup_names : (schema.fields.map Field.name).Nodup
  one_identity : schema.fields.countP (·.isIdentity) = 1
  registered : ∀ field ∈ schema.fields, registry.contains field.type = true

theorem FitsButForNames.wellFormed_iff (h : schema.FitsButForNames registry) :
    schema.WellFormed registry ↔ schema.NamesFit := by
  constructor
  · intro hwell
    exact ⟨hwell.tableName, hwell.storageNames, hwell.nodup_foldedNames⟩
  · intro hnames
    exact ⟨hnames.tableName, hnames.storageNames, hnames.nodup_foldedNames, h.nodup_names,
      h.one_identity, h.registered⟩

/-- The errors about names, each with what is wrong. -/
inductive NameFault (schema : Schema) : Error → Prop
  | tableName (hname : ¬Ident.Plain schema.tableName) :
      NameFault schema (.schema (.badName schema.name (Ident.fault schema.tableName)))
  | storageName {field : Field} (hmem : field ∈ schema.fields)
      (hname : ¬Ident.Plain field.storageName) :
      NameFault schema (.schema (.badName schema.name (Ident.fault field.storageName)))
  | clash {earlier field : Field} (hsublist : [earlier, field].Sublist schema.fields)
      (hsame : earlier.foldedName = field.foldedName) :
      NameFault schema
        (.schema (.collision schema.name field.name earlier.name field.storageName))

/-! ## Rules and the fields that they are about -/

theorem regards_of_mem_ofFields {rule : Rule} {earlier fields : List Field}
    (h : rule ∈ Rule.ofFields earlier fields) : rule.Regards (earlier ++ fields) := by
  induction fields generalizing earlier with
  | nil => simp [Rule.ofFields] at h
  | cons first rest ih =>
      rcases List.mem_append.mp h with hfirst | hrest
      · simp only [Rule.ofField, List.mem_cons, List.not_mem_nil, or_false] at hfirst
        rcases hfirst with rfl | rfl | rfl | rfl
        · simp [Rule.Regards]
        · exact ⟨rest, rfl⟩
        · exact ⟨rest, rfl⟩
        · simp [Rule.Regards]
      · simpa using ih hrest

theorem regards_of_mem_rules {rule : Rule} (h : rule ∈ schema.rules) :
    rule.Regards schema.fields := by
  simp only [rules, List.mem_append, List.mem_singleton] at h
  rcases h with rfl | hfields | rfl
  · trivial
  · exact regards_of_mem_ofFields hfields
  · trivial

/-- Where the other rules hold, an error is about a name. -/
theorem FitsButForNames.nameFault_of_resolve (h : schema.FitsButForNames registry) {e : Error}
    (herror : Table.resolve schema registry = .error e) : schema.NameFault e := by
  obtain ⟨rule, ⟨before, after, hrules, -, hbroken⟩, hraises⟩ := Table.broken_of_resolve herror
  have hregards := regards_of_mem_rules (show rule ∈ schema.rules by simp [hrules])
  cases hraises with
  | tableName => exact .tableName hbroken
  | storageName field => exact .storageName hregards hbroken
  | @apart earlier other field hother hclash =>
      obtain ⟨later, hfields⟩ := hregards
      have hsublist : [other, field].Sublist schema.fields := by
        rw [hfields]
        exact (List.singleton_sublist.mpr hother).append (List.singleton_sublist.mpr (by simp))
      refine .clash hsublist ?_
      -- Their own names differ, so the fields can only clash in their storage names.
      have hnames : other.name ≠ field.name := by
        have hpair := (hsublist.map Field.name).nodup h.nodup_names
        simpa using hpair
      by_contra hdistinct
      exact hclash ⟨hdistinct, hnames⟩
  | @oneIdentity earlier other field hother hidentity =>
      obtain ⟨later, hfields⟩ := hregards
      refine absurd (fun hfield another hanother => ?_) hbroken
      have hpairs := Field.countP_le_one_iff.mp (Nat.le_of_eq h.one_identity)
      rw [hfields, List.pairwise_append] at hpairs
      exact hpairs.2.2 another hanother field (by simp) hfield
  | handler field => exact absurd (h.registered field hregards) hbroken
  | identity =>
      refine absurd ?_ hbroken
      exact List.countP_pos_iff.mp (Nat.lt_of_lt_of_eq Nat.one_pos h.one_identity.symm)

end Schema

end RecordSql
