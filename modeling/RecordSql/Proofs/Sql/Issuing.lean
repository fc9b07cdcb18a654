import RecordSql.Proofs.Sql.Compilation
import RecordSql.Proofs.Table.Resolved

/-!
# Issuing names

A placeholder's name is looked for number after number, without a bound.  The search still ends: the
names tried are all different, and no more of them can be taken than were handed out.  It stops at
the least number whose name is free or stands for the field already.  The names handed out stay
different from each other, and asking again gives the same name, whatever was asked for in between.
All this holds for texts of any kind, and the names of the compiler are found as their texts are.
-/

namespace RecordSql

namespace Sql

namespace Issued

section Names

variable {Name : Type} {issued later : Issued Name} {base name : Name} {field : String}

/-! ## Names by the list -/

/-- A name can be taken for a field: it is not in the list, or it is there for just this field. -/
def Usable (issued : Issued Name) (field : String) (name : Name) : Prop :=
  name ∉ issued.map Prod.fst ∨ (name, field) ∈ issued

variable [DecidableEq Name]

theorem lookup_eq_none_iff : issued.lookup name = none ↔ name ∉ issued.map Prod.fst := by
  rw [List.lookup_eq_none_iff, List.mem_map]
  constructor
  · rintro hnone ⟨entry, hentry, rfl⟩
    simpa using hnone entry hentry
  · intro hnot entry hentry
    rw [bne_iff_ne]
    rintro rfl
    exact hnot ⟨entry, hentry, rfl⟩

/-- Where no name is there twice, what is looked up is what the list says. -/
theorem lookup_eq_some_iff_mem (hdistinct : (issued.map Prod.fst).Nodup) :
    issued.lookup name = some field ↔ (name, field) ∈ issued := by
  constructor
  · exact mem_of_lookup
  · intro hmem
    obtain ⟨before, after, rfl⟩ := List.append_of_mem hmem
    refine List.lookup_eq_some_iff.mpr ⟨before, after, rfl, fun entry hentry => ?_⟩
    rw [bne_iff_ne]
    rintro rfl
    rw [List.map_append, List.nodup_append] at hdistinct
    exact hdistinct.2.2 _ (List.mem_map_of_mem hentry) _ (by simp) rfl

theorem admits_eq_true_iff (hdistinct : (issued.map Prod.fst).Nodup) :
    issued.admits field name = true ↔ issued.Usable field name := by
  unfold admits Usable
  rw [← lookup_eq_none_iff, ← lookup_eq_some_iff_mem hdistinct]
  cases issued.lookup name with
  | none => simp
  | some holder => simp

variable [Numbered Name]

/-! ## The search -/

/-- The search that begins with a number, round after round and without a bound: it stops at a
candidate that can stand for the field, and otherwise goes on with the next number. -/
inductive Search (issued : Issued Name) (base : Name) (field : String) : Nat → Nat → Prop
  | stop {number : Nat} (h : issued.admits field (candidate base number) = true) :
      Search issued base field number number
  | next {number last : Nat} (h : issued.admits field (candidate base number) = false)
      (hrest : Search issued base field (number + 1) last) : Search issued base field number last

/-- The search goes on while the candidates cannot stand for the field. -/
theorem search_of_least {first last : Nat} (hle : first ≤ last)
    (hadmits : issued.admits field (candidate base last) = true)
    (hleast : ∀ number, first ≤ number → number < last →
      issued.admits field (candidate base number) = false) :
    issued.Search base field first last := by
  obtain ⟨rounds, rfl⟩ := Nat.exists_eq_add_of_le hle
  induction rounds generalizing first with
  | zero => exact .stop hadmits
  | succ rounds ih =>
      have hnext : first + (rounds + 1) = first + 1 + rounds := by omega
      rw [hnext] at hadmits hleast ⊢
      refine .next (hleast first (Nat.le_refl _) (by omega)) ?_
      exact ih (by omega) hadmits fun number hge hlt => hleast number (by omega) hlt

/-- The search can stop at one number only. -/
theorem Search.eq {first last other : Nat} (h : issued.Search base field first last)
    (h' : issued.Search base field first other) : other = last := by
  induction h with
  | stop hadmits =>
      cases h' with
      | stop => rfl
      | next hrefuses => simp [hadmits] at hrefuses
  | next hrefuses _ ih =>
      cases h' with
      | stop hadmits => simp [hrefuses] at hadmits
      | next _ hrest => exact ih hrest

/-! ## Handing out -/

/-- What comes of asking for a name: the name, whether it is new, and the names handed out then. -/
structure Handed (Name : Type) where
  name : Name
  isFresh : Bool
  issued : Issued Name

/-- Ask for the name of a field's placeholder. -/
def handOut (issued : Issued Name) (base : Name) (field : String) : Handed Name :=
  let name := issued.name base field
  if issued.isFresh name then ⟨name, true, issued.add name field⟩ else ⟨name, false, issued⟩

@[simp] theorem name_handOut (issued : Issued Name) (base : Name) (field : String) :
    (issued.handOut base field).name = issued.name base field := by
  unfold handOut
  dsimp only
  split <;> rfl

/-- The names handed out after others were asked for. -/
def after (issued : Issued Name) (calls : List (Name × String)) : Issued Name :=
  calls.foldl (fun held call => (held.handOut call.1 call.2).issued) issued

theorem handOut_of_free (h : issued.lookup (issued.name base field) = none) :
    issued.handOut base field =
      ⟨issued.name base field, true, issued.add (issued.name base field) field⟩ := by
  have hfresh : issued.isFresh (issued.name base field) = true := by simp [isFresh, h]
  simp only [handOut, hfresh, if_true]

theorem handOut_of_held (h : issued.lookup (issued.name base field) = some field) :
    issued.handOut base field = ⟨issued.name base field, false, issued⟩ := by
  have hfresh : issued.isFresh (issued.name base field) = false := by simp [isFresh, h]
  simp only [handOut, hfresh, Bool.false_eq_true, if_false]

/-- A name that is handed out stands for its field from then on. -/
theorem lookup_handOut (issued : Issued Name) (base : Name) (field : String) :
    (issued.handOut base field).issued.lookup (issued.name base field) = some field := by
  rcases lookup_name issued base field with hfree | hheld
  · rw [handOut_of_free hfree]
    exact lookup_add_self hfree field
  · rw [handOut_of_held hheld]
    exact hheld

theorem extends_handOut (issued : Issued Name) (base : Name) (field : String) :
    (issued.handOut base field).issued.Extends issued := by
  rcases lookup_name issued base field with hfree | hheld
  · rw [handOut_of_free hfree]
    exact extends_add _ _ _
  · rw [handOut_of_held hheld]
    exact Extends.refl issued

theorem nodup_handOut (hdistinct : (issued.map Prod.fst).Nodup) (base : Name) (field : String) :
    ((issued.handOut base field).issued.map Prod.fst).Nodup := by
  rcases lookup_name issued base field with hfree | hheld
  · rw [handOut_of_free hfree]
    have hnot := lookup_eq_none_iff.mp hfree
    rw [add, List.map_append, List.map_singleton, ← List.concat_eq_append]
    exact hdistinct.concat hnot
  · rw [handOut_of_held hheld]
    exact hdistinct

theorem extends_after (issued : Issued Name) (calls : List (Name × String)) :
    (issued.after calls).Extends issued := by
  induction calls generalizing issued with
  | nil => exact Extends.refl issued
  | cons call rest ih => exact (ih _).trans (extends_handOut issued call.1 call.2)

theorem nodup_after (hdistinct : (issued.map Prod.fst).Nodup) (calls : List (Name × String)) :
    ((issued.after calls).map Prod.fst).Nodup := by
  induction calls generalizing issued with
  | nil => exact hdistinct
  | cons call rest ih => exact ih (nodup_handOut hdistinct call.1 call.2)

/-- Whatever else is handed out, the same name is found again and nothing changes. -/
theorem Extends.handOut_eq (h : later.Extends (issued.handOut base field).issued) :
    later.handOut base field = ⟨issued.name base field, false, later⟩ := by
  have hheld : later.lookup (issued.name base field) = some field :=
    h _ _ (lookup_handOut issued base field)
  have hname : later.name base field = issued.name base field :=
    (h.trans (extends_handOut issued base field)).name_eq hheld
  rw [handOut_of_held (hname ▸ hheld), hname]

/-! ## Where the search ends -/

/-- A search that ends, in no more rounds than there are names and one, at the first of the
candidates that is usable. -/
structure StopsAfter (issued : Issued Name) (base : Name) (field : String) (rounds : Nat) :
    Prop where
  search : issued.Search base field 1 rounds
  only : ∀ last, issued.Search base field 1 last → last = rounds
  pos : 1 ≤ rounds
  le : rounds ≤ issued.length + 1
  usable : issued.Usable field (candidate base rounds)
  least : ∀ number, 1 ≤ number → number < rounds → ¬issued.Usable field (candidate base number)

/-- What comes of it: a free name is added for the field, and a name of the field is only told. -/
inductive Gives (issued : Issued Name) (field : String) (name : Name) : Handed Name → Prop
  | fresh (hfree : name ∉ issued.map Prod.fst) :
      Gives issued field name ⟨name, true, issued ++ [(name, field)]⟩
  | again (hheld : (name, field) ∈ issued) : Gives issued field name ⟨name, false, issued⟩

theorem exists_stopsAfter (hdistinct : (issued.map Prod.fst).Nodup) (base : Name)
    (field : String) :
    ∃ rounds, issued.StopsAfter base field rounds ∧
      issued.name base field = candidate base rounds := by
  obtain ⟨rounds, hpos, hle, hname, hadmits, hleast⟩ := exists_name_eq issued base field
  have hsearch := search_of_least hpos hadmits hleast
  refine ⟨rounds, ⟨hsearch, fun _ => hsearch.eq, hpos, hle, ?_, fun number hge hlt => ?_⟩, hname⟩
  · exact (admits_eq_true_iff hdistinct).mp hadmits
  · rw [← admits_eq_true_iff hdistinct, hleast number hge hlt]
    simp

theorem gives_handOut (issued : Issued Name) (base : Name) (field : String) :
    issued.Gives field (issued.name base field) (issued.handOut base field) := by
  rcases lookup_name issued base field with hfree | hheld
  · rw [handOut_of_free hfree]
    exact .fresh (lookup_eq_none_iff.mp hfree)
  · rw [handOut_of_held hheld]
    exact .again (mem_of_lookup hheld)

end Names

/-! ## Texts and identifiers -/

section Texts

variable {issued : Issued} {base name : Ident} {field : String}

/-- A candidate as it is written. -/
theorem candidate_eq (base : String) (number : Nat) :
    candidate base number = if number = 1 then base else base ++ "_" ++ toString number := by
  unfold candidate
  split
  · rfl
  · apply String.toList_injective
    simp [Numbered.suffixed, Ident.suffix]

/-- The names handed out as they are written. -/
def texts (issued : Issued) : Issued String :=
  issued.map fun entry => (entry.1.name, entry.2)

theorem name_candidate (base : Ident) (number : Nat) :
    (candidate base number).name = candidate base.name number := by
  unfold candidate
  split <;> rfl

theorem lookup_texts (issued : Issued) (name : Ident) :
    issued.texts.lookup name.name = issued.lookup name := by
  induction issued with
  | nil => rfl
  | cons entry rest ih =>
      have hsame : (name.name == entry.1.name) = (name == entry.1) := by
        rw [Bool.eq_iff_iff, beq_iff_eq, beq_iff_eq, Ident.mk.injEq]
      rw [texts, List.map_cons, List.lookup_cons, List.lookup_cons, hsame]
      cases name == entry.1 with
      | true => rfl
      | false => exact ih

/-- A name is found as its text is. -/
theorem name_texts (issued : Issued) (base : Ident) (field : String) :
    issued.texts.name base.name field = (issued.name base field).name := by
  obtain ⟨number, hpos, -, hname, hadmits, hleast⟩ := exists_name_eq issued base field
  have hsame (m : Nat) : issued.texts.admits field (candidate base.name m) =
      issued.admits field (candidate base m) := by
    rw [admits, admits, ← name_candidate, lookup_texts]
  -- Names are different just if their texts are, so both searches refuse the same numbers.
  rw [hname, name_candidate]
  refine name_eq_candidate hpos ?_ fun m hm hlt => ?_
  · rw [hsame, hadmits]
  · rw [hsame, hleast m hm hlt]

theorem handOut_texts (issued : Issued) (base : Ident) (field : String) :
    issued.texts.handOut base.name field =
      ⟨(issued.handOut base field).name.name, (issued.handOut base field).isFresh,
        (issued.handOut base field).issued.texts⟩ := by
  have hname := name_texts issued base field
  have hlookup := lookup_texts issued (issued.name base field)
  rw [← hname] at hlookup
  rcases lookup_name issued base field with hfree | hheld
  · rw [handOut_of_free hfree, handOut_of_free (hlookup.trans hfree), hname]
    simp [texts, add]
  · rw [handOut_of_held hheld, handOut_of_held (hlookup.trans hheld), hname]

/-- The compiler hands names out in this way. -/
theorem handOut_of_issue_run {compiler : Compiler} {counterpart : Option Column} {field : String}
    {base name : Ident} {held held' : Placeholders}
    (h : (compiler.issue counterpart field base).run held = .ok (name, held')) :
    name = (held.issued.handOut base field).name ∧
      held'.issued = (held.issued.handOut base field).issued := by
  let use : Use := ⟨base, counterpart, field⟩
  have hrun : (compiler.issue use.counterpart use.field use.base).run held = .ok (name, held') := h
  obtain ⟨rfl, hissue⟩ := issue_of_run hrun
  cases hissue with
  | again hheld =>
      rw [handOut_of_held hheld]
      exact ⟨rfl, rfl⟩
  | bind hfree =>
      rw [handOut_of_free hfree]
      exact ⟨rfl, rfl⟩
  | defer hfree =>
      rw [handOut_of_free hfree]
      exact ⟨rfl, rfl⟩

end Texts

/-- The search for a name ends at the least number whose candidate is usable, and the name is
handed out.  The names stay different from each other, and later the same name is found for the same
base and field.  This is what the compiler does for every placeholder. -/
theorem handOut_least_usable {issued : Issued String} (hdistinct : (issued.map Prod.fst).Nodup)
    (base field : String) :
    (∃ rounds, issued.StopsAfter base field rounds ∧
        issued.Gives field (candidate base rounds) (issued.handOut base field)) ∧
      (∀ number, candidate base number =
        if number = 1 then base else base ++ "_" ++ toString number) ∧
      (∀ calls, (((issued.handOut base field).issued.after calls).map Prod.fst).Nodup ∧
        ((issued.handOut base field).issued.after calls).handOut base field =
          ⟨(issued.handOut base field).name, false,
            (issued.handOut base field).issued.after calls⟩) ∧
      ∀ (compiler : Compiler) (counterpart : Option Column) (held held' : Placeholders)
        (root name : Ident), held.issued.texts = issued → root.name = base →
        (compiler.issue counterpart field root).run held = .ok (name, held') →
          name.name = (issued.handOut base field).name ∧
            held'.issued.texts = (issued.handOut base field).issued := by
  obtain ⟨rounds, hstops, hname⟩ := exists_stopsAfter hdistinct base field
  refine ⟨⟨rounds, hstops, ?_⟩, candidate_eq base, fun calls => ⟨?_, ?_⟩, ?_⟩
  · rw [← hname]
    exact gives_handOut issued base field
  · exact nodup_after (nodup_handOut hdistinct base field) calls
  · rw [(extends_after _ calls).handOut_eq, name_handOut]
  · rintro compiler counterpart held held' root name rfl rfl hrun
    obtain ⟨rfl, hissued⟩ := handOut_of_issue_run hrun
    rw [handOut_texts, hissued]
    exact ⟨rfl, rfl⟩

/-- The base and its second candidate stand for other fields; the second is itself the base of a
name. -/
def crowded : Issued String :=
  [("Value", "least"), ("Value_2", "greatest"), ("Value_4", "usual")]

theorem handOut_least_usable_crowded :
    (crowded.map Prod.fst).Nodup ∧
      (∃ rounds, crowded.StopsAfter "Value" "wanted" rounds) ∧
      crowded.handOut "Value" "wanted" =
        ⟨"Value_3", true, crowded ++ [("Value_3", "wanted")]⟩ ∧
      ∀ calls, (((crowded.handOut "Value" "wanted").issued.after calls).handOut
        "Value" "wanted").name = "Value_3" := by
  have hdistinct : (crowded.map Prod.fst).Nodup := by decide
  obtain ⟨⟨rounds, hstops, -⟩, -, hlater, -⟩ := handOut_least_usable hdistinct "Value" "wanted"
  have hhanded : crowded.handOut "Value" "wanted" =
      ⟨"Value_3", true, crowded ++ [("Value_3", "wanted")]⟩ := by
    rfl
  refine ⟨hdistinct, ⟨rounds, hstops⟩, hhanded, fun calls => ?_⟩
  rw [(hlater calls).2, hhanded]

end Issued

end Sql

end RecordSql
