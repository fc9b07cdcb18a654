import RecordSql.Proofs.Sql.Leaf
import RecordSql.Sql.Command

/-!
# Lists and placeholders in a text

Two ways to read a statement without knowing what wrote it.  The items of a list are what stands
between its separators, each a comma with a blank behind it.  The placeholders of a text are the
names that stand behind the sign of the dialect, from left to right.
-/

namespace RecordSql.Sql

/-! ## Lists -/

/-- What stands between the separators of a list. -/
def listItems : List Char → List (List Char)
  | [] => [[]]
  | ',' :: ' ' :: rest => [] :: listItems rest
  | c :: rest => (listItems rest).modifyHead (c :: ·)

/-- A text without a separator, even where another text follows. -/
def isItem : List Char → Bool
  | [] => true
  | [c] => c != ','
  | c :: d :: rest => (c != ',' || d != ' ') && isItem (d :: rest)

theorem listItems_cons {c : Char} {rest : List Char} (h : c ≠ ',' ∨ ∀ d ∈ rest.head?, d ≠ ' ') :
    listItems (c :: rest) = (listItems rest).modifyHead (c :: ·) := by
  rw [listItems]
  rintro more rfl rfl
  rcases h with h | h
  · exact h rfl
  · exact h ' ' rfl rfl

/-- The items of a list that starts with one. -/
theorem listItems_append {item : List Char} (h : isItem item = true) (rest : List Char) :
    listItems (item ++ ',' :: ' ' :: rest) = item :: listItems rest := by
  fun_induction isItem item with
  | case1 => rfl
  | case2 c =>
      have hc : c ≠ ',' := by simpa using h
      rw [List.singleton_append, listItems_cons (.inl hc)]
      rfl
  | case3 c d item ih =>
      rw [Bool.and_eq_true, Bool.or_eq_true, bne_iff_ne, bne_iff_ne] at h
      rw [List.cons_append, listItems_cons (by simpa using h.1), ih h.2]
      rfl

theorem listItems_of_isItem {item : List Char} (h : isItem item = true) :
    listItems item = [item] := by
  fun_induction isItem item with
  | case1 => rfl
  | case2 c =>
      have hc : c ≠ ',' := by simpa using h
      rw [listItems_cons (.inl hc)]
      rfl
  | case3 c d item ih =>
      rw [Bool.and_eq_true, Bool.or_eq_true, bne_iff_ne, bne_iff_ne] at h
      rw [listItems_cons (by simpa using h.1), ih h.2]
      rfl

/-- A list is read back item by item. -/
theorem listItems_commaList {items : List String} (hne : items ≠ [])
    (hitems : ∀ item ∈ items, isItem item.toList = true) :
    listItems (commaList items).toList = items.map String.toList := by
  rw [commaList, String.toList_intercalate]
  induction items with
  | nil => contradiction
  | cons item rest ih =>
      obtain ⟨hitem, hrest⟩ := List.forall_mem_cons.mp hitems
      cases rest with
      | nil => simpa using listItems_of_isItem hitem
      | cons next more =>
          rw [List.map_cons, List.map_cons, List.intercalate_cons_cons, List.append_assoc,
            ← List.map_cons]
          exact (listItems_append hitem _).trans (congrArg _ (ih (List.cons_ne_nil _ _) hrest))

/-- So is one whose items are written from something. -/
theorem listItems_map {α : Type} {items : List α} {written : α → String} (hne : items ≠ [])
    (hitems : ∀ a, isItem (written a).toList = true) :
    listItems (commaList (items.map written)).toList =
      items.map fun a => (written a).toList := by
  rw [listItems_commaList (by simpa using hne), List.map_map]
  · rfl
  · intro item hitem
    obtain ⟨a, -, rfl⟩ := List.mem_map.mp hitem
    exact hitems a

/-- What stands in front of a list belongs to its first item. -/
theorem commaList_cons_append (lead first : String) (rest : List String) :
    commaList ((lead ++ first) :: rest) = lead ++ commaList (first :: rest) := by
  rw [← String.toList_inj, commaList, commaList, String.toList_append, String.toList_intercalate,
    String.toList_intercalate]
  cases rest with
  | nil => simp
  | cons next more => simp [List.intercalate_cons_cons]

theorem isItem_append {item more : List Char} (hitem : ',' ∉ item) (hmore : isItem more = true) :
    isItem (item ++ more) = true := by
  induction item with
  | nil => exact hmore
  | cons c item ih =>
      obtain ⟨hc, hrest⟩ : ',' ≠ c ∧ ',' ∉ item := by simpa using hitem
      have hrest := ih hrest
      rw [List.cons_append]
      generalize item ++ more = rest at hrest
      cases rest with
      | nil => simpa [isItem] using hc.symm
      | cons d rest => simp [isItem, Ne.symm hc, hrest]

theorem isItem_of_not_mem {item : List Char} (h : ',' ∉ item) : isItem item = true := by
  simpa using isItem_append h (show isItem [] = true from rfl)

/-- A sign in front of a text without commas, whatever the sign is. -/
theorem isItem_cons {sign c : Char} {text : List Char} (hblank : c ≠ ' ')
    (hcomma : ',' ∉ c :: text) : isItem (sign :: c :: text) = true := by
  simp [isItem, hblank, isItem_of_not_mem hcomma]

/-! ## Placeholders -/

/-- What inserts and updates are written with besides the characters of names. -/
def signs : List Char :=
  [' ', ',', ';', '=', '(', ')', '[', ']', '"', '{', '}']

/-- The names that stand behind a sign. -/
def placeholdersIn (mark : Char) : List Char → List (List Char)
  | [] => []
  | c :: rest =>
      if c = mark ∧ rest.head?.any Ident.isStart = true then
        rest.takeWhile Ident.isPart :: placeholdersIn mark rest
      else placeholdersIn mark rest

variable {mark : Char}

theorem isPart_of_isStart {c : Char} (h : Ident.isStart c = true) : Ident.isPart c = true := by
  simp only [Ident.isStart, Bool.or_eq_true] at h
  rcases h with h | h <;> simp [Ident.isPart, Char.isAlphanum, h]

theorem placeholdersIn_cons_of_ne {c : Char} (h : c ≠ mark) (rest : List Char) :
    placeholdersIn mark (c :: rest) = placeholdersIn mark rest := by
  simp [placeholdersIn, h]

/-- What has no sign in it has no placeholders, and leaves those that follow. -/
theorem placeholdersIn_append_of_not_mem {text : List Char} (h : mark ∉ text) (rest : List Char) :
    placeholdersIn mark (text ++ rest) = placeholdersIn mark rest := by
  induction text with
  | nil => rfl
  | cons c text ih =>
      obtain ⟨hc, htext⟩ : mark ≠ c ∧ mark ∉ text := by simpa using h
      rw [List.cons_append, placeholdersIn_cons_of_ne (Ne.symm hc), ih htext]

theorem placeholdersIn_of_not_mem {text : List Char} (h : mark ∉ text) :
    placeholdersIn mark text = [] := by
  simpa [placeholdersIn] using placeholdersIn_append_of_not_mem h []

/-- Two texts are read one after the other, where the second one does not go on with a name. -/
theorem placeholdersIn_append {rest : List Char}
    (hrest : ∀ c ∈ rest.head?, Ident.isPart c = false) (text : List Char) :
    placeholdersIn mark (text ++ rest) =
      placeholdersIn mark text ++ placeholdersIn mark rest := by
  induction text with
  | nil => rfl
  | cons c text ih =>
      have hhead : (text ++ rest).head?.any Ident.isStart = text.head?.any Ident.isStart := by
        cases text with
        | cons d text => rfl
        | nil =>
            cases rest with
            | nil => rfl
            | cons d rest =>
                have hd : Ident.isPart d = false := hrest d rfl
                have : Ident.isStart d = false :=
                  Bool.eq_false_iff.mpr fun h => by simp [isPart_of_isStart h] at hd
                simpa using this
      have htake : (text ++ rest).takeWhile Ident.isPart = text.takeWhile Ident.isPart := by
        have hnone : rest.takeWhile Ident.isPart = [] := by
          cases rest with
          | nil => rfl
          | cons d rest => simp [show Ident.isPart d = false from hrest d rfl]
        rw [List.takeWhile_append, hnone, List.append_nil]
        split
        · next hlength =>
          exact (List.takeWhile_prefix _).eq_of_length hlength |>.symm
        · rfl
      rw [List.cons_append, placeholdersIn, placeholdersIn, hhead, htake, ih]
      split <;> rfl

/-- A placeholder is read as its name. -/
theorem placeholdersIn_name (hmark : Ident.isPart mark = false) (name : Ident) :
    placeholdersIn mark (mark :: name.name.toList) = [name.name.toList] := by
  have hparts := Ident.isPart_of_mem name.valid
  have hnone : mark ∉ name.name.toList := fun hmem => by simp [hparts mark hmem] at hmark
  have hstart : name.name.toList.head?.any Ident.isStart = true := by
    have hvalid := name.valid
    cases hname : name.name.toList with
    | nil => simp [hname, Ident.isName] at hvalid
    | cons c rest =>
        rw [hname, Ident.isName, Bool.and_eq_true] at hvalid
        exact hvalid.1
  have hend : ∀ c ∈ ([] : List Char).head?, Ident.isPart c = false := by simp
  have htake : name.name.toList.takeWhile Ident.isPart = name.name.toList := by
    simpa using (takeWhile_append_of_head? hparts hend).1
  rw [placeholdersIn, if_pos ⟨rfl, hstart⟩, placeholdersIn_of_not_mem hnone, htake]

/-- Where a table is put in at the front, no name starts there. -/
theorem isStart_head?_of_putTable {first : Char} {table clause : List Char}
    (hfirst : Ident.isStart first = false)
    (h : (putTable (first :: table) clause).head?.any Ident.isStart = true) :
    clause.head?.any Ident.isStart = true := by
  unfold putTable at h
  split at h
  · simp [hfirst] at h
  · exact h
  · exact h

/-- A clause without placeholders has none after a table is put in for its mark. -/
theorem placeholdersIn_putTable {first : Char} {table clause : List Char}
    (hfirst : Ident.isStart first = false) (htable : mark ∉ first :: table)
    (hbraces : mark ∉ "\x7btable\x7d".toList) (h : placeholdersIn mark clause = []) :
    placeholdersIn mark (putTable (first :: table) clause) = [] := by
  fun_induction putTable (first :: table) clause with
  | case1 rest ih =>
      rw [placeholdersIn_append_of_not_mem htable]
      exact ih ((placeholdersIn_append_of_not_mem hbraces rest).symm.trans h)
  | case2 c rest hother ih =>
      rw [placeholdersIn] at h ⊢
      split at h
      · contradiction
      · next hnone =>
        rw [if_neg fun ⟨hmark, hstart⟩ =>
          hnone ⟨hmark, isStart_head?_of_putTable hfirst hstart⟩]
        exact ih h
  | case3 => rfl

/-- A part of a text that does not go on with a name, and the placeholders in it. -/
structure Passage (mark : Char) (text : List Char) (names : List (List Char)) : Prop where
  head : ∀ c ∈ text.head?, Ident.isPart c = false
  placeholders : placeholdersIn mark text = names

namespace Passage

variable {text more : List Char} {names others : List (List Char)}

theorem nil : Passage mark [] [] :=
  ⟨by simp, rfl⟩

theorem append (h : Passage mark text names) (hmore : Passage mark more others) :
    Passage mark (text ++ more) (names ++ others) where
  head := by
    cases text with
    | nil => exact hmore.head
    | cons c text => exact h.head
  placeholders := by rw [placeholdersIn_append hmore.head, h.placeholders, hmore.placeholders]

/-- A list has the placeholders of its items. -/
theorem commaList {α : Type} (items : List α) (written : α → String)
    {names : α → List (List Char)} (hmark : mark ∉ [',', ' '])
    (hitems : ∀ a, Passage mark (written a).toList (names a)) :
    Passage mark (commaList (items.map written)).toList (items.flatMap names) := by
  have hseparator : Passage mark [',', ' '] [] :=
    ⟨by simp [Ident.isPart], placeholdersIn_of_not_mem hmark⟩
  rw [Sql.commaList, String.toList_intercalate, List.map_map]
  induction items with
  | nil => exact nil
  | cons a rest ih =>
      cases rest with
      | nil => simpa using hitems a
      | cons b more =>
          rw [List.map_cons, List.map_cons, List.intercalate_cons_cons, List.flatMap_cons]
          simpa using ((hitems a).append hseparator).append ih

end Passage

end RecordSql.Sql
