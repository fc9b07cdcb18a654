import RecordSql.Proofs.Text.Characters
import RecordSql.Uuid.Parser

/-!
# The stored text of a uuid

Hyphens stand at fixed places of the written form and nowhere else.  So taking them out gives the
digits back, and the order of texts is the order of the digits.
-/

namespace RecordSql.Uuid

/-! ## Hyphens -/

theorem hexChar_ne_hyphen (digit : Fin 16) : Text.hexChar digit ≠ '-' := by
  revert digit
  decide

theorem toLower_hexChar (digit : Fin 16) : (Text.hexChar digit).toLower = Text.hexChar digit := by
  revert digit
  decide

theorem utf8Size_hexChar (digit : Fin 16) : (Text.hexChar digit).utf8Size = 1 := by
  revert digit
  decide

/-- The characters of digits are ordered as the digits. -/
theorem compare_hexChar (x y : Fin 16) :
    Ord.compare (Text.hexChar x) (Text.hexChar y) = Ord.compare x.val y.val := by
  revert x y
  decide

section Hyphenate

variable {sizes : List Nat} {text : List Char}

theorem mem_hyphenate {c : Char} (h : c ∈ hyphenate sizes text) : c = '-' ∨ c ∈ text := by
  fun_induction hyphenate sizes text with
  | case1 => simp at h
  | case2 size text => exact Or.inr (List.mem_of_mem_take h)
  | case3 size sizes text hmore ih =>
      rcases List.mem_append.mp h with h | h
      · exact Or.inr (List.mem_of_mem_take h)
      · rcases List.mem_cons.mp h with rfl | h
        · exact Or.inl rfl
        · exact (ih h).imp_right List.mem_of_mem_drop

/-- There is a hyphen between any two groups. -/
theorem length_hyphenate (hsome : sizes ≠ []) (hsizes : sizes.sum = text.length) :
    (hyphenate sizes text).length + 1 = text.length + sizes.length := by
  fun_induction hyphenate sizes text with
  | case1 => contradiction
  | case2 size text =>
      simp only [List.sum_cons, List.sum_nil, Nat.add_zero] at hsizes
      simp [hsizes]
  | case3 size sizes text hmore ih =>
      rw [List.sum_cons] at hsizes
      have := ih hmore (by rw [List.length_drop]; omega)
      simp only [List.length_append, List.length_cons, List.length_take, List.length_drop] at this ⊢
      omega

/-- Without its hyphens a text is what it was before they were put in. -/
theorem filter_hyphenate (hsizes : sizes.sum = text.length) (htext : ∀ c ∈ text, c ≠ '-') :
    (hyphenate sizes text).filter (· ≠ '-') = text := by
  have hkeep {part : List Char} (hpart : ∀ c ∈ part, c ∈ text) :
      part.filter (· ≠ '-') = part :=
    List.filter_eq_self.mpr fun c hc => by simpa using htext c (hpart c hc)
  fun_induction hyphenate sizes text with
  | case1 => exact (List.length_eq_zero_iff.mp hsizes.symm).symm
  | case2 size text =>
      simp only [List.sum_cons, List.sum_nil, Nat.add_zero] at hsizes
      rw [hkeep fun c => List.mem_of_mem_take, List.take_of_length_le (Nat.le_of_eq hsizes.symm)]
  | case3 size sizes text hmore ih =>
      rw [List.sum_cons] at hsizes
      have hrest := ih (by rw [List.length_drop]; omega)
        (fun c hc => htext c (List.mem_of_mem_drop hc))
        (fun hpart => hkeep fun c hc => List.mem_of_mem_drop (hpart c hc))
      rw [List.filter_append, hkeep fun c => List.mem_of_mem_take,
        List.filter_cons_of_neg (by decide), hrest, List.take_append_drop]

/-- Texts with hyphens at the same places are ordered as those without. -/
theorem compare_hyphenate {text' : List Char} (hlength : text.length = text'.length)
    (hsizes : sizes.sum = text.length) :
    Ord.compare (hyphenate sizes text) (hyphenate sizes text') = Ord.compare text text' := by
  fun_induction hyphenate sizes text generalizing text' with
  | case1 text =>
      obtain rfl := List.length_eq_zero_iff.mp hsizes.symm
      obtain rfl := List.length_eq_zero_iff.mp hlength.symm
      rfl
  | case2 size text =>
      simp only [List.sum_cons, List.sum_nil, Nat.add_zero] at hsizes
      rw [hyphenate, hsizes, List.take_length, hlength, List.take_length]
  | case3 size sizes text hmore ih =>
      rw [List.sum_cons] at hsizes
      have htake : (text.take size).length = (text'.take size).length := by
        rw [List.length_take, List.length_take, hlength]
      have hdrop : (text.drop size).length = (text'.drop size).length := by
        rw [List.length_drop, List.length_drop, hlength]
      rw [hyphenate, Text.compare_append htake, Text.compare_cons_self,
        ih hdrop (by rw [List.length_drop]; omega), ← Text.compare_append htake,
        List.take_append_drop, List.take_append_drop]
      exact hmore

end Hyphenate

/-! ## The written form -/

theorem length_digits (u : Uuid) : groupSizes.sum = (u.digits.map Text.hexChar).length := by
  rw [List.length_map, u.length_eq]
  rfl

theorem length_chars (u : Uuid) : u.chars.length = 36 := by
  have := length_hyphenate (by decide) u.length_digits
  rw [List.length_map, u.length_eq] at this
  exact Nat.succ.inj this

theorem mem_chars {u : Uuid} {c : Char} (h : c ∈ u.chars) :
    c = '-' ∨ ∃ digit, c = Text.hexChar digit := by
  refine (mem_hyphenate h).imp_right fun hc => ?_
  obtain ⟨digit, -, rfl⟩ := List.mem_map.mp hc
  exact ⟨digit, rfl⟩

/-- Every character of the written form is one byte. -/
theorem byteCount_chars (u : Uuid) : Text.byteCount u.chars = 36 := by
  have hsingle {text : List Char} (h : ∀ c ∈ text, c.utf8Size = 1) :
      Text.byteCount text = text.length := by
    induction text with
    | nil => rfl
    | cons c rest ih =>
        rw [Text.byteCount, h c List.mem_cons_self,
          ih fun d hd => h d (List.mem_cons_of_mem c hd), List.length_cons, Nat.add_comm]
  rw [hsingle, length_chars]
  intro c hc
  rcases mem_chars hc with rfl | ⟨digit, rfl⟩
  · rfl
  · exact utf8Size_hexChar digit

theorem map_toLower_chars (u : Uuid) : u.chars.map Char.toLower = u.chars := by
  rw [List.map_congr_left (g := id), List.map_id]
  intro c hc
  rcases mem_chars hc with rfl | ⟨digit, rfl⟩
  · rfl
  · exact toLower_hexChar digit

theorem readBare?_digits (u : Uuid) : readBare? (u.digits.map Text.hexChar) = some u := by
  have hdigits (digits : List (Fin 16)) :
      (digits.map Text.hexChar).mapM Text.hexDigit? = some digits := by
    induction digits with
    | nil => rfl
    | cons digit rest ih => simp [Text.hexDigit?_hexChar, ih]
  simp [readBare?, hdigits, ofDigits?, u.length_eq]

/-- The stored text of a uuid is read back. -/
theorem read_text (u : Uuid) : read u.text = .ok u := by
  have hsubject : subject u.chars = u.chars := by
    simp [subject, byteCount_chars]
  have hdigits : u.chars.filter (· ≠ '-') = u.digits.map Text.hexChar := by
    refine filter_hyphenate u.length_digits fun c hc => ?_
    obtain ⟨digit, -, rfl⟩ := List.mem_map.mp hc
    exact hexChar_ne_hyphen digit
  have hread : readHyphenated? u.chars = some u := by
    rw [readHyphenated?, hdigits, readBare?_digits, map_toLower_chars]
    simp
  simp [read, text, hsubject, length_chars, hread]

/-- Stored texts are ordered as the uuids. -/
theorem compare_text (a b : Uuid) : Ord.compare a.text b.text = a.compare b := by
  have hlength : (a.digits.map Text.hexChar).length = (b.digits.map Text.hexChar).length := by
    rw [← length_digits, ← length_digits]
  have hmap (x y : List (Fin 16)) : Ord.compare (x.map Text.hexChar) (y.map Text.hexChar) =
      List.compareLex (fun x y : Fin 16 => Ord.compare x.val y.val) x y := by
    induction x generalizing y with
    | nil => cases y <;> rfl
    | cons digit x ih =>
        cases y with
        | nil => rfl
        | cons digit' y =>
            rw [List.map_cons, List.map_cons, List.compare_cons_cons, List.compareLex_cons_cons,
              compare_hexChar, ih]
  rw [text, text, Text.compare_ofList, chars, chars, compare_hyphenate hlength a.length_digits,
    hmap, compare]

end RecordSql.Uuid
