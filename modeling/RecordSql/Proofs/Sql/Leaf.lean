import RecordSql.Binary64.Decimal
import RecordSql.Proofs.Text.Quoted
import RecordSql.Sql.Expr

/-!
# Leaves of written expressions

What stands on one side of a comparison, as a reader of the text sees it: a delimited identifier,
a placeholder, a text literal, a number or null.  A leaf that a blank or a parenthesis follows is
read back by a scan that knows only the dialect, so no two leaves can be confused and no text
literal ends before its closing apostrophe.
-/

namespace RecordSql

/-! ## Names and runs of characters -/

/-- The characters of a name are parts of names. -/
theorem Ident.isPart_of_mem {name : List Char} (h : isName name = true) :
    ∀ c ∈ name, isPart c = true := by
  cases name with
  | nil => simp
  | cons first rest =>
      simp only [isName, Bool.and_eq_true, List.all_eq_true] at h
      intro c hc
      rcases List.mem_cons.mp hc with rfl | hc
      · have hstart := h.1
        simp only [isStart, Bool.or_eq_true] at hstart
        rcases hstart with hunderscore | halpha
        · simp [isPart, hunderscore]
        · simp [isPart, Char.isAlphanum, halpha]
      · exact h.2 c hc

/-- A run of characters of one class is taken whole. -/
theorem takeWhile_append_of_head? {p : Char → Bool} {text rest : List Char}
    (htext : ∀ c ∈ text, p c = true) (hrest : ∀ c ∈ rest.head?, p c = false) :
    (text ++ rest).takeWhile p = text ∧ (text ++ rest).dropWhile p = rest := by
  have hnone : rest.takeWhile p = [] ∧ rest.dropWhile p = rest := by
    cases rest with
    | nil => exact ⟨rfl, rfl⟩
    | cons c rest =>
        have hc : p c = false := hrest c rfl
        simp [hc]
  rw [List.takeWhile_append_of_pos htext, List.dropWhile_append_of_pos htext, hnone.1, hnone.2,
    List.append_nil]
  exact ⟨rfl, rfl⟩

/-- The dialects whose placeholders begin with a sign that no other leaf begins with. -/
def Dialect.MarksPlaceholders (dialect : Dialect) : Prop :=
  dialect.placeholderMark = '@' ∨ dialect.placeholderMark = ':'

namespace Sql

/-! ## Leaves -/

/-- One side of a comparison, as it is read. -/
inductive Leaf where
  | identifier (text : String)
  | placeholder (name : String)
  | text (value : String)
  | number (digits : String)
  | null
  deriving DecidableEq

/-- Digits with at most one point among them, a digit first. -/
def isUnsigned (text : List Char) : Bool :=
  text.head?.any Char.isDigit && text.all (fun c => c.isDigit || c == '.') && text.count '.' ≤ 1

/-- The same behind an optional minus sign. -/
def isNumber : List Char → Bool
  | '-' :: rest => isUnsigned rest
  | text => isUnsigned text

/-- The texts that stand for a leaf in a dialect. -/
inductive Leaf.Spells (dialect : Dialect) : Leaf → List Char → Prop
  | identifier (text : String) :
      Spells dialect (.identifier text) (dialect.quoteStyle.delimiters.quote text.toList)
  | placeholder {name : String} (hname : Ident.isName name.toList = true) :
      Spells dialect (.placeholder name) (dialect.placeholderMark :: name.toList)
  | text (value : String) : Spells dialect (.text value) (Text.apostrophes.quote value.toList)
  | number {digits : String} (hdigits : isNumber digits.toList = true) :
      Spells dialect (.number digits) digits.toList
  | null : Spells dialect .null "NULL".toList

/-! ## Reading a leaf back -/

/-- The characters of numbers. -/
def isNumberPart (c : Char) : Bool :=
  c.isDigit || c == '.' || c == '-'

/-- Read the leaf at the front of a text; its first character says of which form it is. -/
def Leaf.scan? (dialect : Dialect) : List Char → Option (Leaf × List Char)
  | [] => none
  | c :: rest =>
      if c = dialect.placeholderMark then
        some (.placeholder (String.ofList (rest.takeWhile Ident.isPart)),
          rest.dropWhile Ident.isPart)
      else if c = '\'' then
        (Text.untilClosing? '\'' rest).map fun (value, more) => (.text (String.ofList value), more)
      else if c = dialect.quoteStyle.delimiters.opening then
        (Text.untilClosing? dialect.quoteStyle.delimiters.closing rest).map
          fun (name, more) => (.identifier (String.ofList name), more)
      else if c = 'N' then some (.null, rest.drop 3)
      else
        some (.number (String.ofList ((c :: rest).takeWhile isNumberPart)),
          (c :: rest).dropWhile isNumberPart)

/-- What follows a leaf in an expression. -/
def Ends (rest : List Char) : Prop :=
  ∃ c more, rest = c :: more ∧ (c = ' ' ∨ c = ')')

theorem isNumber_cons_iff {c : Char} {text : List Char} :
    isNumber (c :: text) = true ↔
      (c = '-' ∧ isUnsigned text = true) ∨ (c ≠ '-' ∧ isUnsigned (c :: text) = true) := by
  unfold isNumber
  split
  · next heq =>
    obtain ⟨rfl, rfl⟩ := List.cons.inj heq
    simp
  · next hne =>
    have : c ≠ '-' := fun h => hne text (by rw [h])
    simp [this]

/-- A number begins with a digit or a minus sign, and goes on with digits and points. -/
theorem exists_cons_of_isNumber {text : List Char} (h : isNumber text = true) :
    ∃ c rest, text = c :: rest ∧ (c.isDigit = true ∨ c = '-') ∧
      ∀ d ∈ text, isNumberPart d = true := by
  have hpart {body : List Char} (hbody : isUnsigned body = true) :
      ∀ d ∈ body, isNumberPart d = true := by
    intro d hd
    simp only [isUnsigned, Bool.and_eq_true, List.all_eq_true, Bool.or_eq_true] at hbody
    simp only [isNumberPart, Bool.or_eq_true]
    exact Or.inl (hbody.1.2 d hd)
  cases text with
  | nil => simp [isNumber, isUnsigned] at h
  | cons c rest =>
      refine ⟨c, rest, rfl, ?_⟩
      rcases isNumber_cons_iff.mp h with ⟨rfl, hrest⟩ | ⟨-, hall⟩
      · refine ⟨Or.inr rfl, ?_⟩
        intro d hd
        rcases List.mem_cons.mp hd with rfl | hd
        · rfl
        · exact hpart hrest d hd
      · refine ⟨Or.inl ?_, hpart hall⟩
        simp only [isUnsigned, Bool.and_eq_true] at hall
        simpa using hall.1.1

theorem Ends.head?_not {rest : List Char} {p : Char → Bool} (h : Ends rest)
    (hblank : p ' ' = false) (hclose : p ')' = false) : ∀ c ∈ rest.head?, p c = false := by
  obtain ⟨c, more, rfl, rfl | rfl⟩ := h
  · simpa using hblank
  · simpa using hclose

/-- Reading back what was quoted, with more text after it. -/
theorem untilClosing?_of_ends (closing : Char) {rest : List Char} (hrest : Ends rest)
    (hblank : closing ≠ ' ') (hclose : closing ≠ ')') (text : List Char) :
    Text.untilClosing? closing (Text.doubled closing text ++ [closing] ++ rest) =
      some (text, rest) := by
  rw [List.append_assoc]
  refine Text.untilClosing?_doubled (fun c hc => ?_) text
  have := hrest.head?_not (p := (· == closing)) (by simpa using hblank.symm)
    (by simpa using hclose.symm) c hc
  simpa using this

/-- The scan reads back the leaf that a text spells, and stops where it ends. -/
theorem Leaf.scan?_of_spells {dialect : Dialect} (hmark : dialect.MarksPlaceholders) {leaf : Leaf}
    {text rest : List Char} (h : leaf.Spells dialect text) (hrest : Ends rest) :
    scan? dialect (text ++ rest) = some (leaf, rest) := by
  -- The first character of each form is not one that an earlier branch of the scan looks for.
  cases h with
  | identifier name =>
      have hread := untilClosing?_of_ends dialect.quoteStyle.delimiters.closing hrest
        (by cases dialect.quoteStyle <;> decide) (by cases dialect.quoteStyle <;> decide)
        name.toList
      have hne : dialect.quoteStyle.delimiters.opening ≠ dialect.placeholderMark := by
        rcases hmark with hmark | hmark <;> rw [hmark] <;> cases dialect.quoteStyle <;> decide
      have hquote : dialect.quoteStyle.delimiters.opening ≠ '\'' := by
        cases dialect.quoteStyle <;> decide
      rw [Text.Delimiters.quote, List.cons_append, scan?, if_neg hne, if_neg hquote, if_pos rfl,
        hread]
      simp
  | @placeholder name hname =>
      have hparts : ∀ c ∈ name.toList, Ident.isPart c = true := Ident.isPart_of_mem hname
      obtain ⟨htake, hdrop⟩ := takeWhile_append_of_head? hparts
        (hrest.head?_not (p := Ident.isPart) (by decide) (by decide))
      rw [List.cons_append, scan?, if_pos rfl, htake, hdrop, String.ofList_toList]
  | text value =>
      have hread := untilClosing?_of_ends '\'' hrest (by decide) (by decide)
        value.toList
      have hne : '\'' ≠ dialect.placeholderMark := by
        rcases hmark with hmark | hmark <;> rw [hmark] <;> decide
      have hquote : Text.apostrophes.quote value.toList =
        '\'' :: (Text.doubled '\'' value.toList ++ ['\'']) := rfl
      rw [hquote, List.cons_append, scan?, if_neg hne, if_pos rfl, hread]
      simp
  | @number digits hdigits =>
      obtain ⟨c, chars, hcons, hlead, hparts⟩ := exists_cons_of_isNumber hdigits
      obtain ⟨htake, hdrop⟩ := takeWhile_append_of_head? hparts
        (hrest.head?_not (p := isNumberPart) (by decide) (by decide))
      have hne {d : Char} (hdigit : d.isDigit = false) (hminus : d ≠ '-') : c ≠ d := by
        rintro rfl
        rcases hlead with hlead | hlead
        · rw [hlead] at hdigit
          contradiction
        · contradiction
      have hmark : c ≠ dialect.placeholderMark := by
        rcases hmark with hmark | hmark <;> rw [hmark] <;> exact hne (by decide) (by decide)
      have hopening : c ≠ dialect.quoteStyle.delimiters.opening := by
        cases dialect.quoteStyle <;> exact hne (by decide) (by decide)
      rw [hcons, List.cons_append, scan?, if_neg hmark, if_neg (hne (by decide) (by decide)),
        if_neg hopening, if_neg (hne (by decide) (by decide)), ← List.cons_append, ← hcons, htake,
        hdrop, String.ofList_toList]
  | null =>
      have hne : 'N' ≠ dialect.placeholderMark := by
        rcases hmark with hmark | hmark <;> rw [hmark] <;> decide
      have hopening : 'N' ≠ dialect.quoteStyle.delimiters.opening := by
        cases dialect.quoteStyle <;> decide
      have hnull : "NULL".toList = ['N', 'U', 'L', 'L'] := by decide
      rw [hnull, List.cons_append, scan?, if_neg hne, if_neg (by decide), if_neg hopening,
        if_pos rfl]
      rfl

/-- A text spells one leaf, and where it ends is determined by what stands before. -/
theorem Leaf.Spells.unique {dialect : Dialect} (hmark : dialect.MarksPlaceholders)
    {leaf leaf' : Leaf} {text text' rest rest' : List Char} (h : leaf.Spells dialect text)
    (h' : leaf'.Spells dialect text') (hrest : Ends rest) (hrest' : Ends rest')
    (heq : text ++ rest = text' ++ rest') : leaf = leaf' ∧ text = text' ∧ rest = rest' := by
  -- One scan of the text reads both leaves.
  have hscan := scan?_of_spells hmark h hrest
  rw [heq, scan?_of_spells hmark h' hrest'] at hscan
  obtain ⟨rfl, rfl⟩ := Prod.mk.inj (Option.some.inj hscan)
  exact ⟨rfl, List.append_cancel_right heq, rfl⟩

/-! ## Numbers as they are written -/

/-- There is no point among digits. -/
theorem count_point_of_digits {text : List Char} (h : ∀ c ∈ text, c.isDigit = true) :
    text.count '.' = 0 := by
  rw [List.count_eq_zero]
  intro hmem
  have hdigit := h _ hmem
  contradiction

theorem isUnsigned_of_digits {text : List Char} (hne : text ≠ [])
    (h : ∀ c ∈ text, c.isDigit = true) : isUnsigned text = true := by
  have hpoint := count_point_of_digits h
  obtain ⟨first, rest, rfl⟩ := List.exists_cons_of_ne_nil hne
  simp only [isUnsigned, hpoint, Bool.and_eq_true, List.all_eq_true]
  refine ⟨⟨?_, fun c hc => by simp [h c hc]⟩, by decide⟩
  simpa using h first List.mem_cons_self

/-- Digits with a point between them. -/
theorem isUnsigned_of_point {whole fraction : List Char} (hne : whole ≠ [])
    (hwhole : ∀ c ∈ whole, c.isDigit = true) (hfraction : ∀ c ∈ fraction, c.isDigit = true) :
    isUnsigned (whole ++ '.' :: fraction) = true := by
  have hpoints : (whole ++ '.' :: fraction).count '.' = 1 := by
    rw [List.count_append, List.count_cons_self, count_point_of_digits hwhole,
      count_point_of_digits hfraction]
  obtain ⟨first, rest, rfl⟩ := List.exists_cons_of_ne_nil hne
  simp only [isUnsigned, Bool.and_eq_true, List.all_eq_true, hpoints]
  refine ⟨⟨?_, fun c hc => ?_⟩, by decide⟩
  · simpa using hwhole first List.mem_cons_self
  · rcases List.mem_append.mp hc with hc | hc
    · simp [hwhole c hc]
    · rcases List.mem_cons.mp hc with rfl | hc
      · simp
      · simp [hfraction c hc]

theorem isNumber_of_isUnsigned {text : List Char} (h : isUnsigned text = true) :
    isNumber text = true := by
  unfold isNumber
  split
  · simp [isUnsigned] at h
  · exact h

theorem isDigit_of_mem_toDigits {n : Nat} {c : Char} (h : c ∈ Nat.toDigits 10 n) :
    c.isDigit = true :=
  Nat.isDigit_of_mem_toDigits (by decide) (by decide) h

/-- Digits with the point put in place are a number. -/
theorem isUnsigned_plain (decimal : Binary64.Decimal) : isUnsigned decimal.plain = true := by
  have hdigits (c : Char) (hc : c ∈ Nat.toDigits 10 decimal.digits) : c.isDigit = true :=
    isDigit_of_mem_toDigits hc
  have hzeros (n : Nat) (c : Char) (hc : c ∈ List.replicate n '0') : c.isDigit = true := by
    rw [List.eq_of_mem_replicate hc]
    decide
  unfold Binary64.Decimal.plain
  dsimp only
  split
  · -- Zeros follow the digits, and there is no point.
    refine isUnsigned_of_digits (by simp) ?_
    intro c hc
    rcases List.mem_append.mp hc with hc | hc
    · exact hdigits c hc
    · exact hzeros _ c hc
  · split
    · -- The point stands among the digits, and at least one of them is before it.
      next hplaces =>
      refine isUnsigned_of_point ?_ (fun c hc => hdigits c (List.mem_of_mem_take hc))
        fun c hc => hdigits c (List.mem_of_mem_drop hc)
      rw [← List.length_pos_iff, List.length_take]
      omega
    · -- The point comes before all digits, behind a zero.
      refine isUnsigned_of_point (List.cons_ne_nil '0' []) (by simp) ?_
      intro c hc
      rcases List.mem_append.mp hc with hc | hc
      · exact hzeros _ c hc
      · exact hdigits c hc

/-- A finite real is written as a number. -/
theorem isNumber_plain {value : Binary64} (h : value.isFinite = true) :
    isNumber value.plain.toList = true := by
  cases value with
  | nan => contradiction
  | infinite negative => contradiction
  | finite negative mantissa shift hcanonical =>
      rw [Binary64.plain, String.toList_ofList]
      cases negative with
      | false => exact isNumber_of_isUnsigned (isUnsigned_plain _)
      | true => exact isUnsigned_plain _

/-- A whole number is written as a number. -/
theorem isNumber_toString (value : Int64) : isNumber (toString value).toList = true := by
  have hnat (n : Nat) : isUnsigned (Nat.repr n).toList = true := by
    rw [Nat.repr, String.toList_ofList]
    exact isUnsigned_of_digits (by simp) fun c hc => isDigit_of_mem_toDigits hc
  change isNumber (Int.repr value.toInt).toList = true
  cases value.toInt with
  | ofNat n => exact isNumber_of_isUnsigned (hnat n)
  | negSucc n =>
      rw [Int.repr, String.toList_append]
      exact hnat _

theorem isNumber_flagText (value : Bool) : isNumber (flagText value).toList = true := by
  cases value <;> decide

end Sql

end RecordSql
