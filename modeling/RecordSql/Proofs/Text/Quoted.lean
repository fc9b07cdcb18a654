import Mathlib.Logic.Function.Basic
import RecordSql.Dialect

/-!
# Delimited text read back

A quoted text stands in the middle of a statement.  A reader that knows the delimiters alone finds
where it ends: it takes exactly what was quoted and leaves exactly what follows, unless that begins
with the closing delimiter too.  So the writers of identifiers and of text literals are injective,
and nothing in a text ends its token early.
-/

namespace RecordSql

namespace Text

variable {closing : Char} {text s t rest more : List Char}

/-! ## Up to the closing delimiter -/

/-- What was quoted is read back, up to the closing delimiter and no further. -/
theorem untilClosing?_doubled (hrest : ∀ c ∈ rest.head?, c ≠ closing) (text : List Char) :
    untilClosing? closing (doubled closing text ++ closing :: rest) = some (text, rest) := by
  induction text with
  | nil =>
      cases rest with
      | nil => simp [doubled, untilClosing?]
      | cons c rest =>
          have hne : c ≠ closing := hrest c rfl
          simp [doubled, untilClosing?, hne]
  | cons c text ih =>
      by_cases hc : c = closing
      · simp [doubled, hc, untilClosing?, ih]
      · cases hmore : doubled closing text ++ closing :: rest with
        | nil => simp at hmore
        | cons d more =>
            rw [hmore] at ih
            simp [doubled, hc, hmore, untilClosing?, ih]

/-- The reader takes nothing but what was quoted. -/
theorem eq_doubled_of_untilClosing? (h : untilClosing? closing text = some (s, rest)) :
    text = doubled closing s ++ closing :: rest ∧ rest.head? ≠ some closing := by
  induction text using untilClosing?.induct closing generalizing s rest with
  | case1 => simp [untilClosing?] at h
  | case2 =>
      obtain ⟨rfl, rfl⟩ : s = [] ∧ rest = [] := by simpa [untilClosing?, eq_comm] using h
      simp [doubled]
  | case3 c hc => simp [untilClosing?, hc] at h
  | case4 more ih =>
      -- A doubled delimiter stands for one of them, and the reader goes on.
      simp only [untilClosing?, if_true, Option.map_eq_some_iff, Prod.mk.injEq] at h
      obtain ⟨⟨inner, rest⟩, hinner, rfl, rfl⟩ := h
      obtain ⟨rfl, hhead⟩ := ih hinner
      exact ⟨by simp [doubled], hhead⟩
  | case5 d more hd =>
      simp only [untilClosing?, if_true, hd, if_false, Option.some.injEq, Prod.mk.injEq] at h
      obtain ⟨rfl, rfl⟩ := h
      exact ⟨by simp [doubled], by simpa using hd⟩
  | case6 c d more hc ih =>
      simp only [untilClosing?, hc, if_false, Option.map_eq_some_iff, Prod.mk.injEq] at h
      obtain ⟨⟨inner, rest⟩, hinner, rfl, rfl⟩ := h
      obtain ⟨htext, hhead⟩ := ih hinner
      exact ⟨by simp [doubled, hc, htext], hhead⟩

/-! ## Between the delimiters -/

namespace Delimiters

variable {delimiters : Delimiters}

/-- A text is read as `s` with `rest` behind it just if `s` was quoted and `rest` put behind it, and
`rest` does not begin with the closing delimiter. -/
theorem unquote?_eq_some_iff :
    delimiters.unquote? text = some (s, rest) ↔
      text = delimiters.quote s ++ rest ∧ rest.head? ≠ some delimiters.closing := by
  constructor
  · intro h
    cases text with
    | nil => simp [unquote?] at h
    | cons c text =>
        by_cases hc : c = delimiters.opening
        · rw [unquote?, if_pos hc] at h
          obtain ⟨htext, hhead⟩ := eq_doubled_of_untilClosing? h
          exact ⟨by simp [quote, hc, htext], hhead⟩
        · simp [unquote?, hc] at h
  · rintro ⟨rfl, hhead⟩
    have hnext : ∀ c ∈ rest.head?, c ≠ delimiters.closing := fun c hc heq => hhead (heq ▸ hc)
    simpa [quote, unquote?] using untilClosing?_doubled hnext s

/-- Two quoted texts with more text behind them are the same only if both parts are. -/
theorem quote_append_inj (hrest : rest.head? ≠ some delimiters.closing)
    (hmore : more.head? ≠ some delimiters.closing)
    (h : delimiters.quote s ++ rest = delimiters.quote t ++ more) : s = t ∧ rest = more := by
  have hs : delimiters.unquote? (delimiters.quote s ++ rest) = some (s, rest) :=
    unquote?_eq_some_iff.mpr ⟨rfl, hrest⟩
  have ht : delimiters.unquote? (delimiters.quote s ++ rest) = some (t, more) :=
    unquote?_eq_some_iff.mpr ⟨h, hmore⟩
  exact Prod.mk.inj (Option.some.inj (hs.symm.trans ht))

/-- A writer whose tokens can be found and read by their delimiters alone. -/
structure Decodes (delimiters : Delimiters) (write : String → String) : Prop where
  /-- The reader recovers what was written and what follows it, and nothing else. -/
  reads_iff : ∀ text s rest : String,
    delimiters.unquote? text.toList = some (s.toList, rest.toList) ↔
      text = write s ++ rest ∧ rest.toList.head? ≠ some delimiters.closing
  injective : Function.Injective write
  /-- Where a token ends does not depend on what is taken to be in it. -/
  ends_once : ∀ s t rest more : String, rest.toList.head? ≠ some delimiters.closing →
    more.toList.head? ≠ some delimiters.closing → write s ++ rest = write t ++ more →
      s = t ∧ rest = more

/-- Putting texts between delimiters is enough. -/
theorem decodes_of_toList {write : String → String}
    (hwrite : ∀ s, (write s).toList = delimiters.quote s.toList) : delimiters.Decodes write := by
  have hends (s t rest more : String) (hrest : rest.toList.head? ≠ some delimiters.closing)
      (hmore : more.toList.head? ≠ some delimiters.closing)
      (h : write s ++ rest = write t ++ more) : s = t ∧ rest = more := by
    have hlist := congrArg String.toList h
    rw [String.toList_append, String.toList_append, hwrite, hwrite] at hlist
    obtain ⟨hs, hr⟩ := quote_append_inj hrest hmore hlist
    exact ⟨String.toList_injective hs, String.toList_injective hr⟩
  refine ⟨fun text s rest => ?_, fun s t h => ?_, hends⟩
  · rw [unquote?_eq_some_iff, ← hwrite, ← String.toList_append, String.toList_inj]
  · exact (hends s t "" "" (by simp) (by simp) (by rw [h])).1

end Delimiters

end Text

/-- The writers of identifiers, in both styles, and the writer of text literals write tokens that
are read back in any text that does not go on with the closing delimiter. -/
theorem writers_decode :
    (∀ style : QuoteStyle, style.delimiters.Decodes style.quote) ∧
      Text.apostrophes.Decodes Dialect.textLiteral := by
  refine ⟨fun style => Text.Delimiters.decodes_of_toList fun s => ?_,
    Text.Delimiters.decodes_of_toList fun s => ?_⟩
  · rw [QuoteStyle.quote, String.toList_ofList]
  · rw [Dialect.textLiteral, String.toList_ofList]

/-- Delimiters at the start, in the middle and at the end, and an opening one behind. -/
example :
    QuoteStyle.bracket.delimiters.unquote? (QuoteStyle.bracket.quote "]a]]" ++ "[b]").toList =
      some ("]a]]".toList, "[b]".toList) := by
  decide

end RecordSql
