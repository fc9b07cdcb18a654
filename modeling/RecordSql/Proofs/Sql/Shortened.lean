import RecordSql.Sql.Log

/-!
# Shortened texts

The text of a statement is cut to a number of bytes before it is reported.  The place of the cut is
looked for backwards from the limit, and the first place found is the last one there is, so what is
shown is the longest beginning of whole characters within the limit.  No character has more than
four bytes, so the search ends after three steps at most.
-/

namespace RecordSql.Sql

variable {text front : String} {limit byte : Nat}

/-! ## The place of the cut -/

theorem lastBoundary_le (text : String) (limit : Nat) :
    (lastBoundary text limit).offset.byteIdx ≤ limit := by
  induction limit with
  | zero => exact Nat.le_refl 0
  | succ byte ih =>
      rw [lastBoundary]
      split
      · exact Nat.le_refl _
      · omega

/-- The search passes no place where the text could be cut. -/
theorem not_isValid_of_lastBoundary_lt (hlt : (lastBoundary text limit).offset.byteIdx < byte)
    (hle : byte ≤ limit) : ¬(String.Pos.Raw.mk byte).IsValid text := by
  induction limit with
  | zero => omega
  | succ last ih =>
      rw [lastBoundary] at hlt
      split at hlt
      · have hlt : last + 1 < byte := hlt
        omega
      · next hlast =>
        rcases Nat.lt_or_eq_of_le hle with hbefore | rfl
        · exact ih hlt (by omega)
        · exact hlast

/-- Every other place within the limit is before the one that is found. -/
theorem le_lastBoundary {p : text.Pos} (h : p.offset.byteIdx ≤ limit) :
    p.offset.byteIdx ≤ (lastBoundary text limit).offset.byteIdx := by
  refine Nat.le_of_not_lt fun hlt => ?_
  exact not_isValid_of_lastBoundary_lt hlt h p.isValid

/-- The place behind the character that does not fit is at most four bytes away. -/
theorem limit_le_lastBoundary (h : limit < text.utf8ByteSize) :
    limit ≤ (lastBoundary text limit).offset.byteIdx + 3 := by
  have hle := lastBoundary_le text limit
  have hend : lastBoundary text limit ≠ text.endPos := by
    intro heq
    have hsize : (lastBoundary text limit).offset.byteIdx = text.utf8ByteSize := by
      rw [heq, String.offset_endPos, String.byteIdx_rawEndPos]
    omega
  have hnext := (lastBoundary text limit).byteIdx_offset_next hend
  have hfour := ((lastBoundary text limit).get hend).utf8Size_le_four
  have hbeyond : limit < ((lastBoundary text limit).next hend).offset.byteIdx := by
    refine Nat.lt_of_not_le fun hwithin => ?_
    have hback := le_lastBoundary hwithin
    have hpos := ((lastBoundary text limit).get hend).utf8Size_pos
    omega
  omega

/-! ## What is shown -/

/-- The longest beginning of whole characters that takes no more bytes than the limit. -/
structure LongestFront (text : String) (limit : Nat) (front : String) : Prop where
  begins : ∃ rest, text = front ++ rest
  fits : front.utf8ByteSize ≤ limit
  longest : ∀ longer rest, text = longer ++ rest → front.utf8ByteSize < longer.utf8ByteSize →
    limit < longer.utf8ByteSize

theorem LongestFront.eq {other : String} (h : LongestFront text limit front)
    (h' : LongestFront text limit other) : front = other := by
  obtain ⟨rest, hrest⟩ := h.begins
  obtain ⟨more, hmore⟩ := h'.begins
  have hsize : front.utf8ByteSize = other.utf8ByteSize := by
    rcases Nat.lt_trichotomy front.utf8ByteSize other.utf8ByteSize with hlt | heq | hgt
    · exact absurd h'.fits (Nat.not_le_of_lt (h.longest other more hmore hlt))
    · exact heq
    · exact absurd h.fits (Nat.not_le_of_lt (h'.longest front rest hrest hgt))
  -- Both are the text up to the same byte.
  have hsplits := String.Pos.splits_ofEqAppend hrest
  have hsplits' := String.Pos.splits_ofEqAppend hmore
  have hplace : String.Pos.ofEqAppend hrest = String.Pos.ofEqAppend hmore := by
    apply String.Pos.ext
    rw [hsplits.offset_eq_rawEndPos, hsplits'.offset_eq_rawEndPos]
    exact congrArg String.Pos.Raw.mk hsize
  exact hsplits.eq_left (hplace ▸ hsplits')

theorem utf8ByteSize_truncated (text : String) (limit : Nat) :
    (truncated text limit).utf8ByteSize = (lastBoundary text limit).offset.byteIdx := by
  rw [(lastBoundary text limit).splits.offset_eq_rawEndPos]
  rfl

theorem longestFront_truncated (text : String) (limit : Nat) :
    LongestFront text limit (truncated text limit) where
  begins := ⟨_, (lastBoundary text limit).splits.eq_append⟩
  fits := by
    rw [utf8ByteSize_truncated]
    exact lastBoundary_le text limit
  longest := by
    intro longer rest htext hlonger
    have hplace := (String.Pos.splits_ofEqAppend htext).offset_eq_rawEndPos
    have hsize : (String.Pos.ofEqAppend htext).offset.byteIdx = longer.utf8ByteSize := by
      rw [hplace]
      rfl
    rw [utf8ByteSize_truncated, ← hsize] at hlonger
    rw [← hsize]
    exact Nat.lt_of_not_le fun hwithin => Nat.not_le_of_lt hlonger (le_lastBoundary hwithin)

/-- How a text is shown within a limit. -/
inductive Shows (text : String) : Option Nat → String → Prop
  | unlimited : Shows text none text
  | whole {limit : Nat} (h : text.utf8ByteSize ≤ limit) : Shows text (some limit) text
  | cut {limit : Nat} {front : String} (h : limit < text.utf8ByteSize)
      (hfront : LongestFront text limit front) : Shows text (some limit) (front ++ "...")

theorem shows_shorten (config : LogConfig) (text : String) :
    Shows text config.limit (config.shorten text) := by
  unfold LogConfig.shorten
  cases config.limit with
  | none => exact .unlimited
  | some limit =>
      by_cases h : text.utf8ByteSize ≤ limit
      · simp only [h, if_true]
        exact .whole h
      · simp only [h, if_false]
        exact .cut (Nat.lt_of_not_le h) (longestFront_truncated text limit)

theorem Shows.eq {limit : Option Nat} {shown other : String} (h : Shows text limit shown)
    (h' : Shows text limit other) : shown = other := by
  cases h with
  | unlimited =>
      cases h' with
      | unlimited => rfl
  | whole hwhole =>
      cases h' with
      | whole => rfl
      | cut hcut => omega
  | cut hcut hfront =>
      cases h' with
      | whole hwhole => omega
      | cut _ hfront' => rw [hfront.eq hfront']

/-- Where a search backwards from a limit stops: at a place where the text can be cut, having passed
none and no more than three bytes. -/
structure StopsAt (text : String) (limit stop : Nat) : Prop where
  isValid : (String.Pos.Raw.mk stop).IsValid text
  le : stop ≤ limit
  passed : ∀ byte, stop < byte → byte ≤ limit → ¬(String.Pos.Raw.mk byte).IsValid text
  near : limit ≤ stop + 3

theorem stopsAt_lastBoundary (h : limit < text.utf8ByteSize) :
    StopsAt text limit (lastBoundary text limit).offset.byteIdx where
  isValid := (lastBoundary text limit).isValid
  le := lastBoundary_le text limit
  passed _ hlt hle := not_isValid_of_lastBoundary_lt hlt hle
  near := limit_le_lastBoundary h

/-- What is shown of a text is determined by the limit alone: all of it, or its longest beginning of
whole characters within the limit and three dots.  A cut is made where the search backwards from
the limit stops. -/
theorem shorten_eq_iff_shows (config : LogConfig) (text : String) :
    (∀ shown, config.shorten text = shown ↔ Shows text config.limit shown) ∧
      ∀ limit, config.limit = some limit → limit < text.utf8ByteSize →
        ∃ stop, StopsAt text limit stop ∧
          (config.shorten text).toByteArray =
            text.toByteArray.extract 0 stop ++ "...".toByteArray := by
  refine ⟨fun shown => ⟨?_, fun h => (shows_shorten config text).eq h⟩, fun limit hlimit h => ?_⟩
  · rintro rfl
    exact shows_shorten config text
  · refine ⟨_, stopsAt_lastBoundary h, ?_⟩
    have hshorten : config.shorten text = truncated text limit ++ "..." := by
      rw [LogConfig.shorten, hlimit]
      exact if_neg (Nat.not_le_of_lt h)
    rw [hshorten, String.toByteArray_append,
      ← (lastBoundary text limit).splits.toByteArray_left_eq]
    rfl

/-- The limit falls into a character, and the first character may be wider than the limit. -/
theorem shorten_eq_iff_shows_accented :
    Shows "héllo" (some 2) "h..." ∧ Shows "€" (some 0) "..." ∧
      ∃ stop, StopsAt "héllo" 2 stop := by
  have hshort := shorten_eq_iff_shows ⟨.debug, some 2⟩ "héllo"
  have hnothing := shorten_eq_iff_shows ⟨.debug, some 0⟩ "€"
  obtain ⟨stop, hstop, -⟩ := hshort.2 2 rfl (by decide)
  exact ⟨(hshort.1 _).mp (by decide), (hnothing.1 _).mp (by decide), stop, hstop⟩

end RecordSql.Sql
