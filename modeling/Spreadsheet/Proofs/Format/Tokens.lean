import Spreadsheet.Proofs.Format.Elapsed
import Spreadsheet.Proofs.Format.Plain

/-! What stands for a literal among the tokens of dates and times. It is a piece of its own that is printed as it is
written, and no other token prints one, so that a date or a duration shows it as often as the body of its section has
it. -/
namespace Spreadsheet.Format

namespace DateToken

/-- What a token prints as it is written. -/
def literalText : DateToken → List Char
  | literal text => text
  | _ => []

end DateToken

section tokens
variable {mark : Char} (reserved : Reserved mark)
include reserved

namespace Piece

/-- What a piece prints as it is written, if its token is settled. -/
def literalText (piece : Piece) : List Char :=
  match piece.token with
  | .settled token => token.literalText
  | .monthOrMinute _ => []

/-- A piece that prints nothing as it is written, and does not have a character. -/
structure Silent (mark : Char) (piece : Piece) : Prop where
  literal : piece.literalText = []
  lacks : mark ∉ piece.text

/-- A run goes on with one letter. -/
theorem not_mem_letterRun {c letter : Char} (is : c.toLower = letter) (plain : placeholderIndex? letter = none)
    (rest : List Char) : mark ∉ letterRun (c :: rest) := by
  intro member
  refine reserved.ne plain ?_
  rcases List.mem_cons.mp member with rfl | later
  · rw [← is, reserved.toLower]
  · have same := List.all_eq_true.mp List.all_takeWhile mark later
    rwa [beq_iff_eq, reserved.toLower, is] at same

theorem silent_fraction? {text : List Char} {piece : Piece} (read : fraction? text = some piece) :
    piece.Silent mark := by
  unfold fraction? at read
  split at read
  · rename_i rest
    dsimp only at read
    split at read
    · cases read
    · cases read
      refine ⟨rfl, fun member => ?_⟩
      rcases List.mem_cons.mp member with point | zero
      · exact reserved.ne rfl point
      · have digit := List.all_eq_true.mp List.all_takeWhile mark zero
        exact reserved.ne (c := '0') rfl (beq_iff_eq.mp digit)
  · cases read

theorem silent_dayHalf? {text : List Char} {piece : Piece} (read : dayHalf? text = some piece) :
    piece.Silent mark := by
  unfold dayHalf? at read
  dsimp only at read
  split at read
  · rename_i starts
    cases read
    exact ⟨rfl, reserved.not_mem_of_startsIgnoringCase (reserved.not_mem_of_all (by decide)) starts⟩
  split at read
  · rename_i starts
    cases read
    exact ⟨rfl, reserved.not_mem_of_startsIgnoringCase (reserved.not_mem_of_all (by decide)) starts⟩
  · cases read

theorem silent_elapsed? {text : List Char} {piece : Piece} (read : elapsed? text = some piece) :
    piece.Silent mark := by
  unfold elapsed? at read
  split at read
  · rename_i c rest
    obtain ⟨unit, known, read⟩ := Option.bind_eq_some_iff.mp read
    dsimp only at read
    split at read
    · cases read
      have run : mark ∉ letterRun (c :: rest) := by
        unfold unit? at known
        split at known
        · exact not_mem_letterRun reserved ‹_› rfl rest
        · exact not_mem_letterRun reserved ‹_› rfl rest
        · exact not_mem_letterRun reserved ‹_› rfl rest
        · cases known
      refine ⟨rfl, ?_⟩
      simp [run, reserved.ne (c := '[') rfl, reserved.ne (c := ']') rfl]
    · cases read
  · cases read

omit reserved in
theorem literalText_monthToken (text : List Char) (length : Nat) (upper : Bool) :
    literalText ⟨text, monthToken length upper⟩ = [] := by
  unfold monthToken
  split
  · rfl
  split
  · rfl
  · rfl
  · rfl
  · split <;> rfl

theorem silent_letterRun {c : Char} {rest : List Char} {twelveHour : Bool} {token : RawToken}
    (read : letterToken? twelveHour c (letterRun (c :: rest)).length = some token) :
    Silent mark ⟨letterRun (c :: rest), token⟩ := by
  unfold letterToken? at read
  split at read
  · cases read
    exact ⟨rfl, not_mem_letterRun reserved ‹_› rfl rest⟩
  · cases read
    exact ⟨literalText_monthToken _ _ _, not_mem_letterRun reserved ‹_› rfl rest⟩
  · cases read
    exact ⟨rfl, not_mem_letterRun reserved ‹_› rfl rest⟩
  · cases read
    exact ⟨rfl, not_mem_letterRun reserved ‹_› rfl rest⟩
  · cases read
    exact ⟨rfl, not_mem_letterRun reserved ‹_› rfl rest⟩
  · cases read

/-- A character that has no meaning is a piece of its own, and prints as it is written. -/
theorem count_next (twelveHour afterSeconds : Bool) (c : Char) (rest : List Char) :
    (next twelveHour afterSeconds c rest).literalText.count mark =
      (next twelveHour afterSeconds c rest).text.count mark := by
  have silent {piece : Piece} (silent : piece.Silent mark) : piece.literalText.count mark = piece.text.count mark := by
    rw [silent.literal, List.count_nil, List.count_eq_zero.mpr silent.lacks]
  unfold next
  dsimp only
  split
  · rename_i piece read
    cases afterSeconds with
    | true => exact silent (silent_fraction? reserved read)
    | false => cases read
  split
  · exact silent (silent_dayHalf? reserved ‹_›)
  split
  · exact silent (silent_elapsed? reserved ‹_›)
  split
  · exact silent (silent_letterRun reserved ‹_›)
  · rfl

theorem count_scan (twelveHour : Bool) (fuel : Nat) (afterSeconds : Bool) {text : List Char}
    (enough : text.length ≤ fuel) :
    ((scan twelveHour fuel afterSeconds text).flatMap literalText).count mark = text.count mark := by
  induction fuel generalizing afterSeconds text with
  | zero => rw [List.length_eq_zero_iff.mp (Nat.le_zero.mp enough)]; rfl
  | succ fuel ih =>
    cases text with
    | nil => rfl
    | cons c rest =>
      obtain ⟨nonempty, ⟨later, same⟩, -⟩ := fronts_next twelveHour afterSeconds c rest
      have counted := count_next reserved twelveHour afterSeconds c rest
      simp only [scan, List.flatMap_cons]
      generalize next twelveHour afterSeconds c rest = piece at *
      have positive : 0 < piece.text.length := List.length_pos_iff.mpr nonempty
      rw [← same] at enough ⊢
      rw [List.length_append] at enough
      rw [List.count_append, List.drop_left, ih _ (by omega), counted, List.count_append]

omit reserved in
theorem flatMap_joinLiterals (pieces : List Piece) :
    (joinLiterals pieces).flatMap literalText = pieces.flatMap literalText := by
  induction pieces with
  | nil => rfl
  | cons piece rest ih =>
    rw [joinLiterals, List.flatMap_cons, ← ih]
    split
    · rename_i text later more others literal joined
      simp [joined, literalText, literal, DateToken.literalText]
    · rfl

end Piece

namespace DateToken

omit reserved in
theorem flatMap_settle (timeOnly : Bool) (before : List RawToken) (pieces : List Piece) :
    (settle timeOnly before (pieces.map Piece.token)).flatMap literalText = pieces.flatMap Piece.literalText := by
  induction pieces generalizing before with
  | nil => rfl
  | cons piece rest ih =>
    obtain ⟨text, token⟩ := piece
    cases token with
    | settled token => rw [List.map_cons, settle, List.flatMap_cons, ih, List.flatMap_cons]; rfl
    | monthOrMinute padded =>
      rw [List.map_cons, settle, List.flatMap_cons, ih, List.flatMap_cons]
      congr 1
      split <;> rfl

/-- The tokens of a body print what stands for a literal as it is written. -/
theorem count_tokenize (body : List Char) (category : Category) :
    ((tokenize body category).flatMap literalText).count mark = body.count mark := by
  rw [tokenize, flatMap_settle, pieces, Piece.flatMap_joinLiterals, Piece.count_scan reserved _ _ _ (Nat.le_refl _)]

end DateToken

theorem Reserved.not_mem_padNumber (padded : Bool) (x : Number) : mark ∉ padNumber padded x :=
  reserved.not_mem_padLeft (reserved.not_mem_text x) _

theorem Reserved.not_mem_fieldText (width : Nat) (field : Option Int) : mark ∉ fieldText width field := by
  refine reserved.not_mem_padLeft ?_ width
  cases field with
  | none => exact reserved.not_mem_text .nan
  | some value => exact reserved.not_mem_signedNumeral value

variable {locale : Locale} (lacks : locale.Lacks mark)
include lacks

/-- A token of elapsed time prints a character for private use only as it is written. -/
theorem Elapsed.count_tokenText (elapsed : Elapsed) (ms : Number) (token : DateToken) :
    (elapsed.tokenText ms locale token).count mark = token.literalText.count mark := by
  have pad (padded : Bool) (x : Number) := List.count_eq_zero.mpr (reserved.not_mem_padNumber padded x)
  cases token with
  | literal text => rfl
  | day form => exact List.count_eq_zero.mpr (reserved.not_mem_text _)
  | hour padded twelveHour => exact pad _ _
  | minute padded => exact pad _ _
  | second padded => exact pad _ _
  | elapsed unit padded => cases unit <;> exact pad _ _
  | fraction digits =>
    refine List.count_eq_zero.mpr fun member => ?_
    rcases List.mem_append.mp member with point | decimals
    · exact lacks.decimal point
    · exact reserved.not_mem_padLeft (reserved.not_mem_text _) _ decimals
  | _ => rfl

theorem count_elapsedText (tokens : List DateToken) (ms : Number) :
    (elapsedText tokens ms locale).count mark = (tokens.flatMap DateToken.literalText).count mark := by
  rw [elapsedText, List.count_flatMap, List.count_flatMap]
  congr 2
  funext token
  exact Elapsed.count_tokenText reserved lacks _ ms token

theorem count_dayHalfText (form : DayHalfForm) (morning : Bool) : (dayHalfText form morning locale).count mark = 0 := by
  have am : mark ∉ locale.am.toList := lacks _ (by simp [Locale.texts])
  have pm : mark ∉ locale.pm.toList := lacks _ (by simp [Locale.texts])
  refine List.count_eq_zero.mpr ?_
  cases form with
  | upperWords => cases morning <;> assumption
  | lowerWords => cases morning <;> exact mt (Text.mem_of_mem_lower reserved) ‹_›
  | upperLetter => cases morning <;> exact reserved.not_mem_of_all rfl
  | lowerLetter => cases morning <;> exact reserved.not_mem_of_all rfl

/-- So does a token of a date. -/
theorem count_dateTokenText? {instant : Option Instant} {token : DateToken} {text : List Char}
    (shown : dateTokenText? instant locale token = some text) : text.count mark = token.literalText.count mark := by
  have field (width : Nat) (value : Option Int) := List.count_eq_zero.mpr (reserved.not_mem_fieldText width value)
  have name {names : List String} (among : ∀ name ∈ names, name ∈ locale.texts) (index : Option Nat) :=
    List.count_eq_zero.mpr (lacks.nameAt among index)
  cases token with
  | literal text => cases shown; rfl
  | year fourDigits => cases shown; split <;> exact field _ _
  | month form =>
    cases form with
    | numeric => cases shown; exact field _ _
    | padded => cases shown; exact field _ _
    | short => cases shown; exact name (by simp +contextual [Locale.texts]) _
    | full => cases shown; exact name (by simp +contextual [Locale.texts]) _
    | initial =>
      obtain ⟨full, found, rfl⟩ := Option.map_eq_some_iff.mp shown
      obtain ⟨place, -, at_⟩ := Option.bind_eq_some_iff.mp found
      have lacking : mark ∉ full.toList := lacks full (by simp [Locale.texts, List.mem_of_getElem? at_])
      exact List.count_eq_zero.mpr fun member => lacking (List.mem_of_mem_take member)
  | day form =>
    cases shown
    cases form with
    | numeric => exact field _ _
    | padded => exact field _ _
    | short => exact name (by simp +contextual [Locale.texts]) _
    | full => exact name (by simp +contextual [Locale.texts]) _
  | hour padded onTwelve => cases shown; split <;> exact field _ _
  | minute padded => cases shown; exact field _ _
  | second padded => cases shown; exact field _ _
  | fraction digits =>
    cases shown
    rw [List.count_append, List.count_eq_zero.mpr lacks.decimal, Nat.zero_add]
    exact field _ _
  | dayHalf form => cases shown; exact count_dayHalfText reserved lacks form _
  | elapsed unit padded => cases shown; rfl

theorem count_dateText? {tokens : List DateToken} {instant : Option Instant} {text : List Char}
    (shown : dateText? tokens instant locale = some text) :
    text.count mark = (tokens.flatMap DateToken.literalText).count mark := by
  obtain ⟨texts, all, rfl⟩ := Option.map_eq_some_iff.mp shown
  clear shown
  induction tokens generalizing texts with
  | nil => cases all; rfl
  | cons token rest ih =>
    rw [List.mapM_cons] at all
    obtain ⟨first, here, all⟩ := Option.bind_eq_some_iff.mp all
    obtain ⟨others, later, same⟩ := Option.bind_eq_some_iff.mp all
    cases same
    rw [List.flatten_cons, List.count_append, List.flatMap_cons, List.count_append, ih _ later,
      count_dateTokenText? reserved lacks here]

end tokens

end Spreadsheet.Format
