import Spreadsheet.Proofs.Format.Elapsed
import Spreadsheet.Proofs.Number.Numerals

/-! How the body of a section of dates and times is divided. What a piece stands for is told without the reader that
finds it: marks of the halves of the day, brackets for elapsed time, runs of one letter that go on as far as they can,
decimals directly after seconds, and literal text, inside which none of these begins. -/
namespace Spreadsheet.Format

/-- The letter that a unit of elapsed time is asked for with. -/
def ElapsedUnit.letter : ElapsedUnit → Char
  | hours => 'h'
  | minutes => 'm'
  | seconds => 's'

/-- The form of a month by the length of its run. -/
def monthForm (length : Nat) : MonthForm :=
  if length = 1 then .numeric
  else if length = 2 then .padded
  else if length = 3 then .short
  else if length = 5 then .initial
  else .full

/-- Text of one letter in any case. -/
def IsRun (letter : Char) (text : List Char) : Prop := text ≠ [] ∧ ∀ c ∈ text, c.toLower = letter

/-- Letters that ask for a part of a date or a time. -/
def dateLetters : List Char := "ymdhs".toList

/-- What a text stands for wherever it is found in a body. Only a run of one or two letters `m` that starts in lower case
leaves it open. -/
inductive Means (twelveHour : Bool) : List Char → RawToken → Prop where
  | words {text : List Char} (same : text.map Char.toLower = "am/pm".toList) :
      Means twelveHour text (.settled (.dayHalf (if text.head? == some 'A' then .upperWords else .lowerWords)))
  | initials {text : List Char} (same : text.map Char.toLower = "a/p".toList) :
      Means twelveHour text (.settled (.dayHalf (if text.head? == some 'A' then .upperLetter else .lowerLetter)))
  | elapsed {unit : ElapsedUnit} {run : List Char} (one : IsRun unit.letter run) :
      Means twelveHour ('[' :: run ++ [']']) (.settled (.elapsed unit (2 ≤ run.length)))
  | year {run : List Char} (one : IsRun 'y' run) : Means twelveHour run (.settled (.year (3 ≤ run.length)))
  | month {run : List Char} (one : IsRun 'm' run) (clear : 3 ≤ run.length ∨ run.head? = some 'M') :
      Means twelveHour run (.settled (.month (monthForm run.length)))
  | monthOrMinute {run : List Char} (one : IsRun 'm' run) (short : run.length ≤ 2) (lower : run.head? = some 'm') :
      Means twelveHour run (.monthOrMinute (run.length = 2))
  | day {run : List Char} (one : IsRun 'd' run) : Means twelveHour run (.settled (.day (Piece.dayForm run.length)))
  | hour {run : List Char} (one : IsRun 'h' run) :
      Means twelveHour run (.settled (.hour (2 ≤ run.length) (twelveHour && run.head? == some 'h')))
  | second {run : List Char} (one : IsRun 's' run) : Means twelveHour run (.settled (.second (2 ≤ run.length)))

/-- Text that starts with something that has a meaning. -/
def Opens (twelveHour : Bool) (text : List Char) : Prop := ∃ front token, front <+: text ∧ Means twelveHour front token

/-- A piece where it is found, with what follows it, directly after seconds or not. -/
inductive Stands (twelveHour : Bool) : (afterSeconds : Bool) → Piece → (following : List Char) → Prop where
  | fraction {digits : Nat} {following : List Char} (positive : 1 ≤ digits) (few : digits ≤ 3)
      (greedy : digits < 3 → following.head? ≠ some '0') :
      Stands twelveHour true ⟨'.' :: List.replicate digits '0', .settled (.fraction digits)⟩ following
  | meaning {afterSeconds : Bool} {text following : List Char} {token : RawToken} (means : Means twelveHour text token)
      (greedy : ∀ c ∈ following.head?, ∀ letter ∈ dateLetters, ¬IsRun letter (text ++ [c])) :
      Stands twelveHour afterSeconds ⟨text, token⟩ following
  | literal {afterSeconds : Bool} {text following : List Char} (nonempty : text ≠ [])
      (decimal : afterSeconds = true → ¬['.', '0'] <+: text ++ following)
      (closed : ∀ skipped rest, text = skipped ++ rest → rest ≠ [] → ¬Opens twelveHour (rest ++ following)) :
      Stands twelveHour afterSeconds ⟨text, .settled (.literal text)⟩ following

/-- Pieces that each stand before the text of those after them. -/
inductive Divides (twelveHour : Bool) : (afterSeconds : Bool) → List Piece → Prop where
  | nil {afterSeconds : Bool} : Divides twelveHour afterSeconds []
  | cons {afterSeconds : Bool} {piece : Piece} {rest : List Piece}
      (stands : Stands twelveHour afterSeconds piece (rest.flatMap Piece.text))
      (others : Divides twelveHour (piece.token.meets DateToken.isSecond) rest) :
      Divides twelveHour afterSeconds (piece :: rest)

/-- Of two pieces, one at least is not literal. -/
def Apart (piece other : Piece) : Prop :=
  ¬(piece.token.meets DateToken.isLiteral = true ∧ other.token.meets DateToken.isLiteral = true)

theorem Piece.unit?_eq_some_iff {c : Char} {unit : ElapsedUnit} : unit? c = some unit ↔ c.toLower = unit.letter := by
  constructor
  · intro known
    unfold unit? at known
    split at known
    · cases known
      assumption
    · cases known
      assumption
    · cases known
      assumption
    · cases known
  · intro letter
    rw [unit?, letter]
    cases unit <;> rfl

/-- The three ways to begin something that has a meaning. -/
theorem Means.begins {twelveHour : Bool} {text : List Char} {token : RawToken} (means : Means twelveHour text token) :
    (text.map Char.toLower = "am/pm".toList ∨ text.map Char.toLower = "a/p".toList) ∨
      (∃ unit run, IsRun (ElapsedUnit.letter unit) run ∧ text = '[' :: run ++ [']']) ∨
      ∃ letter ∈ dateLetters, IsRun letter text := by
  cases means with
  | words same => exact .inl (.inl same)
  | initials same => exact .inl (.inr same)
  | elapsed one => exact .inr (.inl ⟨_, _, one, rfl⟩)
  | year one => exact .inr (.inr ⟨_, by decide, one⟩)
  | month one => exact .inr (.inr ⟨_, by decide, one⟩)
  | monthOrMinute one => exact .inr (.inr ⟨_, by decide, one⟩)
  | day one => exact .inr (.inr ⟨_, by decide, one⟩)
  | hour one => exact .inr (.inr ⟨_, by decide, one⟩)
  | second one => exact .inr (.inr ⟨_, by decide, one⟩)

theorem Means.nonempty {twelveHour : Bool} {text : List Char} {token : RawToken} (means : Means twelveHour text token) :
    text ≠ [] := by
  rintro rfl
  rcases means.begins with (same | same) | ⟨unit, run, -, same⟩ | ⟨letter, -, nonempty, -⟩
  · cases same
  · cases same
  · cases same
  · exact nonempty rfl

theorem Stands.nonempty {twelveHour afterSeconds : Bool} {piece : Piece} {following : List Char}
    (stands : Stands twelveHour afterSeconds piece following) : piece.text ≠ [] := by
  cases stands with
  | fraction => exact List.cons_ne_nil _ _
  | meaning means => exact means.nonempty
  | literal nonempty => exact nonempty

theorem Divides.nonempty {twelveHour afterSeconds : Bool} {pieces : List Piece}
    (divides : Divides twelveHour afterSeconds pieces) : ∀ piece ∈ pieces, piece.text ≠ [] := by
  induction divides with
  | nil => exact fun _ none => nomatch none
  | cons stands _ ih => exact List.forall_mem_cons.mpr ⟨stands.nonempty, ih⟩

theorem RawToken.meets_isLiteral_iff {token : RawToken} :
    token.meets DateToken.isLiteral = true ↔ ∃ text, token = .settled (.literal text) := by
  constructor
  · intro literal
    cases token with
    | settled token =>
      cases token with
      | literal text => exact ⟨text, rfl⟩
      | _ => cases literal
    | monthOrMinute padded => cases literal
  · rintro ⟨text, rfl⟩
    rfl

/-- Nothing but literal text stands for literal text. -/
theorem Stands.of_literal {twelveHour afterSeconds : Bool} {written text following : List Char}
    (stands : Stands twelveHour afterSeconds ⟨written, .settled (.literal text)⟩ following) :
    written = text ∧ text ≠ [] ∧ (afterSeconds = true → ¬['.', '0'] <+: text ++ following) ∧
      ∀ skipped rest, text = skipped ++ rest → rest ≠ [] → ¬Opens twelveHour (rest ++ following) := by
  cases stands with
  | meaning means => cases means
  | literal nonempty decimal closed => exact ⟨rfl, nonempty, decimal, closed⟩

/-- Literal text before literal text is one literal text. -/
theorem Stands.join {twelveHour afterSeconds : Bool} {text later following : List Char}
    (first : Stands twelveHour afterSeconds ⟨text, .settled (.literal text)⟩ (later ++ following))
    (second : Stands twelveHour false ⟨later, .settled (.literal later)⟩ following) :
    Stands twelveHour afterSeconds ⟨text ++ later, .settled (.literal (text ++ later))⟩ following := by
  obtain ⟨-, nonempty, decimal, closedFirst⟩ := first.of_literal
  obtain ⟨-, -, -, closedSecond⟩ := second.of_literal
  refine .literal (List.append_ne_nil_of_left_ne_nil nonempty later) ?_ ?_
  · rwa [List.append_assoc]
  · intro skipped rest same present
    rcases List.append_eq_append_iff.mp same with ⟨inside, rfl, split⟩ | ⟨left, split, rfl⟩
    · exact closedSecond inside rest split present
    · by_cases none : left = []
      · subst none
        exact closedSecond [] later rfl present
      · rw [List.append_assoc]
        exact closedFirst skipped left split none

namespace Piece
variable {twelveHour : Bool} {text rest : List Char} {c : Char} {piece : Piece}

/-- A run of zeros that is cut short by its bound only goes on as far as it can below the bound. -/
private theorem not_zero_after {digits following : List Char} (zeros : ∀ c ∈ digits, (c == '0') = true)
    (run : ((digits ++ following).take 3).takeWhile (· == '0') = digits) (less : digits.length < 3) :
    following.head? ≠ some '0' := by
  intro more
  obtain ⟨later, rfl⟩ := List.head?_eq_some_iff.mp more
  rw [List.take_append, List.take_of_length_le (Nat.le_of_lt less), List.takeWhile_append_of_pos zeros,
    List.take_cons (by omega), List.takeWhile_cons_of_pos rfl] at run
  exact absurd (congrArg List.length run) (by simp)

/-- The decimals of a second are as many as there are, up to three. -/
theorem stands_fraction? (read : fraction? text = some piece) :
    ∃ following, text = piece.text ++ following ∧ Stands twelveHour true piece following := by
  unfold fraction? at read
  split at read
  · rename_i rest
    dsimp only at read
    split at read
    · cases read
    · rename_i present
      cases read
      obtain ⟨following, same⟩ : (rest.take 3).takeWhile (· == '0') <+: rest :=
        (List.takeWhile_prefix _).trans (List.take_prefix 3 rest)
      have few : ((rest.take 3).takeWhile (· == '0')).length ≤ 3 :=
        Nat.le_trans (List.takeWhile_prefix _).length_le (List.length_take_le 3 rest)
      have zeros : ∀ c ∈ (rest.take 3).takeWhile (· == '0'), (c == '0') = true := List.all_eq_true.mp List.all_takeWhile
      generalize run : (rest.take 3).takeWhile (· == '0') = digits at *
      subst same
      have equal : digits = List.replicate digits.length '0' :=
        List.eq_replicate_of_mem fun c member => beq_iff_eq.mp (zeros c member)
      have positive : 1 ≤ digits.length := List.length_pos_iff.mpr (by simpa using present)
      have stands : Stands twelveHour true ⟨'.' :: List.replicate digits.length '0', .settled (.fraction digits.length)⟩
          following := .fraction positive few (not_zero_after zeros run)
      rw [← equal] at stands
      exact ⟨following, rfl, stands⟩
  · cases read

theorem not_decimal_of_fraction? (none : fraction? text = none) : ¬['.', '0'] <+: text := by
  rintro ⟨rest, rfl⟩
  simp [fraction?] at none

/-- No run of a letter starts with another one. -/
private theorem not_isRun_cons {letter : Char} (differs : c.toLower ≠ letter) : ¬IsRun letter (c :: rest) :=
  fun ⟨_, same⟩ => differs (same c List.mem_cons_self)

/-- A mark of the halves of the day starts with a letter that has no runs. -/
private theorem stands_mark {afterSeconds : Bool} {word following : List Char} {token : RawToken}
    (means : Means twelveHour text token) (same : text.map Char.toLower = 'a' :: word) :
    Stands twelveHour afterSeconds ⟨text, token⟩ following := by
  refine .meaning means fun more _ letter date => ?_
  cases text with
  | nil => cases same
  | cons c rest =>
    refine not_isRun_cons ?_
    rw [(List.cons.inj same).1]
    rintro rfl
    exact absurd date (by decide)

theorem stands_dayHalf? (afterSeconds : Bool) (read : dayHalf? text = some piece) :
    ∃ following, text = piece.text ++ following ∧ Stands twelveHour afterSeconds piece following := by
  unfold dayHalf? at read
  dsimp only at read
  split at read
  · rename_i starts
    rw [Text.startsIgnoringCase, beq_iff_eq] at starts
    cases read
    have means : Means twelveHour (text.take 5) _ := .words starts
    rw [List.head?_take, if_neg (show 5 ≠ 0 by decide)] at means
    exact ⟨text.drop 5, (List.take_append_drop 5 text).symm, stands_mark means starts⟩
  split at read
  · rename_i starts
    rw [Text.startsIgnoringCase, beq_iff_eq] at starts
    cases read
    have means : Means twelveHour (text.take 3) _ := .initials starts
    rw [List.head?_take, if_neg (show 3 ≠ 0 by decide)] at means
    exact ⟨text.drop 3, (List.take_append_drop 3 text).symm, stands_mark means starts⟩
  · cases read

/-- No mark of the halves of the day starts where none is found. -/
theorem not_mark_of_dayHalf? {front : List Char} (none : dayHalf? text = none) (starts : front <+: text) :
    front.map Char.toLower ≠ "am/pm".toList ∧ front.map Char.toLower ≠ "a/p".toList := by
  have found {word : List Char} (same : front.map Char.toLower = word.map Char.toLower) :
      Text.startsIgnoringCase word text = true := by
    have long : front.length = word.length := by simpa using congrArg List.length same
    rw [Text.startsIgnoringCase, beq_iff_eq, ← long, ← List.prefix_iff_eq_take.mp starts, same]
  unfold dayHalf? at none
  dsimp only at none
  split at none
  · cases none
  split at none
  · cases none
  · rename_i words initials
    exact ⟨fun same => words (found same), fun same => initials (found same)⟩

theorem isRun_letterRun (c : Char) (rest : List Char) : IsRun c.toLower (letterRun (c :: rest)) := by
  refine ⟨List.cons_ne_nil _ _, List.forall_mem_cons.mpr ⟨rfl, fun other member => ?_⟩⟩
  exact beq_iff_eq.mp (List.all_eq_true.mp List.all_takeWhile other member)

theorem stands_elapsed? (afterSeconds : Bool) (read : elapsed? text = some piece) :
    ∃ following, text = piece.text ++ following ∧ Stands twelveHour afterSeconds piece following := by
  obtain ⟨following, same⟩ := (fronts_elapsed? read).front
  refine ⟨following, same.symm, ?_⟩
  unfold elapsed? at read
  split at read
  · rename_i c rest
    obtain ⟨unit, known, read⟩ := Option.bind_eq_some_iff.mp read
    dsimp only at read
    split at read
    · cases read
      have one : IsRun unit.letter (letterRun (c :: rest)) := unit?_eq_some_iff.mp known ▸ isRun_letterRun c rest
      refine .meaning (.elapsed one) fun more _ letter date => ?_
      refine not_isRun_cons ?_
      rintro rfl
      exact absurd date (by decide)
    · cases read
  · cases read

/-- No bracket for elapsed time starts where none is found. -/
theorem not_bracket_of_elapsed? {unit : ElapsedUnit} {run : List Char} (none : elapsed? text = none)
    (one : IsRun unit.letter run) : ¬ '[' :: run ++ [']'] <+: text := by
  rintro ⟨back, rfl⟩
  have elapsed : Bracket.isElapsed run = true := by
    obtain ⟨nonempty, same⟩ := one
    obtain ⟨c, rest, rfl⟩ := List.exists_cons_of_ne_nil nonempty
    obtain ⟨first, others⟩ := List.forall_mem_cons.mp same
    simp only [Bracket.isElapsed, first, Bool.and_eq_true, Bool.or_eq_true, beq_iff_eq, List.all_eq_true]
    refine ⟨?_, others⟩
    cases unit with
    | hours => exact .inl (.inl rfl)
    | minutes => exact .inl (.inr rfl)
    | seconds => exact .inr rfl
  obtain ⟨unit, padded, text, read⟩ := exists_elapsed? elapsed back
  simp only [List.cons_append, List.append_assoc] at none
  cases none.symm.trans read

/-- A letter of a month is of one of its two cases. -/
private theorem eq_of_toLower (month : c.toLower = 'm') : c = 'm' ∨ c = 'M' := by
  have code := Text.toNat_toLower c
  rw [month] at code
  change 109 = _ at code
  have cases : c.toNat = 109 ∨ c.toNat = 77 := by
    split at code <;> omega
  exact cases.imp (fun same => Char.toNat_inj.mp same) fun same => Char.toNat_inj.mp same

/-- The length of a run of `m` and the case of its first letter tell what it stands for. -/
theorem means_monthToken (one : IsRun 'm' (c :: rest)) :
    Means twelveHour (c :: rest) (monthToken (c :: rest).length (c == 'M')) := by
  have positive : 0 < (c :: rest).length := Nat.succ_pos _
  have month {form : MonthForm} (clear : 3 ≤ (c :: rest).length ∨ c = 'M') (same : monthForm (c :: rest).length = form) :
      Means twelveHour (c :: rest) (.settled (.month form)) := same ▸ .month one (clear.imp_right (congrArg some))
  have either (short : (c :: rest).length ≤ 2) (lower : c = 'm') :
      Means twelveHour (c :: rest) (.monthOrMinute ((c :: rest).length = 2)) :=
    .monthOrMinute one short (congrArg some lower)
  have letter := eq_of_toLower (one.2 c List.mem_cons_self)
  generalize (c :: rest).length = length at *
  unfold monthToken
  split
  · refine month (.inl (by omega)) ?_
    rw [monthForm, if_neg (show length ≠ 1 by omega), if_neg (show length ≠ 2 by omega),
      if_neg (show length ≠ 3 by omega), if_neg (show length ≠ 5 by omega)]
  split
  · exact month (.inl (by decide)) rfl
  · exact month (.inl (by decide)) rfl
  · exact month (.inl (by decide)) rfl
  · rename_i five four three
    have short : length ≤ 2 := by
      have others : length ≠ 5 ∧ length ≠ 4 ∧ length ≠ 3 := ⟨five, four, three⟩
      omega
    split
    · rename_i upper
      refine month (.inr (beq_iff_eq.mp upper)) ?_
      rcases (show length = 1 ∨ length = 2 by omega) with rfl | rfl <;> rfl
    · rename_i lower
      exact either short (letter.resolve_right fun upper => lower (beq_iff_eq.mpr upper))

theorem means_letterToken? {token : RawToken} (one : IsRun c.toLower (c :: rest))
    (read : letterToken? twelveHour c (c :: rest).length = some token) : Means twelveHour (c :: rest) token := by
  unfold letterToken? at read
  split at read
  · rename_i letter
    cases read
    exact .year (letter ▸ one)
  · rename_i letter
    cases read
    exact means_monthToken (letter ▸ one)
  · rename_i letter
    cases read
    exact .day (letter ▸ one)
  · rename_i letter
    cases read
    exact .hour (letter ▸ one)
  · rename_i letter
    cases read
    exact .second (letter ▸ one)
  · cases read

theorem mem_dateLetters_of_letterToken? {length : Nat} (none : letterToken? twelveHour c length = none) :
    c.toLower ∉ dateLetters := by
  intro date
  rcases (show c.toLower = 'y' ∨ c.toLower = 'm' ∨ c.toLower = 'd' ∨ c.toLower = 'h' ∨ c.toLower = 's' by
    simpa [dateLetters] using date) with letter | letter | letter | letter | letter <;>
    simp [letterToken?, letter] at none

/-- A run ends where its letter does. -/
theorem stands_letterToken? (afterSeconds : Bool) {token : RawToken}
    (read : letterToken? twelveHour c (letterRun (c :: rest)).length = some token) :
    ∃ following, c :: rest = letterRun (c :: rest) ++ following ∧
      Stands twelveHour afterSeconds ⟨letterRun (c :: rest), token⟩ following := by
  refine ⟨rest.dropWhile (·.toLower == c.toLower), ?_, .meaning (means_letterToken? (isRun_letterRun c rest) read) ?_⟩
  · rw [letterRun, List.cons_append, List.takeWhile_append_dropWhile]
  · rintro more next letter - ⟨-, same⟩
    have ends := List.head?_dropWhile_not (·.toLower == c.toLower) rest
    rw [Option.mem_def.mp next] at ends
    have first : c.toLower = letter := same c List.mem_cons_self
    have last : more.toLower = letter := same more (List.mem_append_right _ List.mem_cons_self)
    simp [first, last] at ends

/-- The piece that is read at the front of a text stands there. -/
theorem stands_next (twelveHour afterSeconds : Bool) (c : Char) (rest : List Char) :
    ∃ following, c :: rest = (next twelveHour afterSeconds c rest).text ++ following ∧
      Stands twelveHour afterSeconds (next twelveHour afterSeconds c rest) following := by
  unfold next
  dsimp only
  split
  · rename_i piece read
    cases afterSeconds with
    | true => exact stands_fraction? read
    | false => cases read
  rename_i decimal
  split
  · exact stands_dayHalf? afterSeconds ‹_›
  rename_i mark
  split
  · exact stands_elapsed? afterSeconds ‹_›
  rename_i bracket
  split
  · exact stands_letterToken? afterSeconds ‹_›
  · rename_i letter
    refine ⟨rest, rfl, .literal (List.cons_ne_nil c []) ?_ ?_⟩
    · rintro rfl
      exact not_decimal_of_fraction? decimal
    · rintro skipped later same present ⟨front, token, starts, means⟩
      obtain ⟨-, rfl⟩ := (List.append_eq_singleton_iff.mp same.symm).resolve_right fun none => present none.2
      rcases means.begins with (same | same) | ⟨unit, run, one, rfl⟩ | ⟨letter, date, one⟩
      · exact (not_mark_of_dayHalf? mark starts).1 same
      · exact (not_mark_of_dayHalf? mark starts).2 same
      · exact not_bracket_of_elapsed? bracket one starts
      · obtain ⟨first, tail, rfl⟩ := List.exists_cons_of_ne_nil one.1
        obtain ⟨rfl, -⟩ := List.cons_prefix_cons.mp starts
        rw [← one.2 first List.mem_cons_self] at date
        exact mem_dateLetters_of_letterToken? (by assumption) date

/-- Pieces are read one after another until nothing is left. -/
theorem divides_scan (twelveHour : Bool) (fuel : Nat) (afterSeconds : Bool) (enough : text.length ≤ fuel) :
    (scan twelveHour fuel afterSeconds text).flatMap Piece.text = text ∧
      Divides twelveHour afterSeconds (scan twelveHour fuel afterSeconds text) := by
  induction fuel generalizing afterSeconds text with
  | zero =>
    obtain rfl := List.length_eq_zero_iff.mp (Nat.le_zero.mp enough)
    exact ⟨rfl, .nil⟩
  | succ fuel ih =>
    cases text with
    | nil => exact ⟨rfl, .nil⟩
    | cons c rest =>
      obtain ⟨following, same, stands⟩ := stands_next twelveHour afterSeconds c rest
      have positive := List.length_pos_iff.mpr stands.nonempty
      simp only [scan, List.flatMap_cons]
      generalize next twelveHour afterSeconds c rest = piece at *
      rw [same] at enough ⊢
      rw [List.length_append] at enough
      rw [List.drop_left]
      obtain ⟨covered, divided⟩ := ih (piece.token.meets DateToken.isSecond) (show following.length ≤ fuel by omega)
      exact ⟨by rw [covered], .cons (by rwa [covered]) divided⟩

/-- A literal piece may get longer where it is. -/
private theorem isChain_cons {text more : List Char} {written later : List Char} {behind : List Piece}
    (chain : (⟨written, .settled (.literal text)⟩ :: behind).IsChain Apart) :
    (⟨later, .settled (.literal more)⟩ :: behind).IsChain Apart := by
  cases behind with
  | nil => exact .singleton _
  | cons next behind =>
    obtain ⟨apart, others⟩ := List.isChain_cons_cons.mp chain
    exact .cons_cons apart others

/-- Literal pieces are joined with what follows them, and nothing begins where they meet. -/
theorem divides_joinLiterals {afterSeconds : Bool} {pieces : List Piece}
    (divided : Divides twelveHour afterSeconds pieces) :
    (joinLiterals pieces).flatMap Piece.text = pieces.flatMap Piece.text ∧
      Divides twelveHour afterSeconds (joinLiterals pieces) ∧ (joinLiterals pieces).IsChain Apart := by
  induction divided with
  | nil => exact ⟨rfl, .nil, .nil⟩
  | @cons afterSeconds piece rest stands others ih =>
    obtain ⟨covered, divided, chain⟩ := ih
    rw [joinLiterals, List.flatMap_cons, ← covered]
    rw [← covered] at stands
    obtain ⟨written, token⟩ := piece
    split
    · rename_i text later more behind literal joined
      obtain rfl : token = .settled (.literal text) := literal
      rw [joined] at stands divided chain ⊢
      cases divided with
      | cons next divided =>
        obtain ⟨rfl, -⟩ := stands.of_literal
        obtain ⟨rfl, -⟩ := next.of_literal
        exact ⟨by simp, .cons (stands.join next) divided, isChain_cons chain⟩
    · rename_i apart
      refine ⟨rfl, .cons stands divided, ?_⟩
      generalize joinLiterals rest = joined at *
      cases joined with
      | nil => exact .singleton _
      | cons next behind =>
        refine .cons_cons (fun both => ?_) chain
        obtain ⟨text, literal⟩ := RawToken.meets_isLiteral_iff.mp both.1
        obtain ⟨more, following⟩ := RawToken.meets_isLiteral_iff.mp both.2
        obtain ⟨later, _⟩ := next
        exact apart text later more behind literal (by rw [← following])

end Piece

end Spreadsheet.Format
