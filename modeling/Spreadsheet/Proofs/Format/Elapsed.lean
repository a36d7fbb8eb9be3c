import Spreadsheet.Proofs.Format.Bodies

/-! Elapsed time. A bracket that asks for it stands in the body of its section as it is written, and no piece of a date
reaches into it, so that its token comes up among those of the section. -/
namespace Spreadsheet.Format

/-- Somewhere in a body stands a bracket that asks for elapsed time. -/
def HasElapsed (body : List Char) : Prop :=
  ∃ front content back, body = front ++ '[' :: content ++ ']' :: back ∧ Bracket.isElapsed content = true

namespace Extract

theorem hasElapsed_addLexeme {extract : Extract} {lexeme : Lexeme}
    (before : extract.elapsed = true → HasElapsed extract.body) (elapsed : (extract.addLexeme lexeme).elapsed = true) :
    HasElapsed (extract.addLexeme lexeme).body := by
  have more (added : List Char) (same : extract.elapsed = true) : HasElapsed (extract.body ++ added) := by
    obtain ⟨front, content, back, body, unit⟩ := before same
    exact ⟨front, content, back ++ added, by simp [body], unit⟩
  cases grows_addLexeme extract lexeme with
  | nothing body _ same => exact body ▸ before (same ▸ elapsed)
  | char body _ same => exact body ▸ more _ (same ▸ elapsed)
  | literal text body _ same => exact body ▸ more _ (same ▸ elapsed)
  | bracket unit body => exact ⟨extract.body, _, [], by simp [body], unit⟩

/-- A section that shows elapsed time has a bracket that asks for it. -/
theorem hasElapsed_ofLexemes {lexemes : List Lexeme} (elapsed : (ofLexemes lexemes).elapsed = true) :
    HasElapsed (ofLexemes lexemes).body := by
  unfold ofLexemes at elapsed ⊢
  exact List.foldlRecOn lexemes addLexeme
    (motive := fun extract : Extract => extract.elapsed = true → HasElapsed extract.body)
    (fun none => nomatch none) (fun _ before _ _ => hasElapsed_addLexeme before) elapsed

end Extract

namespace Piece

/-- A bracket that asks for elapsed time makes a token of it. -/
theorem exists_elapsed? {content : List Char} (elapsed : Bracket.isElapsed content = true) (back : List Char) :
    ∃ unit padded text,
      elapsed? ('[' :: (content ++ ']' :: back)) = some ⟨text, .settled (.elapsed unit padded)⟩ := by
  cases content with
  | nil => cases elapsed
  | cons c rest =>
    simp only [Bracket.isElapsed, Bool.and_eq_true, Bool.or_eq_true, beq_iff_eq, List.all_eq_true] at elapsed
    obtain ⟨letter, same⟩ := elapsed
    have closing : (']'.toLower == c.toLower) = false := by
      rcases letter with (hour | minute) | second <;> simp only [*] <;> decide
    have run : letterRun (c :: rest ++ ']' :: back) = c :: rest := by
      rw [List.cons_append, letterRun, List.takeWhile_append_of_pos (by simpa using same)]
      simp only [List.takeWhile_cons, closing, Bool.false_eq_true, ↓reduceIte, List.append_nil]
    obtain ⟨unit, known⟩ : ∃ unit, unit? c = some unit := by
      rcases letter with (hour | minute) | second
      · exact ⟨.hours, by simp [unit?, hour]⟩
      · exact ⟨.minutes, by simp [unit?, minute]⟩
      · exact ⟨.seconds, by simp [unit?, second]⟩
    refine ⟨unit, 2 ≤ (c :: rest).length, '[' :: (c :: rest) ++ [']'], ?_⟩
    simp only [List.cons_append] at run
    simp [elapsed?, known, run]

/-- The piece at the front of a text: it is not empty, and it does not reach into a bracket unless it is one itself. -/
structure Fronts (piece : Piece) (text : List Char) : Prop where
  nonempty : piece.text ≠ []
  front : piece.text <+: text
  outside : piece.token.meets DateToken.isElapsed = true ∨ '[' ∉ piece.text.tail

theorem not_mem_of_startsIgnoringCase (word : List Char) {text : List Char} (clean : '[' ∉ word.map Char.toLower)
    (starts : Text.startsIgnoringCase word text = true) : '[' ∉ text.take word.length := by
  rw [Text.startsIgnoringCase, beq_iff_eq] at starts
  intro member
  have lowered := List.mem_map_of_mem (f := Char.toLower) member
  rw [starts] at lowered
  exact clean lowered

theorem fronts_fraction? {text : List Char} {piece : Piece} (read : fraction? text = some piece) :
    piece.Fronts text := by
  unfold fraction? at read
  split at read
  · rename_i rest
    dsimp only at read
    split at read
    · cases read
    · cases read
      refine ⟨by simp, ?_, .inr fun member => ?_⟩
      · exact List.cons_prefix_cons.mpr ⟨rfl, (List.takeWhile_prefix _).trans (List.take_prefix 3 rest)⟩
      · have zero := List.all_eq_true.mp (List.all_takeWhile (l := rest.take 3) (p := (· == '0'))) '[' member
        cases zero
  · cases read

theorem fronts_dayHalf? {c : Char} {rest : List Char} {piece : Piece} (read : dayHalf? (c :: rest) = some piece) :
    piece.Fronts (c :: rest) := by
  have taken (length : Nat) (token : RawToken) (outside : '[' ∉ (c :: rest).take (length + 1)) :
      Fronts ⟨(c :: rest).take (length + 1), token⟩ (c :: rest) :=
    ⟨by simp, List.take_prefix _ _, .inr fun member => outside (List.mem_of_mem_tail member)⟩
  unfold dayHalf? at read
  dsimp only at read
  split at read
  · cases read
    exact taken 4 _ (not_mem_of_startsIgnoringCase "am/pm".toList (by decide) ‹_›)
  split at read
  · cases read
    exact taken 2 _ (not_mem_of_startsIgnoringCase "a/p".toList (by decide) ‹_›)
  · cases read

theorem letterRun_prefix (c : Char) (rest : List Char) : letterRun (c :: rest) <+: c :: rest :=
  List.cons_prefix_cons.mpr ⟨rfl, List.takeWhile_prefix _⟩

theorem fronts_elapsed? {text : List Char} {piece : Piece} (read : elapsed? text = some piece) : piece.Fronts text := by
  unfold elapsed? at read
  split at read
  · rename_i c rest
    obtain ⟨unit, known, read⟩ := Option.bind_eq_some_iff.mp read
    dsimp only at read
    split at read
    · rename_i closing
      cases read
      refine ⟨by simp, ?_, .inl rfl⟩
      obtain ⟨later, split⟩ := letterRun_prefix c rest
      generalize letterRun (c :: rest) = run at *
      rw [← split, List.getElem?_append_right (Nat.le_refl _), Nat.sub_self, ← List.head?_eq_getElem?] at closing
      obtain ⟨more, rfl⟩ := List.head?_eq_some_iff.mp closing
      exact ⟨more, by simp [← split]⟩
    · cases read
  · cases read

theorem fronts_letterRun {c : Char} {rest : List Char} {twelveHour : Bool} {token : RawToken}
    (read : letterToken? twelveHour c (letterRun (c :: rest)).length = some token) :
    Fronts ⟨letterRun (c :: rest), token⟩ (c :: rest) := by
  refine ⟨by simp [letterRun], letterRun_prefix c rest, .inr fun member => ?_⟩
  have inside : '[' ∈ rest.takeWhile (·.toLower == c.toLower) := member
  have same := List.all_eq_true.mp List.all_takeWhile '[' inside
  have letter : c.toLower = '[' := (beq_iff_eq.mp same).symm
  simp [letterToken?, letter] at read

theorem fronts_next (twelveHour afterSeconds : Bool) (c : Char) (rest : List Char) :
    (next twelveHour afterSeconds c rest).Fronts (c :: rest) := by
  unfold next
  dsimp only
  split
  · rename_i piece read
    cases afterSeconds with
    | true => exact fronts_fraction? read
    | false => cases read
  split
  · exact fronts_dayHalf? ‹_›
  split
  · exact fronts_elapsed? ‹_›
  split
  · exact fronts_letterRun ‹_›
  · exact ⟨by simp, by simp, by simp⟩

theorem next_of_elapsed? {rest : List Char} {piece : Piece} (read : elapsed? ('[' :: rest) = some piece)
    (twelveHour afterSeconds : Bool) : next twelveHour afterSeconds '[' rest = piece := by
  have fraction : (if afterSeconds then fraction? ('[' :: rest) else none) = none := by cases afterSeconds <;> rfl
  have dayHalf : dayHalf? ('[' :: rest) = none := by simp [dayHalf?, Text.startsIgnoringCase]
  simp only [next, fraction, dayHalf, read]

/-- What does not hold a character ends before it. -/
theorem prefix_of_not_mem {mark : Char} {text front back : List Char} (clean : mark ∉ text)
    (starts : text <+: front ++ mark :: back) : text <+: front := by
  obtain ⟨rest, same⟩ := starts
  rcases List.append_eq_append_iff.mp same with ⟨skipped, rfl, -⟩ | ⟨beyond, rfl, across⟩
  · exact List.prefix_append text skipped
  · cases beyond with
    | nil => simp
    | cons c beyond =>
      obtain ⟨rfl, -⟩ := List.cons.inj across
      simp at clean

/-- No piece reaches into the bracket, so that it is come upon and makes its token. -/
theorem any_isElapsed_scan (twelveHour afterSeconds : Bool) {content : List Char}
    (elapsed : Bracket.isElapsed content = true) (front back : List Char) (fuel : Nat) (enough : front.length < fuel) :
    (scan twelveHour fuel afterSeconds (front ++ '[' :: content ++ ']' :: back)).any
      (·.token.meets DateToken.isElapsed) = true := by
  induction fuel generalizing front afterSeconds with
  | zero => omega
  | succ fuel ih =>
    cases front with
    | nil =>
      obtain ⟨unit, padded, text, read⟩ := exists_elapsed? elapsed back
      rw [List.nil_append, List.cons_append, scan, List.any_cons, next_of_elapsed? read, Bool.or_eq_true]
      exact .inl rfl
    | cons c front =>
      rw [List.cons_append, List.cons_append, scan, List.any_cons, Bool.or_eq_true]
      obtain ⟨nonempty, starts, outside⟩ :=
        fronts_next twelveHour afterSeconds c (front ++ '[' :: content ++ ']' :: back)
      generalize next twelveHour afterSeconds c (front ++ '[' :: content ++ ']' :: back) = piece at *
      refine outside.imp_right fun clean => ?_
      obtain ⟨first, tail, text⟩ := List.exists_cons_of_ne_nil nonempty
      rw [text, List.tail_cons] at clean
      rw [text] at starts ⊢
      have within : tail <+: front ++ '[' :: (content ++ ']' :: back) := by
        simpa using (List.cons_prefix_cons.mp starts).2
      obtain ⟨skipped, rfl⟩ := prefix_of_not_mem clean within
      have left : (c :: (tail ++ skipped ++ '[' :: content ++ ']' :: back)).drop (first :: tail).length =
          skipped ++ '[' :: content ++ ']' :: back := by
        simp
      rw [left]
      refine ih _ skipped ?_
      simp only [List.length_cons, List.length_append] at enough
      omega

end Piece

namespace DateToken

theorem any_isElapsed_settle (timeOnly : Bool) (before raw : List RawToken) :
    (settle timeOnly before raw).any isElapsed = raw.any (·.meets isElapsed) := by
  induction raw generalizing before with
  | nil => rfl
  | cons token rest ih =>
    cases token with
    | settled token => simp only [settle, List.any_cons, ih, RawToken.meets]
    | monthOrMinute padded =>
      rw [settle, List.any_cons, ih, List.any_cons]
      split <;> rfl

end DateToken

namespace Piece

theorem any_isElapsed_joinLiterals (pieces : List Piece) :
    (joinLiterals pieces).any (·.token.meets DateToken.isElapsed) =
      pieces.any (·.token.meets DateToken.isElapsed) := by
  induction pieces with
  | nil => rfl
  | cons piece rest ih =>
    rw [joinLiterals, List.any_cons, ← ih]
    split
    · rename_i text later more others literal joined
      rw [literal, joined]
      rfl
    · rfl

end Piece

theorem DateToken.any_isElapsed_tokenize {body : List Char} (elapsed : HasElapsed body) (category : Category) :
    (tokenize body category).any isElapsed = true := by
  obtain ⟨front, content, back, rfl, unit⟩ := elapsed
  rw [tokenize, any_isElapsed_settle, List.any_map]
  refine (Piece.any_isElapsed_joinLiterals _).trans (Piece.any_isElapsed_scan _ _ unit front back _ ?_)
  simp

/-- A section that shows elapsed time has a token for it. -/
theorem Section.any_isElapsed {category : Category} {lexemes : List Lexeme} {tokens : List DateToken}
    (content : (ofLexemes category lexemes).content = .dateTime tokens)
    (elapsed : (ofLexemes category lexemes).elapsed = true) : tokens.any DateToken.isElapsed = true := by
  have body := Extract.hasElapsed_ofLexemes elapsed
  simp only [ofLexemes] at elapsed
  simp only [ofLexemes, Content.classify, elapsed, Bool.true_or, ↓reduceIte] at content
  split at content
  · cases content
  · cases content
    exact DateToken.any_isElapsed_tokenize body category

end Spreadsheet.Format
