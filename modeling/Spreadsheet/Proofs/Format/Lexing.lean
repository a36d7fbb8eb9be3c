import Spreadsheet.Format.Section

/-! A code is read from left to right and nothing that comes later changes what has been read: where no quotes, bracket
or mark is left open, the rest of the code is read as a code of its own. -/
namespace Spreadsheet.Format
namespace Lexeme

/-- The mode after one more character. -/
def Mode.next : Mode → Char → Mode
  | .outside, c =>
    if c = '"' then .inQuotes [] else if c = '[' then .inBracket [] else if isMark c then .afterMark c else .outside
  | .inQuotes content, c => if c = '"' then .outside else .inQuotes (c :: content)
  | .inBracket content, c => if c = ']' then .outside else .inBracket (c :: content)
  | .afterMark _, _ => .outside

/-- What a text leaves begun and not ended. -/
def Mode.after (text : List Char) : Mode := text.foldl Mode.next .outside

/-- The lexeme that a character completes, if it completes one. -/
def Mode.completed : Mode → Char → List Lexeme
  | .outside, c => if c = '"' ∨ c = '[' ∨ isMark c then [] else [plain c]
  | .inQuotes content, c => if c = '"' then [quoted content.reverse true] else []
  | .inBracket content, c => if c = ']' then [bracket content.reverse true] else []
  | .afterMark mark, c => [ofMark mark c]

theorem lexFrom_cons (mode : Mode) (c : Char) (rest : List Char) :
    lexFrom mode (c :: rest) = mode.completed c ++ lexFrom (mode.next c) rest := by
  cases mode with
  | outside =>
    by_cases quote : c = '"'
    · simp [lexFrom, Mode.completed, Mode.next, quote]
    by_cases opening : c = '['
    · simp [lexFrom, Mode.completed, Mode.next, opening]
    by_cases mark : isMark c = true
    · simp [lexFrom, Mode.completed, Mode.next, quote, opening, mark]
    · simp [lexFrom, Mode.completed, Mode.next, quote, opening, mark]
  | inQuotes content => by_cases quote : c = '"' <;> simp [lexFrom, Mode.completed, Mode.next, quote]
  | inBracket content => by_cases closing : c = ']' <;> simp [lexFrom, Mode.completed, Mode.next, closing]
  | afterMark mark => simp [lexFrom, Mode.completed, Mode.next]

/-- Where nothing is left open, the rest is read as if nothing came before it. -/
theorem lexFrom_append {mode : Mode} {text : List Char} (ended : text.foldl Mode.next mode = .outside)
    (rest : List Char) : lexFrom mode (text ++ rest) = lexFrom mode text ++ lexFrom .outside rest := by
  induction text generalizing mode with
  | nil =>
    cases ended
    rfl
  | cons c text ih => rw [List.cons_append, lexFrom_cons, ih ended, lexFrom_cons, List.append_assoc]

/-- Text without quotes is one content. -/
theorem lexFrom_inQuotes {text : List Char} (clean : '"' ∉ text) (content rest : List Char) :
    lexFrom (.inQuotes content) (text ++ '"' :: rest) = quoted (content.reverse ++ text) true :: lexFrom .outside rest := by
  induction text generalizing content with
  | nil => simp [lexFrom]
  | cons c text ih =>
    have other : c ≠ '"' := fun same => clean (same ▸ List.mem_cons_self)
    have later := ih (fun member => clean (List.mem_cons_of_mem _ member)) (c :: content)
    rw [List.cons_append, lexFrom_cons, Mode.completed, Mode.next, if_neg other, if_neg other, later]
    simp

/-- A text in quotes is one lexeme, whatever it holds beside quotes. -/
theorem lex_quoted {pre text : List Char} (outside : Mode.after pre = .outside) (clean : '"' ∉ text) (post : List Char) :
    lex (pre ++ '"' :: text ++ '"' :: post) = lex pre ++ quoted text true :: lex post := by
  have rest := lexFrom_inQuotes clean [] post
  rw [List.append_assoc, lex, lexFrom_append outside]
  exact congrArg (lex pre ++ ·) rest

theorem sections_ne_nil (lexemes : List Lexeme) : sections lexemes ≠ [] := by
  induction lexemes with
  | nil => simp [sections]
  | cons lexeme rest ih =>
    simp only [sections]
    split
    · simp
    · split <;> simp

theorem mem_of_mem_sections {lexemes run : List Lexeme} (among : run ∈ sections lexemes) {lexeme : Lexeme}
    (member : lexeme ∈ run) : lexeme ∈ lexemes := by
  induction lexemes generalizing run with
  | nil =>
    simp only [sections, List.mem_singleton] at among
    simp [among] at member
  | cons head rest ih =>
    simp only [sections] at among
    split at among
    · rcases List.mem_cons.mp among with new | old
      · simp [new] at member
      · exact List.mem_cons_of_mem _ (ih old member)
    · split at among
      · rename_i none
        exact absurd none (sections_ne_nil rest)
      · rename_i first others split
        rcases List.mem_cons.mp among with new | old
        · rw [new] at member
          rcases List.mem_cons.mp member with same | later
          · exact same ▸ List.mem_cons_self
          · exact List.mem_cons_of_mem _ (ih (by simp [split]) later)
        · exact List.mem_cons_of_mem _ (ih (by simp [split, old]) member)

/-- A lexeme that ends no section has the same runs around it, whichever it is. -/
theorem exists_sections (before after : List Lexeme) :
    ∃ front start finish back, ∀ lexeme, lexeme ≠ plain ';' →
      sections (before ++ lexeme :: after) = front ++ (start ++ lexeme :: finish) :: back := by
  induction before with
  | nil =>
    obtain ⟨first, others, split⟩ := List.exists_cons_of_ne_nil (sections_ne_nil after)
    refine ⟨[], [], first, others, ?_⟩
    intro lexeme goes
    simp [sections, goes, split]
  | cons head before ih =>
    obtain ⟨front, start, finish, back, around⟩ := ih
    by_cases ends : head = plain ';'
    · refine ⟨[] :: front, start, finish, back, ?_⟩
      intro lexeme goes
      simp [sections, ends, around lexeme goes]
    cases front with
    | nil =>
      refine ⟨[], head :: start, finish, back, ?_⟩
      intro lexeme goes
      simp [sections, ends, around lexeme goes]
    | cons run front =>
      refine ⟨(head :: run) :: front, start, finish, back, ?_⟩
      intro lexeme goes
      simp [sections, ends, around lexeme goes]

end Lexeme
end Spreadsheet.Format
