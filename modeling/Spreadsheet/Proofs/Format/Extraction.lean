import Spreadsheet.Proofs.Format.Dates
import Spreadsheet.Proofs.Format.Fills
import Spreadsheet.Proofs.Format.Pieces

/-! What is read off a section and what is left of it. The characters for private use in the body number the literals
in order, and the body with the literals put back is what the section shows: its text without quotes, marks and the
brackets that have been read. -/
namespace Spreadsheet.Format

/-- A bracket that shows nothing: a colour, a condition, or a currency without a symbol or after the one whose symbol
is shown. -/
def Bracket.IsSilent (shown : Bool) : Bracket → Prop
  | color _ | condition _ => True
  | currency symbol _ => symbol = [] ∨ shown = true
  | elapsed | literal => False

/-- What the text of a section shows, where the symbol of a currency has been shown before it or not. -/
inductive Shows : (shown : Bool) → (source text : List Char) → Prop where
  | nil {shown : Bool} : Shows shown [] []
  | plain {shown : Bool} {c : Char} {source text : List Char} (ordinary : c ∉ ['"', '[', '\\', '_', '*'])
      (rest : Shows shown source text) : Shows shown (c :: source) (c :: text)
  | quoted {shown : Bool} {content source text : List Char} (inside : '"' ∉ content) (rest : Shows shown source text) :
      Shows shown ('"' :: content ++ '"' :: source) (content ++ text)
  | unterminated {shown : Bool} {content : List Char} (inside : '"' ∉ content) : Shows shown ('"' :: content) content
  | escaped {shown : Bool} {c : Char} {source text : List Char} (rest : Shows shown source text) :
      Shows shown ('\\' :: c :: source) (c :: text)
  | spacer {shown : Bool} {c : Char} {source text : List Char} (rest : Shows shown source text) :
      Shows shown ('_' :: c :: source) (' ' :: text)
  | fill {shown : Bool} {c : Char} {source text : List Char} (rest : Shows shown source text) :
      Shows shown ('*' :: c :: source) text
  | trailing {shown : Bool} {c : Char} (mark : c ∈ ['\\', '_', '*']) : Shows shown [c] []
  | unclosed {shown : Bool} {content : List Char} (inside : ']' ∉ content) : Shows shown ('[' :: content) ('[' :: content)
  | silent {shown : Bool} {content source text : List Char} (inside : ']' ∉ content)
      (silent : (Bracket.read content).IsSilent shown) (rest : Shows shown source text) :
      Shows shown ('[' :: content ++ ']' :: source) text
  | symbol {content source text symbol : List Char} {code : Option (List Char)} (inside : ']' ∉ content)
      (read : Bracket.read content = .currency symbol code) (present : symbol ≠ []) (rest : Shows true source text) :
      Shows false ('[' :: content ++ ']' :: source) (symbol ++ text)
  | kept {shown : Bool} {content source text : List Char} (inside : ']' ∉ content)
      (kept : Bracket.read content = .elapsed ∨ Bracket.read content = .literal) (rest : Shows shown source text) :
      Shows shown ('[' :: content ++ ']' :: source) ('[' :: content ++ ']' :: text)

theorem cutAt?_append {mark : Char} {first : List Char} (inside : mark ∉ first) (later : List Char) :
    cutAt? mark (first ++ mark :: later) = some (first, later) := by
  induction first with
  | nil => simp [cutAt?]
  | cons c first ih =>
    obtain ⟨other, others⟩ := not_or.mp (mt List.mem_cons.mpr inside)
    rw [List.cons_append, cutAt?, if_neg (Ne.symm other), ih others]
    rfl

theorem eq_of_cutAt? {mark : Char} {text first later : List Char} (cut : cutAt? mark text = some (first, later)) :
    text = first ++ mark :: later ∧ mark ∉ first := by
  induction text generalizing first with
  | nil => cases cut
  | cons c rest ih =>
    rw [cutAt?] at cut
    split at cut
    · rename_i same
      cases cut
      exact ⟨by rw [same, List.nil_append], List.not_mem_nil⟩
    · rename_i other
      obtain ⟨⟨front, back⟩, found, same⟩ := Option.map_eq_some_iff.mp cut
      cases same
      obtain ⟨rfl, inside⟩ := ih found
      exact ⟨rfl, List.not_mem_cons_of_ne_of_not_mem (Ne.symm other) inside⟩

theorem cutAt?_eq_none {mark : Char} {text : List Char} : cutAt? mark text = none ↔ mark ∉ text := by
  induction text with
  | nil => simp [cutAt?]
  | cons c rest ih =>
    rw [cutAt?]
    split <;> simp_all [eq_comm]

namespace Lexeme

theorem lex_plain {c : Char} (ordinary : c ∉ ['"', '[', '\\', '_', '*']) (source : List Char) :
    lex (c :: source) = plain c :: lex source := by
  simp only [List.mem_cons, List.not_mem_nil, or_false, not_or] at ordinary
  simp [lex, lexFrom, isMark, ordinary]

theorem lex_unterminated {content : List Char} (inside : '"' ∉ content) :
    lex ('"' :: content) = [quoted content false] := by
  simp [lex, lexFrom, lexFrom_inQuotes_eq, cutAt?_eq_none.mpr inside]

theorem lex_bracket {content : List Char} (inside : ']' ∉ content) (source : List Char) :
    lex ('[' :: content ++ ']' :: source) = bracket content true :: lex source := by
  simp [lex, lexFrom, lexFrom_inBracket_eq, cutAt?_append inside]

theorem lex_unclosed {content : List Char} (inside : ']' ∉ content) :
    lex ('[' :: content) = [bracket content false] := by
  simp [lex, lexFrom, lexFrom_inBracket_eq, cutAt?_eq_none.mpr inside]

end Lexeme

open Lexeme in
/-- Every text shows something: each of its characters is read in one of these ways. -/
theorem exists_shows (source : List Char) (shown : Bool) : ∃ text, Shows shown source text := by
  fun_induction lexByLeaps source generalizing shown with
  | case1 => exact ⟨[], .nil⟩
  | case2 rest content later cut ih =>
    obtain ⟨rfl, inside⟩ := eq_of_cutAt? cut
    obtain ⟨text, shows⟩ := ih shown
    exact ⟨_, .quoted inside shows⟩
  | case3 rest cut => exact ⟨rest, .unterminated (cutAt?_eq_none.mp cut)⟩
  | case4 rest content later cut _ ih =>
    obtain ⟨rfl, inside⟩ := eq_of_cutAt? cut
    obtain ⟨text, shows⟩ := ih shown
    cases read : Bracket.read content with
    | color hex => exact ⟨text, .silent inside (read ▸ trivial) shows⟩
    | condition condition => exact ⟨text, .silent inside (read ▸ trivial) shows⟩
    | currency symbol code =>
      by_cases silent : symbol = [] ∨ shown = true
      · exact ⟨text, .silent inside (read ▸ silent) shows⟩
      · obtain ⟨present, first⟩ := not_or.mp silent
        obtain rfl := Bool.eq_false_iff.mpr first
        obtain ⟨text, shows⟩ := ih true
        exact ⟨_, .symbol inside read present shows⟩
    | elapsed => exact ⟨_, .kept inside (.inl read) shows⟩
    | literal => exact ⟨_, .kept inside (.inr read) shows⟩
  | case5 rest cut _ => exact ⟨_, .unclosed (cutAt?_eq_none.mp cut)⟩
  | case6 mark quote opening isMark =>
    refine ⟨[], .trailing ?_⟩
    simpa [Lexeme.isMark, or_assoc] using isMark
  | case7 mark quote opening isMark along later ih =>
    obtain ⟨text, shows⟩ := ih shown
    rcases (show mark = '\\' ∨ mark = '_' ∨ mark = '*' by simpa [Lexeme.isMark, or_assoc] using isMark)
      with rfl | rfl | rfl
    · exact ⟨_, .escaped shows⟩
    · exact ⟨_, .spacer shows⟩
    · exact ⟨_, .fill shows⟩
  | case8 c rest quote opening other ih =>
    obtain ⟨text, shows⟩ := ih shown
    refine ⟨_, .plain ?_ shows⟩
    simp_all [Lexeme.isMark]

namespace Extract

/-- What has been taken in reads back as a text: its characters for private use number the literals in order, and with
the literals put back it is the text. -/
def ReadsBack (extract : Extract) (text : List Char) : Prop :=
  extract.literals.length ≤ maxLiterals →
    extract.body.filterMap placeholderIndex? = List.range extract.literals.length ∧
      Section.restore extract [] extract.body = text

/-- Literals are put back one by one, and those that come later change nothing before. -/
theorem restore_append {extract after : Extract} {more : List (List Char)}
    (literals : after.literals = extract.literals ++ more)
    (marks : extract.body.filterMap placeholderIndex? = List.range extract.literals.length) (added : List Char) :
    Section.restore after [] (extract.body ++ added) =
      Section.restore extract [] extract.body ++ Section.restore after [] added := by
  have inside {c : Char} (member : c ∈ extract.body) {index : Nat} (stands : placeholderIndex? c = some index) :
      index < extract.literals.length :=
    List.mem_range.mp (marks ▸ List.mem_filterMap.mpr ⟨c, member, stands⟩)
  unfold Section.restore
  rw [List.flatMap_append]
  congr 1
  refine List.flatMap_congr fun c member => ?_
  cases stands : placeholderIndex? c with
  | none => rfl
  | some index => simp [literals, List.getElem?_append_left (inside member stands)]

variable {extract after : Extract} {text added : List Char}

/-- Characters that stand for no literal stay in the body. -/
theorem ReadsBack.stay (back : extract.ReadsBack text) (body : after.body = extract.body ++ added)
    (literals : after.literals = extract.literals) (clean : ∀ c ∈ added, placeholderIndex? c = none) :
    after.ReadsBack (text ++ added) := by
  intro few
  obtain ⟨marks, restored⟩ := back (literals ▸ few)
  have none : added.filterMap placeholderIndex? = [] := List.filterMap_eq_nil_iff.mpr clean
  have same : after.literals = extract.literals ++ [] := by rw [literals, List.append_nil]
  rw [body, restore_append same marks, restored, Section.restore_eq_self _ _ clean, List.filterMap_append, none,
    List.append_nil, literals]
  exact ⟨marks, rfl⟩

theorem ReadsBack.literal (back : extract.ReadsBack text)
    (body : after.body = extract.body ++ [placeholder extract.literals.length])
    (literals : after.literals = extract.literals ++ [added]) : after.ReadsBack (text ++ added) := by
  intro few
  rw [literals, List.length_append, List.length_singleton] at few
  obtain ⟨marks, restored⟩ := back (Nat.le_of_succ_le few)
  have stands := placeholderIndex?_placeholder few
  have put : Section.restore after [] [placeholder extract.literals.length] = added := by
    simp [Section.restore, stands, literals]
  rw [body, restore_append literals marks, restored, put, List.filterMap_append, marks, literals, List.length_append,
    List.length_singleton, List.range_succ]
  exact ⟨by simp [stands], rfl⟩

/-- A bracket that shows nothing leaves body and literals as they are, and the place of the symbol. -/
theorem addBracket_of_isSilent {content : List Char}
    (silent : (Bracket.read content).IsSilent extract.currencyIndex.isSome) :
    (extract.addBracket content).body = extract.body ∧ (extract.addBracket content).literals = extract.literals ∧
      (extract.addBracket content).currencyIndex = extract.currencyIndex := by
  unfold addBracket
  cases read : Bracket.read content with
  | color hex => exact ⟨rfl, rfl, rfl⟩
  | condition condition => exact ⟨rfl, rfl, rfl⟩
  | currency symbol code =>
    have none : (symbol.isEmpty || extract.currencyIndex.isSome) = true := by
      simpa [read, Bracket.IsSilent] using silent
    simp [addCurrency, none]
  | elapsed => simp [read, Bracket.IsSilent] at silent
  | literal => simp [read, Bracket.IsSilent] at silent

/-- The symbol of the first currency that has one stands in the place of its bracket. -/
theorem ReadsBack.symbol (back : extract.ReadsBack text) {content symbol : List Char} {code : Option (List Char)}
    (read : Bracket.read content = .currency symbol code) (present : symbol ≠ [])
    (first : extract.currencyIndex.isNone = true) :
    (extract.addBracket content).ReadsBack (text ++ symbol) ∧
      (extract.addBracket content).currencyIndex.isSome = true := by
  have shows : (symbol.isEmpty || extract.currencyIndex.isSome) = false := by simpa [present] using first
  simp only [addBracket, read, addCurrency, shows]
  exact ⟨back.literal rfl rfl, rfl⟩

/-- The other brackets stay, those for elapsed time in the body and the rest as literals. -/
theorem ReadsBack.kept (back : extract.ReadsBack text) {content : List Char}
    (kept : Bracket.read content = .elapsed ∨ Bracket.read content = .literal)
    (clean : ∀ c ∈ '[' :: content ++ [']'], placeholderIndex? c = none) :
    (extract.addBracket content).ReadsBack (text ++ ('[' :: content ++ [']'])) ∧
      (extract.addBracket content).currencyIndex = extract.currencyIndex := by
  rcases kept with read | read
  · simp only [addBracket, read]
    exact ⟨back.stay (List.append_assoc _ _ _) rfl clean, trivial⟩
  · simp only [addBracket, read]
    exact ⟨back.literal rfl rfl, rfl⟩

open Lexeme in
/-- Reading on adds what the rest of the text shows. -/
theorem ReadsBack.foldl {shown : Bool} {source : List Char} (shows : Shows shown source added)
    (clean : ∀ c ∈ source, placeholderIndex? c = none) (back : extract.ReadsBack text)
    (known : extract.currencyIndex.isSome = shown) :
    ((lex source).foldl addLexeme extract).ReadsBack (text ++ added) := by
  induction shows generalizing extract text with
  | nil => simpa [lex, lexFrom] using back
  | @plain shown c source added ordinary rest ih =>
    obtain ⟨first, clean⟩ := List.forall_mem_cons.mp clean
    have step : (extract.addLexeme (.plain c)).ReadsBack (text ++ [c]) := back.stay rfl rfl (by simpa using first)
    rw [lex_plain ordinary, List.append_cons]
    exact ih clean step known
  | @quoted shown content source added inside rest ih =>
    have step : (extract.addLexeme (.quoted content true)).ReadsBack (text ++ content) := back.literal rfl rfl
    have first : lex ('"' :: content ++ '"' :: source) = .quoted content true :: lex source :=
      lexFrom_inQuotes inside [] source
    rw [first, ← List.append_assoc]
    exact ih (fun c member => clean c (by simp [member])) step known
  | unterminated inside =>
    rw [lex_unterminated inside]
    exact back.literal rfl rfl
  | @escaped shown c source added rest ih =>
    have step : (extract.addLexeme (.escaped c)).ReadsBack (text ++ [c]) := back.literal rfl rfl
    rw [List.append_cons]
    exact ih (fun d member => clean d (by simp [member])) step known
  | @spacer shown c source added rest ih =>
    have step : (extract.addLexeme (.spacer c)).ReadsBack (text ++ [' ']) := back.literal rfl rfl
    rw [List.append_cons]
    exact ih (fun d member => clean d (by simp [member])) step known
  | @fill shown c source added rest ih =>
    have step : (extract.addLexeme (.fill c)).ReadsBack text ∧
        (extract.addLexeme (.fill c)).currencyIndex = extract.currencyIndex := by
      rw [addLexeme]
      split
      · exact ⟨back, rfl⟩
      · rw [← List.append_nil text]
        exact ⟨back.literal rfl rfl, rfl⟩
    exact ih (fun d member => clean d (by simp [member])) step.1 (step.2 ▸ known)
  | @trailing shown c mark =>
    have alone : lex [c] = [.trailing c] := by
      simp only [List.mem_cons, List.not_mem_nil, or_false] at mark
      rcases mark with rfl | rfl | rfl <;> rfl
    rw [alone, List.append_nil]
    exact back
  | unclosed inside =>
    rw [lex_unclosed inside]
    exact back.literal rfl rfl
  | @silent shown content source added inside silent rest ih =>
    have quiet : (Bracket.read content).IsSilent extract.currencyIndex.isSome := known ▸ silent
    obtain ⟨body, literals, index⟩ := addBracket_of_isSilent quiet
    rw [← List.append_nil extract.body] at body
    have step := back.stay body literals (by simp)
    rw [lex_bracket inside, ← List.append_nil text]
    exact ih (fun c member => clean c (by simp [member])) step (index ▸ known)
  | @symbol content source added symbol code inside read present rest ih =>
    obtain ⟨step, shown⟩ := back.symbol read present (Option.isSome_eq_false_iff.mp known)
    rw [lex_bracket inside, ← List.append_assoc]
    exact ih (fun c member => clean c (by simp [member])) step shown
  | @kept shown content source added inside kept rest ih =>
    rw [List.append_cons] at clean
    obtain ⟨step, index⟩ := back.kept kept fun c member => clean c (List.mem_append_left _ member)
    have later := ih (fun c member => clean c (List.mem_append_right _ member)) step (index ▸ known)
    rw [lex_bracket inside, List.append_cons, ← List.append_assoc]
    exact later

/-- What a text shows is what its body reads back as. -/
theorem readsBack_lex {source : List Char} (shows : Shows false source text)
    (clean : ∀ c ∈ source, placeholderIndex? c = none) : (ofLexemes (Lexeme.lex source)).ReadsBack text :=
  ReadsBack.foldl shows clean (fun _ => ⟨rfl, rfl⟩) rfl

/-- A lexeme leaves the place of the symbol as it is, or adds the symbol as the next literal. -/
theorem currencyIndex_addLexeme (extract : Extract) (lexeme : Lexeme) :
    (extract.addLexeme lexeme).currencyIndex = extract.currencyIndex ∨
      (extract.addLexeme lexeme).currencyIndex = some extract.literals.length ∧
        (extract.addLexeme lexeme).literals.length = extract.literals.length + 1 := by
  cases lexeme with
  | fill c =>
    rw [addLexeme]
    split <;> exact .inl rfl
  | bracket content closed =>
    cases closed with
    | false => exact .inl rfl
    | true =>
      simp only [addLexeme, addBracket]
      split
      · exact .inl rfl
      · exact .inl rfl
      · simp only [addCurrency]
        split
        · exact .inl rfl
        · exact .inr ⟨rfl, List.length_append⟩
      · exact .inl rfl
      · exact .inl rfl
  | _ => exact .inl rfl

/-- The symbol of the currency of a section is one of its literals. -/
theorem currencyIndex_lt_length {lexemes : List Lexeme} {index : Nat}
    (currency : (ofLexemes lexemes).currencyIndex = some index) : index < (ofLexemes lexemes).literals.length := by
  have step := List.foldlRecOn lexemes addLexeme
    (motive := fun extract : Extract => ∀ index ∈ extract.currencyIndex, index < extract.literals.length) (b := {})
    (fun _ none => nomatch none) ?_
  · exact step index currency
  · intro extract among lexeme _ index found
    have grown : extract.literals.length ≤ (extract.addLexeme lexeme).literals.length := by
      cases grows_addLexeme extract lexeme <;> simp [*]
    rcases currencyIndex_addLexeme extract lexeme with same | ⟨placed, longer⟩
    · exact Nat.lt_of_lt_of_le (among index (same ▸ found)) grown
    · cases placed.symm.trans found
      omega

/-- A bracket is left in the body only to ask for elapsed time. -/
theorem elapsed_of_mem {source : List Char} (few : (ofLexemes (Lexeme.lex source)).literals.length ≤ maxLiterals)
    (opening : '[' ∈ (ofLexemes (Lexeme.lex source)).body) : (ofLexemes (Lexeme.lex source)).elapsed = true := by
  unfold ofLexemes at few opening ⊢
  refine List.foldlRecOn (Lexeme.lex source) addLexeme
    (motive := fun extract : Extract =>
      extract.literals.length ≤ maxLiterals → '[' ∈ extract.body → extract.elapsed = true)
    (fun _ none => nomatch none) ?_ few opening
  intro extract before lexeme member few opening
  cases grows_addLexeme extract lexeme with
  | nothing body literals elapsed => exact elapsed ▸ before (literals ▸ few) (body ▸ opening)
  | char body literals elapsed =>
    obtain ⟨-, other, -⟩ := Lexeme.plain_of_mem_lexFrom member
    rw [body, List.mem_append, List.mem_singleton] at opening
    exact elapsed ▸ before (literals ▸ few) (opening.resolve_right other.symm)
  | literal text body literals elapsed =>
    rw [literals, List.length_append, List.length_singleton] at few
    have other : '[' ≠ placeholder extract.literals.length := fun same =>
      ordinary_placeholder few (same ▸ List.mem_cons_self)
    rw [body, List.mem_append, List.mem_singleton] at opening
    exact elapsed ▸ before (Nat.le_of_succ_le few) (opening.resolve_right other)
  | bracket _ _ _ elapsed => exact elapsed

end Extract

theorem Divides.exists_stands {twelveHour afterSeconds : Bool} {pieces : List Piece}
    (divides : Divides twelveHour afterSeconds pieces) {piece : Piece} (member : piece ∈ pieces) :
    ∃ afterSeconds following, Stands twelveHour afterSeconds piece following := by
  induction divides with
  | nil => cases member
  | cons stands _ ih =>
    rcases List.mem_cons.mp member with rfl | later
    · exact ⟨_, _, stands⟩
    · exact ih later

/-- A token for elapsed time is made of a bracket. -/
theorem DateToken.mem_of_any_isElapsed {body : List Char} {category : Category}
    (elapsed : (tokenize body category).any isElapsed = true) : '[' ∈ body := by
  rw [tokenize, any_isElapsed_settle, List.any_map] at elapsed
  have scanned := (Piece.any_isElapsed_joinLiterals _).symm.trans elapsed
  obtain ⟨piece, member, unit⟩ := List.any_eq_true.mp scanned
  obtain ⟨covered, divided⟩ := Piece.divides_scan (hasDayHalf body) body.length false (Nat.le_refl body.length)
  have opening : '[' ∈ piece.text := by
    obtain ⟨afterSeconds, following, stands⟩ := divided.exists_stands member
    cases stands with
    | fraction => cases unit
    | literal => cases unit
    | meaning means =>
      cases means with
      | elapsed one => exact List.mem_cons_self
      | _ => cases unit
  rw [← covered]
  exact List.mem_flatMap.mpr ⟨piece, member, opening⟩

namespace ParsedFormat

end ParsedFormat
end Spreadsheet.Format
