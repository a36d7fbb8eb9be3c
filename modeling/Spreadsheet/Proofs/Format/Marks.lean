import Spreadsheet.Proofs.Format.Signs

/-! The characters for private use that stand for the literals of a section. Unless the code has such a character
itself, the one that stands for a literal comes up in the body of its section once, and in no currency symbol: what is
put in its place is put in one place. -/
namespace Spreadsheet

theorem Text.mem_of_mem_trim {text : List Char} {c : Char} (member : c ∈ trim text) : c ∈ text := by
  rw [trim, List.mem_reverse] at member
  have front := (List.dropWhile_suffix _).subset member
  exact (List.dropWhile_suffix _).subset (List.mem_reverse.mp front)

namespace Format

/-- A character that may stand for a literal. -/
structure Reserved (mark : Char) : Prop where
  above : 0xE000 ≤ mark.toNat
  below : mark.toNat ≤ 0xF8FF

theorem reserved_placeholder {index : Nat} (inside : index < maxLiterals) : Reserved (placeholder index) := by
  have code := toNat_placeholder inside
  unfold maxLiterals at inside
  constructor <;> omega

theorem placeholderIndex?_placeholder {index : Nat} (inside : index < maxLiterals) :
    placeholderIndex? (placeholder index) = some index := by
  have code := toNat_placeholder inside
  unfold maxLiterals at inside
  rw [placeholderIndex?, if_pos (by omega), code, Nat.add_sub_cancel_left]

/-- No other character stands for the literal. -/
theorem eq_placeholder {index : Nat} {c : Char} (stands : placeholderIndex? c = some index) :
    c = placeholder index := by
  unfold placeholderIndex? at stands
  split at stands
  · have place : c.toNat - 0xE000 = index := Option.some.inj stands
    have inside : index < maxLiterals := by
      unfold maxLiterals
      omega
    have code : c.toNat = (placeholder index).toNat := by
      rw [toNat_placeholder inside]
      omega
    exact Char.ext (UInt32.toNat_inj.mp code)
  · cases stands

namespace Reserved
variable {mark : Char} (reserved : Reserved mark)
include reserved

theorem isSome : (placeholderIndex? mark).isSome = true := by
  rw [placeholderIndex?, if_pos ⟨reserved.above, reserved.below⟩]
  rfl

theorem not_mem {text : List Char} (plain : ∀ c ∈ text, placeholderIndex? c = none) : mark ∉ text := fun member => by
  simpa [plain mark member] using reserved.isSome

theorem not_mem_of_all {text : List Char} (plain : (text.all fun c => (placeholderIndex? c).isNone) = true) :
    mark ∉ text :=
  reserved.not_mem fun c member => Option.isNone_iff_eq_none.mp (List.all_eq_true.mp plain c member)

theorem ne {c : Char} (plain : placeholderIndex? c = none) : mark ≠ c := by
  rintro rfl
  simpa [plain] using reserved.isSome

/-- It has no other case. -/
theorem toLower : mark.toLower = mark := by
  have above := reserved.above
  have code : mark.val.toNat = mark.toNat := rfl
  unfold Char.toLower
  rw [dif_neg]
  intro upper
  have below := UInt32.le_iff_toNat_le.mp upper.2
  simp at below
  omega

theorem not_mem_of_isElapsed {content : List Char} (elapsed : Bracket.isElapsed content = true) : mark ∉ content := by
  intro member
  have letter := Bare.toLower_of_isElapsed elapsed mark member
  rw [reserved.toLower] at letter
  exact reserved.not_mem_of_all (by decide) letter

end Reserved

namespace Extract

/-- Within the limit of literals, a literal is stood for in one place. -/
def MarksOnce (extract : Extract) (index : Nat) : Prop :=
  extract.literals.length ≤ maxLiterals →
    extract.body.count (placeholder index) = if index < extract.literals.length then 1 else 0

section marks
variable {index : Nat} (inside : index < maxLiterals)
include inside

/-- A lexeme adds what stands for a literal to the body where it adds the literal, and not of its own accord. -/
theorem MarksOnce.addLexeme {extract : Extract} (once : extract.MarksOnce index) {lexeme : Lexeme}
    (clean : lexeme ≠ .plain (placeholder index)) : (extract.addLexeme lexeme).MarksOnce index := by
  intro few
  have reserved := reserved_placeholder inside
  cases grows_addLexeme extract lexeme with
  | nothing body literals _ =>
    rw [body, literals]
    exact once (literals ▸ few)
  | @char c _ body literals _ =>
    have other : placeholder index ∉ [c] := fun member => clean (congrArg _ (List.mem_singleton.mp member).symm)
    rw [body, literals, List.count_append, List.count_eq_zero.mpr other, Nat.add_zero]
    exact once (literals ▸ few)
  | literal text body literals _ =>
    rw [literals, List.length_append, List.length_singleton] at few
    have before := once (Nat.le_of_succ_le few)
    rw [body, literals, List.count_append, before, List.length_append, List.length_singleton]
    by_cases same : extract.literals.length = index
    · simp [same]
    · have other : placeholder index ∉ [placeholder extract.literals.length] := fun member => same <| by
        have codes := congrArg Char.toNat (List.mem_singleton.mp member)
        rw [toNat_placeholder few, toNat_placeholder inside] at codes
        omega
      rw [List.count_eq_zero.mpr other, Nat.add_zero]
      exact if_congr (by omega) rfl rfl
  | @bracket content _ unit body literals _ =>
    have other : placeholder index ∉ '[' :: content ++ [']'] := by
      simp only [List.cons_append, List.mem_cons, List.mem_append, List.not_mem_nil, or_false, not_or]
      exact ⟨reserved.ne rfl, reserved.not_mem_of_isElapsed unit, reserved.ne rfl⟩
    rw [body, literals, List.append_assoc, List.count_append, List.count_eq_zero.mpr other, Nat.add_zero]
    exact once (literals ▸ few)

theorem marksOnce_ofLexemes {lexemes : List Lexeme} (clean : .plain (placeholder index) ∉ lexemes) :
    (ofLexemes lexemes).MarksOnce index := by
  refine List.foldlRecOn lexemes Extract.addLexeme (motive := (MarksOnce · index)) (fun _ => by simp) ?_
  rintro extract once lexeme member
  exact once.addLexeme inside fun same => clean (same ▸ member)

end marks

/-- The fill of a section is one of its literals. -/
theorem fill_lt_length {lexemes : List Lexeme} {index : Nat} {c : Char}
    (fill : (ofLexemes lexemes).fill = some (index, c)) : index < (ofLexemes lexemes).literals.length := by
  have step := List.foldlRecOn lexemes addLexeme
    (motive := fun extract : Extract => ∀ place ∈ extract.fill, place.1 < extract.literals.length) (b := {})
    (fun _ none => nomatch none) ?_
  · exact step (index, c) fill
  · intro extract among lexeme _ place found
    have grown : extract.literals.length ≤ (extract.addLexeme lexeme).literals.length := by
      cases grows_addLexeme extract lexeme <;> simp [*]
    by_cases same : ∃ c, lexeme = .fill c
    · obtain ⟨c, rfl⟩ := same
      by_cases filled : extract.fill.isSome = true
      · simp only [addLexeme, filled, ↓reduceIte] at found ⊢
        exact among place found
      · simp only [addLexeme, filled, Bool.false_eq_true, ↓reduceIte, addLiteral] at found ⊢
        cases found
        simp
    · rw [fill_addLexeme extract fun c is => same ⟨c, is⟩] at found
      exact Nat.lt_of_lt_of_le (among place found) grown

end Extract

/-- The symbol of a bracket is written in it. -/
theorem Bracket.mem_of_read_currency {content symbol : List Char} {code : Option (List Char)}
    (read : Bracket.read content = .currency symbol code) {c : Char} (member : c ∈ symbol) : c ∈ content := by
  unfold Bracket.read at read
  dsimp only at read
  split at read
  · cases read
  split at read
  · rename_i index _
    cases found : Palette.color? index <;> simp [found] at read
  split at read
  · cases read
  split at read
  · rename_i found
    cases read
    refine Text.mem_of_mem_trim ?_
    unfold currency? at found
    split at found
    · rename_i rest within
      rw [within]
      refine List.mem_cons_of_mem _ ((List.takeWhile_sublist (· != '-')).subset ?_)
      dsimp only at found
      split at found
      · cases found
        exact member
      · split at found
        · cases found
          exact member
        · cases found
    · cases found
  · split at read <;> cases read

namespace Extract

/-- The symbol of a section is written in its code. -/
theorem mem_spellAll_of_currency {lexemes : List Lexeme} {symbol : List Char}
    (currency : (ofLexemes lexemes).currency = some symbol) {c : Char} (member : c ∈ symbol) :
    c ∈ Lexeme.spellAll lexemes := by
  have step := List.foldlRecOn lexemes addLexeme (b := {})
    (motive := fun extract : Extract => ∀ symbol ∈ extract.currency, ∀ c ∈ symbol, c ∈ Lexeme.spellAll lexemes)
    (fun _ none => nomatch none) ?_
  · exact step symbol currency c member
  · intro extract written lexeme among symbol found c member
    by_cases kept : (extract.addLexeme lexeme).currency = extract.currency
    · exact written symbol (kept ▸ found) c member
    cases lexeme with
    | bracket content closed =>
      cases closed with
      | false => exact absurd rfl kept
      | true =>
        simp only [addLexeme, addBracket] at found kept
        cases read : Bracket.read content with
        | currency new code =>
          simp only [read, addCurrency] at found
          have same : new = symbol := by
            split at found <;> exact Option.some.inj found
          subst same
          refine List.mem_flatMap.mpr ⟨_, among, ?_⟩
          simp [Lexeme.spell, Bracket.mem_of_read_currency read member]
        | _ => simp [read, addLiteral] at kept
    | fill c =>
      refine absurd ?_ kept
      simp only [addLexeme]
      split <;> rfl
    | _ => exact absurd rfl kept

end Extract

/-- The characters of a section are those of its code. -/
theorem ParsedFormat.mem_written {code : String} {category : Category} {section_ : Section}
    (among : section_ ∈ (ParsedFormat.parse code category).numericSections) {c : Char}
    (member : c ∈ section_.source) : c ∈ written code := by
  obtain ⟨split, -⟩ := eq_of_mem among
  rw [← Lexeme.spellAll_lex section_.source] at member
  obtain ⟨lexeme, inside, spelled⟩ := List.mem_flatMap.mp member
  rw [← Lexeme.spellAll_lex (written code)]
  refine List.mem_flatMap.mpr ⟨lexeme, Lexeme.mem_of_mem_sections ?_ inside, spelled⟩
  rw [sections_lex]
  exact List.mem_map_of_mem split

/-- What stands for the fill of a section comes up in its body once, and nowhere in the symbol of its currency. -/
structure Section.Bears (section_ : Section) (mark : Char) : Prop where
  reserved : Reserved mark
  once : section_.body.count mark = 1
  currency : ∀ symbol, section_.currency = some symbol → mark ∉ symbol

theorem Section.bears_fill {code : String} {category : Category} {section_ : Section}
    (among : section_ ∈ (ParsedFormat.parse code category).numericSections) {index : Nat} {c : Char}
    (fill : section_.fill = some (index, c)) (few : section_.literals.length ≤ maxLiterals)
    (clean : placeholder index ∉ code.toList) : index < maxLiterals ∧ section_.Bears (placeholder index) := by
  obtain ⟨-, read⟩ := ParsedFormat.eq_of_mem among
  have literals : section_.literals = (Extract.ofLexemes (Lexeme.lex section_.source)).literals :=
    congrArg (fun section_ : Section => section_.literals) read
  have present : index < section_.literals.length := by
    rw [read] at fill ⊢
    exact Extract.fill_lt_length fill
  have inside : index < maxLiterals := Nat.lt_of_lt_of_le present few
  have reserved := reserved_placeholder inside
  have unwritten : placeholder index ∉ Lexeme.spellAll (Lexeme.lex section_.source) := by
    rw [Lexeme.spellAll_lex]
    intro member
    have written := ParsedFormat.mem_written among member
    unfold ParsedFormat.written at written
    split at written
    · exact reserved.not_mem_of_all (by decide) written
    · exact clean written
  have plain : .plain (placeholder index) ∉ Lexeme.lex section_.source := fun member =>
    unwritten (List.mem_flatMap.mpr ⟨_, member, List.mem_singleton.mpr rfl⟩)
  refine ⟨inside, reserved, ?_, fun symbol currency member => unwritten ?_⟩
  · have once := Extract.marksOnce_ofLexemes inside plain (literals ▸ few)
    rw [← literals, if_pos present] at once
    rw [read]
    exact once
  · rw [read] at currency
    exact Extract.mem_spellAll_of_currency currency member

end Format
end Spreadsheet
