import Spreadsheet.Proofs.Format.Digits
import Spreadsheet.Proofs.Format.Patterns
import Spreadsheet.Proofs.Format.Templates

/-! How a body is cut into the parts of its digit pattern. Every placeholder is a place of the whole part, of the decimals
or of the exponent, and without an exponent every other character is found in one of the parts, apart from commas and the
point. -/
namespace Spreadsheet.Format

def withoutCommas (text : List Char) : List Char := text.filter (· != ',')

@[simp] theorem withoutCommas_append (front back : List Char) :
    withoutCommas (front ++ back) = withoutCommas front ++ withoutCommas back := List.filter_append ..

/-- Commas are no places. -/
@[simp] theorem placeholders_withoutCommas (text : List Char) : placeholders (withoutCommas text) = placeholders text := by
  unfold placeholders withoutCommas
  rw [List.filter_filter]
  refine List.filter_congr fun c _ => ?_
  by_cases comma : c = ','
  · simp [comma, isPlaceholder]
  · simp [comma]

theorem placeholders_eq_nil_iff {text : List Char} :
    placeholders text = [] ↔ ∀ c ∈ text, isPlaceholder c = false := by
  simp [placeholders]

/-- The places of a text and what else it holds, commas aside. -/
theorem perm_placeholders_append (text : List Char) :
    (withoutCommas (placeholders text ++ text.filter fun c => !isPlaceholder c && c != ',')).Perm
      (withoutCommas text) := by
  have places : withoutCommas (placeholders text) = (withoutCommas text).filter isPlaceholder := List.filter_comm ..
  have others : withoutCommas (text.filter fun c => !isPlaceholder c && c != ',') =
      (withoutCommas text).filter fun c => !isPlaceholder c := by
    rw [withoutCommas, withoutCommas, List.filter_filter, List.filter_filter]
    refine List.filter_congr fun c _ => ?_
    cases isPlaceholder c <;> cases c != ',' <;> rfl
  rw [withoutCommas_append, places, others]
  exact List.filter_append_perm isPlaceholder (withoutCommas text)

/-- A run of commas at the front is nothing without them. -/
theorem withoutCommas_dropWhile (text : List Char) :
    withoutCommas (text.dropWhile (· == ',')) = withoutCommas text := by
  have commas : withoutCommas (text.takeWhile (· == ',')) = [] := by
    have run := List.all_eq_true.mp (List.all_takeWhile (l := text) (p := (· == ',')))
    simpa [withoutCommas, List.filter_eq_nil_iff] using fun c member => beq_iff_eq.mp (run c member)
  conv_rhs => rw [← List.takeWhile_append_dropWhile (p := (· == ',')) (l := text), withoutCommas_append, commas]
  rfl

namespace DigitPattern

/-- Where the characters of a body are found in its pattern. The places of the body are those of the whole part and of the
decimals, in order, and as many more as the exponent has digits. The scale counts the commas directly after the last
place. Without an exponent, the lead and the whole part are the front of the body up to a point, and the decimals and the
trail hold what comes after it. -/
structure Accounts (pattern : DigitPattern) (body : List Char) : Prop where
  places : ∃ rest, placeholders body = placeholders pattern.integer ++ placeholders pattern.decimals ++ rest ∧
    rest.length = (pattern.exponent.map ExponentPattern.digits).getD 0
  scale : ∀ front last back, body = front ++ last :: back → isPlaceholder last = true →
    (∀ c ∈ back, isPlaceholder c = false) → pattern.scale = (back.takeWhile (· == ',')).length
  kept : pattern.exponent = none → ∃ whole after,
    body = pattern.lead ++ whole ++ (if pattern.hasPoint then ['.'] else []) ++ after ∧ '.' ∉ whole ∧
      pattern.integer = withoutCommas whole ∧
      (withoutCommas (pattern.decimals ++ pattern.trail)).Perm (withoutCommas after)

variable {body : List Char}

theorem exists_last (placed : body.any isPlaceholder = true) : ∃ front last back, body = front ++ last :: back ∧
    isPlaceholder last = true ∧ ∀ c ∈ back, isPlaceholder c = false := by
  obtain ⟨last, found⟩ : ∃ last, body.reverse.find? isPlaceholder = some last := by
    rw [← Option.isSome_iff_exists, List.find?_isSome]
    simpa using placed
  obtain ⟨place, back, front, split, none⟩ := List.find?_eq_some_iff_append.mp found
  refine ⟨front.reverse, last, back.reverse, ?_, place, by simpa using none⟩
  rw [← List.reverse_reverse body, split]
  simp

/-- The digits start with the first place or with a point directly before it. -/
theorem exists_lead (placed : body.any isPlaceholder = true) : ∃ lead first rest, body = lead ++ first :: rest ∧
    (bounds body).1 = lead.length ∧ (first = '.' ∨ isPlaceholder first = true) ∧ ∀ c ∈ lead, isPlaceholder c = false := by
  obtain ⟨place, found⟩ : ∃ place, body.find? isPlaceholder = some place := by
    rw [← Option.isSome_iff_exists, List.find?_isSome]
    simpa using placed
  obtain ⟨is, before, rest, rfl, none⟩ := List.find?_eq_some_iff_append.mp found
  have none : ∀ c ∈ before, isPlaceholder c = false := by simpa using none
  have index : (before ++ place :: rest).findIdx? isPlaceholder = some before.length := by
    simp [List.findIdx?_append, List.findIdx?_cons, is, List.findIdx?_eq_none_iff.mpr none]
  have start : (bounds (before ++ place :: rest)).1 = if 0 < before.length ∧
      (before ++ place :: rest)[before.length - 1]? = some '.' then before.length - 1 else before.length := by
    simp only [bounds, index, Option.map_some, Option.getD_some]
  rcases List.eq_nil_or_concat before with rfl | ⟨lead, last, rfl⟩
  · exact ⟨[], place, rest, rfl, start, .inr is, none⟩
  · rw [List.concat_eq_append] at *
    have previous : (lead ++ [last] ++ place :: rest)[(lead ++ [last]).length - 1]? = some last := by simp
    rw [previous] at start
    by_cases point : last = '.'
    · refine ⟨lead, last, place :: rest, by simp, start.trans (by simp [point]), .inl point, ?_⟩
      exact fun c member => none c (List.mem_append_left _ member)
    · exact ⟨lead ++ [last], place, rest, rfl, start.trans (by simp [point]), .inr is, none⟩

/-- The digits end with the last place, unless a slash is among them. -/
theorem bounds_snd {front back : List Char} {last : Char} (place : isPlaceholder last = true)
    (others : ∀ c ∈ back, isPlaceholder c = false) :
    (bounds (front ++ last :: back)).2 = front.length + 1 ∨ '/' ∈ ((front ++ last :: back).take
      (bounds (front ++ last :: back)).2).drop ((bounds (front ++ last :: back)).1 + 1) := by
  have ends := lastIndex?_append place front back others
  obtain ⟨i, index⟩ : ∃ i, (front ++ last :: back).findIdx? isPlaceholder = some i := by
    rw [← Option.isSome_iff_exists, List.findIdx?_isSome]
    simp [place]
  unfold bounds
  simp only [index, ends, Option.map_some, Option.getD_some]
  generalize front ++ last :: back = body
  generalize (if 0 < i ∧ body[i - 1]? = some '.' then i - 1 else i) = start
  generalize cut : Option.bind _ _ = stop?
  cases stop? with
  | none => exact .inl rfl
  | some stop =>
    right
    obtain ⟨slash, found, fixed⟩ := Option.bind_eq_some_iff.mp cut
    obtain ⟨k, index, rfl⟩ := Option.map_eq_some_iff.mp found
    obtain ⟨inside, is, -⟩ := List.findIdx?_eq_some_iff_getElem.mp index
    rw [List.getElem_drop, beq_iff_eq] at is
    rw [List.length_drop] at inside
    split at fixed
    · rename_i past
      have beyond : start < k + start := by simpa using (Bool.and_eq_true_iff.mp past).1
      split at fixed
      · cases fixed
      · cases fixed
        rw [List.mem_iff_getElem?]
        refine ⟨k - 1, ?_⟩
        rw [Option.getD_some, List.getElem?_drop, List.getElem?_take_of_lt (by omega),
          show start + 1 + (k - 1) = start + k by omega, List.getElem?_eq_getElem (by omega), is]
    · cases fixed

/-- The letter of an exponent and its sign are no places. -/
theorem exists_of_exponentAt? {text : List Char} {place : Nat} (found : exponentAt? text = some place) :
    ∃ letter sign, text = text.take place ++ letter :: sign :: text.drop (place + 2) ∧
      isPlaceholder letter = false ∧ isPlaceholder sign = false := by
  induction text generalizing place with
  | nil => cases found
  | cons c rest ih =>
    rw [exponentAt?] at found
    split at found
    · rename_i here
      obtain ⟨letter, sign⟩ := here
      cases found
      have plain : isPlaceholder c = false := by rcases letter with rfl | rfl <;> rfl
      rcases sign with plus | minus
      · obtain ⟨later, rfl⟩ := List.head?_eq_some_iff.mp plus
        exact ⟨c, '+', rfl, plain, rfl⟩
      · obtain ⟨later, rfl⟩ := List.head?_eq_some_iff.mp minus
        exact ⟨c, '-', rfl, plain, rfl⟩
    · obtain ⟨place, later, rfl⟩ := Option.map_eq_some_iff.mp found
      obtain ⟨letter, sign, split, plain, other⟩ := ih later
      exact ⟨letter, sign, congrArg (c :: ·) split, plain, other⟩

/-- A slash that is not at the front divides a text. -/
private theorem slash_inside {first : Char} {rest : List Char} (other : first ≠ '/') (slash : '/' ∈ rest) :
    0 < ((first :: rest).takeWhile (· != '/')).length ∧
      ((first :: rest).takeWhile (· != '/')).length < (first :: rest).length := by
  have cut : (rest.takeWhile (· != '/')).length < rest.length := by
    refine Nat.lt_of_le_of_ne (List.takeWhile_prefix _).length_le fun same => ?_
    have whole := (List.takeWhile_prefix (· != '/')).eq_of_length same
    simpa using List.takeWhile_eq_self_iff.mp whole '/' slash
  rw [List.takeWhile_cons_of_pos (by simpa using other), List.length_cons, List.length_cons]
  omega

/-- Without a fraction no fixed denominator is left after the last place. -/
theorem bounds_snd_of_simple {front back : List Char} {last : Char} (place : isPlaceholder last = true)
    (others : ∀ c ∈ back, isPlaceholder c = false) (simple : (parse (front ++ last :: back)).fraction = none) :
    (bounds (front ++ last :: back)).2 = front.length + 1 := by
  refine (bounds_snd place others).resolve_right fun slash => ?_
  have placed : (front ++ last :: back).any isPlaceholder = true := by simp [place]
  obtain ⟨lead, first, more, body_eq, start, starts, -⟩ := exists_lead placed
  generalize front ++ last :: back = body at *
  have other : first ≠ '/' := by
    rintro rfl
    simp [isPlaceholder] at starts
  have core : (body.take (bounds body).2).drop (bounds body).1 =
      first :: (body.take (bounds body).2).drop ((bounds body).1 + 1) := by
    have inside : (bounds body).1 < (body.take (bounds body).2).length := by
      have some := List.length_pos_of_mem slash
      rw [List.length_drop] at some
      omega
    have is : body[(bounds body).1]? = some first := by
      rw [start, body_eq]
      simp
    rw [List.drop_eq_getElem_cons inside, List.getElem_take]
    exact congrArg (· :: _) (Option.some.inj ((List.getElem?_eq_getElem _).symm.trans is))
  unfold parse at simple
  generalize bounds body = limits at *
  obtain ⟨start, stop⟩ := limits
  dsimp only at core slash simple
  rw [core, if_pos (slash_inside other slash)] at simple
  cases simple

/-- A body without a fraction: a lead, the digits, which end with the last place, and what follows it. -/
theorem exists_core (placed : body.any isPlaceholder = true) (simple : (parse body).fraction = none) :
    ∃ lead core back, body = lead ++ core ++ back ∧ bounds body = (lead.length, (lead ++ core).length) ∧
      (∃ inner last, core = inner ++ [last] ∧ isPlaceholder last = true) ∧
      (∀ c ∈ lead, isPlaceholder c = false) ∧ ∀ c ∈ back, isPlaceholder c = false := by
  obtain ⟨lead, first, more, begins, start, -, noneBefore⟩ := exists_lead placed
  obtain ⟨front, last, back, rfl, place, noneAfter⟩ := exists_last placed
  -- The last place is not in the lead, so that the digits go on from the lead to it.
  obtain ⟨inner, rfl⟩ : ∃ inner, front = lead ++ inner := by
    rcases List.append_eq_append_iff.mp begins.symm with ⟨inner, same, -⟩ | ⟨beyond, rfl, across⟩
    · exact ⟨inner, same⟩
    · cases beyond with
      | nil => exact ⟨[], by simp⟩
      | cons c beyond =>
        obtain ⟨rfl, -⟩ := List.cons.inj across
        exact absurd (noneBefore last (by simp)) (by simp [place])
  have stop := bounds_snd_of_simple place noneAfter simple
  refine ⟨lead, inner ++ [last], back, by simp, Prod.ext start ?_, ⟨inner, last, rfl, place⟩, noneBefore, noneAfter⟩
  rw [stop]
  simp only [List.length_append, List.length_singleton, Nat.add_assoc]

private theorem drop_length_takeWhile (p : Char → Bool) (text : List Char) :
    text.drop (text.takeWhile p).length = text.dropWhile p := by
  have split := congrArg (List.drop (text.takeWhile p).length)
    (List.takeWhile_append_dropWhile (p := p) (l := text)).symm
  rwa [List.drop_left] at split

/-- All of the digits are the mantissa, but for an exponent with its places. The commas of the scale are left out of the
trail. -/
theorem exists_mantissa {lead core back : List Char}
    (limits : bounds (lead ++ core ++ back) = (lead.length, (lead ++ core).length))
    (simple : (parse (lead ++ core ++ back)).fraction = none) :
    ∃ start mantissa rest, parse (lead ++ core ++ back) = withMantissa start mantissa ∧
      (start.hasPoint = false ∧ start.decimals = []) ∧ start.lead = lead ∧
      start.scale = (back.takeWhile (· == ',')).length ∧ start.trail = back.dropWhile (· == ',') ∧
      core = mantissa ++ rest ∧ (start.exponent = none → rest = []) ∧
      (placeholders rest).length = (start.exponent.map ExponentPattern.digits).getD 0 := by
  have front : (lead ++ core ++ back).take lead.length = lead := by
    rw [List.append_assoc, List.take_left]
  have trail : (lead ++ core ++ back).drop ((lead ++ core).length + (back.takeWhile (· == ',')).length) =
      back.dropWhile (· == ',') := by
    rw [← List.drop_drop, List.drop_left, drop_length_takeWhile]
  unfold parse at simple ⊢
  rw [limits] at simple ⊢
  simp only [List.drop_left, List.take_left, front, trail] at simple ⊢
  split at simple
  · cases simple
  · rename_i whole
    rw [if_neg whole]
    cases found : exponentAt? core with
    | none => exact ⟨_, core, [], rfl, ⟨rfl, rfl⟩, rfl, rfl, rfl, (List.append_nil core).symm, fun _ => rfl, rfl⟩
    | some place =>
      obtain ⟨letter, sign, split, plain, other⟩ := exists_of_exponentAt? found
      refine ⟨_, core.take place, letter :: sign :: core.drop (place + 2), rfl, ⟨rfl, rfl⟩, rfl, rfl, rfl, split,
        (nomatch ·), ?_⟩
      simp [placeholders, plain, other]

/-- The places of a mantissa are those of its whole part and of its decimals, and the rest of it is kept, with what
trailed before. -/
theorem withMantissa_parts {pattern : DigitPattern} (fresh : pattern.hasPoint = false ∧ pattern.decimals = [])
    (mantissa : List Char) : ∃ whole after,
      mantissa = whole ++ (if (withMantissa pattern mantissa).hasPoint then ['.'] else []) ++ after ∧ '.' ∉ whole ∧
      (withMantissa pattern mantissa).integer = withoutCommas whole ∧
      placeholders (withMantissa pattern mantissa).decimals = placeholders after ∧
      (withoutCommas ((withMantissa pattern mantissa).decimals ++ (withMantissa pattern mantissa).trail)).Perm
        (withoutCommas (after ++ pattern.trail)) := by
  have split := List.takeWhile_append_dropWhile (p := (· != '.')) (l := mantissa)
  have clean : '.' ∉ mantissa.takeWhile (· != '.') := fun member => by
    simpa using List.all_eq_true.mp List.all_takeWhile '.' member
  unfold withMantissa
  dsimp only
  split
  · rename_i none
    rw [none, List.append_nil] at split
    exact ⟨mantissa.takeWhile (· != '.'), [], by simp [fresh, split], clean, rfl, by simp [fresh], by simp [fresh]⟩
  · rename_i point decimals rest
    have point : point = '.' := by
      have head := List.head?_dropWhile_not (· != '.') mantissa
      simpa [rest] using head
    rw [rest, point] at split
    refine ⟨mantissa.takeWhile (· != '.'), decimals, by simp [split], clean, rfl, ?_, ?_⟩
    · simp [placeholders]
    · rw [← List.append_assoc, withoutCommas_append _ pattern.trail, withoutCommas_append decimals]
      exact (perm_placeholders_append decimals).append_right _

theorem withMantissa_frame (pattern : DigitPattern) (mantissa : List Char) :
    (withMantissa pattern mantissa).lead = pattern.lead ∧ (withMantissa pattern mantissa).scale = pattern.scale ∧
      (withMantissa pattern mantissa).exponent = pattern.exponent := by
  unfold withMantissa
  dsimp only
  split <;> exact ⟨rfl, rfl, rfl⟩

/-- A text has one last place. -/
theorem eq_of_last {front back front' back' : List Char} {last last' : Char} (place : isPlaceholder last = true)
    (place' : isPlaceholder last' = true) (others : ∀ c ∈ back, isPlaceholder c = false)
    (others' : ∀ c ∈ back', isPlaceholder c = false) (same : front ++ last :: back = front' ++ last' :: back') :
    back = back' := by
  have index := lastIndex?_append place front back others
  rw [same, lastIndex?_append place' front' back' others'] at index
  exact (List.cons.inj (List.append_inj same (Option.some.inj index).symm).2).2

/-- The parser of digit patterns loses nothing. Where it finds no fraction, every place of the body is a place of the
pattern, and without an exponent every other character is in one of its parts. -/
theorem accounts_parse (placed : body.any isPlaceholder = true) (simple : (parse body).fraction = none) :
    (parse body).Accounts body := by
  obtain ⟨lead, core, back, rfl, limits, ⟨inner, last, ends, place⟩, noneBefore, noneAfter⟩ := exists_core placed simple
  obtain ⟨start, mantissa, rest, read, fresh, leads, scales, trails, split, all, digits⟩ := exists_mantissa limits simple
  obtain ⟨whole, after, parts, clean, integer, places, kept⟩ := withMantissa_parts fresh mantissa
  obtain ⟨sameLead, sameScale, sameExponent⟩ := withMantissa_frame start mantissa
  rw [← read] at parts integer places kept sameLead sameScale sameExponent
  rw [leads] at sameLead
  rw [scales] at sameScale
  rw [trails] at kept
  generalize parse (lead ++ core ++ back) = pattern at *
  have point : placeholders (if pattern.hasPoint then ['.'] else []) = [] := by split <;> rfl
  have before := placeholders_eq_nil_iff.mpr noneBefore
  have behind := placeholders_eq_nil_iff.mpr noneAfter
  refine ⟨⟨placeholders rest, ?_, by rw [digits, sameExponent]⟩, ?_, ?_⟩
  · rw [integer, places, split, parts]
    simp [before, behind, point]
  · intro front last' back' same place' others'
    rw [ends, ← List.append_assoc, List.append_assoc _ [last]] at same
    rw [sameScale, eq_of_last place place' noneAfter others' same]
  · intro none
    rw [sameExponent] at none
    rw [all none, List.append_nil] at split
    refine ⟨whole, after ++ back, ?_, clean, integer, ?_⟩
    · rw [sameLead, split]
      conv_lhs => rw [parts]
      simp only [List.append_assoc]
    · rwa [withoutCommas_append after, withoutCommas_dropWhile, ← withoutCommas_append after] at kept

example : (parse "$#,##0.0-0,,%".toList).trail = "-%".toList := by decide

/-- A point directly before the first place, text and commas among the decimals, a second point, and commas of a scale
with more behind them. -/
theorem accounts_parse_crowded :
    let body := "a,.0b,#.?,,c,/".toList
    body.any isPlaceholder = true ∧ (parse body).fraction = none ∧ (parse body).Accounts body := by
  have placed : "a,.0b,#.?,,c,/".toList.any isPlaceholder = true := by decide
  have simple : (parse "a,.0b,#.?,,c,/".toList).fraction = none := by decide
  exact ⟨placed, simple, accounts_parse placed simple⟩

end DigitPattern
end Spreadsheet.Format
