import Spreadsheet.Proofs.Format.Plain

/-! What stands for a literal in a digit pattern. Digits that are put in the places of a pattern leave the rest of it
where it is. Only the digits of an exponent and the inside of a fraction are not printed as they are written; a literal
that is not among them is printed once. -/
namespace Spreadsheet.Format

section digits
variable {mark : Char} (reserved : Reserved mark)
include reserved

namespace Reserved

theorem isPlaceholder_eq_false : isPlaceholder mark = false := by
  have zero := reserved.ne (c := '0') rfl
  have hash := reserved.ne (c := '#') rfl
  have question := reserved.ne (c := '?') rfl
  simp [isPlaceholder, zero, hash, question]

theorem not_mem_placeholders (text : List Char) : mark ∉ placeholders text := fun member => by
  simpa [reserved.isPlaceholder_eq_false] using List.of_mem_filter member

theorem not_mem_padding (c : Char) : mark ∉ padding c := by
  unfold padding
  split
  · exact reserved.not_mem_of_all rfl
  · split <;> exact reserved.not_mem_of_all rfl

theorem not_mem_withPlaces (places value : Nat) : mark ∉ Number.withPlaces places value := by
  have digits := reserved.not_mem_padLeft (reserved.not_mem_numeral value) (places + 1)
  unfold Number.withPlaces
  dsimp only
  split
  · exact digits
  · simp only [List.mem_append, List.mem_cons, not_or]
    exact ⟨fun member => digits (List.mem_of_mem_take member), reserved.ne rfl,
      fun member => digits (List.mem_of_mem_drop member)⟩

theorem not_mem_exactFixed? {places : Nat} {x : Number} {text : List Char}
    (fixed : x.exactFixed? places = some text) : mark ∉ text := by
  unfold Number.exactFixed? at fixed
  split at fixed
  · cases fixed
  split at fixed
  · dsimp only at fixed
    split at fixed
    · cases fixed
      exact reserved.not_mem_text _
    · cases fixed
      split
      · simpa using ⟨reserved.ne (c := '-') rfl, reserved.not_mem_withPlaces _ _⟩
      · exact reserved.not_mem_withPlaces _ _
  · cases fixed
    exact reserved.not_mem_text x

theorem not_mem_fixed? {places : Nat} {x : Number} {text : List Char} (fixed : x.fixed? places = some text) :
    mark ∉ text := by
  unfold Number.fixed? at fixed
  split at fixed
  · obtain ⟨value, -, rfl⟩ := Option.map_eq_some_iff.mp fixed
    have zeros : mark ∉ if places = 0 then [] else '.' :: List.replicate places '0' := by
      split
      · exact List.not_mem_nil
      · simp [reserved.ne (c := '.') rfl, reserved.ne (c := '0') rfl]
    exact List.not_mem_append (reserved.not_mem_numeral _) zeros
  split at fixed
  · exact reserved.not_mem_exactFixed? fixed
  · exact reserved.not_mem_exactFixed? fixed

end Reserved

/-- What is no placeholder stays where it is, and digits bring nothing else along. -/
theorem count_placeDigits (pattern : List Char) {digits : List Char} (lacks : mark ∉ digits) :
    (placeDigits pattern digits).count mark = pattern.count mark := by
  have padded (c : Char) := List.count_eq_zero.mpr (reserved.not_mem_padding c)
  have other {c : Char} (place : ¬(!isPlaceholder c) = true) : c ≠ mark := by
    rintro rfl
    simp [reserved.isPlaceholder_eq_false] at place
  fun_induction placeDigits pattern digits with
  | case1 => rfl
  | case2 digits c pattern fixed ih => rw [List.count_cons, List.count_cons, ih lacks]
  | case3 c pattern place more digit digits ih =>
    rw [List.mem_cons, not_or] at lacks
    rw [List.count_cons_of_ne (Ne.symm lacks.1), ih lacks.2, List.count_cons_of_ne (other place)]
  | case4 c pattern place more ih =>
    rw [List.count_append, padded, ih lacks, Nat.zero_add, List.count_cons_of_ne (other place)]
  | case5 c pattern digits place last ih =>
    have printed : mark ∉ if digits.isEmpty then padding c else digits := by
      split
      · exact reserved.not_mem_padding c
      · exact lacks
    rw [List.count_append, List.count_eq_zero.mpr printed, ih List.not_mem_nil, Nat.zero_add,
      List.count_cons_of_ne (other place)]

omit reserved in
theorem mem_groupThrees {separator digits : List Char} {c : Char} (member : c ∈ groupThrees separator digits) :
    c ∈ separator ∨ c ∈ digits := by
  induction digits with
  | nil => cases member
  | cons digit rest ih =>
    simp only [groupThrees] at member
    split at member
    · simp only [List.cons_append, List.mem_cons, List.mem_append] at member ⊢
      tauto
    · simp only [List.mem_cons] at member ⊢
      tauto

omit reserved in
theorem mem_groupDigits {separator text : List Char} {c : Char} (member : c ∈ groupDigits separator text) :
    c ∈ separator ∨ c ∈ text := by
  simp only [groupDigits, List.mem_append] at member
  rcases member with (before | run) | after
  · exact .inr ((List.takeWhile_sublist _).subset before)
  · exact (mem_groupThrees run).imp_right fun inside =>
      List.mem_of_mem_drop ((List.takeWhile_sublist _).subset inside)
  · exact .inr (List.mem_of_mem_drop (List.mem_of_mem_drop after))

theorem count_fillInteger {digits : List Char} (lacks : mark ∉ digits) (pattern : List Char)
    {separator : Option (List Char)} (apart : ∀ text, separator = some text → mark ∉ text) :
    (fillInteger digits pattern separator).count mark = pattern.count mark := by
  have filled : (placeDigits pattern.reverse digits.reverse).reverse.count mark = pattern.count mark := by
    rw [List.count_reverse, count_placeDigits reserved _ (by simpa using lacks), List.count_reverse]
  unfold fillInteger
  dsimp only
  split
  · split
    · rename_i text
      split
      · rename_i all
        have absent : mark ∉ pattern := fun member => by
          simpa [reserved.isPlaceholder_eq_false] using List.all_eq_true.mp all mark member
        have none := List.count_eq_zero.mpr absent
        rw [none] at filled ⊢
        refine List.count_eq_zero.mpr fun member => ?_
        rcases mem_groupDigits member with between | inside
        · exact apart text rfl between
        · exact List.count_eq_zero.mp filled inside
      · exact filled
    · exact filled
  · rw [List.count_append, List.count_eq_zero.mpr lacks, Nat.zero_add]

theorem not_mem_trimZeros {places : List (Char × Char)} (lacks : ∀ place ∈ places, place.1 ≠ mark) :
    mark ∉ trimZeros places := by
  induction places with
  | nil => exact List.not_mem_nil
  | cons place rest ih =>
    obtain ⟨digit, c⟩ := place
    have here := lacks _ List.mem_cons_self
    have later : ∀ place ∈ rest, place.1 ≠ mark := fun place member => lacks place (List.mem_cons_of_mem _ member)
    rw [trimZeros]
    split
    · rw [List.mem_cons, not_or]
      refine ⟨Ne.symm here, fun member => ?_⟩
      obtain ⟨place, inside, same⟩ := List.mem_map.mp member
      exact later place inside same
    · rw [List.mem_append, not_or]
      exact ⟨reserved.not_mem_padding c, ih later⟩

theorem not_mem_fillDecimals {digits : List Char} (lacks : mark ∉ digits) (pattern : List Char) :
    mark ∉ fillDecimals digits pattern := by
  unfold fillDecimals
  split
  · exact lacks
  · rw [List.mem_append, List.mem_reverse, not_or]
    refine ⟨not_mem_trimZeros reserved ?_, fun member => lacks (List.mem_of_mem_drop member)⟩
    rintro ⟨digit, c⟩ member rfl
    exact lacks (List.of_mem_zip (List.mem_reverse.mp member)).1

variable {locale : Locale} (lacks : locale.Lacks mark)
include lacks

/-- Digits with fixed decimals. -/
theorem count_fixedText? {x : Number} {pattern : DigitPattern} {text : List Char}
    (shown : fixedText? x pattern locale = some text) : text.count mark = pattern.integer.count mark := by
  obtain ⟨fixed, found, rfl⟩ := Option.map_eq_some_iff.mp shown
  have digits : mark ∉ fixed := reserved.not_mem_fixed? found
  have whole : mark ∉ fixed.takeWhile (· != '.') := fun member => digits ((List.takeWhile_sublist _).subset member)
  have decimals (count : Nat) : mark ∉ (fixed.drop count).drop 1 := fun member =>
    digits (List.mem_of_mem_drop (List.mem_of_mem_drop member))
  have first : mark ∉ if fixed.takeWhile (· != '.') = ['0'] then [] else fixed.takeWhile (· != '.') := by
    split
    · exact List.not_mem_nil
    · exact whole
  have apart : ∀ text, (if pattern.grouping then some locale.thousands.toList else none) = some text → mark ∉ text := by
    intro text same
    split at same <;> cases same
    exact lacks.thousands
  rw [List.count_append, count_fillInteger reserved first _ apart]
  split
  · rw [List.count_append, List.count_eq_zero.mpr lacks.decimal,
      List.count_eq_zero.mpr (not_mem_fillDecimals reserved (decimals _) _), Nat.add_zero]
  · rfl

/-- The digits of an exponent bring nothing along. -/
theorem count_scientificText? {x : Number} {pattern : DigitPattern} {exponent : ExponentPattern} {text : List Char}
    (shown : scientificText? x pattern exponent locale = some text) :
    text.count mark = pattern.integer.count mark := by
  have letter : mark ≠ if exponent.upper then 'E' else 'e' := by split <;> exact reserved.ne rfl
  have sign (negative : Bool) : mark ∉ if negative then ['-'] else if exponent.alwaysSign then ['+'] else [] := by
    split
    · exact reserved.not_mem_of_all rfl
    · split <;> exact reserved.not_mem_of_all rfl
  have finished {mantissa : Number} {digits magnitude : List Char} (negative : Bool) (size : mark ∉ magnitude)
      (fixed : fixedText? mantissa { pattern with grouping := false } locale = some digits) :
      (digits ++ (if exponent.upper then 'E' else 'e') ::
        (if negative then ['-'] else if exponent.alwaysSign then ['+'] else []) ++
        Text.padLeft exponent.digits '0' magnitude).count mark = pattern.integer.count mark := by
    have after := reserved.not_mem_padLeft size exponent.digits
    rw [List.count_append, List.count_append, count_fixedText? reserved lacks fixed, List.count_cons_of_ne letter.symm,
      List.count_eq_zero.mpr (sign negative), List.count_eq_zero.mpr after]
    rfl
  unfold scientificText? at shown
  dsimp only at shown
  split at shown
  · obtain ⟨_, ⟨⟩, shown⟩ := Option.bind_eq_some_iff.mp shown
    obtain ⟨digits, fixed, ⟨⟩⟩ := Option.bind_eq_some_iff.mp shown
    exact finished false (reserved.not_mem_of_all rfl) fixed
  split at shown
  · obtain ⟨_, normal, shown⟩ := Option.bind_eq_some_iff.mp shown
    obtain ⟨normalized, -, ⟨⟩⟩ := Option.map_eq_some_iff.mp normal
    obtain ⟨digits, fixed, ⟨⟩⟩ := Option.bind_eq_some_iff.mp shown
    exact finished _ (reserved.not_mem_numeral _) fixed
  · obtain ⟨_, ⟨⟩, shown⟩ := Option.bind_eq_some_iff.mp shown
    obtain ⟨digits, fixed, ⟨⟩⟩ := Option.bind_eq_some_iff.mp shown
    exact finished false (reserved.not_mem_text x) fixed

omit lacks in
theorem not_mem_flatMap_padding (places : List Char) : mark ∉ places.flatMap padding := fun member => by
  obtain ⟨c, -, inside⟩ := List.mem_flatMap.mp member
  exact reserved.not_mem_padding c inside

omit lacks in
/-- A fraction without literals inside has none in its text. -/
theorem not_mem_fractionText? {x : Number} {fraction : FractionPattern} {text : List Char}
    (integer : mark ∉ fraction.integer) (separator : mark ∉ fraction.separator)
    (shown : fractionText? x fraction = some text) : mark ∉ text := by
  obtain ⟨⟨whole, numerator, denominator⟩, -, rfl⟩ := Option.map_eq_some_iff.mp shown
  have digits (y : Number) : mark ∉ Scalar.text y := reserved.not_mem_text y
  have wholeText : mark ∉ if !fraction.integer.isEmpty then
      fillInteger (if Scalar.same whole (Scalar.ofInt 0) then [] else Scalar.text whole) fraction.integer none
      else [] := by
    split
    · have given : mark ∉ if Scalar.same whole (Scalar.ofInt 0) then [] else Scalar.text whole := by
        split
        · exact List.not_mem_nil
        · exact digits whole
      refine List.count_eq_zero.mp ?_
      rw [count_fillInteger reserved given _ (by simp), List.count_eq_zero.mpr integer]
    · exact List.not_mem_nil
  have bar {below : List Char} (absent : mark ∉ below) :
      mark ∉ padLeftTo fraction.numerator (Scalar.text numerator) ++ '/' :: below :=
    List.not_mem_append (List.not_mem_append (not_mem_flatMap_padding reserved _) (digits numerator))
      (List.not_mem_cons_of_ne_of_not_mem (reserved.ne rfl) absent)
  dsimp only
  generalize (if !fraction.integer.isEmpty then
    fillInteger (if Scalar.same whole (Scalar.ofInt 0) then [] else Scalar.text whole) fraction.integer none
    else []) = printed at wholeText ⊢
  have beside {text : List Char} (absent : mark ∉ text) :
      mark ∉ if !!fraction.integer.isEmpty then fraction.separator ++ text
        else if Scalar.same whole (Scalar.ofInt 0) && !fraction.integer.contains '0' then text
        else printed ++ fraction.separator ++ text := by
    split
    · exact List.not_mem_append separator absent
    split
    · exact absent
    · exact List.not_mem_append (List.not_mem_append wholeText separator) absent
  split
  · split
    · exact reserved.not_mem_of_all rfl
    · exact wholeText
  · refine beside ?_
    cases fraction.denominator with
    | fixed value => exact bar (digits denominator)
    | free places => exact bar (List.not_mem_append (digits denominator) (not_mem_flatMap_padding reserved _))

end digits

theorem getElem_of_lastIndex? {p : Char → Bool} {text : List Char} {last : Nat}
    (found : lastIndex? p text = some last) :
    ∃ inside : last < text.length, p text[last] = true := by
  obtain ⟨back, place, rfl⟩ := Option.map_eq_some_iff.mp found
  obtain ⟨short, holds, _⟩ := List.findIdx?_eq_some_iff_getElem.mp place
  rw [List.length_reverse] at short
  rw [List.getElem_reverse] at holds
  exact ⟨by omega, holds⟩

namespace DigitPattern

/-- A pattern with a placeholder ends after it starts. -/
theorem bounds_le {body : List Char} (placed : body.any isPlaceholder = true) : (bounds body).1 ≤ (bounds body).2 := by
  obtain ⟨first, starts⟩ : ∃ first, body.findIdx? isPlaceholder = some first := by
    rw [← Option.isSome_iff_exists, List.findIdx?_isSome]
    exact placed
  obtain ⟨last, ends⟩ : ∃ last, lastIndex? isPlaceholder body = some last := by
    rw [← Option.isSome_iff_exists, lastIndex?, Option.isSome_map, List.findIdx?_isSome, List.any_reverse]
    exact placed
  obtain ⟨inside, holds⟩ := getElem_of_lastIndex? ends
  obtain ⟨_, _, before⟩ := List.findIdx?_eq_some_iff_getElem.mp starts
  have order : first ≤ last := Nat.le_of_not_lt fun earlier => before last earlier holds
  have front : (if 0 < first ∧ body[first - 1]? = some '.' then first - 1 else first) ≤ last := by split <;> omega
  have least {stop? : Option Nat} {start : Nat} (late : ∀ stop, stop? = some stop → start ≤ stop)
      (early : start ≤ last + 1) : start ≤ stop?.getD (last + 1) := by
    cases stop? with
    | none => exact early
    | some stop => exact late stop rfl
  unfold bounds
  simp only [starts, ends, Option.map_some, Option.getD_some]
  generalize (if 0 < first ∧ body[first - 1]? = some '.' then first - 1 else first) = start at front ⊢
  refine least (fun stop found => ?_) (Nat.le_succ_of_le front)
  obtain ⟨slash, -, found⟩ := Option.bind_eq_some_iff.mp found
  split at found
  · rename_i past
    have beyond : last < slash := by simpa using (Bool.and_eq_true_iff.mp past).2
    split at found
    · cases found
    · cases found
      omega
  · cases found

/-- What a pattern prints whatever the number is. -/
def outer (pattern : DigitPattern) : List Char := pattern.lead ++ pattern.integer ++ pattern.trail

/-- A pattern is read as a fraction or as a mantissa, which is all but the exponent, between a lead and a trail. Commas
of the scale apart, no part of the body is left out. -/
theorem parse_cases {body : List Char} (placed : body.any isPlaceholder = true) :
    ∃ (lead core trail : List Char) (scale percents : Nat),
      (∀ mark, mark ≠ ',' → lead.count mark + core.count mark + trail.count mark = body.count mark) ∧
      ((∃ left right, left.Sublist core ∧
          parse body = { lead, trail, scale, percents, fraction := some (.ofParts left right) }) ∨
        ∃ exponent mantissa, mantissa.Sublist core ∧ (exponent = none → mantissa = core) ∧
          parse body = withMantissa { lead, trail, scale, percents, exponent } mantissa) := by
  have order := bounds_le placed
  unfold parse
  generalize bounds body = limits at *
  obtain ⟨start, stop⟩ := limits
  dsimp only at order ⊢
  generalize run : ((body.drop stop).takeWhile (· == ',')).length = scale
  generalize body.count '%' = percents
  refine ⟨body.take start, (body.take stop).drop start, body.drop (stop + scale), scale, percents,
    fun mark other => ?_, ?_⟩
  · have commas : mark ∉ (body.drop stop).takeWhile (· == ',') := fun member =>
      other (beq_iff_eq.mp (List.all_eq_true.mp List.all_takeWhile mark member))
    have split := List.takeWhile_append_dropWhile (p := (· == ',')) (l := body.drop stop)
    have rest := congrArg (List.drop scale) split
    rw [← run, List.drop_left, List.drop_drop, run] at rest
    have front : (body.take stop).take start = body.take start := by rw [List.take_take, Nat.min_eq_left order]
    have inner := congrArg (List.count mark) (List.take_append_drop start (body.take stop))
    have whole := congrArg (List.count mark) (List.take_append_drop stop body)
    have after := congrArg (List.count mark) split
    rw [List.count_append, front] at inner
    rw [List.count_append] at whole
    rw [List.count_append, List.count_eq_zero.mpr commas, rest] at after
    omega
  · split
    · exact .inl ⟨_, _, List.take_sublist _ _, rfl⟩
    · split
      · exact .inr ⟨some _, _, List.take_sublist _ _, (nomatch ·), rfl⟩
      · exact .inr ⟨none, _, List.Sublist.refl _, fun _ => rfl, rfl⟩

theorem withMantissa_kind (pattern : DigitPattern) (mantissa : List Char) :
    (withMantissa pattern mantissa).exponent = pattern.exponent ∧
      (withMantissa pattern mantissa).fraction = pattern.fraction := by
  unfold withMantissa
  dsimp only
  split <;> exact ⟨rfl, rfl⟩

end DigitPattern

section pattern
variable {mark : Char} (reserved : Reserved mark)
include reserved

/-- Commas, the point and the placeholders of its decimals are all that a mantissa does not print as it is written. -/
theorem DigitPattern.count_outer_withMantissa (pattern : DigitPattern) (mantissa : List Char) :
    (withMantissa pattern mantissa).outer.count mark =
      pattern.lead.count mark + mantissa.count mark + pattern.trail.count mark := by
  have comma := reserved.ne (c := ',') rfl
  have integer : ((mantissa.takeWhile (· != '.')).filter (· != ',')).count mark =
      (mantissa.takeWhile (· != '.')).count mark := List.count_filter (by simpa using comma)
  have whole := congrArg (List.count mark) (List.takeWhile_append_dropWhile (p := (· != '.')) (l := mantissa))
  rw [List.count_append] at whole
  unfold withMantissa outer
  dsimp only
  split
  · rename_i none
    rw [none, List.count_nil] at whole
    simp only [List.count_append, integer]
    omega
  · rename_i point decimals split
    have first : (point != '.') = false := by
      have head := List.head?_dropWhile_not (· != '.') mantissa
      simpa [split] using head
    have point : point = '.' := by simpa using first
    rw [split, point, List.count_cons_of_ne (reserved.ne (c := '.') rfl).symm] at whole
    have kept : (decimals.filter fun c => !isPlaceholder c && c != ',').count mark = decimals.count mark :=
      List.count_filter (by simp [reserved.isPlaceholder_eq_false, comma])
    simp only [List.count_append, integer, kept]
    omega

theorem FractionPattern.not_mem_ofParts {left : List Char} (lacks : mark ∉ left) (right : List Char) :
    mark ∉ (FractionPattern.ofParts left right).integer ∧ mark ∉ (FractionPattern.ofParts left right).separator :=
  ⟨reserved.not_mem_placeholders _, fun member => lacks (List.mem_of_mem_take (List.mem_of_mem_drop member))⟩

/-- The digits of a pattern, which are a fraction, have an exponent or have fixed decimals, stand between its lead and
its trail. -/
theorem exists_of_patternText? {magnitude : Number} {pattern : DigitPattern} {locale : Locale} {category : Category}
    {text : List Char} (shown : patternText? magnitude pattern locale category = some text) :
    ∃ (x : Number) (core : List Char),
      ((∃ fraction, pattern.fraction = some fraction ∧ fractionText? x fraction = some core) ∨
        pattern.fraction = none ∧ ((∃ exponent, scientificText? x pattern exponent locale = some core) ∨
          fixedText? x pattern locale = some core)) ∧
      text.count mark = pattern.lead.count mark + core.count mark + pattern.trail.count mark := by
  have sign : mark ∉ if (category = .percentage && pattern.percents = 0) = true then ['%'] else [] := by
    split <;> exact reserved.not_mem_of_all rfl
  have around (core : List Char) : (pattern.lead ++ core ++ pattern.trail ++
      if (category = .percentage && pattern.percents = 0) = true then ['%'] else []).count mark =
        pattern.lead.count mark + core.count mark + pattern.trail.count mark := by
    simp only [List.count_append, List.count_eq_zero.mpr sign, Nat.add_zero]
  unfold patternText? at shown
  dsimp only at shown
  split at shown
  · rename_i fraction kind
    obtain ⟨core, found, ⟨⟩⟩ := Option.bind_eq_some_iff.mp shown
    exact ⟨_, core, .inl ⟨fraction, kind, found⟩, around core⟩
  · rename_i exponent none _
    obtain ⟨core, found, ⟨⟩⟩ := Option.bind_eq_some_iff.mp shown
    exact ⟨_, core, .inr ⟨none, .inl ⟨exponent, found⟩⟩, around core⟩
  · rename_i none _
    obtain ⟨core, found, ⟨⟩⟩ := Option.bind_eq_some_iff.mp shown
    exact ⟨_, core, .inr ⟨none, .inr found⟩, around core⟩

variable {locale : Locale} (lacks : locale.Lacks mark)
include lacks

/-- A literal that stands neither in the digits of an exponent nor in a fraction is printed once. -/
theorem count_patternText? {body : List Char} (placed : body.any isPlaceholder = true) (once : body.count mark = 1)
    (outside : ((DigitPattern.parse body).exponent.isSome = true ∨ (DigitPattern.parse body).fraction.isSome = true) →
      mark ∈ (DigitPattern.parse body).outer)
    {magnitude : Number} {category : Category} {text : List Char}
    (shown : patternText? magnitude (.parse body) locale category = some text) : text.count mark = 1 := by
  obtain ⟨x, core, printed, counted⟩ := exists_of_patternText? reserved shown
  obtain ⟨lead, inner, trail, scale, percents, parts, fraction | mantissa⟩ := DigitPattern.parse_cases placed
  · obtain ⟨left, right, within, read⟩ := fraction
    rw [read] at printed counted outside
    obtain ⟨fraction, same, printed⟩ | ⟨⟨⟩, -⟩ := printed
    cases same
    have total := parts mark (reserved.ne rfl)
    have present := List.one_le_count_iff.mpr (outside (.inr rfl))
    simp only [DigitPattern.outer, List.append_nil, List.count_append] at present
    have none : mark ∉ inner := List.count_eq_zero.mp (by omega)
    obtain ⟨integer, separator⟩ :=
      FractionPattern.not_mem_ofParts reserved (fun member => none (within.subset member)) right
    rw [counted, List.count_eq_zero.mpr (not_mem_fractionText? reserved integer separator printed)]
    dsimp only
    omega
  · obtain ⟨exponent, mantissa, within, all, read⟩ := mantissa
    obtain ⟨sameExponent, sameFraction⟩ :=
      DigitPattern.withMantissa_kind { lead, trail, scale, percents, exponent } mantissa
    have total := parts mark (reserved.ne rfl)
    have outer := DigitPattern.count_outer_withMantissa reserved { lead, trail, scale, percents, exponent } mantissa
    rw [read] at printed counted outside
    generalize DigitPattern.withMantissa { lead, trail, scale, percents, exponent } mantissa = pattern at *
    have digits : core.count mark = pattern.integer.count mark := by
      obtain ⟨fraction, same, -⟩ | ⟨-, ⟨exponent, scientific⟩ | fixed⟩ := printed
      · cases sameFraction.symm.trans same
      · exact count_scientificText? reserved lacks scientific
      · exact count_fixedText? reserved lacks fixed
    have exactly : pattern.outer.count mark = 1 := by
      dsimp only at outer sameExponent
      cases exponent with
      | none =>
        rw [outer, all rfl]
        omega
      | some exponent =>
        have present := List.one_le_count_iff.mpr (outside (.inl (by rw [sameExponent]; rfl)))
        have least := within.count_le mark
        omega
    rw [counted, digits, ← exactly, DigitPattern.outer, List.count_append, List.count_append]

end pattern

end Spreadsheet.Format
