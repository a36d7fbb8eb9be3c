import Mathlib.Data.Bool.AllAny
import Spreadsheet.Proofs.Format.Durations
import Spreadsheet.Proofs.Number.Exactness

/-! Elapsed time by its units. The tokens of a code show a duration in days, hours, minutes and seconds, the largest of
them in total and the smaller ones as they wrap, so that together they tell the duration down to the smallest one. -/
namespace Spreadsheet.Format
attribute [local instance (high)] instPowNat

/-- The units of elapsed time. -/
inductive TimeUnit where
  | day | hour | minute | second
deriving DecidableEq

namespace TimeUnit

def all : List TimeUnit := [day, hour, minute, second]

/-- The place among the units, the smallest first. -/
def rank : TimeUnit → Nat
  | day => 3
  | hour => 2
  | minute => 1
  | second => 0

@[simp] theorem rank_day : rank day = 3 := rfl

@[simp] theorem rank_hour : rank hour = 2 := rfl

@[simp] theorem rank_minute : rank minute = 1 := rfl

@[simp] theorem rank_second : rank second = 0 := rfl

def ms : TimeUnit → Nat
  | day => msPerDay
  | hour => msPerHour
  | minute => msPerMinute
  | second => msPerSecond

/-- How many make up one of the next larger unit. -/
def wrap : TimeUnit → Nat
  | day => 1
  | hour => 24
  | minute | second => 60

/-- Whether a larger unit shows as well. -/
def hasLarger (present : TimeUnit → Bool) (unit : TimeUnit) : Bool :=
  all.any fun other => present other && unit.rank < other.rank

/-- The count of a unit that shows beside others: in total if it is the largest one, and else what is left over. -/
def count (present : TimeUnit → Bool) (n : Nat) (unit : TimeUnit) : Nat :=
  if hasLarger present unit then n / unit.ms % unit.wrap else n / unit.ms

/-- Between two units that show, all others do. -/
def Contiguous (present : TimeUnit → Bool) : Prop :=
  ∀ low unit high, present low = true → present high = true → low.rank ≤ unit.rank → unit.rank ≤ high.rank →
    present unit = true

/-- What a unit leaves over and the next larger unit make up the unit. -/
theorem carry (n : Nat) {unit larger : TimeUnit} (next : larger.rank = unit.rank + 1) :
    n / larger.ms * larger.ms + n / unit.ms % unit.wrap * unit.ms = n / unit.ms * unit.ms := by
  have scale : larger.ms = unit.ms * unit.wrap := by
    cases unit <;> cases larger <;> first | rfl | cases next
  rw [scale, ← Nat.div_div_eq_div_mul, ← Nat.mul_assoc, Nat.mul_right_comm, ← Nat.add_mul, Nat.div_add_mod']

/-- What the units of a contiguous run leave over, beside the total of the largest, is the total of the smallest. -/
theorem sum_of_carry {present : TimeUnit → Bool} (contiguous : Contiguous present) (total rest : TimeUnit → Nat)
    (carry : ∀ unit larger : TimeUnit, larger.rank = unit.rank + 1 → total larger + rest unit = total unit)
    {smallest : TimeUnit} (last : (all.filter present).getLast? = some smallest) :
    ((all.filter present).map fun unit => if hasLarger present unit then rest unit else total unit).sum =
      total smallest := by
  have hours := carry hour day rfl
  have minutes := carry minute hour rfl
  have seconds := carry second minute rfl
  have hour' := contiguous minute hour day
  have hour'' := contiguous second hour day
  have minute' := contiguous second minute hour
  have minute'' := contiguous second minute day
  clear contiguous carry
  cases withDay : present day <;> cases withHour : present hour <;> cases withMinute : present minute <;>
    cases withSecond : present second <;>
    simp [all, hasLarger, withDay, withHour, withMinute, withSecond] at * <;> subst last <;> omega

/-- The counts, each weighted by its unit, make up the duration down to the smallest unit. -/
theorem sum_count {present : TimeUnit → Bool} (contiguous : Contiguous present) (n : Nat) {smallest : TimeUnit}
    (last : (all.filter present).getLast? = some smallest) :
    ((all.filter present).map fun unit => count present n unit * unit.ms).sum = n / smallest.ms * smallest.ms := by
  rw [← sum_of_carry contiguous (fun unit => n / unit.ms * unit.ms) _ (fun _ _ => carry n) last]
  congr 2
  funext unit
  unfold count
  split <;> rfl

end TimeUnit

/-- The unit that a token shows. -/
def DateToken.unit? : DateToken → Option TimeUnit
  | .day _ => some .day
  | .hour .. | .elapsed .hours _ => some .hour
  | .minute _ | .elapsed .minutes _ => some .minute
  | .second _ | .elapsed .seconds _ => some .second
  | _ => none

/-- Whether one of the tokens shows a unit. -/
def showsUnit (tokens : List DateToken) (unit : TimeUnit) : Bool := tokens.any (·.unit? == some unit)

/-- A token of elapsed time, by the counts of the units and the duration they are of. -/
def DateToken.elapsedField (count : TimeUnit → Nat) (n : Nat) (locale : Locale) : DateToken → List Char
  | .literal text => text
  | .day _ => Text.numeral (count .day)
  | .hour padded _ | .elapsed .hours padded => Text.padLeft (if padded then 2 else 0) '0' (Text.numeral (count .hour))
  | .minute padded | .elapsed .minutes padded =>
    Text.padLeft (if padded then 2 else 0) '0' (Text.numeral (count .minute))
  | .second padded | .elapsed .seconds padded =>
    Text.padLeft (if padded then 2 else 0) '0' (Text.numeral (count .second))
  | .fraction digits =>
    locale.decimal.toList ++ Text.padLeft digits '0' (Text.numeral (n % msPerSecond / 10 ^ (3 - digits)))
  | .year _ | .month _ | .dayHalf _ => []

section tokens
variable {tokens : List DateToken} {ms : Number} {n : Nat} (whole : ms.toInt? = some (n : Int))
  (small : n < 2 ^ (53 : Nat))

theorem any_isHour (tokens : List DateToken) : tokens.any DateToken.isHour = showsUnit tokens .hour := by
  unfold showsUnit
  congr 1
  funext token
  cases token with
  | elapsed unit padded => cases unit <;> rfl
  | _ => rfl

theorem any_isMinute (tokens : List DateToken) : tokens.any DateToken.isMinute = showsUnit tokens .minute := by
  unfold showsUnit
  congr 1
  funext token
  cases token with
  | elapsed unit padded => cases unit <;> rfl
  | _ => rfl

include whole small in
/-- The decimals of a second are cut off. -/
theorem decimals_eq (digits : Nat) (locale : Locale) : Elapsed.decimals digits (ms % .ofNat msPerSecond) locale =
    locale.decimal.toList ++ Text.padLeft digits '0' (Text.numeral (n % msPerSecond / 10 ^ (3 - digits))) := by
  have rest : (ms % .ofNat msPerSecond).toInt? = some ((n % msPerSecond : Nat) : Int) :=
    Number.toInt?_rem whole (Number.toInt?_ofNat (by decide)) small (by decide)
  have less : n % msPerSecond < 2 ^ (53 : Nat) := Nat.lt_of_le_of_lt (Nat.mod_le _ _) small
  unfold Elapsed.decimals
  congr 2
  obtain all | some : 3 - digits = 0 ∨ 3 - digits ∈ [1, 2, 3] := by simp; omega
  · have one : ms % .ofNat msPerSecond / .ofNat 1 = ms % .ofNat msPerSecond := Number.div_one _
    rw [all, Nat.pow_zero, Nat.div_one, one, Number.floor_of_toInt? rest, Number.text_of_toInt? rest less]
  · have unit : ∀ places ∈ [1, 2, 3], 2 ≤ 10 ^ places ∧ 10 ^ places < 2 ^ (53 : Nat) := by decide
    obtain ⟨many, bounded⟩ := unit _ some
    exact text_units rest less many bounded

theorem hasLarger_day (present : TimeUnit → Bool) : TimeUnit.hasLarger present .day = false := by
  simp [TimeUnit.hasLarger, TimeUnit.all]

theorem hasLarger_hour (present : TimeUnit → Bool) : TimeUnit.hasLarger present .hour = present .day := by
  simp [TimeUnit.hasLarger, TimeUnit.all]

variable {present : TimeUnit → Bool} (contiguous : TimeUnit.Contiguous present)
include contiguous

/-- Minutes stand beside larger units if and only if they stand beside hours. -/
theorem hasLarger_minute (shown : present .minute = true) : TimeUnit.hasLarger present .minute = present .hour := by
  have between : present .day = true → present .hour = true := fun day =>
    contiguous .minute .hour .day shown day (by decide) (by decide)
  simp only [TimeUnit.hasLarger, TimeUnit.all]
  cases day : present .day <;> simp_all

theorem hasLarger_second (shown : present .second = true) :
    TimeUnit.hasLarger present .second = (present .hour || present .minute) := by
  have between : present .day = true → present .hour = true := fun day =>
    contiguous .second .hour .day shown day (by decide) (by decide)
  simp only [TimeUnit.hasLarger, TimeUnit.all]
  cases day : present .day <;> simp_all

end tokens

section elapsed
variable {tokens : List DateToken} {ms : Number} {n : Nat} (whole : ms.toInt? = some (n : Int))
  (small : n < 2 ^ (53 : Nat))
include whole small

/-- Hours do not wrap, so that there must be none to wrap beside days. -/
theorem hours_text (within : showsUnit tokens .day = true → n < msPerDay) :
    (Elapsed.ofMs tokens ms).hours.text = Text.numeral (TimeUnit.count (showsUnit tokens) n .hour) := by
  refine (text_units whole small (by decide) (by decide)).trans (congrArg Text.numeral ?_)
  rw [TimeUnit.count, hasLarger_hour]
  split
  · rename_i day
    exact (Nat.mod_eq_of_lt (Nat.div_lt_of_lt_mul (within day))).symm
  · rfl

variable (contiguous : TimeUnit.Contiguous (showsUnit tokens))
include contiguous

theorem minutes_text (shown : showsUnit tokens .minute = true) :
    (Elapsed.ofMs tokens ms).minutes.text = Text.numeral (TimeUnit.count (showsUnit tokens) n .minute) := by
  rw [TimeUnit.count, hasLarger_minute contiguous shown]
  simp only [Elapsed.ofMs, any_isHour]
  split
  · exact text_units_mod whole small (by decide) (by decide)
  · exact text_units whole small (by decide) (by decide)

theorem seconds_text (shown : showsUnit tokens .second = true) :
    (Elapsed.ofMs tokens ms).seconds.text = Text.numeral (TimeUnit.count (showsUnit tokens) n .second) := by
  rw [TimeUnit.count, hasLarger_second contiguous shown]
  simp only [Elapsed.ofMs, any_isHour, any_isMinute]
  split
  · exact text_units_mod whole small (by decide) (by decide)
  · exact text_units whole small (by decide) (by decide)

variable (within : showsUnit tokens .day = true → showsUnit tokens .hour = true → n < msPerDay)
include within

/-- Each token shows the count of its unit. -/
theorem tokenText_eq (locale : Locale) {token : DateToken} (member : token ∈ tokens) :
    (Elapsed.ofMs tokens ms).tokenText ms locale token =
      token.elapsedField (TimeUnit.count (showsUnit tokens) n) n locale := by
  have shows {unit : TimeUnit} (is : token.unit? = some unit) : showsUnit tokens unit = true :=
    List.any_eq_true.mpr ⟨token, member, by simp [is]⟩
  have hours (shown : showsUnit tokens .hour = true) := hours_text whole small fun day => within day shown
  have minutes := minutes_text whole small contiguous
  have seconds := seconds_text whole small contiguous
  cases token with
  | literal text => rfl
  | year fourDigits => rfl
  | month form => rfl
  | dayHalf form => rfl
  | day form =>
    refine (text_units whole small (by decide) (by decide)).trans (congrArg Text.numeral ?_)
    rw [TimeUnit.count, hasLarger_day]
    rfl
  | hour padded twelveHour => exact congrArg (Text.padLeft _ '0') (hours (shows rfl))
  | minute padded => exact congrArg (Text.padLeft _ '0') (minutes (shows rfl))
  | second padded => exact congrArg (Text.padLeft _ '0') (seconds (shows rfl))
  | fraction digits => exact decimals_eq whole small digits locale
  | elapsed unit padded =>
    cases unit with
    | hours => exact congrArg (Text.padLeft _ '0') (hours (shows rfl))
    | minutes => exact congrArg (Text.padLeft _ '0') (minutes (shows rfl))
    | seconds => exact congrArg (Text.padLeft _ '0') (seconds (shows rfl))

/-- Elapsed time, token by token. -/
theorem elapsedText_eq (locale : Locale) : elapsedText tokens ms locale =
    tokens.flatMap (DateToken.elapsedField (TimeUnit.count (showsUnit tokens) n) n locale) := by
  unfold elapsedText
  rw [List.flatMap_def, List.flatMap_def,
    List.map_congr_left fun _ member => tokenText_eq whole small contiguous within locale member]

end elapsed

/-- The count of days that a value is under the numeric sections. -/
def days? : CellValue → Option Number
  | .number n => some n
  | .date instant => some ((instant.bind Instant.toSerial?).getD .nan)
  | .duration ms => some (ms / .ofNat msPerDay)
  | _ => none

theorem render?_of_days? {value : CellValue} {n : Number} (counted : days? value = some n) (format : ParsedFormat)
    (context : Context) : render? value format context = renderNumber? n value format context := by
  cases value <;> cases counted <;> rfl

/-- A value under a section for elapsed time, for as long as it has no hours that would have to wrap beside days. The
tokens show the counts of their units, the largest unit in total and the smaller ones as they wrap, and the counts,
each weighted by its unit, make up the duration down to the smallest unit. -/
theorem Renderer.format_elapsed {renderer : Renderer} (reachable : renderer.Reachable) {value : CellValue}
    {days : Number} (counted : days? value = some days) (finite : days.isFinite = true) {format : CellFormat}
    {section_ : Section} {sign : Bool}
    (selected : selectSection format.parsed.numericSections days = some (section_, sign)) {tokens : List DateToken}
    (content : section_.content = .dateTime tokens)
    (elapsed : tokens.any DateToken.isElapsed = true ∨ format.category = .duration)
    (contiguous : TimeUnit.Contiguous (showsUnit tokens)) {n : Nat}
    (whole : (elapsedMs value days.abs).toInt? = some (n : Int)) (small : n < 2 ^ (53 : Nat))
    (within : showsUnit tokens .day = true → showsUnit tokens .hour = true → n < msPerDay) (options : RenderOptions) :
    let context := options.context format.category renderer.locale
    let count := TimeUnit.count (showsUnit tokens) n
    (renderer.format value format options).1 =
        (finish? section_ (tokens.flatMap (DateToken.elapsedField count n (section_.localeIn context))) sign context
          (section_.localeIn context)).getD ⟨value.display.toList, none⟩ ∧
      ∀ smallest, (TimeUnit.all.filter (showsUnit tokens)).getLast? = some smallest →
        ((TimeUnit.all.filter (showsUnit tokens)).map fun unit => count unit * unit.ms).sum =
          n / smallest.ms * smallest.ms := by
  intro context count
  refine ⟨?_, fun smallest last => TimeUnit.sum_count contiguous n last⟩
  have text := elapsedText_eq whole small contiguous within (section_.localeIn context)
  have shown : (tokens.any DateToken.isElapsed || decide (context.category = .duration)) = true := by
    rw [Bool.or_eq_true, decide_eq_true_eq]
    exact elapsed
  rw [reachable.format_eq, rendered?, render?_of_days? counted]
  simp only [renderNumber?, finite, ↓reduceIte, selected, content]
  rw [if_pos shown]
  exact congrArg (fun text => (finish? section_ text sign context (section_.localeIn context)).getD _) text

/-- More than a day in hours, minutes and seconds, with something below a second. -/
theorem Renderer.format_elapsed_beyond_day :
    let ms : Number := .ofNat 90061001
    (days? (.duration ms) = some (ms / .ofNat msPerDay) ∧ (elapsedMs (.duration ms) (ms / .ofNat msPerDay).abs).toInt? =
      some 90061001) ∧
    ((new .enUs).format (.duration ms) ⟨.duration, "[h]:mm:ss"⟩ {}).1 = ⟨"25:01:01".toList, none⟩ := by
  intro ms
  have whole : ms.toInt? = some ((90061001 : Nat) : Int) := Number.toInt?_ofNat (by decide)
  obtain ⟨section_, only, plain, content⟩ := exists_elapsed .duration
  obtain ⟨finite, selected⟩ := selectSection_duration whole (by decide) plain.condition
  rw [← only] at selected
  have contiguous : TimeUnit.Contiguous (showsUnit elapsedTokens) := by
    intro low unit high
    cases low <;> cases unit <;> cases high <;> decide
  obtain ⟨shown, -⟩ := @Renderer.format_elapsed _ ⟨.enUs, [], rfl⟩ (.duration ms) _ rfl finite
    ⟨.duration, "[h]:mm:ss"⟩ _ _ selected _ content (.inl rfl) contiguous 90061001 (Number.toInt?_abs whole)
    (by decide) (fun day => nomatch day) {}
  refine ⟨⟨rfl, Number.toInt?_abs whole⟩, shown.trans ?_⟩
  have text (locale : Locale) : elapsedTokens.flatMap (DateToken.elapsedField
      (TimeUnit.count (showsUnit elapsedTokens) 90061001) 90061001 locale) = "25:01:01".toList := rfl
  rw [text, plain.finish? (List.all_iff_forall_prop.mp (by decide))]
  rfl

/-- Hours that do not wrap beside days: a day and an hour show as a day and twenty-five hours. -/
theorem Renderer.format_elapsed_days :
    ((new .enUs).format (.duration (.ofNat 90000000)) ⟨.duration, "d h:mm"⟩ {}).1.text = "1 25:00".toList := by
  decide +kernel

end Spreadsheet.Format
