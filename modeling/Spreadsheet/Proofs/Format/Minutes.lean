import Mathlib.Data.List.Basic
import Spreadsheet.Proofs.Format.Pieces

/-! What is made of the pieces of the body of a section. Each makes one token. A run of `m` that leaves it open is a
month or minutes by the pieces around it as they were read, so that the order in which they are settled does not
matter. -/
namespace Spreadsheet.Format

/-- Where a run of `m` stands for minutes: the nearest piece to the left that is not literal is hours, or the nearest one
to the right is seconds, or in a time or a duration there is no part of a date. -/
def IsMinutes (category : Category) (front back : List RawToken) : Prop :=
  (∃ farther near skipped, front = farther ++ near :: skipped ∧ near.meets DateToken.isHour = true ∧
    ∀ token ∈ skipped, token.meets DateToken.isLiteral = true) ∨
  (∃ skipped near farther, back = skipped ++ near :: farther ∧ near.meets DateToken.isSecond = true ∧
    ∀ token ∈ skipped, token.meets DateToken.isLiteral = true) ∨
  (category = .time ∨ category = .duration) ∧ ∀ token ∈ front ++ back, token.meets DateToken.isDatePart = false

/-- What is made of a token between others. -/
inductive Becomes (category : Category) (front back : List RawToken) : RawToken → DateToken → Prop where
  | settled (token : DateToken) : Becomes category front back (.settled token) token
  | minute {padded : Bool} (minutes : IsMinutes category front back) :
      Becomes category front back (.monthOrMinute padded) (.minute padded)
  | month {padded : Bool} (other : ¬IsMinutes category front back) :
      Becomes category front back (.monthOrMinute padded) (.month (if padded then .padded else .numeric))

namespace DateToken

theorem length_settle (timeOnly : Bool) (before raw : List RawToken) :
    (settle timeOnly before raw).length = raw.length := by
  induction raw generalizing before with
  | nil => rfl
  | cons token rest ih => cases token <;> rw [settle, List.length_cons, ih, List.length_cons]

/-- A token is settled by those on both sides of it as they were read, whatever was made of them. -/
theorem getElem?_settle (timeOnly : Bool) (before front rest : List RawToken) :
    (settle timeOnly before (front ++ rest))[front.length]? = (settle timeOnly (front.reverse ++ before) rest).head? := by
  induction front generalizing before with
  | nil => rw [List.nil_append, List.reverse_nil, List.nil_append, List.head?_eq_getElem?]; rfl
  | cons token front ih =>
    rw [List.reverse_cons, List.append_assoc, List.singleton_append, ← ih]
    cases token <;> rw [List.cons_append, settle, List.length_cons, List.getElem?_cons_succ]

/-- The nearest token that is no literal has only literals before it. -/
theorem any_nearest_iff {p : DateToken → Bool} (silent : ∀ text, p (literal text) = false) {tokens : List RawToken} :
    (nearest tokens).any (·.meets p) = true ↔
      ∃ skipped near farther, tokens = skipped ++ near :: farther ∧ near.meets p = true ∧
        ∀ token ∈ skipped, token.meets isLiteral = true := by
  rw [Option.any_eq_true]
  constructor
  · rintro ⟨near, found, holds⟩
    obtain ⟨-, skipped, farther, same, literal⟩ := List.find?_eq_some_iff_append.mp found
    exact ⟨skipped, near, farther, same, holds, fun token member => by simpa using literal token member⟩
  · rintro ⟨skipped, near, farther, same, holds, literal⟩
    refine ⟨near, List.find?_eq_some_iff_append.mpr ⟨?_, skipped, farther, same, ?_⟩, holds⟩
    · rw [Bool.not_eq_true', Bool.eq_false_iff]
      intro literal
      obtain ⟨text, rfl⟩ := RawToken.meets_isLiteral_iff.mp literal
      exact absurd holds (by simp [RawToken.meets, silent])
    · exact fun token member => by simp [literal token member]

/-- A body of a time or a duration that has no part of a date. -/
def isTimeOnly (category : Category) (raw : List RawToken) : Bool :=
  (category = .time || category = .duration) && !raw.any (·.meets isDatePart)

theorem isMinutes_iff {category : Category} {front back : List RawToken} {padded : Bool} :
    (((nearest front.reverse).any (·.meets isHour) || (nearest back).any (·.meets isSecond)) ||
      isTimeOnly category (front ++ .monthOrMinute padded :: back)) = true ↔ IsMinutes category front back := by
  rw [Bool.or_eq_true, Bool.or_eq_true, any_nearest_iff fun _ => rfl, any_nearest_iff fun _ => rfl, or_assoc, IsMinutes]
  refine or_congr ⟨?mirrored, ?mirror⟩ (or_congr Iff.rfl ?time)
  case mirrored =>
    rintro ⟨skipped, near, farther, same, hour, literal⟩
    refine ⟨farther.reverse, near, skipped.reverse, ?_, hour, fun token member => ?_⟩
    · rw [← List.reverse_inj, same]
      simp
    · exact literal token (List.mem_reverse.mp member)
  case mirror =>
    rintro ⟨farther, near, skipped, rfl, hour, literal⟩
    refine ⟨skipped.reverse, near, farther.reverse, by simp, hour, fun token member => ?_⟩
    exact literal token (List.mem_reverse.mp member)
  case time =>
    simp only [isTimeOnly, Bool.and_eq_true, Bool.or_eq_true, decide_eq_true_eq, Bool.not_eq_true', List.any_append,
      List.any_cons, RawToken.meets, Bool.false_or, List.any_eq_false, Bool.or_eq_false_iff, List.forall_mem_append]
    simp

/-- What a token becomes is told by the tokens on both sides of it as they were read. -/
theorem becomes_settle (category : Category) (front back : List RawToken) (token : RawToken) :
    ∃ made, (settle (isTimeOnly category (front ++ token :: back)) front.reverse (token :: back)).head? = some made ∧
      Becomes category front back token made := by
  cases token with
  | settled token => exact ⟨token, rfl, .settled token⟩
  | monthOrMinute padded =>
    refine ⟨_, rfl, ?_⟩
    by_cases minutes : IsMinutes category front back
    · rw [if_pos (isMinutes_iff.mpr minutes)]
      exact .minute minutes
    · rw [if_neg (minutes ∘ isMinutes_iff.mp)]
      exact .month minutes

/-- A body is divided into pieces without a gap, each of which stands where it is found, and no two neighbours of which
are literal; and each piece makes one token, which for a run of `m` that may be a month or minutes is told by what it
stands between. -/
theorem tokenize_divides (body : List Char) (category : Category) :
    ∃ pieces : List Piece, pieces.flatMap Piece.text = body ∧ Divides (hasDayHalf body) false pieces ∧
      pieces.IsChain Apart ∧ (tokenize body category).length = pieces.length ∧
      ∀ front piece back, pieces = front ++ piece :: back → piece.text ≠ [] ∧
        ∃ token, (tokenize body category)[front.length]? = some token ∧
          Becomes category (front.map Piece.token) (back.map Piece.token) piece.token token := by
  obtain ⟨covered, divided⟩ := Piece.divides_scan (hasDayHalf body) body.length false (Nat.le_refl _)
  obtain ⟨joined, divides, chain⟩ := Piece.divides_joinLiterals divided
  refine ⟨pieces body, joined.trans covered, divides, chain, ?length, fun front piece back same => ⟨?text, ?token⟩⟩
  case length => rw [tokenize, length_settle, List.length_map]
  case text =>
    refine divides.nonempty piece ?_
    change piece ∈ pieces body
    rw [same]
    exact List.mem_append_right front List.mem_cons_self
  case token =>
    have raw : (pieces body).map Piece.token = front.map Piece.token ++ piece.token :: back.map Piece.token := by
      rw [same, List.map_append, List.map_cons]
    obtain ⟨made, found, becomes⟩ := becomes_settle category (front.map Piece.token) (back.map Piece.token) piece.token
    refine ⟨made, ?_, becomes⟩
    have place := getElem?_settle (isTimeOnly category ((pieces body).map Piece.token)) [] (front.map Piece.token)
      (piece.token :: back.map Piece.token)
    rw [List.append_nil, ← raw, List.length_map] at place
    rw [← found, ← raw]
    exact place

/-- The last piece of a body in which hours come first. -/
theorem tokenize_divides_after_hours :
    ∃ front piece, (front ++ [piece]).flatMap Piece.text = "h:m".toList ∧ piece.text ≠ [] ∧
      Becomes .date (front.map Piece.token) [] piece.token (.minute false) := by
  obtain ⟨pieces, covered, -, -, count, each⟩ := tokenize_divides "h:m".toList .date
  obtain ⟨hours, colon, last, rfl⟩ := List.length_eq_three.mp (count.symm.trans (by decide))
  obtain ⟨nonempty, token, found, becomes⟩ := each [hours, colon] last [] rfl
  have minutes : (tokenize "h:m".toList .date)[2]? = some (.minute false) := by decide
  obtain rfl := Option.some.inj (found.symm.trans minutes)
  exact ⟨[hours, colon], last, covered, nonempty, becomes⟩

example : tokenize "yy m h:m AM/PM m:ss.00".toList .date =
    [.year false, .literal [' '], .month .numeric, .literal [' '], .hour false true, .literal [':'], .minute false,
      .literal [' '], .dayHalf .upperWords, .literal [' '], .minute false, .literal [':'], .second true, .fraction 2] := by
  decide

end DateToken
end Spreadsheet.Format
