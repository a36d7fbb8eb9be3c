import Spreadsheet.Format.Basic
import Spreadsheet.Text.LetterCase

/-! Tokens of dates and times in a format code. A code is cut into pieces, each the longest that can stand there;
a run of one or two `m` is a month or minutes by the tokens next to it. -/
namespace Spreadsheet.Format

inductive MonthForm where
  | numeric | padded | short | full | initial
deriving DecidableEq

inductive DayForm where
  | numeric | padded | short | full
deriving DecidableEq

/-- Morning and afternoon by the words of the locale or by a letter, in upper or lower case. -/
inductive DayHalfForm where
  | upperWords | lowerWords | upperLetter | lowerLetter
deriving DecidableEq

inductive ElapsedUnit where
  | hours | minutes | seconds
deriving DecidableEq

inductive DateToken where
  | literal (text : List Char)
  | year (fourDigits : Bool)
  | month (form : MonthForm)
  | day (form : DayForm)
  | hour (padded twelveHour : Bool)
  | minute (padded : Bool)
  | second (padded : Bool)
  | fraction (digits : Nat)
  | dayHalf (form : DayHalfForm)
  | elapsed (unit : ElapsedUnit) (padded : Bool)
deriving DecidableEq

namespace DateToken

def isLiteral : DateToken → Bool
  | literal _ => true
  | _ => false

def isElapsed : DateToken → Bool
  | elapsed .. => true
  | _ => false

/-- Hours of the day or elapsed hours. -/
def isHour : DateToken → Bool
  | hour .. | elapsed .hours _ => true
  | _ => false

def isMinute : DateToken → Bool
  | minute _ | elapsed .minutes _ => true
  | _ => false

def isSecond : DateToken → Bool
  | second _ | elapsed .seconds _ => true
  | _ => false

def isDatePart : DateToken → Bool
  | year _ | month _ | day _ => true
  | _ => false

end DateToken

/-- A token as far as its own letters tell. -/
inductive RawToken where
  | settled (token : DateToken)
  | monthOrMinute (padded : Bool)
deriving DecidableEq

namespace RawToken

/-- A property of tokens; a run of `m` that is not settled has none. -/
def meets (p : DateToken → Bool) : RawToken → Bool
  | settled token => p token
  | monthOrMinute _ => false

end RawToken

/-- A stretch of the code and the token it makes. -/
structure Piece where
  text : List Char
  token : RawToken
deriving DecidableEq

namespace Piece

def unit? (c : Char) : Option ElapsedUnit :=
  match c.toLower with
  | 'h' => some .hours
  | 'm' => some .minutes
  | 's' => some .seconds
  | _ => none

/-- The run of one letter in any case at the front of a text. -/
def letterRun : List Char → List Char
  | [] => []
  | c :: rest => c :: rest.takeWhile (·.toLower == c.toLower)

/-- A bracket with a run of `h`, `m` or `s`. -/
def elapsed? : List Char → Option Piece
  | '[' :: c :: rest => do
    let unit ← unit? c
    let run := letterRun (c :: rest)
    if (c :: rest)[run.length]? = some ']' then
      some ⟨'[' :: run ++ [']'], .settled (.elapsed unit (2 ≤ run.length))⟩
    else none
  | _ => none

/-- A point and up to three zeros. -/
def fraction? : List Char → Option Piece
  | '.' :: rest =>
    let zeros := (rest.take 3).takeWhile (· == '0')
    if zeros.isEmpty then none else some ⟨'.' :: zeros, .settled (.fraction zeros.length)⟩
  | _ => none

def monthToken (length : Nat) (upper : Bool) : RawToken :=
  if 6 ≤ length then .settled (.month .full)
  else match length with
    | 5 => .settled (.month .initial)
    | 4 => .settled (.month .full)
    | 3 => .settled (.month .short)
    | _ =>
      if upper then .settled (.month (if length = 2 then .padded else .numeric))
      else .monthOrMinute (length = 2)

def dayForm (length : Nat) : DayForm :=
  if 4 ≤ length then .full else if length = 3 then .short else if length = 2 then .padded else .numeric

/-- The token of a run of one letter, if the letter has a meaning. Hours count to twelve where the code has a mark
for the halves of the day and they start in lower case. -/
def letterToken? (twelveHour : Bool) (first : Char) (length : Nat) : Option RawToken :=
  match first.toLower with
  | 'y' => some (.settled (.year (3 ≤ length)))
  | 'm' => some (monthToken length (first == 'M'))
  | 'd' => some (.settled (.day (dayForm length)))
  | 'h' => some (.settled (.hour (2 ≤ length) (twelveHour && first == 'h')))
  | 's' => some (.settled (.second (2 ≤ length)))
  | _ => none

/-- The halves of the day; the case of the first letter tells the form. -/
def dayHalf? (text : List Char) : Option Piece :=
  let upper := text.head? == some 'A'
  if Text.startsIgnoringCase "am/pm".toList text then
    some ⟨text.take 5, .settled (.dayHalf (if upper then .upperWords else .lowerWords))⟩
  else if Text.startsIgnoringCase "a/p".toList text then
    some ⟨text.take 3, .settled (.dayHalf (if upper then .upperLetter else .lowerLetter))⟩
  else none

/-- The piece at the front of a text that starts with `c`. Decimals of a second come only right after seconds. -/
def next (twelveHour afterSeconds : Bool) (c : Char) (rest : List Char) : Piece :=
  let text := c :: rest
  match if afterSeconds then fraction? text else none with
  | some piece => piece
  | none => match dayHalf? text with
    | some piece => piece
    | none => match elapsed? text with
      | some piece => piece
      | none => match letterToken? twelveHour c (letterRun text).length with
        | some token => ⟨letterRun text, token⟩
        | none => ⟨[c], .settled (.literal [c])⟩

/-- The pieces of a text in order. No piece is empty, so there are no more of them than characters. -/
def scan (twelveHour : Bool) : (fuel : Nat) → (afterSeconds : Bool) → List Char → List Piece
  | 0, _, _ => []
  | _, _, [] => []
  | fuel + 1, afterSeconds, c :: rest =>
    let piece := next twelveHour afterSeconds c rest
    piece :: scan twelveHour fuel (piece.token.meets DateToken.isSecond) ((c :: rest).drop piece.text.length)

/-- Neighbouring literal pieces become one. -/
def joinLiterals : List Piece → List Piece
  | [] => []
  | piece :: rest =>
    match piece.token, joinLiterals rest with
    | .settled (.literal text), ⟨later, .settled (.literal more)⟩ :: others =>
      ⟨piece.text ++ later, .settled (.literal (text ++ more))⟩ :: others
    | _, others => piece :: others

end Piece

namespace DateToken

/-- A mark for the halves of the day stands somewhere. -/
def hasDayHalf (body : List Char) : Bool :=
  (Text.splitAtIgnoringCase "am/pm".toList body).isSome || (Text.splitAtIgnoringCase "a/p".toList body).isSome

/-- The pieces of the body of a section. -/
def pieces (body : List Char) : List Piece :=
  Piece.joinLiterals (Piece.scan (hasDayHalf body) body.length false body)

/-- The nearest token that is no literal. -/
def nearest (tokens : List RawToken) : Option RawToken :=
  tokens.find? fun token => !token.meets isLiteral

/-- Settles each token by those before it, the nearest first, and those after it: minutes follow hours or come
before seconds. -/
def settle (timeOnly : Bool) : (before : List RawToken) → List RawToken → List DateToken
  | _, [] => []
  | before, .settled token :: rest => token :: settle timeOnly (.settled token :: before) rest
  | before, .monthOrMinute padded :: rest =>
    let minutes := ((nearest before).any (·.meets isHour)) || ((nearest rest).any (·.meets isSecond)) || timeOnly
    (if minutes then .minute padded else .month (if padded then .padded else .numeric)) ::
      settle timeOnly (.monthOrMinute padded :: before) rest

/-- The tokens of the body of a section. In a time or a duration without any part of a date, `m` means minutes
wherever it stands. -/
def tokenize (body : List Char) (category : Category) : List DateToken :=
  let raw := (pieces body).map Piece.token
  let timeOnly := (category = .time || category = .duration) && !raw.any (·.meets isDatePart)
  settle timeOnly [] raw

end DateToken
end Spreadsheet.Format
