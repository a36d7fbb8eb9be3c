/-! What a locale decides about written numbers and dates. -/
namespace Spreadsheet

/-- Which of month, day and year is written first. -/
inductive DateOrder where
  | monthFirst
  | dayFirst
  | yearFirst
deriving DecidableEq

/-- Months start with January and days with Sunday. The code is four hexadecimal digits, the tag a language and
a region. -/
structure Locale where
  code : String
  tag : String
  name : String
  decimal : String
  thousands : String
  currency : String
  monthsFull : List String
  monthsShort : List String
  daysFull : List String
  daysShort : List String
  am : String
  pm : String
  dateOrder : DateOrder

def Locale.isDayFirst (locale : Locale) : Bool := locale.dateOrder = .dayFirst

end Spreadsheet
