/-! Cell formats: a category beside a format code, the formats with a name and those with a number. The category
tells apart codes that read the same, such as a time of day and elapsed time. -/
namespace Spreadsheet

inductive Category where
  | general | number | currency | accounting | date | time | percentage | fraction | scientific | text
  | special | duration | custom
deriving DecidableEq

namespace Category

def all : List Category :=
  [general, number, currency, accounting, date, time, percentage, fraction, scientific, text, special, duration,
    custom]

def name : Category → String
  | general => "general"
  | number => "number"
  | currency => "currency"
  | accounting => "accounting"
  | date => "date"
  | time => "time"
  | percentage => "percentage"
  | fraction => "fraction"
  | scientific => "scientific"
  | text => "text"
  | special => "special"
  | duration => "duration"
  | custom => "custom"

def ofName? (name : String) : Option Category := all.find? (·.name == name)

theorem ofName?_name (category : Category) : ofName? category.name = some category := by
  cases category <;> decide

end Category

structure CellFormat where
  category : Category
  code : String
deriving DecidableEq

namespace CellFormat

def describe (format : CellFormat) : String :=
  "CellFormat(" ++ format.category.name ++ ", " ++ format.code ++ ")"

/-- Formats with a name. -/
def presets : List (String × CellFormat) := [
  ("general", ⟨.general, "General"⟩),
  ("integer", ⟨.number, "#,##0"⟩),
  ("decimal", ⟨.number, "0.00"⟩),
  ("number", ⟨.number, "#,##0.00"⟩),
  ("currency", ⟨.currency, "$#,##0.00"⟩),
  ("percentage", ⟨.percentage, "0%"⟩),
  ("percentageDecimal", ⟨.percentage, "0.00%"⟩),
  ("scientific", ⟨.scientific, "0.00E+00"⟩),
  ("dateIso", ⟨.date, "yyyy-MM-dd"⟩),
  ("dateUs", ⟨.date, "m/d/yyyy"⟩),
  ("dateShort", ⟨.date, "d-mmm-yy"⟩),
  ("dateMonthYear", ⟨.date, "mmm-yy"⟩),
  ("time24", ⟨.time, "H:mm"⟩),
  ("time24Seconds", ⟨.time, "H:mm:ss"⟩),
  ("time12", ⟨.time, "h:mm AM/PM"⟩),
  ("text", ⟨.text, "@"⟩),
  ("fraction", ⟨.fraction, "# ?/?"⟩),
  ("duration", ⟨.duration, "[h]:mm:ss"⟩),
  ("durationShort", ⟨.duration, "[h]:mm"⟩),
  ("durationMinSec", ⟨.duration, "[m]:ss"⟩)]

def preset? (name : String) : Option CellFormat := presets.lookup name

/-- Formats with a number. -/
def builtins : List (Nat × CellFormat) := [
  (0, ⟨.general, "General"⟩),
  (1, ⟨.number, "0"⟩),
  (2, ⟨.number, "0.00"⟩),
  (3, ⟨.number, "#,##0"⟩),
  (4, ⟨.number, "#,##0.00"⟩),
  (5, ⟨.currency, "$#,##0_);($#,##0)"⟩),
  (6, ⟨.currency, "$#,##0_);[Red]($#,##0)"⟩),
  (7, ⟨.currency, "$#,##0.00_);($#,##0.00)"⟩),
  (8, ⟨.currency, "$#,##0.00_);[Red]($#,##0.00)"⟩),
  (9, ⟨.percentage, "0%"⟩),
  (10, ⟨.percentage, "0.00%"⟩),
  (11, ⟨.scientific, "0.00E+00"⟩),
  (12, ⟨.fraction, "# ?/?"⟩),
  (13, ⟨.fraction, "# ??/??"⟩),
  (14, ⟨.date, "m/d/yyyy"⟩),
  (15, ⟨.date, "d-mmm-yy"⟩),
  (16, ⟨.date, "d-mmm"⟩),
  (17, ⟨.date, "mmm-yy"⟩),
  (18, ⟨.time, "h:mm AM/PM"⟩),
  (19, ⟨.time, "h:mm:ss AM/PM"⟩),
  (20, ⟨.time, "h:mm"⟩),
  (21, ⟨.time, "h:mm:ss"⟩),
  (22, ⟨.date, "m/d/yyyy h:mm"⟩),
  (37, ⟨.number, "#,##0_);(#,##0)"⟩),
  (38, ⟨.number, "#,##0_);[Red](#,##0)"⟩),
  (39, ⟨.number, "#,##0.00_);(#,##0.00)"⟩),
  (40, ⟨.number, "#,##0.00_);[Red](#,##0.00)"⟩),
  (44, ⟨.accounting, "_(\"$\"* #,##0.00_);_(\"$\"* \\(#,##0.00\\);_(\"$\"* \"-\"??_);_(@_)"⟩),
  (45, ⟨.time, "mm:ss"⟩),
  (46, ⟨.duration, "[h]:mm:ss"⟩),
  (47, ⟨.time, "mm:ss.0"⟩),
  (48, ⟨.scientific, "##0.0E+0"⟩),
  (49, ⟨.text, "@"⟩)]

def builtin? (id : Nat) : Option CellFormat := builtins.lookup id

end CellFormat
end Spreadsheet
