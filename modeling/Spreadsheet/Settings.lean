import Spreadsheet.Cell.Payload
import Spreadsheet.Error
import Spreadsheet.Number.Reading
import Spreadsheet.Sheet.Basic

/-! Settings and the dimensions of a sheet, read from what a caller gives. Every issue is reported, not only the
first. -/
namespace Spreadsheet

inductive LogLevel where
  | fatal
  | error
  | warn
  | info
  | debug
  | trace
  | silent

namespace LogLevel

def all : List LogLevel := [fatal, error, warn, info, debug, trace, silent]

def name : LogLevel → String
  | fatal => "fatal"
  | error => "error"
  | warn => "warn"
  | info => "info"
  | debug => "debug"
  | trace => "trace"
  | silent => "silent"

def ofName? (name : String) : Option LogLevel := all.find? (·.name == name)

end LogLevel

/-- The level of the log, the locale for callers that give none, and the width of a character. -/
structure Settings where
  logLevel : LogLevel := .info
  defaultLocale : String := "0409"
  charWidth : Number := 7

/-- A setting that was read, or the issues with it. -/
abbrev Checked (α : Type) := Except (List OptionIssue) α

namespace Settings

/-- Reads a text unless it is missing or empty. -/
def readOr {α : Type} (byDefault : α) (read : String → Checked α) : Option String → Checked α
  | none | some "" => .ok byDefault
  | some text => read text

def readLogLevel (text : String) : Checked LogLevel :=
  match LogLevel.ofName? text with
  | some level => .ok level
  | none => .error [.unknownLevel (LogLevel.all.map LogLevel.name) text]

/-- A locale is given by up to four hexadecimal digits. -/
def readLocale (text : String) : Checked String :=
  let digits := text.toList
  if 1 ≤ digits.length && digits.length ≤ 4 && digits.all Text.isHexDigit then .ok text else .error [.malformedLocale]

/-- A width is a number above zero. -/
def readWidth (text : String) : Checked Number :=
  let width := Number.ofText text.toList
  if width.isNaN then .error [.expected "number" "nan"]
  else if 0 < width then .ok width
  else .error [.notPositive]

end Settings

/-- The issues of a reading, under the name of what was read. -/
def issuesOf {α : Type} (path : String) : Checked α → List Issue
  | .ok _ => []
  | .error causes => causes.map (Issue.mk (some path))

/-- Settings from texts that may be missing. -/
def Settings.load (logLevel defaultLocale charWidth : Option String) : Except SheetError Settings :=
  let standard : Settings := {}
  let level := readOr standard.logLevel readLogLevel logLevel
  let locale := readOr standard.defaultLocale readLocale defaultLocale
  let width := readOr standard.charWidth readWidth charWidth
  match level, locale, width with
  | .ok level, .ok locale, .ok width => .ok ⟨level, locale, width⟩
  | _, _, _ =>
    .error (.invalidSettings
      (issuesOf "logLevel" level ++ issuesOf "defaultLocale" locale ++ issuesOf "charWidth" width))

namespace Dimensions

/-- The name of a kind of content in messages. -/
def kindName : Payload → String
  | .null => "null"
  | .flag _ => "boolean"
  | .number value => if value.isNaN then "nan" else "number"
  | .text _ => "string"
  | .list _ => "array"
  | .record _ => "object"

/-- Checks of a dimension that is a number, in the order in which their issues are told. -/
def issues (greatest : Nat) (value : Number) : List OptionIssue :=
  (if value.toInt?.isNone then [.fractional] else []) ++ (if value < 1 then [.below 1] else []) ++
    (if .ofNat greatest < value then [.above greatest] else [])

/-- A dimension is a whole number from 1 to the greatest, which is taken if none is given. -/
def read (greatest : Nat) : Option Payload → Checked Nat
  | none => .ok greatest
  | some (.number value) =>
    if value.isNaN then .error [.expected "number" "nan"]
    else match issues greatest value with
      | [] => .ok (value.toInt?.getD 0).toNat
      | causes => .error causes
  | some other => .error [.expected "number" (kindName other)]

/-- Rows and columns of a sheet, from a record of options. -/
def load (options : Payload) : Except SheetError (Nat × Nat) :=
  match options with
  | .record _ =>
    let rows := read maxRows (options.field? "rowCount")
    let columns := read maxColumns (options.field? "columnCount")
    match rows, columns with
    | .ok rows, .ok columns => .ok (rows, columns)
    | _, _ => .error (.invalidDimensions (issuesOf "rowCount" rows ++ issuesOf "columnCount" columns))
  | other => .error (.invalidDimensions [⟨none, .expected "object" (kindName other)⟩])

end Dimensions
end Spreadsheet
