import Spreadsheet.Proofs.Calendar.Serials
import Spreadsheet.Proofs.Format.Dates

/-! A date and the number that is its serial, under one code. Both pick a section by the serial, and unless the section
shows values as they are without a format, all that it shows is told by the serial and by the point in time that the
serial is read as: this is the date itself, if its year is not one that is taken for a short one. -/
namespace Spreadsheet.Format

/-- Under a section with content of its own, a date and its serial show alike, or cannot be shown alike. -/
theorem render?_serial {instant : Instant} {serial : Number} (counted : instant.toSerial? = some serial)
    (finite : serial.isFinite = true) (read : Instant.ofSerial? serial = some instant) {format : ParsedFormat}
    {section_ : Section} {sign : Bool} (selected : selectSection format.numericSections serial = some (section_, sign))
    (shown : section_.content ≠ .general) (context : Context) :
    render? (.number serial) format context = render? (.date (some instant)) format context := by
  simp only [render?, Option.bind_some, counted, Option.getD_some, renderNumber?, finite, ↓reduceIte, selected]
  cases content : section_.content with
  | general => exact absurd content shown
  | dateTime tokens => simp only [read, elapsedMs]
  | text => rfl
  | digits pattern => rfl
  | literal => rfl

/-- What a renderer goes by in a single rendering. -/
def Renderer.context (renderer : Renderer) (format : CellFormat) (options : RenderOptions) : Context where
  category := format.category
  locale := options.locale.getD renderer.locale
  availableWidth := options.availableWidth
  charWidth := options.charWidth.getD defaultCharWidth

/-- A date whose year has three or four digits has a serial, which is read as the same date to the millisecond. Under
every code with a date, a time or other content of its own for the serial, the date and the number show alike, in any
locale and whatever the renderer has been asked before; only what cannot be shown shows as it would without a code. -/
theorem Renderer.format_serial {renderer : Renderer} (reachable : renderer.Reachable) {instant : Instant}
    (long : 100 ≤ instant.date.year) (short : instant.date.year ≤ 9999) :
    ∃ serial : Number, instant.toSerial? = some serial ∧ Instant.ofSerial? serial = some instant ∧
      ∀ (cellFormat : CellFormat) (options : RenderOptions) (section_ : Section) (sign : Bool),
        let format := ParsedFormat.parse cellFormat.code cellFormat.category
        let context := renderer.context cellFormat options
        selectSection format.numericSections serial = some (section_, sign) → section_.content ≠ .general →
          render? (.number serial) format context = render? (.date (some instant)) format context ∧
          ((render? (.date (some instant)) format context).isSome = true →
            (renderer.format (.number serial) cellFormat options).1 =
              (renderer.format (.date (some instant)) cellFormat options).1) := by
  obtain ⟨serial, counted, finite⟩ := Instant.exists_toSerial? long
  have read := Instant.ofSerial?_of_toSerial? counted (Instant.reread?_eq long) (by omega) short
  refine ⟨serial, counted, read, ?_⟩
  intro cellFormat options section_ sign format context selected shown
  have alike := render?_serial counted finite read selected shown context
  refine ⟨alike, fun some => ?_⟩
  obtain ⟨rendered, same⟩ := Option.isSome_iff_exists.mp some
  rw [reachable.faithful.format_eq, reachable.faithful.format_eq]
  change (render? _ format context).getD _ = (render? _ format context).getD _
  rw [alike, same, Option.getD_some, Option.getD_some]

/-- An afternoon before serials were counted, to the millisecond. -/
theorem Renderer.format_serial_before_epoch :
    let instant : Instant := ⟨-3770872187655, by decide⟩
    let format : CellFormat := ⟨.date, "yyyy-MM-dd HH:mm:ss"⟩
    (100 ≤ instant.date.year ∧ instant.date.year ≤ 9999) ∧
    ∃ serial : Number, instant.toSerial? = some serial ∧ Instant.ofSerial? serial = some instant ∧
      ((new .enUs).format (.number serial) format {}).1 = ((new .enUs).format (.date (some instant)) format {}).1 := by
  intro instant format
  have long : 100 ≤ instant.date.year := by decide
  have short : instant.date.year ≤ 9999 := by decide
  obtain ⟨serial, counted, read, alike⟩ := Renderer.format_serial ⟨.enUs, [], rfl⟩ long short
  obtain ⟨section_, only, shows⟩ := exists_showsDayClock
  have selected : selectSection (ParsedFormat.parse format.code format.category).numericSections serial =
      some (section_, decide (serial < 0)) := by
    simp [format, only, selectSection, shows.condition]
  have content : section_.content ≠ .general := by simp [shows.content]
  refine ⟨⟨long, short⟩, serial, counted, read, (alike format {} section_ _ selected content).2 ?_⟩
  decide +kernel

/-- The first years are taken for those of the twentieth century. -/
theorem Renderer.serial_of_short_year :
    let instant : Instant := ⟨-60589296000000, by decide⟩
    let answer : Instant := ⟨-631152000000, by decide⟩
    instant.date = ⟨50, 1, 1⟩ ∧ answer.date = ⟨1950, 1, 1⟩ ∧
      (instant.toSerial? : Option Number).bind Instant.ofSerial? = some answer := by
  decide +kernel

end Spreadsheet.Format
