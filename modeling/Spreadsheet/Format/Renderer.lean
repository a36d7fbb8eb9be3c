import Spreadsheet.Format.Rendering

/-! A renderer: a locale of its own, and the codes it has parsed so far. It forgets them all when it would hold too
many. -/
namespace Spreadsheet.Format

/-- The width of a character where none is given. -/
def defaultCharWidth : Number := 7

/-- What a single rendering may say. -/
structure RenderOptions where
  locale : Option Locale := none
  availableWidth : Option Number := none
  charWidth : Option Number := none

/-- A parsed code, and how many codes had been parsed before it. -/
structure CacheEntry where
  format : ParsedFormat
  age : Nat

structure Renderer where
  locale : Locale
  cache : List (String × CacheEntry) := []
  parsed : Nat := 0

namespace Renderer

def cacheLimit : Nat := 500

/-- Category and code with a separator that no category has. -/
def cacheKey (format : CellFormat) : String := format.category.name ++ "\x00" ++ format.code

/-- The parsed code of a format, from the cache if it is there. -/
def parse (renderer : Renderer) (format : CellFormat) : CacheEntry × Renderer :=
  match renderer.cache.lookup (cacheKey format) with
  | some entry => (entry, renderer)
  | none =>
    let entry : CacheEntry := ⟨.parse format.code format.category, renderer.parsed⟩
    let kept := if cacheLimit ≤ renderer.cache.length then [] else renderer.cache
    (entry, { renderer with cache := (cacheKey format, entry) :: kept, parsed := renderer.parsed + 1 })

def clearCache (renderer : Renderer) : Renderer := { renderer with cache := [] }

def setLocale (renderer : Renderer) (locale : Locale) : Renderer := { renderer with locale }

/-- A value under a format. What cannot be rendered shows as it would without a format. -/
def format (renderer : Renderer) (value : CellValue) (cellFormat : CellFormat) (options : RenderOptions) :
    Rendered × Renderer :=
  let context : Context :=
    { category := cellFormat.category
      locale := options.locale.getD renderer.locale
      availableWidth := options.availableWidth
      charWidth := options.charWidth.getD defaultCharWidth }
  let (entry, renderer) := renderer.parse cellFormat
  ((render? value entry.format context).getD ⟨value.display.toList, none⟩, renderer)

end Renderer
end Spreadsheet.Format
