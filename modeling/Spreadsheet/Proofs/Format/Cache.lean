import Spreadsheet.Format.Renderer

/-! What a renderer remembers never shows: it answers like one that is made anew for each request, with the locale that
was set last. It remembers a bounded number of codes, each under a key that stands for one format only. -/
namespace Spreadsheet.Format

/-- What may be asked of a renderer. -/
inductive RendererRequest where
  | parse (format : CellFormat)
  | format (value : CellValue) (format : CellFormat) (options : RenderOptions)
  | formatText (value : CellValue) (format : CellFormat) (options : RenderOptions)
  | setLocale (locale : Locale)
  | clearCache

/-- What a renderer answers. -/
inductive RendererAnswer where
  | parsed (format : ParsedFormat)
  | rendered (rendered : Rendered)
  | text (text : List Char)
  | done

namespace Renderer
variable {renderer : Renderer} {locale : Locale}

/-- A renderer that has not been asked anything. -/
def new (locale : Locale) : Renderer := { locale }

/-- The answer to a request, and the renderer after it. -/
def ask (renderer : Renderer) : RendererRequest → RendererAnswer × Renderer
  | .parse format => (renderer.parse format).map (.parsed ·.format) id
  | .format value format options => (renderer.format value format options).map .rendered id
  | .formatText value format options => (renderer.format value format options).map (.text ·.text) id
  | .setLocale locale => (.done, renderer.setLocale locale)
  | .clearCache => (.done, renderer.clearCache)

/-- The answers to requests one after another. -/
def askAll (renderer : Renderer) : List RendererRequest → List RendererAnswer × Renderer
  | [] => ([], renderer)
  | request :: rest =>
    let (answer, next) := renderer.ask request
    let (answers, last) := next.askAll rest
    (answer :: answers, last)

/-- What can come about. -/
def Reachable (renderer : Renderer) : Prop := ∃ locale requests, ((new locale).askAll requests).2 = renderer

/-- The locale after a request. -/
def localeAfter (locale : Locale) : RendererRequest → Locale
  | .setLocale next => next
  | _ => locale

/-- The answers to requests, each made to a new renderer with the locale of the moment. -/
def answersAnew (locale : Locale) : List RendererRequest → List RendererAnswer
  | [] => []
  | request :: rest => ((new locale).ask request).1 :: answersAnew (localeAfter locale request) rest

/-- The first null character of a key ends the name of its category. -/
theorem cacheKey_injective {a b : CellFormat} (same : cacheKey a = cacheKey b) : a = b := by
  have split (format : CellFormat) :
      (cacheKey format).toList = format.category.name.toList ++ '\x00' :: format.code.toList := by
    simp [cacheKey, String.toList_append]
  have clean (category : Category) : ∀ c ∈ category.name.toList, (c != '\x00') = true := by
    cases category <;> simp [Category.name]
  have chars := congrArg String.toList same
  rw [split, split] at chars
  have names := congrArg (List.takeWhile (· != '\x00')) chars
  have codes := congrArg (List.dropWhile (· != '\x00')) chars
  rw [List.takeWhile_append_of_pos (clean _), List.takeWhile_append_of_pos (clean _)] at names
  rw [List.dropWhile_append_of_pos (clean _), List.dropWhile_append_of_pos (clean _)] at codes
  have category : a.category = b.category := by
    have name : a.category.name = b.category.name := String.toList_inj.mp (by simpa using names)
    exact Option.some.inj (by rw [← Category.ofName?_name, name, Category.ofName?_name])
  have code : a.code = b.code := String.toList_inj.mp (by simpa using codes)
  cases a
  cases b
  exact congr (congrArg CellFormat.mk category) code

/-- What a renderer holds may be used in place of parsing a code again. -/
structure Faithful (renderer : Renderer) : Prop where
  bounded : renderer.cache.length ≤ cacheLimit
  distinct : (renderer.cache.map Prod.fst).Nodup
  parsed : ∀ key entry, (key, entry) ∈ renderer.cache →
    ∃ format, cacheKey format = key ∧ (∀ other, cacheKey other = key → other = format) ∧
      entry.format = .parse format.code format.category

theorem faithful_of_nil (empty : renderer.cache = []) : renderer.Faithful where
  bounded := by simp [empty]
  distinct := by simp [empty]
  parsed key entry member := by simp [empty] at member

/-- A code that is not held is parsed, and held from then on. -/
theorem Faithful.parse (faithful : renderer.Faithful) (format : CellFormat) :
    (renderer.parse format).1.format = .parse format.code format.category ∧
      (renderer.parse format).2.Faithful ∧ (renderer.parse format).2.locale = renderer.locale := by
  unfold Renderer.parse
  split
  · rename_i entry found
    obtain ⟨front, back, held, _⟩ := List.lookup_eq_some_iff.mp found
    obtain ⟨other, _, only, parsed⟩ := faithful.parsed (cacheKey format) entry (by simp [held])
    rw [only format rfl]
    exact ⟨parsed, faithful, rfl⟩
  · rename_i missing
    refine ⟨rfl, ?_, rfl⟩
    have entered (kept : List (String × CacheEntry)) (sub : kept.Sublist renderer.cache) (room : kept.length < cacheLimit) :
        Faithful { renderer with
          cache := (cacheKey format, ⟨.parse format.code format.category, renderer.parsed⟩) :: kept
          parsed := renderer.parsed + 1 } := by
      refine ⟨room, ?_, ?_⟩
      · refine List.nodup_cons.mpr ⟨?_, faithful.distinct.sublist (sub.map _)⟩
        intro member
        obtain ⟨held, among, same⟩ := List.mem_map.mp member
        have differs := List.lookup_eq_none_iff.mp missing held (sub.subset among)
        simp [same] at differs
      · intro key entry member
        rcases List.mem_cons.mp member with new | old
        · cases new
          exact ⟨format, rfl, fun other same => cacheKey_injective same, rfl⟩
        · exact faithful.parsed key entry (sub.subset old)
    by_cases full : cacheLimit ≤ renderer.cache.length
    · simpa only [full, ↓reduceIte] using entered [] (List.nil_sublist _) (by decide)
    · simpa only [full, ↓reduceIte] using entered renderer.cache (List.Sublist.refl _) (Nat.lt_of_not_le full)

/-- A rendering depends on the locale of the renderer, and on nothing else of it. -/
theorem Faithful.format_eq (faithful : renderer.Faithful) (value : CellValue) (format : CellFormat)
    (options : RenderOptions) :
    (renderer.format value format options).1 =
      (render? value (.parse format.code format.category)
        { category := format.category
          locale := options.locale.getD renderer.locale
          availableWidth := options.availableWidth
          charWidth := options.charWidth.getD defaultCharWidth }).getD ⟨value.display.toList, none⟩ := by
  simp only [Renderer.format, (faithful.parse format).1]

theorem Faithful.format_eq_new (faithful : renderer.Faithful) (value : CellValue) (format : CellFormat)
    (options : RenderOptions) :
    (renderer.format value format options).1 = ((new renderer.locale).format value format options).1 := by
  have fresh : (new renderer.locale).Faithful := faithful_of_nil rfl
  rw [faithful.format_eq, fresh.format_eq]
  rfl

/-- One request: the answer is that of a new renderer, and what is held stays faithful. -/
theorem Faithful.ask (faithful : renderer.Faithful) (request : RendererRequest) :
    (renderer.ask request).1 = ((new renderer.locale).ask request).1 ∧ (renderer.ask request).2.Faithful ∧
      (renderer.ask request).2.locale = localeAfter renderer.locale request := by
  have fresh : (new renderer.locale).Faithful := faithful_of_nil rfl
  cases request with
  | parse format =>
    have parsed := faithful.parse format
    refine ⟨?_, parsed.2⟩
    simp only [Renderer.ask, Prod.map_fst, parsed.1, (fresh.parse format).1]
  | format value format options =>
    exact ⟨congrArg RendererAnswer.rendered (faithful.format_eq_new value format options), (faithful.parse format).2⟩
  | formatText value format options =>
    exact ⟨congrArg (fun rendered : Rendered => RendererAnswer.text rendered.text)
      (faithful.format_eq_new value format options), (faithful.parse format).2⟩
  | setLocale next => exact ⟨rfl, ⟨faithful.bounded, faithful.distinct, faithful.parsed⟩, rfl⟩
  | clearCache => exact ⟨rfl, faithful_of_nil rfl, rfl⟩

/-- Requests one after another. -/
theorem Faithful.askAll (faithful : renderer.Faithful) (requests : List RendererRequest) :
    (renderer.askAll requests).1 = answersAnew renderer.locale requests ∧ (renderer.askAll requests).2.Faithful := by
  induction requests generalizing renderer with
  | nil => exact ⟨rfl, faithful⟩
  | cons request rest ih =>
    obtain ⟨answer, kept, locale⟩ := faithful.ask request
    obtain ⟨answers, last⟩ := ih kept
    refine ⟨?_, last⟩
    rw [locale] at answers
    exact congr (congrArg List.cons answer) answers

theorem Reachable.faithful (reachable : renderer.Reachable) : renderer.Faithful := by
  obtain ⟨locale, requests, rfl⟩ := reachable
  exact (Faithful.askAll (faithful_of_nil rfl) requests).2

/-- A renderer answers every request as a new one does that has the locale of the moment, whatever it has been asked
before, and what it holds is bounded and faithful. -/
theorem askAll_new (locale : Locale) (requests : List RendererRequest) :
    ((new locale).askAll requests).1 = answersAnew locale requests ∧ ((new locale).askAll requests).2.Faithful :=
  Faithful.askAll (faithful_of_nil rfl) requests

end Renderer
end Spreadsheet.Format
