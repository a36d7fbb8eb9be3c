import Spreadsheet.Settings
import Spreadsheet.Sheet.Builder
import Spreadsheet.Fill.Pattern
import Spreadsheet.Merge.Registry
import Spreadsheet.Feed.Bare
import Spreadsheet.Sheet.Host
import Spreadsheet.Format.Renderer
import Spreadsheet.Format.Section
import Spreadsheet.Locale.Lookup
import Spreadsheet.Format.Palette
import Spreadsheet.Cell.Equality
import Spreadsheet.Cell.Detection
import Spreadsheet.Coordinate.A1
import Spreadsheet.Coordinate.Key
import Spreadsheet.Calendar.Serial
import Spreadsheet.Number.Scalar
import Spreadsheet.Number.Reading
import Spreadsheet.Text.LetterCase
import Spreadsheet.Text.Units
import Spreadsheet.Proofs.Feed.Runs
import Spreadsheet.Proofs.Merge.Soundness
import Spreadsheet.Proofs.Coordinate.Checked
import Spreadsheet.Proofs.Sheet.RangeWriting
import Spreadsheet.Proofs.Sheet.Acts
import Spreadsheet.Proofs.Number.Order
import Spreadsheet.Proofs.Sheet.Refinement
import Spreadsheet.Proofs.Sheet.Completeness
import Spreadsheet.Proofs.Sheet.Coalescing
import Spreadsheet.Proofs.Merge.Rectangles
import Spreadsheet.Proofs.Sheet.Disposal
import Spreadsheet.Proofs.Coordinate.Named
import Spreadsheet.Proofs.Feed.Reading
import Spreadsheet.Proofs.Merge.Tiles
import Spreadsheet.Proofs.Sheet.Registering
import Spreadsheet.Proofs.Fill.Target
import Spreadsheet.Proofs.Fill.Continuation
import Spreadsheet.Proofs.Sheet.SmartFill
import Spreadsheet.Proofs.Sheet.Atomicity
import Spreadsheet.Proofs.Format.Cache
import Spreadsheet.Proofs.Format.Lexing
import Spreadsheet.Proofs.Format.Literals
import Spreadsheet.Proofs.Feed.History
import Spreadsheet.Proofs.Feed.Orderly
import Spreadsheet.Proofs.Feed.Nesting
import Spreadsheet.Proofs.Feed.Moments
import Spreadsheet.Proofs.Number.Whole
import Spreadsheet.Proofs.Coordinate.Letters
import Spreadsheet.Proofs.Coordinate.Written
import Spreadsheet.Proofs.Sheet.Replicating
import Spreadsheet.Proofs.Feed.Sequence
import Spreadsheet.Proofs.Number.Quotient
import Spreadsheet.Proofs.Calendar.Fields
import Spreadsheet.Proofs.Calendar.Typed
import Spreadsheet.Proofs.Format.Dates
import Spreadsheet.Proofs.Sheet.Sparing
import Spreadsheet.Proofs.Sheet.Covered
import Spreadsheet.Proofs.Number.Accuracy
import Spreadsheet.Proofs.Calendar.Serials
import Spreadsheet.Proofs.Format.Serials
import Spreadsheet.Proofs.Feed.Parallel
import Spreadsheet.Proofs.Fill.Transposed
import Spreadsheet.Proofs.Sheet.Carried
import Spreadsheet.Proofs.Sheet.Mirrored
import Spreadsheet.Proofs.Sheet.Mirroring
import Spreadsheet.Proofs.Sheet.Reversed
import Spreadsheet.Proofs.Sheet.Symmetry
import Spreadsheet.Proofs.Format.Sections
import Spreadsheet.Proofs.Format.Bodies
import Spreadsheet.Proofs.Format.Elapsed
import Spreadsheet.Proofs.Number.Magnitude
import Spreadsheet.Proofs.Format.Signs
import Spreadsheet.Proofs.Number.Division
import Spreadsheet.Proofs.Format.Durations
import Spreadsheet.Proofs.Format.Places
import Spreadsheet.Proofs.Format.Fractions
import Spreadsheet.Proofs.Format.Units
import Spreadsheet.Proofs.Sheet.Progressions
import Spreadsheet.Proofs.Fill.Classification
import Spreadsheet.Proofs.Fill.Days
import Spreadsheet.Proofs.Fill.Counting
import Spreadsheet.Proofs.Fill.Tiled
import Spreadsheet.Proofs.Sheet.Tiled
import Spreadsheet.Proofs.Sheet.Moving
import Spreadsheet.Proofs.Sheet.RangeReading
import Spreadsheet.Proofs.Feed.Isolation
import Spreadsheet.Proofs.Format.Fills
import Spreadsheet.Proofs.Format.Grouping
import Spreadsheet.Proofs.Format.Trailing
import Spreadsheet.Proofs.Coordinate.Notation
import Spreadsheet.Proofs.Format.Minutes
import Spreadsheet.Proofs.Calendar.Spelled
import Spreadsheet.Proofs.Cell.Kinds
import Spreadsheet.Proofs.Coordinate.Algebra
import Spreadsheet.Proofs.Cell.Hashing
import Spreadsheet.Proofs.Cell.Equality
import Spreadsheet.Proofs.Fill.Constancy
import Spreadsheet.Proofs.Format.Approximation
import Spreadsheet.Proofs.Format.Mixed
import Spreadsheet.Proofs.Number.Exact
import Spreadsheet.Proofs.Format.Normalization
import Spreadsheet.Proofs.Sheet.Building
import Spreadsheet.Proofs.Number.Signed
import Spreadsheet.Proofs.Format.Templates
import Spreadsheet.Proofs.Format.Cuts
import Spreadsheet.Proofs.Format.Extraction
import Spreadsheet.Proofs.Sheet.Keyed
