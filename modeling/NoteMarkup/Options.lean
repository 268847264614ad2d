/-!
# Options

What a caller can choose about the pages that are written.
-/

namespace NoteMarkup

/-- The path that image references are moved to unless another is chosen. -/
def defaultImagePrefix : String := "/image"

/-- How images are referred to on a page. -/
structure Options where
  /-- The path that absolute image references are moved to. -/
  imagePrefix : String := defaultImagePrefix
  /-- Whether absolute image references are moved at all. -/
  moveImages : Bool := true
  deriving Repr, DecidableEq, Inhabited

end NoteMarkup
