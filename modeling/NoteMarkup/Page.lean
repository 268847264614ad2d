import NoteMarkup.Page.Markup
import NoteMarkup.Tree.Parser

/-!
# Pages

From the stored note to the markup of its page.

- `Element.render` is the page of a tree that has been read, as a tree;
- `Element.pageMarkup` is its markup, written directly;
- `transform` reads a note and writes its page, which never fails: what cannot be
  read is left out.
-/

namespace NoteMarkup

variable [UrlReader]

/-- The page of a document: what its blocks become, one after the other. -/
def Element.render (options : Options) (root : Element) : List Node :=
  renderBlocks options root.children

/-- The markup of the page of a document. -/
def Element.pageMarkup (options : Options) (root : Element) : String :=
  writeBlocks options root.children

/-- The markup of the page of a note.  A blank note has an empty page. -/
def transform (options : Options) (markup : String) : String :=
  if (Text.trim markup).isEmpty then "" else (parse markup).pageMarkup options

end NoteMarkup
