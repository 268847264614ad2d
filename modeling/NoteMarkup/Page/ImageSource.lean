import NoteMarkup.Options
import NoteMarkup.Tree
import NoteMarkup.Url

/-!
# References to images

Images on other hosts are fetched through a path on the page's own host.

- `hostRest?` cuts an absolute reference by its shape alone, for those that are
  no valid URL;
- `proxiedBy` moves an absolute reference to a path, for any reader of URLs;
- `Element.imageSource` is what an image refers to on the page.
-/

namespace NoteMarkup

/-! ## Absolute references by their shape -/

/-- A character as it counts in a scheme: in lower case, and the long s as an s. -/
def foldSchemeChar (c : Char) : Char :=
  if c == '\u017f' then 's' else c.toLower

/-- What follows a scheme in front of a text, if the text starts with it. -/
def dropScheme? : List Char → List Char → Option (List Char)
  | [], cs => some cs
  | _ :: _, [] => none
  | s :: scheme, c :: cs => if foldSchemeChar c == s then dropScheme? scheme cs else none

/-- What follows `http://` or `https://` in front of a text. -/
def afterScheme? (cs : List Char) : Option (List Char) :=
  (dropScheme? "https://".toList cs).or (dropScheme? "http://".toList cs)

/-- What follows the host of an absolute reference, from the first `/` on.  The host must not
    be empty, and nothing after it may be a line feed. -/
def hostRest? (cs : List Char) : Option (List Char) :=
  (afterScheme? cs).bind fun cs =>
    let rest := cs.dropWhile (· != '/')
    if cs.takeWhile (· != '/') ≠ [] ∧ rest ≠ [] ∧ '\n' ∉ rest then some rest else none

/-! ## Moving references -/

def trimSlashes (path : String) : String :=
  String.ofList ((path.toList.reverse.dropWhile (· == '/')).reverse)

/-- What follows the path of a URL: its query, unless that is empty. -/
def WebUrl.queryText (url : WebUrl) : String :=
  match url.query? with
  | none => ""
  | some query => if query.isEmpty then "" else "?" ++ query

/-- Moves an absolute reference below a path, as seen by a reader of URLs: the scheme and the host
    go, the path and the query stay.  Any other reference is left as it is. -/
def proxiedBy (parse? : String → Option WebUrl) (base reference : String) : String :=
  if reference.isEmpty then
    ""
  else
    match parse? reference with
    | some url => trimSlashes base ++ url.path ++ url.queryText
    | none =>
      match hostRest? reference.toList with
      | some rest => trimSlashes base ++ String.ofList rest
      | none => reference

section

variable [UrlReader]

/-- Moves the absolute references of the web below a path. -/
def proxied (base reference : String) : String :=
  proxiedBy UrlReader.parse? base reference

/-! ## Images -/

/-- What an image refers to in the stored note: its `data-src`, else its `src`. -/
def Element.storedReference (image : Element) : String :=
  ((image.attrNonEmpty? "data-src").or (image.attrNonEmpty? "src")).getD ""

def Element.imageSource (options : Options) (image : Element) : String :=
  if options.moveImages then
    proxied options.imagePrefix image.storedReference
  else
    image.storedReference

end

end NoteMarkup
