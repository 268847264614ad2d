import NoteMarkup.Heading
import NoteMarkup.Page.Inline
import NoteMarkup.Tree.Printer

/-!
# Blocks of a page

Every block of a note becomes a piece of the page.

- `renderBlocks` turns a list of nodes into a list of nodes;
- headings, paragraphs, quotes and lists hold the inline content of their
  editable region, code blocks the stored source;
- a table is kept as it stands, without its scripts;
- a block of another kind becomes what its own blocks become, or, when they come
  to nothing, its inline content.
-/

namespace NoteMarkup

variable [UrlReader]

/-! ## Blocks without blocks inside -/

def Element.inlineContent (options : Options) (e : Element) : List Node :=
  renderInlines options e.editableContent

/-- The nodes would show nothing but blanks. -/
def isBlankContent (nodes : List Node) : Bool :=
  nodes.all fun
    | .text s => s.toList.all Text.isBlank
    | .element _ => false

/-- An attribute that is left out when it has no value. -/
def optionalAttribute (name : String) (value? : Option String) : List (String × String) :=
  (value?.map fun value => (name, value)).toList

def renderHeading (options : Options) (e : Element) : Node :=
  tagged ("h" ++ toString e.headingLevel) (optionalAttribute "id" e.headingId?)
    (e.inlineContent options)

/-- A paragraph, or nothing for one that would show nothing. -/
def renderParagraph (options : Options) (e : Element) : List Node :=
  let content := e.inlineContent options
  if isBlankContent content then [] else [tagged "p" [] content]

/-- The stored source of a block that is drawn on the page, such as a diagram or a formula. -/
def renderSource (subtype? : Option String) (e : Element) : Node :=
  tagged "pre" (("class", "render-node") :: optionalAttribute "data-subtype" subtype?)
    [tagged "code" [] (Node.ofText e.storedSource)]

/-- The language that a code block is labelled with, if any. -/
def Element.codeLanguage (e : Element) : String :=
  ((e.find? (·.hasClass "protyle-action__language")).map (Text.trim ·.textContent)).getD ""

def Element.codeText (e : Element) : String :=
  ((e.find? (·.hasClass "hljs")).map Element.textContent).getD ""

/-- A code block: stored source where that is drawn, else its text and its language. -/
def renderCodeBlock (e : Element) : Node :=
  if e.hasClass "render-node" then
    renderSource (e.attrNonEmpty? "data-subtype") e
  else
    let language := e.codeLanguage
    let attributes := if language.isEmpty then [] else [("class", "language-" ++ language)]
    tagged "pre" [] [tagged "code" attributes (Node.ofText e.codeText)]

def blockImage (options : Options) (image : Element) : Node :=
  tagged "img"
    [("src", image.imageSource options), ("title", image.attrD "title"),
      ("style", image.attrD "style")] []

def Element.listTag (e : Element) : String :=
  if e.attr? "data-subtype" == some "o" then "ol" else "ul"

/-! ## Lists -/

mutual

/-- A list, with those of its children that are list items. -/
def Element.renderList (options : Options) : Element → Node
  | ⟨tag, attributes, children⟩ =>
    tagged (Element.listTag ⟨tag, attributes, children⟩) [] (renderItems options children)

def renderItems (options : Options) : List Node → List Node
  | [] => []
  | node :: nodes => node.renderItem options ++ renderItems options nodes

def Node.renderItem (options : Options) : Node → List Node
  | .text _ => []
  | .element e => if e.blockKind = .listItem then [e.renderListItem options] else []

/-- A list item, with the content of its paragraphs and its lists. -/
def Element.renderListItem (options : Options) : Element → Node
  | ⟨_, _, children⟩ => tagged "li" [] (renderItemContent options children)

/-- The paragraphs and lists among the children of a list item. -/
def renderItemContent (options : Options) : List Node → List Node
  | [] => []
  | node :: nodes => node.renderItemPart options ++ renderItemContent options nodes

def Node.renderItemPart (options : Options) : Node → List Node
  | .text _ => []
  | .element e =>
    match e.blockKind with
    | .paragraph => e.inlineContent options
    | .list => [e.renderList options]
    | _ => []

end

/-! ## All blocks -/

mutual

def Element.renderBlock (options : Options) : Element → List Node
  | ⟨tag, attributes, children⟩ =>
    let e : Element := ⟨tag, attributes, children⟩
    match e.blockKind with
    | .heading => [renderHeading options e]
    | .paragraph => renderParagraph options e
    | .list => [e.renderList options]
    | .listItem => [e.renderListItem options]
    | .blockquote => [tagged "blockquote" [] (e.inlineContent options)]
    | .codeBlock => [renderCodeBlock e]
    | .image => (e.firstImage?.map (blockImage options)).toList
    | .table => [.element (e.without "script")]
    | .mathBlock => [renderSource (some "math") e]
    | .unrecognized =>
      match renderBlocks options children with
      | [] => e.inlineContent options
      | nested => nested

/-- What a list of nodes becomes on the page, each element as a block.  Texts between blocks
    are left out. -/
def renderBlocks (options : Options) : List Node → List Node
  | [] => []
  | node :: nodes => node.renderBlock options ++ renderBlocks options nodes

def Node.renderBlock (options : Options) : Node → List Node
  | .element e => e.renderBlock options
  | .text _ => []

end

end NoteMarkup
