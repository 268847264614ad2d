import NoteMarkup.Kind
import NoteMarkup.Tree.Search
import NoteMarkup.Text.Entity
import NoteMarkup.Page.ImageSource

/-!
# Inline content of a page

The nodes inside a block become the nodes of the page inside the element that
the block becomes.

- `renderInlines` turns a list of nodes into a list of nodes;
- marked spans become the element for their mark, images and formulas are made
  from attributes, and all other elements vanish around their content.

No empty text is ever made, so an empty result is an empty list.
-/

namespace NoteMarkup

variable [UrlReader]

def tagged (tag : String) (attributes : List (String × String)) (children : List Node) : Node :=
  .element ⟨tag, attributes, children⟩

/-- The source text that an element stores in its `data-content` attribute, with one more
    level of entities read. -/
def Element.storedSource (e : Element) : String :=
  Text.unescape (e.attrD "data-content")

def inlineImage (options : Options) (image : Element) : Node :=
  tagged "img"
    [("src", image.imageSource options), ("alt", image.attrD "alt"),
      ("title", image.attrD "title")] []

mutual

def Element.renderInline (options : Options) : Element → List Node
  | ⟨tag, attributes, children⟩ =>
    let e : Element := ⟨tag, attributes, children⟩
    match e.inlineKind with
    | .strong => [tagged "strong" [] (renderInlines options children)]
    | .emphasis => [tagged "em" [] (renderInlines options children)]
    | .underline => [tagged "u" [] (renderInlines options children)]
    | .strikethrough => [tagged "s" [] (renderInlines options children)]
    | .mark => [tagged "mark" [] (renderInlines options children)]
    | .code => [tagged "code" [] (renderInlines options children)]
    | .image => (e.firstImage?.map (inlineImage options)).toList
    | .math => [tagged "span" [("class", "math-inline")] (Node.ofText e.storedSource)]
    | .memo =>
      match renderInlines options children with
      | [] => []
      | content => content ++ [tagged "sup" [] []]
    | .anchor => [tagged "a" [("href", e.attrD "href")] (renderInlines options children)]
    | .lineBreak => [tagged "br" [] []]
    | .backslash | .other | .plainText => renderInlines options children

/-- The page content for the nodes inside a block, in order. -/
def renderInlines (options : Options) : List Node → List Node
  | [] => []
  | node :: nodes => node.renderInline options ++ renderInlines options nodes

def Node.renderInline (options : Options) : Node → List Node
  | .element e => e.renderInline options
  | .text s => Node.ofText s

end

end NoteMarkup
