import NoteMarkup.Page.Block

/-!
# Markup of a page

The markup of a page is written from left to right while the note is walked
through, and the tree of the page is never built.

- `writeInlines` writes what a list of nodes becomes inside a block;
- `writeBlocks` writes what the elements of a list of nodes become as blocks.

Every text that comes from the note is escaped where it is put in, and whether
a piece shows anything is asked of its markup.
-/

namespace NoteMarkup

variable [UrlReader]

/-- Markup between an opening tag without attributes and its closing tag. -/
def wrapMarkup (tag content : String) : String :=
  "<" ++ tag ++ ">" ++ content ++ "</" ++ tag ++ ">"

/-! ## Content of blocks -/

def inlineImageMarkup (options : Options) (image : Element) : String :=
  "<img src=\"" ++ Text.escape (image.imageSource options) ++ "\" alt=\"" ++
    Text.escape (image.attrD "alt") ++ "\" title=\"" ++ Text.escape (image.attrD "title") ++ "\">"

mutual

def Element.writeInline (options : Options) : Element → String
  | ⟨tag, attributes, children⟩ =>
    let e : Element := ⟨tag, attributes, children⟩
    match e.inlineKind with
    | .strong => wrapMarkup "strong" (writeInlines options children)
    | .emphasis => wrapMarkup "em" (writeInlines options children)
    | .underline => wrapMarkup "u" (writeInlines options children)
    | .strikethrough => wrapMarkup "s" (writeInlines options children)
    | .mark => wrapMarkup "mark" (writeInlines options children)
    | .code => wrapMarkup "code" (writeInlines options children)
    | .image =>
      match e.firstImage? with
      | none => ""
      | some image => inlineImageMarkup options image
    | .math => "<span class=\"math-inline\">" ++ Text.escape e.storedSource ++ "</span>"
    | .memo =>
      let content := writeInlines options children
      -- the text of a memo is kept, what it says about that text is not
      if content.isEmpty then "" else content ++ "<sup></sup>"
    | .anchor =>
      "<a href=\"" ++ Text.escape (e.attrD "href") ++ "\">" ++ writeInlines options children ++ "</a>"
    | .lineBreak => "<br>"
    | .backslash | .other | .plainText => writeInlines options children

/-- The markup for the nodes inside a block, in order. -/
def writeInlines (options : Options) : List Node → String
  | [] => ""
  | node :: nodes => node.writeInline options ++ writeInlines options nodes

def Node.writeInline (options : Options) : Node → String
  | .element e => e.writeInline options
  | .text s => Text.escape s

end

def Element.writeContent (options : Options) (e : Element) : String :=
  writeInlines options e.editableContent

/-! ## Blocks without blocks inside -/

/-- An attribute with the blank in front of it, or nothing where there is no value. -/
def attributeMarkup (name : String) (value? : Option String) : String :=
  match value? with
  | none => ""
  | some value => " " ++ name ++ "=\"" ++ Text.escape value ++ "\""

def Element.writeHeading (options : Options) (e : Element) : String :=
  let tag := "h" ++ toString e.headingLevel
  "<" ++ tag ++ attributeMarkup "id" e.headingId? ++ ">" ++ e.writeContent options ++ "</" ++ tag ++ ">"

/-- The markup of a paragraph, or nothing for one whose markup is blank. -/
def Element.writeParagraph (options : Options) (e : Element) : String :=
  let content := e.writeContent options
  -- an image without text is markup, so its paragraph stays
  if (Text.trim content).isEmpty then "" else wrapMarkup "p" content

def Element.writeSource (subtype? : Option String) (e : Element) : String :=
  "<pre class=\"render-node\"" ++ attributeMarkup "data-subtype" subtype? ++ "><code>" ++
    Text.escape e.storedSource ++ "</code></pre>"

def Element.writeCodeBlock (e : Element) : String :=
  if e.hasClass "render-node" then
    e.writeSource (e.attrNonEmpty? "data-subtype")
  else
    let language := e.codeLanguage
    let classMarkup :=
      if language.isEmpty then "" else " class=\"language-" ++ Text.escape language ++ "\""
    "<pre><code" ++ classMarkup ++ ">" ++ Text.escape e.codeText ++ "</code></pre>"

def blockImageMarkup (options : Options) (image : Element) : String :=
  "<img src=\"" ++ Text.escape (image.imageSource options) ++ "\" title=\"" ++
    Text.escape (image.attrD "title") ++ "\" style=\"" ++ Text.escape (image.attrD "style") ++ "\">"

/-! ## Lists -/

mutual

def Element.writeList (options : Options) : Element → String
  | ⟨tag, attributes, children⟩ =>
    wrapMarkup (Element.listTag ⟨tag, attributes, children⟩) (writeItems options children)

def writeItems (options : Options) : List Node → String
  | [] => ""
  | node :: nodes => node.writeItem options ++ writeItems options nodes

def Node.writeItem (options : Options) : Node → String
  | .text _ => ""
  | .element e => if e.blockKind = .listItem then e.writeListItem options else ""

def Element.writeListItem (options : Options) : Element → String
  | ⟨_, _, children⟩ => wrapMarkup "li" (writeItemContent options children)

def writeItemContent (options : Options) : List Node → String
  | [] => ""
  | node :: nodes => node.writeItemPart options ++ writeItemContent options nodes

def Node.writeItemPart (options : Options) : Node → String
  | .text _ => ""
  | .element e =>
    match e.blockKind with
    | .paragraph => e.writeContent options
    | .list => e.writeList options
    | _ => ""

end

/-! ## All blocks -/

mutual

def Element.writeBlock (options : Options) : Element → String
  | ⟨tag, attributes, children⟩ =>
    let e : Element := ⟨tag, attributes, children⟩
    match e.blockKind with
    | .heading => e.writeHeading options
    | .paragraph => e.writeParagraph options
    | .list => e.writeList options
    | .listItem => e.writeListItem options
    | .blockquote => wrapMarkup "blockquote" (e.writeContent options)
    | .codeBlock => e.writeCodeBlock
    | .image =>
      match e.firstImage? with
      | none => ""
      | some image => blockImageMarkup options image
    -- only what is below the table is filtered, its own tag is not looked at
    | .table => (e.without "script").print
    | .mathBlock => e.writeSource (some "math")
    | .unrecognized =>
      let nested := writeBlocks options children
      if nested.isEmpty then e.writeContent options else nested

/-- The markup of the elements in a list of nodes, each as a block. -/
def writeBlocks (options : Options) : List Node → String
  | [] => ""
  | node :: nodes => node.writeBlock options ++ writeBlocks options nodes

def Node.writeBlock (options : Options) : Node → String
  | .element e => e.writeBlock options
  | .text _ => ""

end

end NoteMarkup
