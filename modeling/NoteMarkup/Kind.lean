import NoteMarkup.Tree

/-!
# Kinds of blocks and of inline content

The note system marks what an element is in its `data-type` attribute.

- `BlockKind` is what an element is as a block;
- `InlineKind` is what a node is inside the content of a block, where the tag
  counts too.

Every element has a kind of either sort: what is not known is `unrecognized` as
a block and `other` as inline content.
-/

namespace NoteMarkup

/-! ## Blocks -/

/-- What an element is as a block. -/
inductive BlockKind where
  | heading
  | paragraph
  | list
  | listItem
  | blockquote
  | codeBlock
  | image
  | table
  | mathBlock
  | unrecognized
  deriving Repr, DecidableEq, Inhabited

def BlockKind.ofDataType : String → BlockKind
  | "NodeHeading" => heading
  | "NodeParagraph" => paragraph
  | "NodeList" => list
  | "NodeListItem" => listItem
  | "NodeBlockquote" => blockquote
  | "NodeCodeBlock" => codeBlock
  | "NodeImage" => image
  | "NodeTable" => table
  | "NodeMathBlock" => mathBlock
  | _ => unrecognized

def Element.blockKind (e : Element) : BlockKind :=
  .ofDataType (e.attrD "data-type")

/-! ## Inline content -/

/-- What a node is inside the content of a block. -/
inductive InlineKind where
  | plainText
  | strong
  | emphasis
  | underline
  | strikethrough
  | mark
  | code
  | image
  | math
  | memo
  | backslash
  | anchor
  | lineBreak
  | other
  deriving Repr, DecidableEq, Inhabited

/-- The kind of a `span` whose `data-type` is given. -/
def InlineKind.ofSpanType : String → InlineKind
  | "strong" => strong
  | "em" => emphasis
  | "u" => underline
  | "s" => strikethrough
  | "mark" => mark
  | "code" => code
  | "img" => image
  | "inline-math" => math
  | "inline-memo" => memo
  | "backslash" => backslash
  | "a" => anchor
  | _ => other

def Element.inlineKind (e : Element) : InlineKind :=
  match e.tag with
  | "span" => .ofSpanType (e.attrD "data-type")
  | "a" => .anchor
  | "br" => .lineBreak
  | _ => .other

def Node.inlineKind : Node → InlineKind
  | element e => e.inlineKind
  | text _ => .plainText

end NoteMarkup
