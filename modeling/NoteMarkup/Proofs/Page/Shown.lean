import NoteMarkup.Proofs.Page.Append

/-!
# Where elements are shown

What is written for an element stands on the page inside what is written for the elements around
it.  `ShownAt` is the markup of the page in front of an element and behind it, and
`ShownAt.write_eq` puts the page together.
-/

namespace NoteMarkup

inductive Role where
  | block
  /-- The children of a list. -/
  | item
  /-- The children of a list item. -/
  | itemPart
  | inline

namespace Role

def write [UrlReader] (options : Options) : Role → List Node → String
  | block => writeBlocks options
  | item => writeItems options
  | itemPart => writeItemContent options
  | inline => writeInlines options

def writeNode [UrlReader] (options : Options) : Role → Node → String
  | block => Node.writeBlock options
  | item => Node.writeItem options
  | itemPart => Node.writeItemPart options
  | inline => Node.writeInline options

theorem write_nil [UrlReader] (options : Options) (role : Role) : role.write options [] = "" := by
  cases role <;> rfl

theorem write_cons [UrlReader] (options : Options) (role : Role) (node : Node) (nodes : List Node) :
    role.write options (node :: nodes) = role.writeNode options node ++ role.write options nodes := by
  cases role <;> rfl

theorem write_append [UrlReader] (options : Options) (role : Role) (nodes more : List Node) :
    role.write options (nodes ++ more) = role.write options nodes ++ role.write options more := by
  induction nodes with
  | nil => rw [List.nil_append, write_nil, String.empty_append]
  | cons node nodes ih => rw [List.cons_append, write_cons, write_cons, ih, String.append_assoc]

end Role

structure Frame where
  role : Role
  nodes : List Node
  front : String
  behind : String

def Frame.tagged (tag : String) (role : Role) (nodes : List Node) : Frame :=
  ⟨role, nodes, "<" ++ tag ++ ">", "</" ++ tag ++ ">"⟩

def Frame.write [UrlReader] (options : Options) (frame : Frame) : String :=
  frame.front ++ frame.role.write options frame.nodes ++ frame.behind

/-- What an element in this role shows of the nodes in it, if it does.  A block of no known kind
    shows the blocks inside it. -/
def Role.frame? : Role → Element → Option Frame
  | block, e =>
    match e.blockKind with
    | .heading =>
      let tag := "h" ++ toString e.headingLevel
      some ⟨.inline, e.editableContent, "<" ++ tag ++ attributeMarkup "id" e.headingId? ++ ">",
        "</" ++ tag ++ ">"⟩
    | .paragraph => some (.tagged "p" .inline e.editableContent)
    | .blockquote => some (.tagged "blockquote" .inline e.editableContent)
    | .list => some (.tagged e.listTag .item e.children)
    | .listItem => some (.tagged "li" .itemPart e.children)
    | .unrecognized => some ⟨.block, e.children, "", ""⟩
    | .codeBlock | .image | .table | .mathBlock => none
  | item, e => if e.blockKind = .listItem then some (.tagged "li" .itemPart e.children) else none
  | itemPart, e =>
    match e.blockKind with
    | .paragraph => some ⟨.inline, e.editableContent, "", ""⟩
    | .list => some (.tagged e.listTag .item e.children)
    | _ => none
  | inline, e =>
    match e.inlineKind with
    | .strong => some (.tagged "strong" .inline e.children)
    | .emphasis => some (.tagged "em" .inline e.children)
    | .underline => some (.tagged "u" .inline e.children)
    | .strikethrough => some (.tagged "s" .inline e.children)
    | .mark => some (.tagged "mark" .inline e.children)
    | .code => some (.tagged "code" .inline e.children)
    | .memo => some ⟨.inline, e.children, "", "<sup></sup>"⟩
    | .anchor =>
      some ⟨.inline, e.children, "<a href=\"" ++ Text.escape (e.attrD "href") ++ "\">", "</a>"⟩
    | .backslash | .other | .plainText => some ⟨.inline, e.children, "", ""⟩
    | .image | .math | .lineBreak => none

theorem Frame.write_tagged [UrlReader] (options : Options) (tag : String) (role : Role)
    (nodes : List Node) :
    (Frame.tagged tag role nodes).write options = wrapMarkup tag (role.write options nodes) := by
  simp only [Frame.write, Frame.tagged, wrapMarkup, String.append_assoc]

theorem Frame.write_bare [UrlReader] (options : Options) (role : Role) (nodes : List Node) :
    Frame.write options ⟨role, nodes, "", ""⟩ = role.write options nodes := by
  rw [Frame.write, String.empty_append, String.append_empty]

/-- Markup in which a tag stands is not blank. -/
theorem isEmpty_trim_of_mem {s : String} (shows : '<' ∈ s.toList) : (Text.trim s).isEmpty = false := by
  rw [Text.isEmpty_trim, List.all_eq_false]
  exact ⟨'<', shows, Bool.false_ne_true⟩

theorem isEmpty_of_mem {s : String} {c : Char} (h : c ∈ s.toList) : s.isEmpty = false := by
  rw [Bool.eq_false_iff, ne_eq, String.isEmpty_iff]
  rintro rfl
  cases h

section

variable [UrlReader] {options : Options} {e : Element} {frame : Frame}

theorem Element.writeBlock_of_frame? (framed : Role.block.frame? e = some frame)
    (shows : '<' ∈ (frame.role.write options frame.nodes).toList) :
    e.writeBlock options = frame.write options := by
  obtain ⟨tag, attributes, children⟩ := e
  rw [Element.writeBlock]
  cases kind : Element.blockKind ⟨tag, attributes, children⟩ <;>
    simp only [Role.frame?, kind, Option.some.injEq, reduceCtorEq] at framed ⊢ <;> subst framed
  case heading =>
    simp only [Element.writeHeading, Frame.write, String.append_assoc]
    rfl
  case paragraph =>
    have shown :
        (Text.trim (Element.writeContent options ⟨tag, attributes, children⟩)).isEmpty = false :=
      isEmpty_trim_of_mem shows
    rw [Frame.write_tagged, Element.writeParagraph, shown, if_neg Bool.false_ne_true]
    rfl
  case unrecognized =>
    rw [Frame.write_bare]
    exact if_neg (Bool.eq_false_iff.mp (isEmpty_of_mem shows))
  case list => rw [Element.writeList, Frame.write_tagged]; rfl
  case listItem => rw [Element.writeListItem, Frame.write_tagged]; rfl
  case blockquote => rw [Frame.write_tagged]; rfl

theorem Node.writeItem_of_frame? (framed : Role.item.frame? e = some frame) :
    (Node.element e).writeItem options = frame.write options := by
  obtain ⟨tag, attributes, children⟩ := e
  rw [Role.frame?] at framed
  split at framed
  · rename_i item
    cases framed
    rw [Node.writeItem, if_pos item, Element.writeListItem, Frame.write_tagged]
    rfl
  · cases framed

theorem Node.writeItemPart_of_frame? (framed : Role.itemPart.frame? e = some frame) :
    (Node.element e).writeItemPart options = frame.write options := by
  obtain ⟨tag, attributes, children⟩ := e
  rw [Node.writeItemPart]
  cases kind : Element.blockKind ⟨tag, attributes, children⟩ <;>
    simp only [Role.frame?, kind, Option.some.injEq, reduceCtorEq] at framed ⊢ <;> subst framed
  case paragraph => rw [Frame.write_bare]; rfl
  case list => rw [Element.writeList, Frame.write_tagged]; rfl

theorem Element.writeInline_of_frame? (framed : Role.inline.frame? e = some frame)
    (shows : '<' ∈ (frame.role.write options frame.nodes).toList) :
    e.writeInline options = frame.write options := by
  obtain ⟨tag, attributes, children⟩ := e
  rw [Element.writeInline]
  cases kind : Element.inlineKind ⟨tag, attributes, children⟩ <;>
    simp only [Role.frame?, kind, Option.some.injEq, reduceCtorEq] at framed ⊢ <;> subst framed
  case memo =>
    rw [Frame.write, String.empty_append]
    exact if_neg (Bool.eq_false_iff.mp (isEmpty_of_mem shows))
  case anchor => simp only [Frame.write, String.append_assoc]; rfl
  case backslash | other | plainText => rw [Frame.write_bare]; rfl
  all_goals rw [Frame.write_tagged]; rfl

/-- Around its content an element shows its frame, unless the content shows nothing. -/
theorem Role.writeNode_of_frame? {role : Role} (framed : role.frame? e = some frame)
    (shows : '<' ∈ (frame.role.write options frame.nodes).toList) :
    role.writeNode options (.element e) = frame.write options := by
  cases role with
  | block => exact e.writeBlock_of_frame? framed shows
  | item => exact Node.writeItem_of_frame? framed
  | itemPart => exact Node.writeItemPart_of_frame? framed
  | inline => exact e.writeInline_of_frame? framed shows

end

/-! ## Places on the page -/

/-- The element stands somewhere in the nodes and is looked at in its own role there, with this
    markup of the page in front of it and behind it. -/
inductive ShownAt [UrlReader] (options : Options) (own : Role) (e : Element) :
    Role → List Node → String → String → Prop where
  | here (before after : List Node) :
      ShownAt options own e own (before ++ .element e :: after) (own.write options before)
        (own.write options after)
  | inside {role : Role} {outer : Element} {frame : Frame} {front behind : String}
      (framed : role.frame? outer = some frame)
      (below : ShownAt options own e frame.role frame.nodes front behind)
      (before after : List Node) :
      ShownAt options own e role (before ++ .element outer :: after)
        (role.write options before ++ frame.front ++ front)
        (behind ++ frame.behind ++ role.write options after)

/-- Where the element is shown, it is shown as what is written for it alone, if that is markup. -/
theorem ShownAt.write_eq [UrlReader] {options : Options} {own role : Role} {e : Element}
    {nodes : List Node} {front behind : String}
    (shown : ShownAt options own e role nodes front behind)
    (shows : '<' ∈ (own.writeNode options (.element e)).toList) :
    role.write options nodes = front ++ own.writeNode options (.element e) ++ behind := by
  induction shown with
  | here before after => rw [Role.write_append, Role.write_cons, String.append_assoc]
  | inside framed below before after ih =>
    rename_i outer frame front behind
    -- what shows the element shows something, so no element around it is left out
    have content : '<' ∈ (frame.role.write options frame.nodes).toList := by
      rw [ih, String.toList_append, String.toList_append]
      exact List.mem_append_left _ (List.mem_append_right _ shows)
    rw [Role.write_append, Role.write_cons, Role.writeNode_of_frame? framed content, Frame.write, ih]
    simp only [String.append_assoc]

end NoteMarkup
