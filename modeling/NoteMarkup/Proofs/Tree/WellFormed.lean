import Mathlib.Data.List.Chain
import NoteMarkup.Proofs.Text.Letter
import NoteMarkup.Text.Blank
import NoteMarkup.Tree

/-!
# Well-formed trees

Which trees can be written as markup and read back: names are those that reading keeps, no text is
empty, and no two texts stand side by side.
-/

namespace NoteMarkup

def isTagChar (c : Char) : Bool :=
  c.isLower || c.isDigit || c == '-' || c == '_' || c == ':'

def isTagName (tag : String) : Bool :=
  match tag.toList with
  | [] => false
  | c :: cs => c.isLower && cs.all isTagChar

def isLowerNameChar (c : Char) : Bool :=
  !Text.isBlank c && c != '=' && c != '>' && c != '/' && c != '"' && c != '\'' && !c.isUpper

/-- At least one character, none of them blank, in upper case, or a mark of the syntax. -/
def isAttributeName (name : String) : Bool :=
  !name.isEmpty && name.toList.all isLowerNameChar

theorem isLowerNameChar_of_isTagChar {c : Char} (h : isTagChar c = true) :
    isLowerNameChar c = true := by
  have plain : 48 ≤ c.toNat ∧ c.toNat ≤ 57 ∨ 97 ≤ c.toNat ∧ c.toNat ≤ 122 →
      isLowerNameChar c = true := by
    intro range
    have blank : Text.isBlank c = false := by
      simp only [Text.isBlank, Bool.or_eq_false_iff, Bool.and_eq_false_iff,
        decide_eq_false_iff_not, beq_eq_false_iff_ne]
      omega
    have upper : c.isUpper = false := by
      rw [Bool.eq_false_iff, ne_eq, Text.isUpper_iff]
      omega
    have other : ∀ d : Char, d.toNat < 48 ∨ 57 < d.toNat ∧ d.toNat < 97 → c ≠ d := by
      rintro d hd rfl
      omega
    simp [isLowerNameChar, blank, upper, other '=' (by decide), other '>' (by decide),
      other '/' (by decide), other '"' (by decide), other '\'' (by decide)]
  simp only [isTagChar, Bool.or_eq_true, beq_iff_eq] at h
  obtain (((lower | digit) | rfl) | rfl) | rfl := h
  · exact plain (.inr (Text.isLower_iff.mp lower))
  · exact plain (.inl (Text.isDigit_iff.mp digit))
  all_goals rfl

/-! ## Nodes -/

structure Element.WellNamed (e : Element) : Prop where
  tag : isTagName e.tag = true
  names : ∀ attr ∈ e.attributes, isAttributeName attr.1 = true
  distinct : (e.attributes.map Prod.fst).Nodup

/-- Everything in the node can be written and read back: no text is empty, names are those that
    reading keeps, and void elements are childless. -/
inductive Node.WellFormed : Node → Prop where
  | text {s : String} (nonempty : s ≠ "") : WellFormed (.text s)
  | element {tag : String} {attributes : List (String × String)} {children : List Node}
      (named : Element.WellNamed ⟨tag, attributes, children⟩)
      (void : isVoidTag tag = true → children = [])
      (inner : ∀ node ∈ children, WellFormed node) :
      WellFormed (.element ⟨tag, attributes, children⟩)

mutual

def Node.isWellFormed : Node → Bool
  | .text s => s != ""
  | .element ⟨tag, attributes, children⟩ =>
    isTagName tag && attributes.all (fun attr => isAttributeName attr.1) &&
      decide (attributes.map Prod.fst).Nodup && (!isVoidTag tag || children.isEmpty) &&
      areWellFormed children

def areWellFormed : List Node → Bool
  | [] => true
  | node :: nodes => node.isWellFormed && areWellFormed nodes

end

mutual

theorem Node.wellFormed_iff : ∀ node : Node, node.WellFormed ↔ node.isWellFormed = true
  | .text s => by
    rw [Node.isWellFormed, bne_iff_ne]
    exact ⟨fun h => by cases h; assumption, .text⟩
  | .element ⟨tag, attributes, children⟩ => by
    rw [Node.isWellFormed]
    simp only [Bool.and_eq_true, List.all_eq_true, decide_eq_true_eq, Bool.or_eq_true,
      Bool.not_eq_true', List.isEmpty_iff, ← areWellFormed_iff children]
    constructor
    · rintro (_ | ⟨⟨htag, hnames, hdistinct⟩, void, inner⟩)
      refine ⟨⟨⟨⟨htag, hnames⟩, hdistinct⟩, ?_⟩, inner⟩
      cases hvoid : isVoidTag tag with
      | false => exact .inl rfl
      | true => exact .inr (void hvoid)
    · rintro ⟨⟨⟨⟨htag, hnames⟩, hdistinct⟩, hvoid⟩, inner⟩
      refine .element ⟨htag, hnames, hdistinct⟩ (fun h => ?_) inner
      obtain hfalse | hnil := hvoid
      · rw [h] at hfalse
        cases hfalse
      · exact hnil

theorem areWellFormed_iff :
    ∀ nodes : List Node, (∀ node ∈ nodes, node.WellFormed) ↔ areWellFormed nodes = true
  | [] => by simp [areWellFormed]
  | node :: nodes => by
    rw [List.forall_mem_cons, areWellFormed, Bool.and_eq_true, Node.wellFormed_iff node,
      areWellFormed_iff nodes]

end

instance (node : Node) : Decidable node.WellFormed :=
  decidable_of_iff _ (Node.wellFormed_iff node).symm

theorem eq_text_of_mem_ofText {s : String} {node : Node} (h : node ∈ Node.ofText s) :
    node = .text s ∧ s ≠ "" := by
  unfold Node.ofText at h
  split at h
  · cases h
  · rename_i nonempty
    exact ⟨List.mem_singleton.mp h, by simpa using nonempty⟩

theorem wellFormed_of_mem_ofText {s : String} : ∀ node ∈ Node.ofText s, node.WellFormed := by
  intro node h
  obtain ⟨rfl, nonempty⟩ := eq_text_of_mem_ofText h
  exact .text nonempty

/-! ## Texts side by side -/

def Node.isText : Node → Bool
  | .text _ => true
  | .element _ => false

def Apart (nodes : List Node) : Prop :=
  nodes.IsChain fun left right => left.isText = true → right.isText = false

inductive Node.Separated : Node → Prop where
  | text {s : String} : Separated (.text s)
  | element {tag : String} {attributes : List (String × String)} {children : List Node}
      (apart : Apart children) (inner : ∀ node ∈ children, Separated node) :
      Separated (.element ⟨tag, attributes, children⟩)

structure Separated (nodes : List Node) : Prop where
  apart : Apart nodes
  inner : ∀ node ∈ nodes, node.Separated

instance (nodes : List Node) : Decidable (Apart nodes) :=
  inferInstanceAs (Decidable (List.IsChain _ nodes))

mutual

def Node.isSeparated : Node → Bool
  | .text _ => true
  | .element ⟨_, _, children⟩ => decide (Apart children) && areSeparated children

def areSeparated : List Node → Bool
  | [] => true
  | node :: nodes => node.isSeparated && areSeparated nodes

end

mutual

theorem Node.separated_iff : ∀ node : Node, node.Separated ↔ node.isSeparated = true
  | .text _ => ⟨fun _ => rfl, fun _ => .text⟩
  | .element ⟨_, _, children⟩ => by
    rw [Node.isSeparated, Bool.and_eq_true, decide_eq_true_eq, ← areSeparated_iff children]
    constructor
    · rintro (_ | ⟨apart, inner⟩)
      exact ⟨apart, inner⟩
    · rintro ⟨apart, inner⟩
      exact .element apart inner

theorem areSeparated_iff :
    ∀ nodes : List Node, (∀ node ∈ nodes, node.Separated) ↔ areSeparated nodes = true
  | [] => by simp [areSeparated]
  | node :: nodes => by
    rw [List.forall_mem_cons, areSeparated, Bool.and_eq_true, Node.separated_iff node,
      areSeparated_iff nodes]

end

instance (node : Node) : Decidable node.Separated :=
  decidable_of_iff _ (Node.separated_iff node).symm

end NoteMarkup
