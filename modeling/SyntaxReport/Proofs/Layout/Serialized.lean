import SyntaxReport.Proofs.Layout.Scan
import SyntaxReport.Tree.Node

/-!
# The layout of a serialized tree

Laying out the serialization of a tree is the same as printing the tree by recursion, provided that
no label and no field name holds a character with a meaning of its own. It makes no difference how
many spaces stand where the serialization has one.

Results:
* `laidOut_widened`: away from newlines, the layout is the same for every width of the spaces.
* `layout_serialize_eq_pretty`: the layout of a serialization, its spaces widened or not, is
  `Node.pretty`.
-/

namespace SyntaxReport.Tree

/-! ## Labels and field names -/

mutual

/-- The labels and the field names of a tree. -/
def Node.names : Node → List Text
  | .mk label children => label :: childNames children

/-- The labels and the field names of the children of a node. -/
def childNames : List (Option Text × Node) → List Text
  | [] => []
  | (field, child) :: more => field.toList ++ child.names ++ childNames more

end

/-- A character that means nothing to the layout: no parenthesis, no space, no newline. -/
def IsPlain (c : Char) : Prop := c ≠ '(' ∧ c ≠ ')' ∧ c ≠ ' ' ∧ c ≠ '\n'

instance (c : Char) : Decidable (IsPlain c) := by unfold IsPlain; infer_instance

/-- Labels and field names of plain characters. -/
def AllPlain (names : List Text) : Prop := ∀ name ∈ names, ∀ c ∈ name, IsPlain c

instance (names : List Text) : Decidable (AllPlain names) :=
  decidable_of_iff (names.all fun name => name.all fun c => decide (IsPlain c)) (by simp [AllPlain])

/-- A tree whose labels and field names consist of plain characters. -/
def Node.Plain (node : Node) : Prop := AllPlain node.names

instance (node : Node) : Decidable node.Plain := by unfold Node.Plain; infer_instance

theorem allPlain_cons {name : Text} {names : List Text} :
    AllPlain (name :: names) ↔ (∀ c ∈ name, IsPlain c) ∧ AllPlain names := by
  simp [AllPlain]

theorem allPlain_append {a b : List Text} : AllPlain (a ++ b) ↔ AllPlain a ∧ AllPlain b := by
  simp [AllPlain, or_imp, forall_and]

/-- What is plain about the first child of a node, and about the others. -/
theorem allPlain_childNames {field : Option Text} {child : Node}
    {more : List (Option Text × Node)} (h : AllPlain (childNames ((field, child) :: more))) :
    AllPlain field.toList ∧ child.Plain ∧ AllPlain (childNames more) := by
  rw [childNames, allPlain_append, allPlain_append] at h
  exact ⟨h.1.1, h.1.2, h.2⟩

theorem IsPlain.isParen_eq_false {c : Char} (h : IsPlain c) : isParen c = false := by
  simp [isParen, h.1, h.2.1]

theorem laidOut_plain {t : Text} (h : ∀ c ∈ t, IsPlain c) (indent : Text) (depth : Nat)
    (rest : Text) :
    laidOut indent .within depth (t ++ rest) = t ++ laidOut indent .within depth rest := by
  induction t with
  | nil => rfl
  | cons c t ih =>
    obtain ⟨ho, hc, hs, hn⟩ := h c (List.mem_cons_self ..)
    rw [List.cons_append, laidOut]
    simp only [contribution, Place.next, depthNext, ho, hc, hs, hn, if_false]
    rw [ih fun x hx => h x (List.mem_cons_of_mem _ hx)]
    rfl

theorem isPlain_fieldMark {field : Text} (h : ∀ c ∈ field, IsPlain c) :
    ∀ c ∈ fieldMark field, IsPlain c := by
  intro c hc
  rcases List.mem_append.mp hc with hc | hc
  · exact h c hc
  · rw [List.mem_singleton.mp hc]
    decide

/-- A field mark is laid out as it stands, also right behind a break. -/
theorem laidOut_fieldMark {field : Text} (h : ∀ c ∈ field, IsPlain c) (indent : Text)
    (place : Place) (depth : Nat) (rest : Text) :
    laidOut indent place depth (fieldMark field ++ rest) =
      fieldMark field ++ laidOut indent .within depth rest := by
  have hplain := isPlain_fieldMark h
  rw [← laidOut_plain hplain]
  cases hm : fieldMark field with
  | nil => simp [fieldMark] at hm
  | cons c more =>
    rw [hm] at hplain
    exact laidOut_cons_of_ne_space (hplain c (List.mem_cons_self ..)).2.2.1 ..

/-! ## The tree and its children -/

mutual

/-- The serialization of a tree is laid out as the tree is printed, whatever stands around it. -/
theorem laidOut_serialize (indent : Text) (place : Place) (depth : Nat) (rest : Text) :
    ∀ node : Node, node.Plain →
      laidOut indent place depth (node.serializeWith [' '] ++ rest) =
        node.pretty indent depth ++ laidOut indent .within depth rest
  | .mk label children, h => by
    obtain ⟨hlabel, hchildren⟩ := allPlain_cons.mp h
    rw [Node.serializeWith, Node.pretty]
    simp only [List.cons_append, List.append_assoc]
    rw [laidOut_open, laidOut_plain hlabel, laidOut_serializeChildren _ _ _ children hchildren]
    simp only [List.cons_append, List.nil_append, laidOut_close]

/-- The serialized children of a node at a depth are laid out as they are printed. -/
theorem laidOut_serializeChildren (indent : Text) (depth : Nat) (rest : Text) :
    ∀ children : List (Option Text × Node), AllPlain (childNames children) →
      laidOut indent .within (depth + 1) (serializeChildren [' '] children ++ rest) =
        prettyChildren indent depth children ++ laidOut indent .within (depth + 1) rest
  | [], _ => rfl
  | (none, child) :: more, h => by
    obtain ⟨-, hchild, hmore⟩ := allPlain_childNames h
    rw [serializeChildren, prettyChildren]
    simp only [List.cons_append, List.append_assoc, List.nil_append]
    rw [laidOut_space, laidOut_serialize _ _ _ _ child hchild,
      laidOut_serializeChildren _ _ _ more hmore]
  | (some field, child) :: more, h => by
    obtain ⟨hfield, hchild, hmore⟩ := allPlain_childNames h
    rw [serializeChildren, prettyChildren]
    simp only [List.cons_append, List.append_assoc, List.nil_append]
    rw [laidOut_space, laidOut_fieldMark (allPlain_cons.mp hfield).1, laidOut_space,
      laidOut_serialize _ _ _ _ child hchild, laidOut_serializeChildren _ _ _ more hmore]

end

theorem balanced_of_isPlain {t : Text} (h : ∀ c ∈ t, IsPlain c) : Balanced t :=
  .of_not_isParen fun c hc => (h c hc).isParen_eq_false

/-- A gap between siblings. -/
theorem balanced_gap : Balanced [' '] := .of_not_isParen (by simp [isParen])

mutual

/-- The serialization of a tree is balanced. -/
theorem balanced_serialize : ∀ node : Node, node.Plain → Balanced (node.serializeWith [' '])
  | .mk label children, h => by
    obtain ⟨hlabel, hchildren⟩ := allPlain_cons.mp h
    rw [Node.serializeWith]
    exact ((balanced_of_isPlain hlabel).append (balanced_serializeChildren children hchildren)).paren

theorem balanced_serializeChildren :
    ∀ children : List (Option Text × Node), AllPlain (childNames children) →
      Balanced (serializeChildren [' '] children)
  | [], _ => .of_not_isParen (by simp [serializeChildren])
  | (none, child) :: more, h => by
    obtain ⟨-, hchild, hmore⟩ := allPlain_childNames h
    rw [serializeChildren]
    exact (balanced_gap.append (balanced_serialize child hchild)).append
      (balanced_serializeChildren more hmore)
  | (some field, child) :: more, h => by
    obtain ⟨hfield, hchild, hmore⟩ := allPlain_childNames h
    have hmark := balanced_of_isPlain (isPlain_fieldMark (allPlain_cons.mp hfield).1)
    rw [serializeChildren]
    exact (((balanced_gap.append hmark).append balanced_gap).append
      (balanced_serialize child hchild)).append (balanced_serializeChildren more hmore)

end

theorem newline_not_mem_of_isPlain {t : Text} (h : ∀ c ∈ t, IsPlain c) : '\n' ∉ t :=
  fun hmem => (h _ hmem).2.2.2 rfl

mutual

/-- The serialization of a tree is one line. -/
theorem newline_not_mem_serialize :
    ∀ node : Node, node.Plain → '\n' ∉ node.serializeWith [' ']
  | .mk label children, h => by
    obtain ⟨hlabel, hchildren⟩ := allPlain_cons.mp h
    simp [Node.serializeWith, newline_not_mem_of_isPlain hlabel,
      newline_not_mem_serializeChildren children hchildren]

theorem newline_not_mem_serializeChildren :
    ∀ children : List (Option Text × Node), AllPlain (childNames children) →
      '\n' ∉ serializeChildren [' '] children
  | [], _ => by simp [serializeChildren]
  | (none, child) :: more, h => by
    obtain ⟨-, hchild, hmore⟩ := allPlain_childNames h
    simp [serializeChildren, newline_not_mem_serialize child hchild,
      newline_not_mem_serializeChildren more hmore]
  | (some field, child) :: more, h => by
    obtain ⟨hfield, hchild, hmore⟩ := allPlain_childNames h
    have hmark := newline_not_mem_of_isPlain (isPlain_fieldMark (allPlain_cons.mp hfield).1)
    simp [serializeChildren, hmark, newline_not_mem_serialize child hchild,
      newline_not_mem_serializeChildren more hmore]

end

/-! ## Wider spaces -/

/-- The second text is the first with a run of spaces, one or more, in place of each space. -/
inductive Widened : Text → Text → Prop
  | nil : Widened [] []
  | space (n : Nat) {t u : Text} : Widened t u → Widened (' ' :: t) (Text.spaces (n + 1) ++ u)
  | other {c : Char} {t u : Text} : c ≠ ' ' → Widened t u → Widened (c :: t) (c :: u)

/-- Spaces apart, nothing is changed. -/
theorem Widened.filter_isParen {t u : Text} (h : Widened t u) :
    u.filter isParen = t.filter isParen := by
  induction h with
  | nil => rfl
  | space n _ ih =>
    rw [List.filter_append, ih, List.filter_cons_of_neg (by decide)]
    simp [Text.spaces, show isParen ' ' = false by decide]
  | @other c t u _ _ ih => rw [List.filter_cons, List.filter_cons, ih]

/-- The widths of the spaces have no part in whether a layout fails. -/
theorem Widened.isNone_unmatched? {t u : Text} (h : Widened t u) (depth : Nat) :
    (unmatched? depth u).isNone = (unmatched? depth t).isNone := by
  rw [← unmatched?_filter_isParen, h.filter_isParen, unmatched?_filter_isParen]

theorem Place.next_ne_lineStart {c : Char} (h : c ≠ '\n') (place : Place) :
    place.next c ≠ .lineStart := by
  unfold Place.next
  split_ifs <;> simp

/-- Away from newlines, the layout is the same for every width of the spaces. -/
theorem laidOut_widened {t u : Text} (h : Widened t u) (hnewline : '\n' ∉ t) (indent : Text)
    {place : Place} (hplace : place ≠ .lineStart) (depth : Nat) :
    laidOut indent place depth u = laidOut indent place depth t := by
  induction h generalizing place depth with
  | nil => rfl
  | @space n t u _ ih =>
    have hnext : place.next ' ' = .inBreak := by simp [Place.next, hplace]
    rw [Text.spaces, List.replicate_succ, List.cons_append, laidOut, laidOut, hnext, ← Text.spaces,
      laidOut_inBreak_spaces, ih (fun hmem => hnewline (List.mem_cons_of_mem _ hmem)) (by simp)]
  | @other c t u hc _ ih =>
    have hne : c ≠ '\n' := fun hc => hnewline (hc ▸ List.mem_cons_self ..)
    rw [laidOut, laidOut, ih (fun hmem => hnewline (List.mem_cons_of_mem _ hmem))
      (Place.next_ne_lineStart hne place)]

/-! ## Layout and printing -/

theorem laidOut_serialize_eq_pretty {node : Node} (h : node.Plain) (indent : Text) :
    laidOut indent .within 0 node.serialize = node.pretty indent 0 := by
  have hlaid := laidOut_serialize indent .within 0 [] node h
  rwa [List.append_nil, laidOut, List.append_nil] at hlaid

/-- For every tree and every indentation, the layout of the serialization is the tree printed by
recursion, and it stays so if each space of the serialization is replaced by a run of spaces. -/
theorem layout_serialize_eq_pretty (node : Node) (h : node.Plain) (indent : Text) :
    layout indent node.serialize = .ok (node.pretty indent 0) ∧
      ∀ u, Widened node.serialize u → layout indent u = .ok (node.pretty indent 0) := by
  have hmatched : unmatched? 0 node.serialize = none := (balanced_serialize node h 0).1
  constructor
  · rw [layout_of_matched hmatched, laidOut_serialize_eq_pretty h]
  · intro u hu
    have hmatchedu : unmatched? 0 u = none := by
      rw [← Option.isNone_iff_eq_none, hu.isNone_unmatched?, hmatched]
      rfl
    rw [layout_of_matched hmatchedu, laidOut_widened hu (newline_not_mem_serialize node h) indent
      (by simp), laidOut_serialize_eq_pretty h]

/-- A node with a child under a field name, and wide spaces between them. -/
theorem layout_serialize_eq_pretty_field :
    (Node.mk ['a'] [(some ['n'], .mk ['b'] [])]).Plain ∧
      layout ['\t'] "(a  n:   (b))".toList = .ok "(\n\ta\n\tn:\n\t(\n\t\tb\n\t)\n)".toList := by
  have hplain : (Node.mk ['a'] [(some ['n'], .mk ['b'] [])]).Plain := by decide
  have hwide : Widened (Node.mk ['a'] [(some ['n'], .mk ['b'] [])]).serialize
      "(a  n:   (b))".toList :=
    .other (by decide) <| .other (by decide) <| .space 1 <| .other (by decide) <|
      .other (by decide) <| .space 2 <| .other (by decide) <| .other (by decide) <|
      .other (by decide) <| .other (by decide) .nil
  exact ⟨hplain, (layout_serialize_eq_pretty _ hplain ['\t']).2 _ hwide⟩

end SyntaxReport.Tree
