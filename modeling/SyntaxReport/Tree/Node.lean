import SyntaxReport.Tree.Layout

/-!
# Syntax trees

A node has a label and a list of children, each of them under a field name or not. `serialize`
writes a tree on one line, the form in which a parsing engine hands it over, and `pretty` writes
it over many lines by recursion on the tree.
-/

namespace SyntaxReport.Tree

/-- A node of a syntax tree: its label, and its children with their field names. -/
inductive Node where
  | mk (label : Text) (children : List (Option Text × Node))

/-- A field name as it stands before a child, with its colon. -/
def fieldMark (field : Text) : Text := field ++ [':']

mutual

/-- The tree on one line: a parenthesis around the label and the children, with `gap` in front of
each field name and each child. -/
def Node.serializeWith (gap : Text) : Node → Text
  | .mk label children => '(' :: label ++ serializeChildren gap children ++ [')']

/-- The children of a node on one line, each behind a gap. -/
def serializeChildren (gap : Text) : List (Option Text × Node) → Text
  | [] => []
  | (none, child) :: more =>
    gap ++ child.serializeWith gap ++ serializeChildren gap more
  | (some field, child) :: more =>
    gap ++ fieldMark field ++ gap ++ child.serializeWith gap ++ serializeChildren gap more

end

/-- The tree on one line, with one space in front of each field name and each child. -/
def Node.serialize (node : Node) : Text := node.serializeWith [' ']

mutual

/-- The tree over many lines, its first line at the given depth. -/
def Node.pretty (indent : Text) (depth : Nat) : Node → Text
  | .mk label children =>
    '(' :: lineBreak indent (depth + 1) ++ label ++ prettyChildren indent depth children ++
      lineBreak indent depth ++ [')']

/-- The children of a node at the given depth, each field name and each child on lines of its
own. -/
def prettyChildren (indent : Text) (depth : Nat) : List (Option Text × Node) → Text
  | [] => []
  | (none, child) :: more =>
    lineBreak indent (depth + 1) ++ child.pretty indent (depth + 1) ++
      prettyChildren indent depth more
  | (some field, child) :: more =>
    lineBreak indent (depth + 1) ++ fieldMark field ++ lineBreak indent (depth + 1) ++
      child.pretty indent (depth + 1) ++ prettyChildren indent depth more

end

end SyntaxReport.Tree
