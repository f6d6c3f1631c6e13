import SyntaxReport.Tree.Token

/-!
# The layout of a serialized tree

`layout` reindents the serialization of a syntax tree in one pass. A parenthesis starts or ends a
line, and a space between siblings becomes a line break; a line is indented by the number of
parentheses open at its start. The spaces of a run make one break, and a space right behind a
newline of the input is kept as it is.

The pass knows the depth, the offset, and what kind of place it has reached (`Place`): that is all
that it remembers of the text before. It fails at the first closing parenthesis that has no
partner, and only there; nodes left open at the end are no failure.
-/

namespace SyntaxReport.Tree

/-- What the text before a character means for a space at that point. -/
inductive Place where
  /-- The character before is a newline: a space is kept. -/
  | lineStart
  /-- The character before is a space that belongs to a break: a further space is dropped. -/
  | inBreak
  /-- Anything else, the start of the text included: a space becomes a break. -/
  | within
  deriving DecidableEq, Repr

/-- A closing parenthesis without partner, by its offset in the text. -/
structure UnmatchedClose where
  offset : Nat
  deriving DecidableEq, Repr

/-- A line break, followed by the indentation of the given depth. -/
def lineBreak (indent : Text) (depth : Nat) : Text :=
  '\n' :: Text.copies depth indent

/-- Lay out the rest of a text from the given place, with `depth` parentheses open and `offset`
characters behind. -/
def layoutFrom (indent : Text) : Place → Nat → Nat → Text → Except UnmatchedClose Text
  | _, _, _, [] => .ok []
  | place, depth, offset, c :: rest =>
    match TokenKind.ofChar c with
    | .openParen =>
      (layoutFrom indent .within (depth + 1) (offset + 1) rest).map fun more =>
        c :: lineBreak indent (depth + 1) ++ more
    | .closeParen =>
      match depth with
      | 0 => .error ⟨offset⟩
      | depth + 1 =>
        (layoutFrom indent .within depth (offset + 1) rest).map fun more =>
          lineBreak indent depth ++ c :: more
    | .space =>
      match place with
      | .lineStart =>
        (layoutFrom indent .within depth (offset + 1) rest).map fun more => c :: more
      | .inBreak => layoutFrom indent .inBreak depth (offset + 1) rest
      | .within =>
        (layoutFrom indent .inBreak depth (offset + 1) rest).map fun more =>
          lineBreak indent depth ++ more
    | .other =>
      (layoutFrom indent (if c = '\n' then .lineStart else .within) depth (offset + 1) rest).map
        fun more => c :: more

/-- The indentation of one level unless another is asked for. -/
def defaultIndent : Text := [' ', ' ']

/-- The laid out text of a serialized tree, with `indent` once per level. -/
def layout (indent text : Text) : Except UnmatchedClose Text :=
  layoutFrom indent .within 0 0 text

/-- Lay out a text with each indentation in turn: a result is the next text, and after a failure
the text stays. The answers come in order. -/
def layoutEach (text : Text) : List Text → List (Except UnmatchedClose Text)
  | [] => []
  | indent :: more =>
    let answer := layout indent text
    answer :: layoutEach (answer.toOption.getD text) more

end SyntaxReport.Tree
