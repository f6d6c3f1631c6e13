import SyntaxReport.Text.Basic

/-!
# Token kinds

A serialized syntax tree is a nest of parentheses in which spaces separate the siblings. The
layout looks at a character only through its kind.
-/

namespace SyntaxReport.Tree

/-- The kinds of characters of a serialized syntax tree. -/
inductive TokenKind where
  | openParen
  | closeParen
  | space
  | other
  deriving DecidableEq, Repr

namespace TokenKind

/-- All kinds, in the order of their declaration. -/
def all : List TokenKind := [openParen, closeParen, space, other]

/-- The character that makes up a kind; the kind `other` is the one with many. -/
def char? : TokenKind → Option Char
  | openParen => some '('
  | closeParen => some ')'
  | space => some ' '
  | other => none

/-- The kind of a character. -/
def ofChar : Char → TokenKind
  | '(' => openParen
  | ')' => closeParen
  | ' ' => space
  | _ => other

/-- The kind of a text: that of its character if it has exactly one, and `other` if not. -/
def ofText : Text → TokenKind
  | [c] => ofChar c
  | _ => other

end TokenKind

end SyntaxReport.Tree
