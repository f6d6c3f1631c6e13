import SyntaxReport.Text.Basic

/-!
# Similar words

Two words are compared by the characters that they share in blocks: the longest block that both
contain is matched, and then, in the same way, what lies before it in both words and what lies
behind it. Of several longest blocks, the one that comes first in the first word counts, and then
the one that comes first in the second.

The similarity of two words is the share of matched characters among the characters of both. Words
are close if it is three fifths or more. `closeWords` finds the words closest to a given one.
-/

namespace SyntaxReport.Text

/-- The length of the longest beginning that two texts share. -/
def commonLength : Text → Text → Nat
  | a :: left, b :: right => if a = b then commonLength left right + 1 else 0
  | _, _ => 0

/-- A block that two words share: where it starts in each, and its length. -/
structure Block where
  left : Nat
  right : Nat
  length : Nat
  deriving DecidableEq, Repr

/-- The best block among `best` and those that start at the beginning of `a`, which is position
`left` of the first word, and anywhere in the rest of the second word, from position `right` on. -/
def bestBlockFrom (a : Text) (left right : Nat) (best : Block) : Text → Block
  | [] => best
  | c :: rest =>
    let length := commonLength a (c :: rest)
    bestBlockFrom a left (right + 1) (if best.length < length then ⟨left, right, length⟩ else best)
      rest

/-- The best block among `best` and those that start in the rest of the first word, from position
`left` on, and anywhere in the second word `b`. -/
def bestBlock (b : Text) (left : Nat) (best : Block) : Text → Block
  | [] => best
  | c :: rest => bestBlock b (left + 1) (bestBlockFrom (c :: rest) left 0 best b) rest

/-- The first of the longest blocks that two words share. -/
def longestBlock (a b : Text) : Block :=
  bestBlock b 0 ⟨0, 0, 0⟩ a

/-- The number of matched characters of two words, with at most `blocks` blocks inside one another.
-/
def matchedWithin : Nat → Text → Text → Nat
  | 0, _, _ => 0
  | blocks + 1, a, b =>
    let block := longestBlock a b
    if block.length = 0 then 0
    else
      matchedWithin blocks (a.take block.left) (b.take block.right) + block.length +
        matchedWithin blocks (a.drop (block.left + block.length))
          (b.drop (block.right + block.length))

/-- The number of matched characters of two words. Each block leaves a shorter first word, so there
are no more blocks than it has characters. -/
def matched (a b : Text) : Nat :=
  matchedWithin a.length a b

/-- Whether the matched characters are three fifths or more of all: each counts in both words. -/
def isClose (a b : Text) : Bool :=
  decide (3 * (a.length + b.length) ≤ 5 * (2 * matched a b))

/-- Whether `a` comes no later than `b` in the order of texts, which goes by their characters. -/
def isNoLater (a b : Text) : Bool :=
  !b.lex a

/-- Whether `a` comes before `b` among the words close to `word`: it is more similar, or as similar
and later in the order of texts. -/
def isCloser (word a b : Text) : Bool :=
  let shareOfA := matched a word * (b.length + word.length)
  let shareOfB := matched b word * (a.length + word.length)
  decide (shareOfB < shareOfA) || (shareOfA == shareOfB && isNoLater b a)

/-- The most words that are found. -/
def closeWordLimit : Nat := 3

/-- Of the given words, those closest to `word`, in the order of texts. -/
def closeWords (word : Text) (words : List Text) : List Text :=
  let close := words.filter fun other => isClose other word
  ((close.mergeSort (isCloser word)).take closeWordLimit).mergeSort isNoLater

end SyntaxReport.Text
