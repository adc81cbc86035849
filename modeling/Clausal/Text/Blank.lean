import Clausal.Text.Points

/-!
# Blanks and words

White space is what has the Unicode property `White_Space`.  Blank are these
code points and the four information separators U+001C to U+001F besides.  A
text splits into words, the maximal runs of code points that are not blank.
-/

namespace Clausal.Text

/-- A code point with the property `White_Space`. -/
def isWhiteSpace (n : Nat) : Bool :=
  (0x09 ≤ n && n ≤ 0x0D) || n == 0x20 || n == 0x85 || n == 0xA0 || n == 0x1680 ||
    (0x2000 ≤ n && n ≤ 0x200A) || n == 0x2028 || n == 0x2029 || n == 0x202F ||
    n == 0x205F || n == 0x3000

/-- A blank code point: white space or an information separator. -/
def isBlank (n : Nat) : Bool :=
  isWhiteSpace n || (0x1C ≤ n && n ≤ 0x1F)

/-- What a text begins with, up to its first blank, and the words after that. -/
def headAndWords : Text → Text × List Text
  | [] => ([], [])
  | n :: rest =>
      let (head, tail) := headAndWords rest
      if isBlank n then ([], if head.isEmpty then tail else head :: tail)
      else (n :: head, tail)

/-- The words of a text, in order. -/
def words (t : Text) : List Text :=
  let (head, tail) := headAndWords t
  if head.isEmpty then tail else head :: tail

/-- A text without the code points of a class at either end. -/
def trimBy (drop : Nat → Bool) (t : Text) : Text :=
  ((t.dropWhile drop).reverse.dropWhile drop).reverse

/-- A text without the blanks at either end. -/
def trim (t : Text) : Text :=
  trimBy isBlank t

@[simp]
theorem words_nil : words [] = [] :=
  rfl

/-- Leading blanks do not change the words. -/
@[simp]
theorem words_cons_blank {n : Nat} (t : Text) (hblank : isBlank n = true) :
    words (n :: t) = words t := by
  simp [words, headAndWords, hblank]

end Clausal.Text
