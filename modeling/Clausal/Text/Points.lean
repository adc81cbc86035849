/-!
# Texts by code point

A text is the list of its code points.  An escape in written data can spell a
lone surrogate, which no `Char` holds, so `String` would be too small.  The
library's own wording is written as strings, and a string goes for a text
wherever one is needed.
-/

namespace Clausal

/-- A text as the list of its code points, lone surrogates included. -/
abbrev Text := List Nat

namespace Text

/-- The code points of a string. -/
def ofString (s : String) : Text :=
  s.toList.map Char.toNat

instance : Coe String Text :=
  ⟨ofString⟩

/-- The character of a code point; what is no character becomes U+FFFD. -/
def charOfPoint (n : Nat) : Char :=
  if n.isValidChar then Char.ofNat n else '\uFFFD'

/-- The string of a text, lone surrogates replaced by U+FFFD. -/
def toString (t : Text) : String :=
  String.ofList (t.map charOfPoint)

@[simp]
theorem charOfPoint_toNat (c : Char) : charOfPoint c.toNat = c := by
  have hvalid : c.toNat.isValidChar := c.valid
  simp [charOfPoint, hvalid]

/-- A string survives the passage through code points. -/
@[simp]
theorem toString_ofString (s : String) : toString (ofString s) = s := by
  simp [toString, ofString, Function.comp_def]

/-! ## Named code points -/

/-- The code point of `+`. -/
def plus : Nat := 0x2B

/-- The code point of `-`. -/
def minus : Nat := 0x2D

/-- The code point of the full stop. -/
def point : Nat := 0x2E

/-- The code point of `_`. -/
def underscore : Nat := 0x5F

/-- The code point of the space. -/
def space : Nat := 0x20

/-- The code point of the line feed. -/
def newline : Nat := 0x0A

/-! ## Surrogates -/

/-- The high half of a surrogate pair. -/
def isHighSurrogate (n : Nat) : Bool :=
  0xD800 ≤ n && n ≤ 0xDBFF

/-- The low half of a surrogate pair. -/
def isLowSurrogate (n : Nat) : Bool :=
  0xDC00 ≤ n && n ≤ 0xDFFF

/-- A half of a surrogate pair. -/
def isSurrogate (n : Nat) : Bool :=
  isHighSurrogate n || isLowSurrogate n

/-- Joins each high surrogate with a low one right after it into the code point
that they spell together. -/
def joinSurrogates : Text → Text
  | [] => []
  | [n] => [n]
  | high :: low :: rest =>
      if isHighSurrogate high && isLowSurrogate low then
        (0x10000 + (high - 0xD800) * 0x400 + (low - 0xDC00)) :: joinSurrogates rest
      else
        high :: joinSurrogates (low :: rest)

end Text

end Clausal
