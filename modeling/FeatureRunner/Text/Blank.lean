/-!
This module contains the blank characters of a text and what is cut off or cut apart at them:
`trim` drops the blanks at both ends, `tokens` is the list of maximal blank-free pieces.
-/

namespace FeatureRunner.Text

/--
The white space characters of Unicode: tab to carriage return, space, next line, no-break space,
Ogham space mark, the spaces of General Punctuation, its line and paragraph separators and the
ideographic space.
-/
def isBlank (c : Char) : Bool :=
  (9 ≤ c.val && c.val ≤ 13) || c.val == 0x20 || c.val == 0x85 || c.val == 0xA0 ||
  c.val == 0x1680 || (0x2000 ≤ c.val && c.val ≤ 0x200A) || c.val == 0x2028 || c.val == 0x2029 ||
  c.val == 0x202F || c.val == 0x205F || c.val == 0x3000

def trimLeft (cs : List Char) : List Char :=
  cs.dropWhile isBlank

def trimRight (cs : List Char) : List Char :=
  (cs.reverse.dropWhile isBlank).reverse

def trimChars (cs : List Char) : List Char :=
  trimRight (trimLeft cs)

def trim (s : String) : String :=
  String.ofList (trimChars s.toList)

/-- The maximal runs of characters that are not blank, in order. -/
def tokenChars : List Char → List (List Char)
  | [] => []
  | c :: cs =>
    if isBlank c then
      tokenChars cs
    else
      match cs with
      | [] => [[c]]
      | d :: _ =>
        if isBlank d then
          [c] :: tokenChars cs
        else
          match tokenChars cs with
          | [] => [[c]]
          | w :: ws => (c :: w) :: ws

/-- The blank-free words of a text, in order. -/
def tokens (s : String) : List String :=
  (tokenChars s.toList).map String.ofList

@[simp]
theorem trimChars_nil : trimChars [] = [] := rfl

@[simp]
theorem toList_trim (s : String) : (trim s).toList = trimChars s.toList := by
  simp [trim]

end FeatureRunner.Text
