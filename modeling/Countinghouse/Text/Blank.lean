import Countinghouse.Text.Ranges

/-! White space of Unicode, and texts freed of it at both ends. -/
namespace Countinghouse.Text

def blankRanges : List (Nat × Nat) :=
  [(0x09, 0x0D), (0x20, 0x20), (0x85, 0x85), (0xA0, 0xA0), (0x1680, 0x1680), (0x2000, 0x200A),
    (0x2028, 0x2029), (0x202F, 0x202F), (0x205F, 0x205F), (0x3000, 0x3000)]

def isBlank (c : Char) : Bool := isWithin c.toNat blankRanges

def skipBlanks (cs : List Char) : List Char := cs.dropWhile isBlank

def trim (cs : List Char) : List Char := (skipBlanks (skipBlanks cs).reverse).reverse

theorem skipBlanks_cons (c : Char) (cs : List Char) :
    skipBlanks (c :: cs) = if isBlank c then skipBlanks cs else c :: cs := by
  simp only [skipBlanks, List.dropWhile_cons]

example : trim ['\u3000', 'a', ' ', 'b', '\t', '\u00a0'] = ['a', ' ', 'b'] := by decide
example : trim ['\u200b', ' '] = ['\u200b'] := by decide
example : ((blankRanges.map fun r => r.2 + 1 - r.1).sum) = 25 := by decide

end Countinghouse.Text
