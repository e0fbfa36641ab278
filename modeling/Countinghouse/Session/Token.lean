import Countinghouse.Text.Hex

/-! Session tokens of 128 bits and their hexadecimal spellings. -/
namespace Countinghouse

structure Token where
  bits : BitVec 128
deriving DecidableEq, Repr

namespace Token

def groups : List Nat := [8, 4, 4, 4, 12]

/-- Groups of the given lengths without the hyphens between them. -/
def joinGroups : List Nat → List Char → Option (List Char)
  | [], cs => if cs.isEmpty then some [] else none
  | [n], cs => if cs.length = n then some cs else none
  | n :: ns, cs =>
    match cs.drop n with
    | '-' :: rest => (joinGroups ns rest).map (cs.take n ++ ·)
    | _ => none

def splitGroups : List Nat → List Char → List Char
  | [], _ => []
  | [_], cs => cs
  | n :: ns, cs => cs.take n ++ '-' :: splitGroups ns (cs.drop n)

def ofDigits? (cs : List Char) : Option Token :=
  if cs.length = 32 then (Text.hexNumber? cs).map fun n => ⟨BitVec.ofNat 128 n⟩ else none

def ofGroups? (cs : List Char) : Option Token := (joinGroups groups cs).bind ofDigits?

/-- The letters that may announce a token, in either case. -/
def scheme : List Char := ['u', 'r', 'n', ':', 'u', 'u', 'i', 'd', ':']

/-- Digits alone, or in groups; the groups may stand in braces or behind the scheme. -/
def ofText? (cs : List Char) : Option Token :=
  if cs.length = 32 then ofDigits? cs
  else if cs.length = 36 then ofGroups? cs
  else if cs.length = 38 then
    if cs.head? = some '\x7b' ∧ cs.getLast? = some '\x7d' then ofGroups? (cs.drop 1).dropLast
    else none
  else if cs.length = 45 then
    if (cs.take 9).map Char.toLower = scheme then ofGroups? (cs.drop 9) else none
  else none

/-- Lower-case digits in groups. -/
def text (t : Token) : List Char := splitGroups groups (Text.hexPadded 32 t.bits.toNat)

example : (ofText? "URN:uuid:00000000-0000-0000-0000-0000000000Ff".toList) = some ⟨255⟩ := by decide
example : (ofText? "\x7b000000000000000000000000000000000000\x7d".toList) = none := by decide
example : text ⟨255⟩ = "00000000-0000-0000-0000-0000000000ff".toList := by decide

end Token
end Countinghouse
