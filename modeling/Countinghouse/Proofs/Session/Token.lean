import Countinghouse.Session.Token
import Mathlib.Algebra.GroupWithZero.Nat
import Mathlib.Tactic.Common

/-!
Tokens in writing. The groups of a written token are joined to the digits they were split from, and
these digits are the lower-case digits of its bits.
-/
namespace Countinghouse

/-- The digits that numbers are written with in hexadecimal. -/
def Text.lowerHexDigits : List Char :=
  ['0', '1', '2', '3', '4', '5', '6', '7', '8', '9', 'a', 'b', 'c', 'd', 'e', 'f']

lemma Text.mem_lowerHexDigits_of_mem_hexPadded {width n : Nat} {c : Char}
    (member : c ∈ hexPadded width n) : c ∈ lowerHexDigits := by
  induction width generalizing n with
  | zero => cases member
  | succ width ih =>
    rw [hexPadded, List.mem_append, List.mem_singleton] at member
    rcases member with front | rfl
    · exact ih front
    · have all : ∀ m, m < 16 → hexDigit m ∈ lowerHexDigits := by decide
      exact all (n % 16) (Nat.mod_lt n (by decide))

namespace Token

lemma joinGroups_splitGroups {ns : List Nat} {cs : List Char} (length : cs.length = ns.sum) :
    joinGroups ns (splitGroups ns cs) = some cs := by
  induction ns generalizing cs with
  | nil =>
    rw [List.eq_nil_of_length_eq_zero length]
    rfl
  | cons n ns ih =>
    cases ns with
    | nil => rw [splitGroups, joinGroups, if_pos (by simpa using length)]
    | cons m ns =>
      rw [List.sum_cons] at length
      have front : (cs.take n).length = n := by
        rw [List.length_take]
        omega
      have behind : (cs.drop n).length = (m :: ns).sum := by
        rw [List.length_drop]
        omega
      simp only [splitGroups, joinGroups, List.drop_left' front, List.take_left' front, ih behind,
        Option.map_some, List.take_append_drop]

lemma length_splitGroups {ns : List Nat} {cs : List Char} (length : cs.length = ns.sum) :
    (splitGroups ns cs).length = ns.sum + (ns.length - 1) := by
  induction ns generalizing cs with
  | nil => rfl
  | cons n ns ih =>
    cases ns with
    | nil => simpa [splitGroups] using length
    | cons m ns =>
      rw [List.sum_cons] at length
      have behind : (cs.drop n).length = (m :: ns).sum := by
        rw [List.length_drop]
        omega
      have later := ih behind
      simp only [splitGroups, List.length_append, List.length_cons, List.length_take,
        List.sum_cons] at later length ⊢
      omega

variable (t : Token)

lemma length_digits : (Text.hexPadded 32 t.bits.toNat).length = groups.sum :=
  Text.length_hexPadded 32 _

lemma hexNumber?_digits : Text.hexNumber? (Text.hexPadded 32 t.bits.toNat) = some t.bits.toNat := by
  rw [Text.hexNumber?_hexPadded, Nat.pow_eq, Nat.mod_eq_of_lt]
  exact t.bits.isLt

lemma ofText?_text : ofText? t.text = some t := by
  have length : t.text.length = 36 := length_splitGroups t.length_digits
  rw [ofText?, if_neg (by omega), if_pos length, ofGroups?, text,
    joinGroups_splitGroups t.length_digits, Option.bind_some, ofDigits?,
    if_pos (Text.length_hexPadded 32 _), hexNumber?_digits, Option.map_some, BitVec.ofNat_toNat,
    BitVec.setWidth_eq]

/-- Digits, and these digits in groups of 8, 4, 4, 4 and 12 with hyphens between the groups. -/
inductive Hyphenated : List Char → List Char → Prop
  | groups {a b c d e : List Char} (first : a.length = 8) (second : b.length = 4)
      (third : c.length = 4) (fourth : d.length = 4) (fifth : e.length = 12) :
      Hyphenated (a ++ (b ++ (c ++ (d ++ e))))
        (a ++ '-' :: (b ++ '-' :: (c ++ '-' :: (d ++ '-' :: e))))

lemma exists_group {n : Nat} {cs : List Char} (enough : n ≤ cs.length) :
    ∃ front back, cs = front ++ back ∧ front.length = n ∧ back.length = cs.length - n :=
  ⟨cs.take n, cs.drop n, (List.take_append_drop n cs).symm, List.length_take_of_le enough,
    List.length_drop⟩

lemma hyphenated_text : Hyphenated (Text.hexPadded 32 t.bits.toNat) t.text := by
  have total : (Text.hexPadded 32 t.bits.toNat).length = 32 := t.length_digits
  rw [text]
  generalize Text.hexPadded 32 t.bits.toNat = ds at total ⊢
  obtain ⟨a, ds, rfl, first, rest⟩ := exists_group (show 8 ≤ ds.length by omega)
  obtain ⟨b, ds, rfl, second, rest⟩ := exists_group (show 4 ≤ ds.length by omega)
  obtain ⟨c, ds, rfl, third, rest⟩ := exists_group (show 4 ≤ ds.length by omega)
  obtain ⟨d, ds, rfl, fourth, rest⟩ := exists_group (show 4 ≤ ds.length by omega)
  simp only [groups, splitGroups, List.take_left' first, List.drop_left' first,
    List.take_left' second, List.drop_left' second, List.take_left' third, List.drop_left' third,
    List.take_left' fourth, List.drop_left' fourth]
  exact .groups first second third fourth (by omega)

end Token
end Countinghouse
