import Countinghouse.Json.Number
import Countinghouse.Json.Quoted
import Countinghouse.Text.Inspect

/-!
What a value begins with: the whole of a scalar, or the opening bracket of an array or object. One
lead is all that is needed to tell whether a value has the wanted type.
-/
namespace Countinghouse.Json

def skipSpace (cs : List Char) : List Char := cs.dropWhile Char.isWhitespace

theorem length_skipSpace_le (cs : List Char) : (skipSpace cs).length ≤ cs.length :=
  (List.dropWhile_suffix _).length_le

inductive Lead
  | null
  | bool (b : Bool)
  | number (n : Numeral)
  | text (s : String)
  | array
  | object

namespace Lead

/-- The lead of the value that begins here. -/
def atFront (cs : List Char) : Option (Lead × List Char) :=
  match cs with
  | 'n' :: 'u' :: 'l' :: 'l' :: rest => some (null, rest)
  | 't' :: 'r' :: 'u' :: 'e' :: rest => some (bool true, rest)
  | 'f' :: 'a' :: 'l' :: 's' :: 'e' :: rest => some (bool false, rest)
  | '[' :: rest => some (array, rest)
  | '\x7b' :: rest => some (object, rest)
  | '"' :: rest => (unquote rest).map fun p => (text (String.ofList p.1), p.2)
  | cs =>
    match Number.scan cs with
    | some (n, rest) => n.value?.map fun m => (number m, rest)
    | none => none

def read (cs : List Char) : Option (Lead × List Char) := atFront (skipSpace cs)

theorem length_atFront_lt {cs rest : List Char} {lead : Lead}
    (h : atFront cs = some (lead, rest)) : rest.length < cs.length := by
  unfold atFront at h
  split at h
  case h_6 =>
    obtain ⟨p, hp, he⟩ := Option.map_eq_some_iff.1 h
    have := length_unquote_lt hp
    simp only [Prod.mk.injEq] at he
    rw [← he.2, List.length_cons]
    omega
  case h_7 =>
    split at h
    · rename_i hn
      have := Number.length_scan_lt hn
      obtain ⟨m, _, he⟩ := Option.map_eq_some_iff.1 h
      simp only [Prod.mk.injEq] at he
      rw [← he.2]
      exact this
    · simp at h
  all_goals
    simp only [Option.some.injEq, Prod.mk.injEq] at h
    simp only [← h.2, List.length_cons]
    omega

theorem length_read_lt {cs rest : List Char} {lead : Lead} (h : read cs = some (lead, rest)) :
    rest.length < cs.length :=
  Nat.lt_of_lt_of_le (length_atFront_lt h) (length_skipSpace_le cs)

/-- Doubles stand in messages with a point up to sixteen digits before it and four zeros after. -/
def reals : Decimal.Layout := ⟨-5, 16, true⟩

def describe : Lead → String
  | null => "null"
  | bool b => "boolean `" ++ Text.inspectBool b ++ "`"
  | number (.whole n) => "integer `" ++ String.ofList (Decimal.numeral n) ++ "`"
  | number (.real x) => "floating point `" ++ String.ofList (reals.float x) ++ "`"
  | text s => "string " ++ Text.inspectText s
  | array => "sequence"
  | object => "map"

end Lead
end Countinghouse.Json
