import Countinghouse.Text.Blank
import Mathlib.Data.List.TakeWhile
import Mathlib.Tactic.Common

/-! What is left of a text when the white space at both its ends is taken away. -/
namespace Countinghouse.Text

/-- A text taken apart into white space, its core and white space again; the core neither begins nor
ends with white space. -/
structure IsCore (core cs : List Char) : Prop where
  split : ∃ before after, cs = before ++ core ++ after ∧ ∀ c ∈ before ++ after, isBlank c
  head : ∀ c ∈ core.head?, isBlank c = false
  last : ∀ c ∈ core.getLast?, isBlank c = false

lemma isBlank_head_skipBlanks (cs : List Char) :
    ∀ c ∈ (skipBlanks cs).head?, isBlank c = false := by
  intro c first
  have stopped := List.head?_dropWhile_not isBlank cs
  rw [skipBlanks] at first
  rwa [first] at stopped

lemma skipBlanks_eq_self {cs : List Char} (head : ∀ c ∈ cs.head?, isBlank c = false) :
    skipBlanks cs = cs := by
  cases cs with
  | nil => rfl
  | cons c cs => rw [skipBlanks_cons, head c rfl, if_neg Bool.false_ne_true]

/-- White space at the front is skipped. -/
lemma exists_skipBlanks (cs : List Char) :
    ∃ before, cs = before ++ skipBlanks cs ∧ ∀ c ∈ before, isBlank c :=
  ⟨cs.takeWhile isBlank, List.takeWhile_append_dropWhile.symm, fun _ => List.mem_takeWhile_imp⟩

lemma exists_trim (cs : List Char) :
    ∃ after, skipBlanks cs = trim cs ++ after ∧ ∀ c ∈ after, isBlank c := by
  obtain ⟨before, split, blank⟩ := exists_skipBlanks (skipBlanks cs).reverse
  refine ⟨before.reverse, ?_, fun c member => blank c (List.mem_reverse.1 member)⟩
  rw [trim, ← List.reverse_append, ← split, List.reverse_reverse]

lemma isCore_trim (cs : List Char) : IsCore (trim cs) cs where
  split := by
    obtain ⟨before, front, blankBefore⟩ := exists_skipBlanks cs
    obtain ⟨after, back, blankAfter⟩ := exists_trim cs
    refine ⟨before, after, ?_, fun c member => ?_⟩
    · rw [List.append_assoc, ← back, ← front]
    · exact (List.mem_append.1 member).elim (blankBefore c) (blankAfter c)
  head c first := by
    obtain ⟨after, back, -⟩ := exists_trim cs
    apply isBlank_head_skipBlanks cs
    rw [back, List.head?_append, Option.mem_def.1 first, Option.some_or]
    rfl
  last c final := by
    rw [trim, List.getLast?_reverse] at final
    exact isBlank_head_skipBlanks _ c final

lemma skipBlanks_append {before : List Char} (blank : ∀ c ∈ before, isBlank c) (cs : List Char) :
    skipBlanks (before ++ cs) = skipBlanks cs :=
  List.dropWhile_append_of_pos blank

lemma trim_append_left {before : List Char} (blank : ∀ c ∈ before, isBlank c) (cs : List Char) :
    trim (before ++ cs) = trim cs := by
  rw [trim, skipBlanks_append blank, ← trim]

lemma trim_append_right {after : List Char} (blank : ∀ c ∈ after, isBlank c) (cs : List Char) :
    trim (cs ++ after) = trim cs := by
  have front : skipBlanks (cs ++ after) =
      if (skipBlanks cs).isEmpty then skipBlanks after else skipBlanks cs ++ after :=
    List.dropWhile_append
  rw [trim, front]
  split
  · rename_i empty
    have skipped : skipBlanks after = [] := List.dropWhile_eq_nil_iff.2 blank
    rw [trim, List.isEmpty_iff.1 empty, skipped]
  · rw [List.reverse_append, skipBlanks_append fun c member => blank c (List.mem_reverse.1 member),
      ← trim]

/-- A text has one core, and trimming finds it. -/
theorem isCore_iff {core cs : List Char} : IsCore core cs ↔ core = trim cs := by
  constructor
  · rintro ⟨⟨before, after, rfl, blank⟩, head, last⟩
    have turned : skipBlanks core.reverse = core.reverse := by
      apply skipBlanks_eq_self
      rwa [List.head?_reverse]
    rw [trim_append_right fun c member => blank c (List.mem_append_right _ member),
      trim_append_left fun c member => blank c (List.mem_append_left _ member), trim,
      skipBlanks_eq_self head, turned, List.reverse_reverse]
  · rintro rfl
    exact isCore_trim cs

end Countinghouse.Text
