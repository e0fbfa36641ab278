import Countinghouse.Text.LowerCase
import Mathlib.Tactic.Common

/-!
Lower case and ASCII. A character beyond ASCII stays beyond it in lower case, wherever it stands,
but for the Kelvin sign, which becomes a `k`; so a word of ASCII letters without a `k` is the lower
case of ASCII texts only.
-/
namespace Countinghouse.Text

def IsAscii (c : Char) : Prop := c.toNat < 128

instance : DecidablePred IsAscii := fun c => inferInstanceAs (Decidable (c.toNat < 128))

def kelvin : CaseRun := ⟨0x212A, 0x212A, 1, -8383⟩

/-- The capitals of ASCII make up the first run. The capitals of all others lie beyond ASCII, and so
do their forms, clear of the surrogates. -/
lemma exists_caseRuns : ∃ runs, caseRuns = ⟨0x41, 0x5A, 1, 32⟩ :: runs ∧ ∀ r ∈ runs,
    128 ≤ r.first ∧ (r = kelvin ∨ 128 ≤ r.first + r.shift ∧
      (r.last + r.shift < 0xD800 ∨
        0xE000 ≤ r.first + r.shift ∧ r.last + r.shift < 0x110000)) :=
  ⟨caseRuns.tail, rfl, by decide +kernel⟩

lemma toNat_ofNat {n : Nat} (valid : n.isValidChar) : (Char.ofNat n).toNat = n := by
  rw [Char.ofNat, dif_pos valid]
  rfl

lemma lowerChar_of_ascii {c : Char} (ascii : IsAscii c) : lowerChar c = [c.toLower] := by
  by_cases upper : 65 ≤ c.toNat ∧ c.toNat ≤ 90
  · have letters : ∀ n < 26,
        lowerChar (Char.ofNat (65 + n)) = [(Char.ofNat (65 + n)).toLower] := by decide
    have letter := letters (c.toNat - 65) (by omega)
    rwa [Nat.add_sub_cancel' upper.1, Char.ofNat_toNat] at letter
  · have same : c.toLower = c := dif_neg fun both => upper both
    obtain ⟨runs, all, others⟩ := exists_caseRuns
    have uncovered : caseRuns.find? (fun r => r.Covers c.toNat) = none := by
      rw [List.find?_eq_none, all]
      intro r member covers
      obtain ⟨first, last, -⟩ := of_decide_eq_true covers
      rcases List.mem_cons.1 member with rfl | other
      · exact upper ⟨first, last⟩
      · have beyond := (others r other).1
        rw [IsAscii] at ascii
        omega
    have plain : c ≠ '\u0130' := by
      rintro rfl
      exact absurd ascii (by decide)
    rw [lowerChar, if_neg plain, uncovered, same]

lemma lowerChar_of_not_ascii {c : Char} (beyond : ¬ IsAscii c) :
    lowerChar c = ['k'] ∨ ∃ d ∈ lowerChar c, ¬ IsAscii d := by
  rw [lowerChar]
  split
  · exact .inr ⟨'\u0307', by simp, by decide⟩
  · split
    · rename_i r found
      obtain ⟨runs, all, others⟩ := exists_caseRuns
      have covers := List.find?_some found
      obtain ⟨first, last, -⟩ := of_decide_eq_true covers
      have member := List.mem_of_find?_eq_some found
      rw [all] at member
      rw [IsAscii] at beyond
      rcases List.mem_cons.1 member with rfl | other
      · exact absurd (Nat.lt_of_le_of_lt last (by decide)) beyond
      · obtain ⟨-, rfl | ⟨low, clear⟩⟩ := others r other
        · have sign : c.toNat = 0x212A := Nat.le_antisymm last first
          rw [sign]
          exact .inl (by decide)
        · refine .inr ⟨_, List.mem_singleton_self _, ?_⟩
          have target : (r.target c.toNat : Int) = c.toNat + r.shift := by
            rw [CaseRun.target]
            omega
          rw [IsAscii, toNat_ofNat]
          · omega
          · rw [Nat.isValidChar]
            omega
    · exact .inr ⟨c, List.mem_singleton_self c, beyond⟩

/-- A sigma is beyond ASCII in both of its forms. -/
lemma lowerAt_of_ascii (before : List Char) {c : Char} (ascii : IsAscii c) (after : List Char) :
    lowerAt before c after = [c.toLower] := by
  have plain : c ≠ 'Σ' := by
    rintro rfl
    exact absurd ascii (by decide)
  rw [lowerAt, if_neg fun final => plain final.1, lowerChar_of_ascii ascii]

lemma lowerAt_of_not_ascii (before : List Char) {c : Char} (beyond : ¬ IsAscii c)
    (after : List Char) :
    lowerAt before c after = ['k'] ∨ ∃ d ∈ lowerAt before c after, ¬ IsAscii d := by
  rw [lowerAt]
  split
  · exact .inr ⟨'ς', List.mem_singleton_self _, by decide⟩
  · exact lowerChar_of_not_ascii beyond

lemma isAscii_of_lowerFrom {word before cs : List Char} (plain : ∀ d ∈ word, IsAscii d ∧ d ≠ 'k')
    (forms : ∀ d ∈ lowerFrom before cs, d ∈ word) : ∀ c ∈ cs, IsAscii c := by
  induction cs generalizing before with
  | nil => simp
  | cons c cs ih =>
    rw [lowerFrom] at forms
    have first : IsAscii c := by
      by_contra beyond
      rcases lowerAt_of_not_ascii before beyond cs with sign | ⟨d, form, outside⟩
      · rw [sign] at forms
        exact (plain 'k' (forms 'k' List.mem_cons_self)).2 rfl
      · exact outside (plain d (forms d (List.mem_append_left _ form))).1
    have later := ih fun d form => forms d (List.mem_append_right _ form)
    simpa using ⟨first, later⟩

/-- A text whose lower case is of ASCII letters other than `k` is an ASCII text. -/
lemma isAscii_of_lower {word cs : List Char} (plain : ∀ d ∈ word, IsAscii d ∧ d ≠ 'k')
    (same : lower cs = word) : ∀ c ∈ cs, IsAscii c := by
  have forms : ∀ d ∈ lowerFrom [] cs, d ∈ word := by
    intro d form
    rwa [← same]
  exact isAscii_of_lowerFrom plain forms

lemma lowerFrom_of_ascii (before : List Char) {cs : List Char} (ascii : ∀ c ∈ cs, IsAscii c) :
    lowerFrom before cs = cs.map Char.toLower := by
  induction cs generalizing before with
  | nil => rfl
  | cons c cs ih =>
    rw [lowerFrom, lowerAt_of_ascii before (ascii c List.mem_cons_self),
      ih _ fun d member => ascii d (List.mem_cons_of_mem c member), List.map_cons,
      List.singleton_append]

lemma isAscii_of_toLower {c : Char} (ascii : IsAscii c.toLower) : IsAscii c := by
  by_cases upper : 65 ≤ c.toNat ∧ c.toNat ≤ 90
  · rw [IsAscii]
    omega
  · have same : c.toLower = c := dif_neg fun both => upper both
    rwa [same] at ascii

/-- For such a word the lower case of Unicode and that of ASCII make no difference. -/
theorem lower_eq_iff {word cs : List Char} (plain : ∀ d ∈ word, IsAscii d ∧ d ≠ 'k') :
    lower cs = word ↔ cs.map Char.toLower = word := by
  constructor
  · intro same
    rw [← lowerFrom_of_ascii [] (isAscii_of_lower plain same)]
    exact same
  · rintro rfl
    refine lowerFrom_of_ascii [] fun c member => isAscii_of_toLower ?_
    exact (plain _ (List.mem_map_of_mem member)).1

end Countinghouse.Text
