import Countinghouse.Text.Hex
import Countinghouse.Text.Inspect
import Mathlib.Data.List.Basic

/-!
What is shown for inspection tells what it is shown of, and where it ends. A character is shown as
itself, by a letter behind a backslash or by its number in braces; none of these can be taken for
another or for the quote that closes a text, whatever follows.
-/
namespace Countinghouse.Text

/-- What is written of a value tells the value, and where it ends. -/
def IsPrefixFree {α : Type} (write : α → List Char) : Prop :=
  ∀ a b xs ys, write a ++ xs = write b ++ ys → a = b ∧ xs = ys

lemma IsPrefixFree.injective {α : Type} {write : α → List Char} (free : IsPrefixFree write) :
    Function.Injective write := by
  intro a b same
  exact (free a b [] [] (by rw [same])).1

/-- What holds no `stop` ends at the first one. -/
lemma append_cons_inj {stop : Char} {front front' xs ys : List Char} (free : stop ∉ front)
    (free' : stop ∉ front') (same : front ++ stop :: xs = front' ++ stop :: ys) :
    front = front' ∧ xs = ys := by
  induction front generalizing front' with
  | nil =>
    cases front' with
    | nil => exact ⟨rfl, (List.cons.inj same).2⟩
    | cons d ds => exact absurd (List.mem_cons.2 (.inl (List.cons.inj same).1)) free'
  | cons c cs ih =>
    cases front' with
    | nil => exact absurd (List.mem_cons.2 (.inl (List.cons.inj same).1.symm)) free
    | cons d ds =>
      obtain ⟨rfl, later⟩ := List.cons.inj same
      obtain ⟨rfl, rest⟩ := ih (fun member => free (List.mem_cons_of_mem _ member))
        (fun member => free' (List.mem_cons_of_mem _ member)) later
      exact ⟨rfl, rest⟩

/-- What is told apart without a `stop` in it is told apart, and ends, where a `stop` follows. -/
lemma isPrefixFree_of_stop {α : Type} {write : α → List Char} (apart : Function.Injective write)
    {stop : Char} (free : ∀ a, stop ∉ write a) : IsPrefixFree fun a => write a ++ [stop] := by
  intro a b xs ys same
  simp only [List.append_assoc, List.singleton_append] at same
  obtain ⟨written, rest⟩ := append_cons_inj (free a) (free b) same
  exact ⟨apart written, rest⟩

lemma hexNumber?_toDigits (n : Nat) : hexNumber? (Nat.toDigits 16 n) = some n := by
  induction n using Nat.strongRecOn with
  | ind n ih =>
    rcases Nat.lt_or_ge n 16 with small | large
    · rw [Nat.toDigits_of_lt_base small]
      have digit : hexValue? (Nat.digitChar n) = some n := hexValue?_hexDigit small
      simp only [hexNumber?, hexFrom?, digit, Nat.mul_zero, Nat.zero_add]
    · have front := ih (n / 16) (Nat.div_lt_self (Nat.lt_of_lt_of_le (by decide) large) (by decide))
      have digit : hexValue? (Nat.digitChar (n % 16)) = some (n % 16) :=
        hexValue?_hexDigit (Nat.mod_lt n (by decide))
      rw [hexNumber?] at front ⊢
      rw [Nat.toDigits_of_base_le (by decide) large, hexFrom?_append, front, Option.bind_some]
      simp only [hexFrom?, digit, Nat.div_add_mod]

lemma isSome_hexValue?_of_mem {acc n : Nat} {cs : List Char} (read : hexFrom? acc cs = some n) :
    ∀ c ∈ cs, (hexValue? c).isSome := by
  induction cs generalizing acc with
  | nil => simp
  | cons c cs ih =>
    rw [hexFrom?] at read
    split at read
    · rename_i d digit
      exact List.forall_mem_cons.2 ⟨by rw [digit]; rfl, ih read⟩
    · cases read

/-- A closing brace ends a number in hexadecimal digits. -/
lemma isPrefixFree_toDigits : IsPrefixFree fun n => Nat.toDigits 16 n ++ ['\x7d'] := by
  refine isPrefixFree_of_stop ?_ fun n member => ?_
  · intro m n same
    have read := congrArg hexNumber? same
    rw [hexNumber?_toDigits, hexNumber?_toDigits] at read
    exact Option.some.inj read
  · have digit := isSome_hexValue?_of_mem (hexNumber?_toDigits n) _ member
    exact absurd digit (by decide)

/-- The letters behind a backslash, and what they stand for. -/
def inspectLetters : List (Char × Char) :=
  [('"', '"'), ('\\', '\\'), ('n', '\n'), ('r', '\r'), ('t', '\t'), ('0', '\x00')]

/-- The three ways in which a character is shown. -/
inductive ShowsChar (c : Char) : List Char → Prop
  | plain (noQuote : c ≠ '"') (noBackslash : c ≠ '\\') : ShowsChar c [c]
  | letter {e : Char} (listed : (e, c) ∈ inspectLetters) : ShowsChar c ['\\', e]
  | number : ShowsChar c ('\\' :: 'u' :: '\x7b' :: (Nat.toDigits 16 c.toNat ++ ['\x7d']))

lemma shows_inspectChar (c : Char) : ShowsChar c (inspectChar c) := by
  have letter {e d : Char} (same : c = d) (listed : (e, d) ∈ inspectLetters) :
      ShowsChar c ['\\', e] :=
    same ▸ .letter listed
  rw [inspectChar]
  split_ifs with quote backslash newline carriage tab zero printable
  · exact letter quote (by decide)
  · exact letter backslash (by decide)
  · exact letter newline (by decide)
  · exact letter carriage (by decide)
  · exact letter tab (by decide)
  · exact letter zero (by decide)
  · exact .plain quote backslash
  · exact .number

/-- No two letters stand for one character, and none of them stands before a number. -/
lemma inspectLetters_inj :
    (∀ p ∈ inspectLetters, ∀ q ∈ inspectLetters, p.1 = q.1 → p.2 = q.2) ∧
    ∀ p ∈ inspectLetters, p.1 ≠ 'u' := by
  decide

lemma isPrefixFree_inspectChar : IsPrefixFree inspectChar := by
  intro c d xs ys same
  have left := shows_inspectChar c
  have right := shows_inspectChar d
  generalize inspectChar c = front at left same
  generalize inspectChar d = front' at right same
  obtain ⟨apart, noNumber⟩ := inspectLetters_inj
  cases left with
  | plain noQuote noBackslash =>
    cases right with
    | plain _ _ => exact List.cons.inj same
    | letter listed => exact absurd (List.cons.inj same).1 noBackslash
    | number => exact absurd (List.cons.inj same).1 noBackslash
  | @letter e listed =>
    cases right with
    | plain _ noBackslash => exact absurd (List.cons.inj same).1.symm noBackslash
    | @letter e' listed' =>
      obtain ⟨letters, rest⟩ := List.cons.inj (List.cons.inj same).2
      exact ⟨apart (e, c) listed (e', d) listed' letters, rest⟩
    | number => exact absurd (List.cons.inj (List.cons.inj same).2).1 (noNumber (e, c) listed)
  | number =>
    cases right with
    | plain _ noBackslash => exact absurd (List.cons.inj same).1.symm noBackslash
    | @letter e listed =>
      exact absurd (List.cons.inj (List.cons.inj same).2).1.symm (noNumber (e, d) listed)
    | number =>
      simp only [List.cons_append, List.cons.injEq, true_and] at same
      obtain ⟨number, rest⟩ := isPrefixFree_toDigits _ _ _ _ same
      exact ⟨Char.toNat_inj.1 number, rest⟩

/-- A quote within a text is never shown bare, as the one behind it is. -/
lemma inspectChar_append_ne_quote (c : Char) (xs ys : List Char) :
    inspectChar c ++ xs ≠ '"' :: ys := by
  intro same
  have shown := shows_inspectChar c
  generalize inspectChar c = front at shown same
  cases shown with
  | plain noQuote _ => exact noQuote (List.cons.inj same).1
  | letter _ => exact absurd (List.cons.inj same).1 (by decide)
  | number => exact absurd (List.cons.inj same).1 (by decide)

lemma isPrefixFree_quoted :
    IsPrefixFree fun cs : List Char => cs.flatMap inspectChar ++ ['"'] := by
  intro cs
  induction cs with
  | nil =>
    intro ds xs ys same
    cases ds with
    | nil => exact ⟨rfl, (List.cons.inj same).2⟩
    | cons d ds =>
      simp only [List.flatMap_cons, List.append_assoc] at same
      exact absurd same.symm (inspectChar_append_ne_quote d _ _)
  | cons c cs ih =>
    intro ds xs ys same
    cases ds with
    | nil =>
      simp only [List.flatMap_cons, List.append_assoc] at same
      exact absurd same (inspectChar_append_ne_quote c _ _)
    | cons d ds =>
      simp only [List.flatMap_cons, List.append_assoc] at same
      obtain ⟨rfl, later⟩ := isPrefixFree_inspectChar _ _ _ _ same
      simp only [← List.append_assoc] at later
      obtain ⟨rfl, rest⟩ := ih _ _ _ later
      exact ⟨rfl, rest⟩

lemma isPrefixFree_inspectText : IsPrefixFree fun s => (inspectText s).toList := by
  intro s t xs ys same
  simp only [inspectText, String.toList_ofList, List.cons_append, List.cons.injEq, true_and] at same
  obtain ⟨chars, rest⟩ := isPrefixFree_quoted _ _ _ _ same
  exact ⟨String.toList_inj.1 chars, rest⟩

lemma inspectText_injective : Function.Injective inspectText := by
  intro s t same
  exact isPrefixFree_inspectText.injective (congrArg String.toList same)

lemma isPrefixFree_inspectOption :
    IsPrefixFree fun s : Option String => (inspectOption (s.map inspectText)).toList := by
  intro s t xs ys same
  cases s with
  | none =>
    cases t with
    | none => exact ⟨rfl, List.append_cancel_left same⟩
    | some t => simp [inspectOption] at same
  | some s =>
    cases t with
    | none => simp [inspectOption] at same
    | some t =>
      simp only [inspectOption, Option.map_some, String.toList_append, List.append_assoc] at same
      obtain ⟨rfl, rest⟩ := isPrefixFree_inspectText _ _ _ _ (List.append_cancel_left same)
      exact ⟨rfl, List.append_cancel_left rest⟩

end Countinghouse.Text
