import Countinghouse.Failure
import Countinghouse.Person.Customer
import Countinghouse.Person.Teller
import Countinghouse.Proofs.Decimal.Digits
import Countinghouse.Proofs.Text.Inspect

/-!
Failures and people told apart by their texts. A failure is known by its message, although what it
carries stands there as it is, and by what is shown of it; a customer and a teller are known by what
is shown of them, whatever their names and desks pretend.
-/
namespace Countinghouse

namespace Failure

@[simp] lemma message_unsupportedLanguage (language : String) :
    (unsupportedLanguage language).message = "unsupported language '" ++ language ++ "'" := rfl

@[simp] lemma message_accountClosed (identifier : String) :
    (accountClosed identifier).message = "account " ++ identifier ++ " is closed" := rfl

@[simp] lemma message_branchNotFound (index : UInt64) :
    (branchNotFound index).message =
      "no branch at index " ++ String.ofList (Decimal.digits index.toNat) := rfl

@[simp] lemma message_vaultNotFound (id : String) :
    (vaultNotFound id).message = "vault not found: " ++ id := rfl

/-- The first letter tells the kind of a failure, and a kind has always the same words. -/
lemma message_injective : Function.Injective message := by
  intro a b same
  have chars := congrArg String.toList same
  cases a with
  | unsupportedLanguage s =>
    cases b with
    | unsupportedLanguage t => simpa using same
    | _ => simp at chars
  | accountClosed s =>
    cases b with
    | accountClosed t => simpa using same
    | _ => simp at chars
  | branchNotFound i =>
    cases b with
    | branchNotFound j =>
      rw [message_branchNotFound, message_branchNotFound, String.append_right_inj] at same
      have number := Decimal.digits_injective (String.ofList_injective same)
      rw [UInt64.toNat_inj.1 number]
    | _ => simp at chars
  | vaultNotFound s =>
    cases b with
    | vaultNotFound t => simpa using same
    | _ => simp at chars

lemma inspect_eq (e : Failure) :
    e.inspect = e.kind ++ " \x7b " ++ (e.detail.1 ++ ": " ++ e.detail.2) ++ " \x7d" := by
  simp [inspect, Text.inspectRecord]

/-- Within a kind the fields have one name, so that their values have to be shown alike. -/
lemma detail_eq_of_inspect_eq {a b : Failure} (same : a.inspect = b.inspect)
    (kind : a.kind = b.kind) (field : a.detail.1 = b.detail.1) : a.detail.2 = b.detail.2 := by
  rw [inspect_eq, inspect_eq, kind, field] at same
  simpa only [String.append_left_inj, String.append_right_inj] using same

lemma inspect_injective : Function.Injective inspect := by
  intro a b same
  have chars := congrArg String.toList same
  rw [inspect_eq, inspect_eq] at chars
  cases a with
  | unsupportedLanguage s =>
    cases b with
    | unsupportedLanguage t =>
      have shown := detail_eq_of_inspect_eq same rfl rfl
      rw [Text.inspectText_injective shown]
    | _ => simp [kind] at chars
  | accountClosed s =>
    cases b with
    | accountClosed t =>
      have shown := detail_eq_of_inspect_eq same rfl rfl
      rw [Text.inspectText_injective shown]
    | _ => simp [kind] at chars
  | branchNotFound i =>
    cases b with
    | branchNotFound j =>
      have shown := detail_eq_of_inspect_eq same rfl rfl
      have number := Decimal.digits_injective (String.ofList_injective shown)
      rw [UInt64.toNat_inj.1 number]
    | _ => simp [kind] at chars
  | vaultNotFound s =>
    cases b with
    | vaultNotFound t =>
      have shown := detail_eq_of_inspect_eq same rfl rfl
      rw [Text.inspectText_injective shown]
    | _ => simp [kind] at chars

end Failure

lemma Decimal.isPrefixFree_numeral : Text.IsPrefixFree fun i => Decimal.numeral i ++ [','] := by
  refine Text.isPrefixFree_of_stop Decimal.numeral_injective fun i member => ?_
  have mark := Decimal.isDigit_or_minus_of_mem_numeral member
  exact absurd mark (by decide)

namespace Customer

lemma toList_inspect (c : Customer) :
    c.inspect.toList = "Customer \x7b id: ".toList ++ ((Decimal.numeral c.id.toInt ++ [',']) ++
      (" name: ".toList ++ ((Text.inspectText c.name).toList ++ " \x7d".toList))) := by
  simp [inspect, Text.inspectRecord]

lemma inspect_injective : Function.Injective inspect := by
  intro c d same
  have chars := congrArg String.toList same
  rw [toList_inspect, toList_inspect] at chars
  obtain ⟨id, later⟩ := Decimal.isPrefixFree_numeral _ _ _ _ (List.append_cancel_left chars)
  obtain ⟨name, -⟩ := Text.isPrefixFree_inspectText _ _ _ _ (List.append_cancel_left later)
  obtain ⟨i, n⟩ := c
  obtain ⟨j, m⟩ := d
  obtain rfl : i = j := Int64.toInt_inj.1 id
  obtain rfl : n = m := name
  rfl

end Customer

namespace Teller

lemma toList_inspect (t : Teller) :
    t.inspect.toList = "Teller \x7b id: ".toList ++ ((Decimal.numeral t.id.toInt ++ [',']) ++
      (" name: ".toList ++ ((Text.inspectText t.name).toList ++ (", desk: ".toList ++
        ((Text.inspectOption (t.desk.map Text.inspectText)).toList ++ " \x7d".toList))))) := by
  simp [inspect, Text.inspectRecord]

lemma inspect_injective : Function.Injective inspect := by
  intro t u same
  have chars := congrArg String.toList same
  rw [toList_inspect, toList_inspect] at chars
  obtain ⟨id, later⟩ := Decimal.isPrefixFree_numeral _ _ _ _ (List.append_cancel_left chars)
  obtain ⟨name, last⟩ := Text.isPrefixFree_inspectText _ _ _ _ (List.append_cancel_left later)
  obtain ⟨desk, -⟩ := Text.isPrefixFree_inspectOption _ _ _ _ (List.append_cancel_left last)
  obtain ⟨i, n, d⟩ := t
  obtain ⟨j, m, e⟩ := u
  obtain rfl : i = j := Int64.toInt_inj.1 id
  obtain rfl : n = m := name
  obtain rfl : d = e := desk
  rfl

end Teller

/-- Two failures are the same exactly if their messages are, and exactly if they are shown alike.
Two customers, and likewise two tellers, are the same exactly if they are shown alike. -/
theorem texts_tell_apart :
    (∀ a b : Failure, (a = b ↔ a.message = b.message) ∧ (a = b ↔ a.inspect = b.inspect)) ∧
    (∀ c d : Customer, c = d ↔ c.inspect = d.inspect) ∧
    ∀ t u : Teller, t = u ↔ t.inspect = u.inspect := by
  refine ⟨fun a b => ⟨?_, ?_⟩, fun c d => ?_, fun t u => ?_⟩
  · exact Failure.message_injective.eq_iff.symm
  · exact Failure.inspect_injective.eq_iff.symm
  · exact Customer.inspect_injective.eq_iff.symm
  · exact Teller.inspect_injective.eq_iff.symm

/-- A desk that imitates the end of the text is shown with its quotes escaped. -/
example : (Teller.mk 3 "x" (some "\"), desk: None \x7d")).inspect =
    "Teller \x7b id: 3, name: \"x\", desk: Some(\"\\\"), desk: None \x7d\") \x7d" := by decide

end Countinghouse
