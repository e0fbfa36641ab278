import Countinghouse.Proofs.Json.Writing
import Countinghouse.Proofs.Person.Shapes
import Mathlib.Logic.Function.Basic

/-!
People in JSON. Whoever is written is read back as the same person; a teller can also be read as a
customer, and a customer as a teller without a desk.
-/
namespace Countinghouse

open Json

lemma Json.Value.isInteger_int (i : Int64) : (int i.toInt).IsInteger i := by
  refine ⟨Number.ofInt i.toInt, rfl, ⟨rfl, rfl, ?_, ?_⟩⟩
  · intro negative
    simp only [Number.ofInt, decide_eq_true_eq] at negative
    omega
  · simp only [Number.ofInt, decide_eq_true_eq, Decimal.value_digits]
    split <;> omega

/-- The members that people are written with; a desk stands last, if it is written at all. -/
def personMembers (id : Int64) (name : String) (desk : Option (Option String)) :
    List (String × Value) :=
  ("id", .int id.toInt) :: ("name", .text name) ::
    desk.toList.map fun d => ("desk", .optionalText d)

lemma spelledBy_personMembers (id : Int64) (name : String) (desk : Option (Option String)) :
    (Value.object (personMembers id name desk)).SpelledBy
      (Value.object (personMembers id name desk)).toText := by
  refine Value.spelledBy_toText (Value.spells_write_object ?_)
  rintro m member
  simp only [personMembers, List.mem_cons, List.mem_map, Option.mem_toList] at member
  rcases member with rfl | rfl | ⟨d, -, rfl⟩
  · exact Value.spells_write_int id.toInt
  · exact Value.spells_write_text name
  · exact Value.spells_write_optionalText d

lemma valuesOf_id_personMembers (id : Int64) (name : String) (desk : Option (Option String)) :
    valuesOf "id" (personMembers id name desk) = [.int id.toInt] := by
  cases desk <;> simp [personMembers, valuesOf]

lemma valuesOf_name_personMembers (id : Int64) (name : String) (desk : Option (Option String)) :
    valuesOf "name" (personMembers id name desk) = [.text name] := by
  cases desk <;> simp [personMembers, valuesOf]

lemma valuesOf_desk_personMembers (id : Int64) (name : String) (desk : Option (Option String)) :
    valuesOf "desk" (personMembers id name desk) = (desk.map Value.optionalText).toList := by
  cases desk <;> simp [personMembers, valuesOf]

namespace Customer

/-- A customer needs no desk and minds none. -/
lemma readAll_personMembers (id : Int64) (name : String) (desk : Option (Option String)) :
    readAll record.read (Value.object (personMembers id name desk)).toText = .ok ⟨id, name⟩ := by
  rw [Record.readAll_of_spelledBy takesScalars (spelledBy_personMembers id name desk),
    ofValue_eq_ok_iff]
  exact .object (valuesOf_id_personMembers id name desk) (Value.isInteger_int id)
    (valuesOf_name_personMembers id name desk)

lemma encode_eq (c : Customer) : codec.encode c = c.toJson.toText := rfl

lemma toJson_eq (c : Customer) : c.toJson = .object (personMembers c.id c.name none) := rfl

end Customer

namespace Teller

/-- A teller has the desk that is written, or none. -/
lemma readAll_personMembers (id : Int64) (name : String) (desk : Option (Option String)) :
    readAll record.read (Value.object (personMembers id name desk)).toText =
      .ok ⟨id, name, desk.join⟩ := by
  rw [Record.readAll_of_spelledBy takesScalars (spelledBy_personMembers id name desk),
    ofValue_eq_ok_iff]
  refine .object (valuesOf_id_personMembers id name desk) (Value.isInteger_int id)
    (valuesOf_name_personMembers id name desk) ?_
  rw [valuesOf_desk_personMembers]
  cases desk with
  | none => exact .inr ⟨rfl, rfl⟩
  | some d => exact .inl rfl

lemma encode_eq (t : Teller) : codec.encode t = t.toJson.toText := rfl

lemma toJson_eq (t : Teller) : t.toJson = .object (personMembers t.id t.name (some t.desk)) := rfl

end Teller

/-- Every customer and every teller is read back from what is written of them, so no two people of a
kind are written alike, and an empty desk is not an absent one. A teller is read as a customer of
the same id and name, a customer as a teller of the same id and name who has no desk. -/
theorem people_read_back (c : Customer) (t : Teller) :
    Customer.codec.decode (Customer.codec.encode c) = .ok c ∧
    Teller.codec.decode (Teller.codec.encode t) = .ok t ∧
    Function.Injective Customer.codec.encode ∧ Function.Injective Teller.codec.encode ∧
    (∀ desk : String, Teller.codec.encode ⟨t.id, t.name, some desk⟩ ≠
      Teller.codec.encode ⟨t.id, t.name, none⟩) ∧
    Customer.codec.decode (Teller.codec.encode t) = .ok ⟨t.id, t.name⟩ ∧
    Teller.codec.decode (Customer.codec.encode c) = .ok ⟨c.id, c.name, none⟩ := by
  have customers (c : Customer) : Customer.codec.decode (Customer.codec.encode c) = .ok c := by
    rw [Customer.encode_eq, Customer.toJson_eq, Customer.decode_eq, Customer.readAll_personMembers]
  have tellers (t : Teller) : Teller.codec.decode (Teller.codec.encode t) = .ok t := by
    rw [Teller.encode_eq, Teller.toJson_eq, Teller.decode_eq, Teller.readAll_personMembers]
    rfl
  have customersDiffer : Function.Injective Customer.codec.encode := by
    intro a b same
    exact Except.ok.inj ((customers a).symm.trans ((congrArg _ same).trans (customers b)))
  have tellersDiffer : Function.Injective Teller.codec.encode := by
    intro a b same
    exact Except.ok.inj ((tellers a).symm.trans ((congrArg _ same).trans (tellers b)))
  refine ⟨customers c, tellers t, customersDiffer, tellersDiffer, ?_, ?_, ?_⟩
  · intro desk same
    cases tellersDiffer same
  · rw [Teller.encode_eq, Teller.toJson_eq, Customer.decode_eq, Customer.readAll_personMembers]
  · rw [Customer.encode_eq, Customer.toJson_eq, Teller.decode_eq, Teller.readAll_personMembers]
    rfl

end Countinghouse
