import Countinghouse.Account
import Countinghouse.Proofs.Decimal.Digits

/-! An identifier names one account: its letters tell the kind, its digits the serial number. -/
namespace Countinghouse

lemma Serial.label_injective : Function.Injective Serial.label := by
  intro m n h
  have digits : Decimal.digits m.number = Decimal.digits n.number :=
    String.ofList_injective (String.append_right_inj "#" |>.1 h)
  cases m
  cases n
  exact congrArg Serial.mk (Decimal.digits_injective digits)

/-- The letters of both kinds are three, and differ. -/
lemma AccountKind.letters_append_inj {k l : AccountKind} {s t : String}
    (h : k.letters ++ s = l.letters ++ t) : k = l ∧ s = t := by
  have chars := congrArg String.toList h
  cases k <;> cases l
  · exact ⟨rfl, String.append_right_inj _ |>.1 h⟩
  · simp [letters] at chars
  · simp [letters] at chars
  · exact ⟨rfl, String.append_right_inj _ |>.1 h⟩

namespace Account

lemma identifier_of_checking {a : Account} (kind : a.kind = .checking) :
    a.identifier = "CHK-" ++ a.number.label := by
  rw [identifier, kind]
  rfl

lemma identifier_of_savings {a : Account} (kind : a.kind = .savings) :
    a.identifier = "SAV-" ++ a.number.label := by
  rw [identifier, kind]
  rfl

lemma identifier_inj {a b : Account} :
    a.identifier = b.identifier ↔ a.kind = b.kind ∧ a.number = b.number := by
  constructor
  · intro h
    simp only [identifier, String.append_assoc] at h
    obtain ⟨kind, rest⟩ := AccountKind.letters_append_inj h
    exact ⟨kind, Serial.label_injective (String.append_right_inj "-" |>.1 rest)⟩
  · rintro ⟨kind, number⟩
    simp only [identifier, kind, number]

end Account
end Countinghouse
