import Countinghouse.People
import Mathlib.Tactic.Common

/-!
People without their counts. Who is held how often decides nothing: names, handles and people are
the same with the counts struck out.
-/
namespace Countinghouse

namespace Register

def uncounted (r : Register) : Register := ⟨r.cells.map fun s => { s with refs := 0 }⟩

/-- Changes that show in counts only do not show. -/
lemma uncounted_modify (cells : List Shared) (i : Nat) (f : Shared → Shared)
    (same : ∀ s, (f s).person = s.person) :
    uncounted ⟨cells.modify i f⟩ = uncounted ⟨cells⟩ := by
  simp only [uncounted, mk.injEq]
  apply List.ext_getElem?
  intro j
  simp only [List.getElem?_map, List.getElem?_modify]
  cases cells[j]? with
  | none => rfl
  | some s =>
    by_cases here : i = j
    · simp [here, same]
    · simp [here]

lemma uncounted_retainAll (r : Register) (hs : List Handle) :
    (r.retainAll hs).uncounted = r.uncounted := by
  induction hs generalizing r with
  | nil => rfl
  | cons h hs ih => exact (ih (r.retain h)).trans (uncounted_modify r.cells _ _ fun _ => rfl)

lemma uncounted_releaseAll (r : Register) (hs : List Handle) :
    (r.releaseAll hs).uncounted = r.uncounted := by
  induction hs generalizing r with
  | nil => rfl
  | cons h hs ih => exact (ih (r.release h)).trans (uncounted_modify r.cells _ _ fun _ => rfl)

lemma uncounted_update (r : Register) (h : Handle) (f : Person → Person) :
    (r.update h f).uncounted = r.uncounted.update h f := by
  simp only [uncounted, update, mk.injEq]
  apply List.ext_getElem?
  intro j
  simp only [List.getElem?_map, List.getElem?_modify]
  cases r.cells[j]? with
  | none => rfl
  | some s => by_cases here : h.index = j <;> simp [here]

lemma uncounted_enter (r : Register) (p : Person) :
    (r.enter p).2.uncounted = ⟨r.uncounted.cells ++ [⟨p, 0⟩]⟩ := by
  simp [uncounted, enter]

lemma person?_uncounted (r : Register) (h : Handle) : r.uncounted.person? h = r.person? h := by
  simp only [person?, uncounted, List.getElem?_map, Option.map_map]
  rfl

lemma refs_uncounted (r : Register) (h : Handle) : r.uncounted.refs h = 0 := by
  simp only [refs, uncounted, List.getElem?_map]
  cases r.cells[h.index]? <;> rfl

end Register

/-- What is seen through a handle, but for the number of its holders. -/
def PersonView.uncounted (v : PersonView) : PersonView := { v with refs := 0 }

namespace People

def uncounted (p : People) : People := { p with register := p.register.uncounted }

lemma person?_uncounted (p : People) (h : Handle) : p.uncounted.person? h = p.person? h :=
  p.register.person?_uncounted h

lemma view?_uncounted (p : People) (h : Handle) :
    p.uncounted.view? h = (p.view? h).map PersonView.uncounted := by
  rw [view?, view?, person?_uncounted, Option.map_map]
  simp only [uncounted, Register.refs_uncounted]
  rfl

lemma resolve_uncounted (p : People) (slot : String) :
    p.uncounted.resolve slot = p.resolve slot := by
  simp only [resolve, person?_uncounted]
  rfl

/-- The same people under the same names, held as often as may be. -/
def Agrees (p q : People) : Prop := p.uncounted = q.uncounted

namespace Agrees

variable {p q : People}

lemma refl (p : People) : p.Agrees p := rfl

lemma trans {r : People} (first : p.Agrees q) (next : q.Agrees r) : p.Agrees r :=
  Eq.trans first next

lemma symm (agree : p.Agrees q) : q.Agrees p := Eq.symm agree

lemma slots (agree : p.Agrees q) : p.slots = q.slots := by
  have same : p.uncounted.slots = q.uncounted.slots := by rw [agree]
  exact same

lemma registers (agree : p.Agrees q) : p.register.uncounted = q.register.uncounted := by
  have same : p.uncounted.register = q.uncounted.register := by rw [agree]
  exact same

lemma person? (agree : p.Agrees q) (h : Handle) : p.person? h = q.person? h := by
  rw [← person?_uncounted, agree, person?_uncounted]

lemma view? (agree : p.Agrees q) (h : Handle) :
    (p.view? h).map PersonView.uncounted = (q.view? h).map PersonView.uncounted := by
  rw [← view?_uncounted, agree, view?_uncounted]

lemma bind_view? (agree : p.Agrees q) (h : Option Handle) :
    (h.bind p.view?).map PersonView.uncounted = (h.bind q.view?).map PersonView.uncounted := by
  cases h with
  | none => rfl
  | some h => exact agree.view? h

lemma resolve (agree : p.Agrees q) (slot : String) : p.resolve slot = q.resolve slot := by
  rw [← resolve_uncounted, agree, resolve_uncounted]

lemma resolveKind (agree : p.Agrees q) (kind : PersonKind) (slot : String) :
    p.resolveKind kind slot = q.resolveKind kind slot := by
  rw [People.resolveKind, People.resolveKind, agree.resolve slot]

lemma resolveOptional (agree : p.Agrees q) (kind : PersonKind) (slot : Option String) :
    p.resolveOptional kind slot = q.resolveOptional kind slot := by
  cases slot with
  | none => rfl
  | some slot => rw [People.resolveOptional, People.resolveOptional, agree.resolveKind kind slot]

end Agrees

/-! Holding and letting go does not show. -/

lemma agrees_retainAll (p : People) (hs : List Handle) : (p.retainAll hs).Agrees p :=
  congrArg (People.mk · p.slots) (p.register.uncounted_retainAll hs)

lemma agrees_releaseAll (p : People) (hs : List Handle) : (p.releaseAll hs).Agrees p :=
  congrArg (People.mk · p.slots) (p.register.uncounted_releaseAll hs)

namespace Agrees

variable {p q : People}

lemma retainAll (agree : p.Agrees q) (hs ks : List Handle) :
    (p.retainAll hs).Agrees (q.retainAll ks) :=
  (p.agrees_retainAll hs).trans (agree.trans (q.agrees_retainAll ks).symm)

lemma releaseAll (agree : p.Agrees q) (hs ks : List Handle) :
    (p.releaseAll hs).Agrees (q.releaseAll ks) :=
  (p.agrees_releaseAll hs).trans (agree.trans (q.agrees_releaseAll ks).symm)

lemma update (agree : p.Agrees q) (h : Handle) (f : Person → Person) :
    (p.update h f).Agrees (q.update h f) := by
  simp only [Agrees, uncounted, People.update, Register.uncounted_update, agree.registers,
    agree.slots]

lemma put (agree : p.Agrees q) (slot : String) (h : Handle) :
    (p.put slot h).Agrees (q.put slot h) := by
  simp only [Agrees, uncounted, People.put, People.releaseAll, Register.uncounted_releaseAll,
    agree.registers, agree.slots]

lemma clear (agree : p.Agrees q) (slot : String) : (p.clear slot).Agrees (q.clear slot) := by
  simp only [Agrees, uncounted, People.clear, People.releaseAll, Register.uncounted_releaseAll,
    agree.registers, agree.slots]

/-- A new person gets the same handle on both sides. -/
lemma introduce (agree : p.Agrees q) (slot : String) (person : Person) :
    (p.introduce slot person).1 = (q.introduce slot person).1 ∧
      (p.introduce slot person).2.Agrees (q.introduce slot person).2 := by
  have lengths : p.register.cells.length = q.register.cells.length := by
    have cells := congrArg (fun r => r.cells.length) agree.registers
    simpa only [Register.uncounted, List.length_map] using cells
  have fresh : (p.register.enter person).1 = (q.register.enter person).1 := by
    rw [Register.enter, Register.enter, lengths]
  have entered : People.Agrees { p with register := (p.register.enter person).2 }
      { q with register := (q.register.enter person).2 } := by
    simp only [Agrees, uncounted, Register.uncounted_enter, agree.registers, agree.slots]
  refine ⟨fresh, ?_⟩
  change People.Agrees (People.put _ slot (p.register.enter person).1)
    (People.put _ slot (q.register.enter person).1)
  rw [fresh]
  exact entered.put slot _

end Agrees
end People
end Countinghouse
