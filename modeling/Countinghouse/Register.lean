import Countinghouse.Person

/-!
The register of people. Who holds a person holds a handle; the register counts the holders of each
handle, and a write through one handle is seen by all who hold it.
-/
namespace Countinghouse

structure Handle where
  index : Nat
deriving DecidableEq, Repr

/-- A person and the number of its holders. -/
structure Shared where
  person : Person
  refs : Nat
deriving DecidableEq, Repr

structure Register where
  cells : List Shared
deriving DecidableEq, Repr

namespace Register

def empty : Register := ⟨[]⟩

def person? (r : Register) (h : Handle) : Option Person := (r.cells[h.index]?).map (·.person)

def refs (r : Register) (h : Handle) : Nat := (r.cells[h.index]?).elim 0 (·.refs)

/-- Enters a person, held once. -/
def enter (r : Register) (p : Person) : Handle × Register :=
  (⟨r.cells.length⟩, ⟨r.cells ++ [⟨p, 1⟩]⟩)

def update (r : Register) (h : Handle) (f : Person → Person) : Register :=
  ⟨r.cells.modify h.index fun s => { s with person := f s.person }⟩

def retain (r : Register) (h : Handle) : Register :=
  ⟨r.cells.modify h.index fun s => { s with refs := s.refs + 1 }⟩

def release (r : Register) (h : Handle) : Register :=
  ⟨r.cells.modify h.index fun s => { s with refs := s.refs - 1 }⟩

def retainAll (r : Register) (hs : List Handle) : Register := hs.foldl retain r

def releaseAll (r : Register) (hs : List Handle) : Register := hs.foldl release r

@[simp] theorem person?_retain (r : Register) (h k : Handle) :
    (r.retain h).person? k = r.person? k := by
  simp only [retain, person?, List.getElem?_modify]
  cases r.cells[k.index]? with
  | none => rfl
  | some s => by_cases e : h.index = k.index <;> simp [e]

@[simp] theorem person?_release (r : Register) (h k : Handle) :
    (r.release h).person? k = r.person? k := by
  simp only [release, person?, List.getElem?_modify]
  cases r.cells[k.index]? with
  | none => rfl
  | some s => by_cases e : h.index = k.index <;> simp [e]

theorem person?_update (r : Register) (h k : Handle) (f : Person → Person) :
    (r.update h f).person? k = if h = k then (r.person? k).map f else r.person? k := by
  simp only [update, person?, List.getElem?_modify]
  have : h = k ↔ h.index = k.index := by
    cases h; cases k; simp
  cases r.cells[k.index]? with
  | none => simp
  | some s => by_cases e : h.index = k.index <;> simp [this, e]

@[simp] theorem refs_update (r : Register) (h k : Handle) (f : Person → Person) :
    (r.update h f).refs k = r.refs k := by
  simp only [update, refs, List.getElem?_modify]
  cases r.cells[k.index]? with
  | none => rfl
  | some s => by_cases e : h.index = k.index <;> simp [e]

end Register
end Countinghouse
