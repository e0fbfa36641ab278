/-! Named places, kept in the order of their names by code point. -/
namespace Countinghouse

/-- Every name occurs once, and names ascend. -/
structure Slots (α : Type) where
  entries : List (String × α)
  ascending : entries.Pairwise fun e f => e.1 < f.1
deriving DecidableEq, Repr

namespace Slots

variable {α : Type}

theorem ext_entries {s t : Slots α} (h : s.entries = t.entries) : s = t := by
  cases s
  cases t
  simp_all

def empty : Slots α := ⟨[], .nil⟩

def values (s : Slots α) : List α := s.entries.map (·.2)

def find? (s : Slots α) (name : String) : Option α := s.entries.lookup name

def insertEntry (name : String) (a : α) : List (String × α) → List (String × α)
  | [] => [(name, a)]
  | e :: es =>
    if name < e.1 then (name, a) :: e :: es
    else if name = e.1 then (name, a) :: es
    else e :: insertEntry name a es

theorem insertEntry_cons_self (name : String) (a b : α) (es : List (String × α)) :
    insertEntry name b ((name, a) :: es) = (name, b) :: es := by
  rw [insertEntry, if_neg (String.lt_irrefl name), if_pos rfl]

theorem eq_or_mem_of_mem_insertEntry {name : String} {a : α} {e : String × α}
    {es : List (String × α)} (h : e ∈ insertEntry name a es) : e = (name, a) ∨ e ∈ es := by
  induction es with
  | nil => simpa [insertEntry] using h
  | cons f fs ih =>
    simp only [insertEntry] at h
    split at h
    · exact List.mem_cons.1 h
    · split at h
      · rcases List.mem_cons.1 h with h | h
        · exact .inl h
        · exact .inr (List.mem_cons_of_mem f h)
      · rcases List.mem_cons.1 h with rfl | h
        · exact .inr List.mem_cons_self
        · exact (ih h).imp_right (List.mem_cons_of_mem f)

theorem ascending_insertEntry (name : String) (a : α) {es : List (String × α)}
    (h : es.Pairwise fun e f => e.1 < f.1) :
    (insertEntry name a es).Pairwise fun e f => e.1 < f.1 := by
  induction es with
  | nil => exact List.pairwise_singleton _ _
  | cons e es ih =>
    obtain ⟨head, tail⟩ := List.pairwise_cons.1 h
    simp only [insertEntry]
    split
    · rename_i before
      refine List.pairwise_cons.2 ⟨fun f hf => ?_, h⟩
      rcases List.mem_cons.1 hf with rfl | hf
      · exact before
      · exact String.lt_trans before (head f hf)
    · split
      · rename_i same
        exact List.pairwise_cons.2 ⟨fun f hf => same ▸ head f hf, tail⟩
      · rename_i later other
        refine List.pairwise_cons.2 ⟨fun f hf => ?_, ih tail⟩
        rcases eq_or_mem_of_mem_insertEntry hf with rfl | hf
        · exact Std.lt_of_le_of_ne (String.not_lt.1 later) (Ne.symm other)
        · exact head f hf

/-- Fills the place, whatever it held. -/
def put (s : Slots α) (name : String) (a : α) : Slots α :=
  ⟨insertEntry name a s.entries, ascending_insertEntry name a s.ascending⟩

def clear (s : Slots α) (name : String) : Slots α :=
  ⟨s.entries.filter (·.1 != name), s.ascending.filter _⟩

/-- The names of the places that hold what is looked for, in order. -/
def namesOf (s : Slots α) (p : α → Bool) : List String :=
  (s.entries.filter fun e => p e.2).map (·.1)

theorem lookup_cons_eq_ite (k n : String) (b : α) (es : List (String × α)) :
    ((n, b) :: es).lookup k = if k = n then some b else es.lookup k := by
  by_cases h : k = n
  · simp [h]
  · have hk : (k == n) = false := beq_eq_false_iff_ne.2 h
    simp only [List.lookup_cons, hk, h, if_false]

theorem lookup_insertEntry (name k : String) (a : α) (es : List (String × α)) :
    (insertEntry name a es).lookup k = if k = name then some a else es.lookup k := by
  induction es with
  | nil => exact lookup_cons_eq_ite k name a []
  | cons e es ih => grind [insertEntry, lookup_cons_eq_ite]

theorem find?_put (s : Slots α) (name k : String) (a : α) :
    (s.put name a).find? k = if k = name then some a else s.find? k :=
  lookup_insertEntry name k a s.entries

theorem find?_clear (s : Slots α) (name k : String) :
    (s.clear name).find? k = if k = name then none else s.find? k := by
  simp only [find?, clear]
  induction s.entries with
  | nil => simp
  | cons e es ih => grind [lookup_cons_eq_ite]

/-- A name that comes before all others is not among them. -/
theorem lookup_eq_none_of_before {name : String} {es : List (String × α)}
    (h : ∀ e ∈ es, name < e.1) : es.lookup name = none := by
  induction es with
  | nil => rfl
  | cons e es ih =>
    obtain ⟨n, b⟩ := e
    have other : name ≠ n := fun he =>
      String.lt_irrefl name (he ▸ h (n, b) List.mem_cons_self)
    rw [lookup_cons_eq_ite, if_neg other]
    exact ih fun f hf => h f (List.mem_cons_of_mem _ hf)

theorem insertEntry_of_lookup {name : String} {a : α} {es : List (String × α)}
    (order : es.Pairwise fun e f => e.1 < f.1) (h : es.lookup name = some a) :
    insertEntry name a es = es := by
  induction es with
  | nil => simp at h
  | cons e es ih =>
    obtain ⟨n, b⟩ := e
    obtain ⟨head, tail⟩ := List.pairwise_cons.1 order
    rw [lookup_cons_eq_ite] at h
    by_cases same : name = n
    · subst same
      simp only [if_true, Option.some.injEq] at h
      rw [insertEntry_cons_self, h]
    · rw [if_neg same] at h
      have later : ¬ name < n := by
        intro before
        rw [lookup_eq_none_of_before fun f hf => String.lt_trans before (head f hf)] at h
        simp at h
      simp [insertEntry, later, same, ih tail h]

/-- Putting back what a place holds changes nothing. -/
theorem put_of_find? {s : Slots α} {name : String} {a : α} (h : s.find? name = some a) :
    s.put name a = s :=
  ext_entries (insertEntry_of_lookup s.ascending h)

example : (((empty.put "b" 1).put "a" 2).put "b" 3).entries = [("a", 2), ("b", 3)] := by decide

end Slots
end Countinghouse
