import Countinghouse.Proofs.People.Counts

/-!
Writes into the records of people. A write goes through one handle and changes one field; what is
known of a person after many writes is, field by field, the last that went through its handle.
-/
namespace Countinghouse

inductive Write
  | id (id : Int64)
  | name (name : String)
  | desk (desk : Option String)
deriving DecidableEq, Repr

namespace Write

/-- Customers have no desk to be written. -/
def apply : Write → Person → Person
  | id i => .setId i
  | name n => .setName n
  | desk d => .setDesk d

def id? : Write → Option Int64
  | id i => some i
  | _ => none

def name? : Write → Option String
  | name n => some n
  | _ => none

def desk? : Write → Option (Option String)
  | desk d => some d
  | _ => none

end Write

/-- The last value that was written into a field through a handle. -/
def lastWritten {β : Type} (field : Write → Option β) (h : Handle) (ws : List (Handle × Write)) :
    Option β :=
  ws.reverse.findSome? fun w => if w.1 = h then field w.2 else none

lemma lastWritten_cons {β : Type} (field : Write → Option β) (h : Handle) (w : Handle × Write)
    (ws : List (Handle × Write)) :
    lastWritten field h (w :: ws) =
      (lastWritten field h ws).or (if w.1 = h then field w.2 else none) := by
  rw [lastWritten, List.reverse_cons, List.findSome?_append, List.findSome?_singleton]
  rfl

namespace Person

/-- A person after the writes through its handle. -/
def after (p : Person) (h : Handle) (ws : List (Handle × Write)) : Person :=
  ws.foldl (fun p w => if w.1 = h then w.2.apply p else p) p

variable (p : Person) (h : Handle) (ws : List (Handle × Write))

@[simp] lemma after_nil : p.after h [] = p := rfl

lemma after_cons (w : Handle × Write) :
    p.after h (w :: ws) = (if w.1 = h then w.2.apply p else p).after h ws := rfl

lemma after_append (vs : List (Handle × Write)) :
    p.after h (vs ++ ws) = (p.after h vs).after h ws :=
  List.foldl_append

/-- Writes through other handles do nothing. -/
@[simp] lemma kind_apply (w : Write) : (w.apply p).kind = p.kind := by
  cases w <;> simp [Write.apply]

lemma kind_after : (p.after h ws).kind = p.kind := by
  induction ws generalizing p with
  | nil => rfl
  | cons w ws ih =>
    rw [after_cons, ih]
    split
    · exact kind_apply p w.2
    · rfl

/-- A field that every write of it sets holds the last that was written. -/
lemma get_after {β : Type} {get : Person → β} {field : Write → Option β} {p : Person}
    (sets : ∀ w q, q.kind = p.kind → get (Write.apply w q) = (field w).getD (get q)) :
    get (p.after h ws) = (lastWritten field h ws).getD (get p) := by
  induction ws generalizing p with
  | nil => rfl
  | cons w ws ih =>
    obtain ⟨k, w⟩ := w
    rw [after_cons, lastWritten_cons, Option.getD_or]
    by_cases same : k = h
    · rw [if_pos same, if_pos same, ← sets w p rfl]
      exact ih fun v q kinds => sets v q (kinds.trans (kind_apply p w))
    · rw [if_neg same, if_neg same]
      exact ih sets

lemma id_after : (p.after h ws).id = (lastWritten Write.id? h ws).getD p.id :=
  get_after h ws fun w q _ => by cases w <;> cases q <;> rfl

lemma name_after : (p.after h ws).name = (lastWritten Write.name? h ws).getD p.name :=
  get_after h ws fun w q _ => by cases w <;> cases q <;> rfl

lemma desk_after_of_teller {p : Person} (teller : p.kind = .teller) :
    (p.after h ws).desk = (lastWritten Write.desk? h ws).getD p.desk := by
  refine get_after h ws fun w q kinds => ?_
  cases q with
  | customer c => cases kinds.trans teller
  | teller t => cases w <;> rfl

end Person

namespace People

/-- Everybody has been changed by just these writes, and nobody is known who was not before. -/
def Follows (p : People) (ws : List (Handle × Write)) (p' : People) : Prop :=
  ∀ h, p'.person? h = (p.person? h).map fun person => person.after h ws

/-- Everybody who was known before has been changed by just these writes. -/
def Recalls (p : People) (ws : List (Handle × Write)) (p' : People) : Prop :=
  ∀ h person, p.person? h = some person → p'.person? h = some (person.after h ws)

variable {p q r : People} {vs ws : List (Handle × Write)}

namespace Follows

lemma of_person? (same : ∀ h, q.person? h = p.person? h) : p.Follows [] q := by
  intro h
  rw [same h]
  exact Option.map_id'.symm

lemma refl (p : People) : p.Follows [] p := of_person? fun _ => rfl

lemma append (first : p.Follows vs q) (next : q.Follows ws r) : p.Follows (vs ++ ws) r := by
  intro h
  rw [next h, first h, Option.map_map]
  congr 1
  funext person
  exact (Person.after_append person h ws vs).symm

lemma trans_nil (first : p.Follows [] q) (next : q.Follows ws r) : p.Follows ws r :=
  first.append next

lemma recalls (follows : p.Follows ws q) : p.Recalls ws q := by
  intro h person known
  rw [follows h, known, Option.map_some]

end Follows

lemma Recalls.append (first : p.Recalls vs q) (next : q.Recalls ws r) : p.Recalls (vs ++ ws) r := by
  intro h person known
  rw [Person.after_append]
  exact next h (person.after h vs) (first h person known)

lemma follows_retainAll (p : People) (hs : List Handle) : p.Follows [] (p.retainAll hs) :=
  .of_person? (Register.person?_retainAll p.register hs)

lemma follows_releaseAll (p : People) (hs : List Handle) : p.Follows [] (p.releaseAll hs) :=
  .of_person? (Register.person?_releaseAll p.register hs)

lemma follows_put (p : People) (slot : String) (h : Handle) : p.Follows [] (p.put slot h) :=
  .of_person? (Register.person?_releaseAll p.register _)

lemma follows_clear (p : People) (slot : String) : p.Follows [] (p.clear slot) :=
  .of_person? (Register.person?_releaseAll p.register _)

lemma follows_update (p : People) (h : Handle) (w : Write) :
    p.Follows [(h, w)] (p.update h w.apply) := by
  intro k
  rw [person?, update, Register.person?_update]
  by_cases same : h = k
  · rw [if_pos same]
    congr 1
    funext person
    rw [Person.after_cons, if_pos same, Person.after_nil]
  · rw [if_neg same]
    have others : (fun person : Person => person.after k [(h, w)]) = id := by
      funext person
      rw [Person.after_cons, if_neg same, Person.after_nil, id]
    rw [others, Option.map_id]
    rfl

/-- The handle that the next newcomer is entered under. -/
def fresh (p : People) : Handle := ⟨p.register.cells.length⟩

lemma person?_fresh (p : People) : p.person? p.fresh = none := by
  simp [person?, Register.person?, fresh]

lemma recalls_introduce (p : People) (slot : String) (person : Person) :
    p.Recalls [] (p.introduce slot person).2 := by
  intro h old known
  have kept := Register.person?_enter p.register person (Option.isSome_iff_exists.2 ⟨old, known⟩)
  exact ((follows_put { p with register := (p.register.enter person).2 } slot _ h).trans
    (congrArg _ (kept.trans known)))

lemma person?_introduce (p : People) (slot : String) (person : Person) :
    (p.introduce slot person).2.person? p.fresh = some person := by
  have entered : (p.register.enter person).2.person? p.fresh = some person := by
    simp [Register.person?, Register.enter, fresh]
  exact (follows_put { p with register := (p.register.enter person).2 } slot _ p.fresh).trans
    (congrArg _ entered)

lemma find?_introduce (p : People) (slot : String) (person : Person) (other : String) :
    (p.introduce slot person).2.slots.find? other =
      if other = slot then some p.fresh else p.slots.find? other :=
  Slots.find?_put p.slots slot other p.fresh

end People
end Countinghouse
