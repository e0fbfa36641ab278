import Countinghouse.Proofs.Account.Acts
import Countinghouse.Proofs.People.Writes
import Countinghouse.Proofs.World.Footprints

/-!
What requests write into the records of people. Four requests write, each into one field of the
person behind one handle, and blocks write as their acts do; all others leave everybody as before.
-/
namespace Countinghouse

namespace Visit

/-- What an act writes, and through which handle. -/
def written (v : Visit) : Act → List (Handle × Write)
  | .renameCustomer name => v.account.customer.toList.map fun h => (h, .name name)
  | _ => []

def writes (v : Visit) : List Act → List (Handle × Write)
  | [] => []
  | a :: as => v.written a ++ ((BlockStep.act a).run v).visit.writes as

lemma follows_close (v : Visit) : v.people.Follows [] v.close.1.people := by
  rw [close]
  split
  · exact .refl _
  · exact People.follows_releaseAll _ _

lemma follows_act (v : Visit) (a : Act) :
    v.people.Follows (v.written a) ((BlockStep.act a).run v).visit.people := by
  cases a with
  | renameCustomer name =>
    rw [written, BlockStep.run, Act.perform]
    show v.people.Follows _ (v.renameCustomer name).people
    rw [renameCustomer]
    cases v.account.customer with
    | none => exact .refl _
    | some h => exact People.follows_update v.people h (.name name)
  | setCustomer slot =>
    show v.people.Follows [] _
    rw [BlockStep.run, Act.perform]
    cases v.people.resolveOptional .customer slot with
    | error r => exact .refl _
    | ok h => exact (People.follows_retainAll _ _).trans_nil (People.follows_releaseAll _ _)
  | close => exact v.follows_close
  | session =>
    rw [BlockStep.run, Act.perform, Progress.visit_ofReply_ok]
    exact .refl _
  | _ => exact .refl _

lemma follows_doAll (v : Visit) (as : List Act) :
    v.people.Follows (v.writes as) (v.doAll as).1.people := by
  induction as generalizing v with
  | nil => exact .refl _
  | cons a as ih => exact (v.follows_act a).append (ih _)

end Visit

def PersonStep.writes (p : People) : PersonStep → List (Handle × Write)
  | setId slot id => (p.resolve slot).toOption.toList.map fun r => (r.1, .id id)
  | setName slot name => (p.resolve slot).toOption.toList.map fun r => (r.1, .name name)
  | setDesk slot desk => (p.resolveKind .teller slot).toOption.toList.map fun h => (h, .desk desk)
  | _ => []

def AccountStep.writes (w : World) : AccountStep → List (Handle × Write)
  | act slot a => (w.visit? slot).toList.flatMap fun v => v.writes [a]
  | scopedBlock slot steps =>
    (w.visit? slot).toList.flatMap fun v => v.writes ((BlockStep.scopedBlock steps false).acts v)
  | _ => []

/-- What a request writes, and through which handles, in this order. -/
def Step.writes (w : World) : Step → List (Handle × Write)
  | person s => s.writes w.people
  | account s => s.writes w
  | _ => []

/-- Who comes new into the house, and under which name; a copy is a newcomer. -/
def PersonStep.newcomer? (p : People) : PersonStep → Option (String × Person)
  | introduce slot person => some (slot, person)
  | copy source slot => (p.resolve source).toOption.map fun r => (slot, r.2)
  | _ => none

def Step.newcomer? (w : World) : Step → Option (String × Person)
  | person s => s.newcomer? w.people
  | _ => none

lemma Step.run_of_newcomer? {w : World} {s : Step} {slot : String} {p : Person}
    (comes : s.newcomer? w = some (slot, p)) :
    (s.run w).2 = { w with people := (w.people.introduce slot p).2 } ∧ s.writes w = [] := by
  cases s with
  | person s =>
    cases s with
    | introduce slot person =>
      cases comes
      exact ⟨rfl, rfl⟩
    | copy source slot =>
      cases found : w.people.resolve source with
      | error r =>
        rw [newcomer?, PersonStep.newcomer?, found] at comes
        cases comes
      | ok x =>
        rw [newcomer?, PersonStep.newcomer?, found] at comes
        cases comes
        refine ⟨run_eq ?_, rfl⟩
        rw [perform, PersonStep.perform, found]
        rfl
    | _ => cases comes
  | _ => cases comes

namespace World

lemma follows_discardAccount (w : World) (a : Account) :
    w.people.Follows [] (w.discardAccount a).1.people :=
  (Visit.follows_close ⟨w.people, a, w.clock⟩).trans_nil (People.follows_releaseAll _ _)

lemma follows_putAccount (w : World) (slot : String) (a : Account) :
    w.people.Follows [] (w.putAccount slot a).1.people := by
  rw [putAccount]
  split
  · exact .refl _
  · exact w.follows_discardAccount _

end World

variable {w : World} {o : Outcome World}

lemma PersonStep.follows_perform {s : PersonStep} (done : s.perform w = .ok o)
    (nobody : s.newcomer? w.people = none) :
    w.people.Follows (s.writes w.people) o.state.people := by
  cases s with
  | introduce slot p => cases nobody
  | share source slot =>
    obtain ⟨⟨h, p⟩, -, rfl⟩ := exists_of_map_eq_ok done
    exact (w.people.follows_retainAll [h]).trans_nil (People.follows_put _ slot h)
  | copy source slot =>
    obtain ⟨⟨h, p⟩, found, rfl⟩ := exists_of_map_eq_ok done
    rw [newcomer?, found] at nobody
    cases nobody
  | drop slot =>
    obtain ⟨-, -, rfl⟩ := exists_of_map_eq_ok done
    exact w.people.follows_clear slot
  | compare a b =>
    simp only [perform] at done
    split at done
    · split at done
      · cases done
        exact .refl _
      · cases done
    · cases done
    · cases done
  | setId slot id =>
    obtain ⟨⟨h, p⟩, found, rfl⟩ := exists_of_map_eq_ok done
    rw [writes, found]
    exact w.people.follows_update h (.id id)
  | setName slot name =>
    obtain ⟨⟨h, p⟩, found, rfl⟩ := exists_of_map_eq_ok done
    rw [writes, found]
    exact w.people.follows_update h (.name name)
  | setDesk slot desk =>
    obtain ⟨h, found, rfl⟩ := exists_of_map_eq_ok done
    rw [writes, found]
    exact w.people.follows_update h (.desk desk)
  | _ =>
    obtain ⟨-, -, rfl⟩ := exists_of_map_eq_ok done
    exact .refl _

lemma AccountStep.follows_perform {s : AccountStep} (done : s.perform w = .ok o) :
    w.people.Follows (s.writes w) o.state.people := by
  cases s with
  | opened slot kind id customer =>
    obtain ⟨h, found, rfl⟩ := exists_of_map_eq_ok done
    exact (w.people.follows_retainAll _).trans_nil
      (World.follows_putAccount (w.openAccount kind id h).2 slot _)
  | act slot a =>
    simp only [perform] at done
    split at done
    · cases done
    · rename_i v found
      obtain ⟨out, acted, rfl⟩ := exists_of_map_eq_ok done
      have here := World.visit?_of_visit found
      obtain ⟨b, there, rfl⟩ := World.exists_account_of_visit? here
      have follows := Visit.follows_act ⟨w.people, b, w.clock⟩ a
      rw [BlockStep.run, acted, Progress.visit_ofReply_ok] at follows
      rw [writes, here, Option.toList_some, List.flatMap_singleton, Visit.writes, Visit.writes,
        List.append_nil]
      exact follows
  | drop slot =>
    obtain ⟨v, found, rfl⟩ := exists_of_map_eq_ok done
    exact w.follows_discardAccount v.account
  | scopedBlock slot steps =>
    obtain ⟨v, found, rfl⟩ := exists_of_map_eq_ok done
    have here := World.visit?_of_visit found
    obtain ⟨b, there, rfl⟩ := World.exists_account_of_visit? here
    have follows := Visit.follows_doAll ⟨w.people, b, w.clock⟩
      ((BlockStep.scopedBlock steps false).acts ⟨w.people, b, w.clock⟩)
    rw [BlockStep.doAll_acts] at follows
    rw [writes, here, Option.toList_some, List.flatMap_singleton]
    exact follows

lemma PersonStep.writes_of_refused {s : PersonStep} {r : Refusal}
    (refused : s.perform w = .error r) :
    s.writes w.people = [] := by
  cases s with
  | setId slot id =>
    cases found : w.people.resolve slot with
    | error r =>
      rw [writes, found]
      rfl
    | ok x =>
      rw [perform, found] at refused
      cases refused
  | setName slot name =>
    cases found : w.people.resolve slot with
    | error r =>
      rw [writes, found]
      rfl
    | ok x =>
      rw [perform, found] at refused
      cases refused
  | setDesk slot desk =>
    cases found : w.people.resolveKind .teller slot with
    | error r =>
      rw [writes, found]
      rfl
    | ok h =>
      rw [perform, found] at refused
      cases refused
  | _ => rfl

lemma Act.written_of_refused {a : Act} {v : Visit} {r : Refusal}
    (refused : a.perform v = .error r) :
    v.written a = [] := by
  cases a with
  | setCustomer slot => rfl
  | _ => cases refused

lemma AccountStep.writes_of_refused {s : AccountStep} {r : Refusal}
    (refused : s.perform w = .error r) : s.writes w = [] := by
  cases s with
  | act slot a =>
    rw [writes]
    cases here : w.visit? slot with
    | none => rfl
    | some v =>
      have unasked : a.perform v = .error r := by
        simp only [perform, World.visit, here] at refused
        cases acted : a.perform v with
        | error q =>
          rw [acted] at refused
          cases refused
          rfl
        | ok o =>
          rw [acted] at refused
          cases refused
      rw [Option.toList_some, List.flatMap_singleton, Visit.writes, Visit.writes,
        Act.written_of_refused unasked, List.append_nil]
  | scopedBlock slot steps =>
    rw [writes]
    cases here : w.visit? slot with
    | none => rfl
    | some v =>
      simp only [perform, World.visit, here] at refused
      cases refused
  | _ => rfl

lemma World.Confined.follows {w' : World} {slot : String} (confined : w.Confined slot w') :
    w.people.Follows [] w'.people :=
  .of_person? confined.people

namespace Step

lemma follows_perform {s : Step} (done : s.perform w = .ok o) (nobody : s.newcomer? w = none) :
    w.people.Follows (s.writes w) o.state.people := by
  cases s with
  | person s => exact s.follows_perform done nobody
  | account s => exact s.follows_perform done
  | bank s =>
    obtain ⟨slot, -, confined⟩ := s.confined done
    exact confined.follows
  | branch s =>
    obtain same | ⟨slot, -, confined⟩ := s.confined done
    · rw [same]
      exact .refl _
    · exact confined.follows
  | vault s =>
    obtain same | ⟨slot, -, confined⟩ := s.confined done
    · rw [same]
      exact .refl _
    · exact confined.follows
  | malformed => cases done

/-- A request that is turned away writes nothing. -/
lemma writes_of_refused {s : Step} {r : Refusal} (refused : s.perform w = .error r) :
    s.writes w = [] := by
  cases s with
  | person s => exact s.writes_of_refused refused
  | account s => exact s.writes_of_refused refused
  | _ => rfl

/-- Where nobody comes new, everybody is as before but for what is written. -/
lemma follows_run {s : Step} (nobody : s.newcomer? w = none) :
    w.people.Follows (s.writes w) (s.run w).2.people := by
  cases done : s.perform w with
  | error r =>
    rw [writes_of_refused done, run, done]
    exact .refl _
  | ok o =>
    rw [run_eq (by rw [done]; rfl : (s.perform w).map Outcome.state = .ok o.state)]
    exact follows_perform done nobody

lemma recalls_run (s : Step) (w : World) : w.people.Recalls (s.writes w) (s.run w).2.people := by
  cases comes : s.newcomer? w with
  | none => exact (follows_run comes).recalls
  | some newcomer =>
    obtain ⟨came, nothing⟩ := run_of_newcomer? comes
    rw [came, nothing]
    exact w.people.recalls_introduce _ _

end Step

namespace World

/-- What a run writes, in the order of its requests. -/
def writes (w : World) : List Step → List (Handle × Write)
  | [] => []
  | s :: ss => s.writes w ++ (s.run w).2.writes ss

lemma recalls_run (w : World) (steps : List Step) :
    w.people.Recalls (w.writes steps) (w.run steps).2.people := by
  induction steps generalizing w with
  | nil => exact (People.Follows.refl _).recalls
  | cons s ss ih => exact (s.recalls_run w).append (ih _)

end World
end Countinghouse
