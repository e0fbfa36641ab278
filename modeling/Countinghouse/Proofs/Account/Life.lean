import Countinghouse.Proofs.Account.Acts
import Countinghouse.Proofs.Account.Identifier
import Countinghouse.Proofs.Account.Leads

/-!
The life of an account: whatever is asked of it, in any order, it goes from open to closed at most
once, keeps the time of that closing, and keeps its name throughout.
-/
namespace Countinghouse

/-- Requests that close the account, if nothing closed it before. -/
def BlockStep.closes : BlockStep → Bool
  | .act .close => true
  | .scopedBlock _ _ => true
  | _ => false

namespace Account

/-- What became of an account after some requests. A failure ends no life, and between two requests
the people may change and the clock may move on. -/
inductive Life (o : Account) : List BlockStep → Account → Prop
  | new : Life o [] o
  | asked {deeds : List BlockStep} {a : Account} (life : Life o deeds a) (step : BlockStep)
      (people : People) (clock : Nat) :
      Life o (deeds ++ [step]) (step.run ⟨people, a, clock⟩).visit.account

lemma Life.trans {a b c : Account} {deeds more : List BlockStep} (first : a.Life deeds b)
    (next : b.Life more c) : a.Life (deeds ++ more) c := by
  induction next with
  | new => rwa [List.append_nil]
  | asked _ step people clock ih =>
    rw [← List.append_assoc]
    exact ih.asked step people clock

/-- An account as it was before and as it is later. -/
structure Precedes (a b : Account) : Prop where
  kind : b.kind = a.kind
  number : b.number = a.number
  kept : a.isClosed → b.isClosed ∧ b.closedAt = a.closedAt

lemma Precedes.refl (a : Account) : a.Precedes a := ⟨rfl, rfl, fun closed => ⟨closed, rfl⟩⟩

lemma Precedes.trans {a b c : Account} (first : a.Precedes b) (next : b.Precedes c) :
    a.Precedes c where
  kind := next.kind.trans first.kind
  number := next.number.trans first.number
  kept closed := by
    obtain ⟨still, same⟩ := first.kept closed
    obtain ⟨ever, time⟩ := next.kept still
    exact ⟨ever, time.trans same⟩

lemma Precedes.identifier {a b : Account} (later : a.Precedes b) :
    b.identifier = a.identifier :=
  identifier_inj.2 ⟨later.kind, later.number⟩

/-- The account has a session for as long as it has no time of closing. -/
def IsConsistent (a : Account) : Prop := a.session.isSome ↔ a.closedAt = none

end Account

namespace Visit

lemma precedes_close (v : Visit) : v.account.Precedes v.close.1.account := by
  cases session : v.account.session with
  | none =>
    simp only [close, session]
    exact .refl v.account
  | some s =>
    simp only [close, session]
    refine ⟨rfl, rfl, fun closed => ?_⟩
    simp [Account.isClosed, session] at closed

lemma Leads.precedes {v v' : Visit} {log : List Event} (led : Leads v log v') :
    v.account.Precedes v'.account := by
  induction led with
  | stayed v => exact .refl v.account
  | closed v => exact v.precedes_close
  | renumbered v id => exact ⟨rfl, rfl, fun closed => ⟨closed, rfl⟩⟩
  | assigned v h known => exact ⟨rfl, rfl, fun closed => ⟨closed, rfl⟩⟩
  | renamed v name =>
    rw [renameCustomer]
    split
    · exact .refl v.account
    · exact .refl v.account
  | andThen first next ihFirst ihNext => exact ihFirst.trans ihNext

lemma isConsistent_close {v : Visit} (before : v.account.IsConsistent) :
    v.close.1.account.IsConsistent := by
  cases session : v.account.session with
  | none =>
    simp only [close, session]
    exact before
  | some s => simp [close, session, Account.IsConsistent, Account.released]

lemma Leads.isConsistent {v v' : Visit} {log : List Event} (led : Leads v log v')
    (before : v.account.IsConsistent) : v'.account.IsConsistent := by
  induction led with
  | stayed v => exact before
  | closed v => exact isConsistent_close before
  | renumbered v id => exact before
  | assigned v h known => exact before
  | renamed v name =>
    rw [renameCustomer]
    split
    · exact before
    · exact before
  | andThen first next ihFirst ihNext => exact ihNext (ihFirst before)

end Visit

namespace BlockStep

lemma isClosed_run_of_closes {step : BlockStep} (closing : step.closes) (v : Visit) :
    (step.run v).visit.account.isClosed := by
  cases step with
  | act a =>
    cases a with
    | close => exact v.isClosed_close
    | _ => cases closing
  | scopedBlock steps caught => exact (runBlock steps v).visit.isClosed_close
  | _ => cases closing

/-- Any other request leaves the session alone. -/
lemma session_run_of_not_closes {step : BlockStep} (other : step.closes = false) (v : Visit) :
    (step.run v).visit.account.session = v.account.session := by
  cases step with
  | act a =>
    rw [run]
    cases a with
    | close => cases other
    | setCustomer slot =>
      rw [Act.perform]
      cases v.people.resolveOptional .customer slot with
      | error r => rfl
      | ok h => rfl
    | renameCustomer name =>
      simp only [Act.perform, Progress.ofReply, Outcome.said, Visit.renameCustomer]
      split
      · rfl
      · rfl
    | session =>
      rw [Act.perform, Progress.visit_ofReply_ok]
    | get => rfl
    | setId id => rfl
    | identifier => rfl
  | goodbye language =>
    rw [run, sayGoodbye]
    split
    · rfl
    · split
      · rfl
      · rfl
  | scopedBlock steps caught => cases other
  | fail e => rfl
  | malformed => rfl

end BlockStep

namespace Account.Life

variable {o a : Account} {deeds : List BlockStep}

lemma precedes (life : o.Life deeds a) : o.Precedes a := by
  induction life with
  | new => exact .refl o
  | @asked deeds a life step people clock ih =>
    exact ih.trans (step.leads_run ⟨people, a, clock⟩).precedes

lemma isConsistent (life : o.Life deeds a) (before : o.IsConsistent) : a.IsConsistent := by
  induction life with
  | new => exact before
  | @asked deeds a life step people clock ih =>
    exact (step.leads_run ⟨people, a, clock⟩).isConsistent ih

/-- The session is there until the first request that closes the account, and never after. -/
lemma session_eq (life : o.Life deeds a) :
    a.session = if deeds.any BlockStep.closes then none else o.session := by
  induction life with
  | new => rfl
  | @asked deeds a life step people clock ih =>
    rw [List.any_append, List.any_cons, List.any_nil, Bool.or_false]
    cases closing : step.closes with
    | true =>
      rw [Bool.or_true, if_pos rfl]
      exact Option.isNone_iff_eq_none.1 (BlockStep.isClosed_run_of_closes closing _)
    | false =>
      rw [Bool.or_false, BlockStep.session_run_of_not_closes closing]
      exact ih

/-- The session is given as long as nothing has closed the account, and refused ever after. -/
lemma currentSession_eq {kind : AccountKind} {number : Serial} {id : Int64}
    {customer : Option Handle} (life : (opened kind number id customer).Life deeds a) :
    a.currentSession = if deeds.any BlockStep.closes then .error (.accountClosed a.identifier)
      else .ok number := by
  rw [currentSession, life.session_eq]
  cases deeds.any BlockStep.closes <;> rfl

lemma isConsistent_of_opened {kind : AccountKind} {number : Serial} {id : Int64}
    {customer : Option Handle} (life : (opened kind number id customer).Life deeds a) :
    a.IsConsistent :=
  life.isConsistent ⟨fun _ => rfl, fun _ => rfl⟩

end Account.Life

lemma Account.IsConsistent.closedAt_eq_none_iff {a : Account} (consistent : a.IsConsistent) :
    a.closedAt = none ↔ a.isClosed = false := by
  have open_iff : a.session.isSome ↔ a.closedAt = none := consistent
  rw [← open_iff, isClosed]
  cases a.session <;> simp

/-- Inside a block an account lives on: what a block leaves that is not stopped, before any closing
behind it, is what became of the account after all its requests. -/
lemma life_runBlock {steps : List BlockStep} {v : Visit}
    (passed : (runBlock steps v).failure = none) :
    v.account.Life steps (runBlock steps v).visit.account := by
  induction steps generalizing v with
  | nil => exact .new
  | cons step steps ih =>
    have first : v.account.Life [step] (step.run v).visit.account :=
      .asked .new step v.people v.clock
    cases stopped : (step.run v).failure with
    | some e =>
      rw [runBlock, Progress.andThen_of_failure stopped, stopped] at passed
      cases passed
    | none =>
      rw [runBlock, Progress.failure_andThen stopped] at passed
      have life := first.trans (ih passed)
      rw [List.singleton_append] at life
      simpa only [runBlock, Progress.andThen, stopped] using life

/-- A block that fails leaves what became of the account after its requests up to the first one to
fail. -/
lemma exists_life_of_failure_runBlock {steps : List BlockStep} {v : Visit} {e : Failure}
    (failed : (runBlock steps v).failure = some e) :
    ∃ done s rest, steps = done ++ s :: rest ∧ (runBlock done v).failure = none ∧
      (s.run (runBlock done v).visit).failure = some e ∧
      v.account.Life (done ++ [s]) (runBlock steps v).visit.account := by
  obtain ⟨done, s, rest, split, passed, stopped, same⟩ := failure_runBlock_iff.1 failed
  refine ⟨done, s, rest, split, passed, stopped, ?_⟩
  have life := (life_runBlock passed).asked s (runBlock done v).visit.people
    (runBlock done v).visit.clock
  rw [same]
  simpa only [Progress.andThen, passed] using life

end Countinghouse
