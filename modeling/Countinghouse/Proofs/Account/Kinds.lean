import Countinghouse.Proofs.Account.Acts
import Countinghouse.Proofs.Account.Life
import Countinghouse.Proofs.People.Names

/-!
A checking and a savings account that are asked for the same. They go through the same acts and
differ in nothing but the customer; and the customer is told by the acts alone.
-/
namespace Countinghouse

mutual

/-- Whether a step fails does not depend on the customer. -/
def BlockStep.isIndifferent : BlockStep → Bool
  | .act _ => true
  | .goodbye language => (Language.named? language).isSome
  | .fail _ => true
  | .scopedBlock steps _ => areIndifferent steps
  | .malformed => true

def areIndifferent : List BlockStep → Bool
  | [] => true
  | step :: steps => step.isIndifferent && areIndifferent steps

end

lemma exists_goodbye_of_isSome {language : String} (known : (Language.named? language).isSome)
    (p : Person) : ∃ s, p.goodbye language = .ok s := by
  obtain ⟨l, named⟩ := Option.isSome_iff_exists.1 known
  have ofText : Language.ofText language = .ok l := by simp only [Language.ofText, named]
  cases p with
  | customer c => exact ⟨Customer.farewell l, by rw [Person.goodbye, Customer.goodbye, ofText]; rfl⟩
  | teller t => exact ⟨t.goodbye language, rfl⟩

lemma failure_sayGoodbye {language : String} (known : (Language.named? language).isSome)
    (v : Visit) : (sayGoodbye language v).failure = none := by
  simp only [sayGoodbye]
  split
  · rfl
  · rename_i person _
    obtain ⟨s, said⟩ := exists_goodbye_of_isSome known person
    rw [said]
    rfl

/-- Of all acts only asking for the session can fail, and it does on a closed account. -/
lemma isNone_failure_act (a : Act) (v : Visit) :
    ((BlockStep.act a).run v).failure.isNone = (a != .session || v.account.session.isSome) := by
  rw [BlockStep.run]
  cases a with
  | setCustomer slot =>
    rw [Act.perform]
    cases v.people.resolveOptional .customer slot with
    | error r => rfl
    | ok h => rfl
  | session =>
    rw [Act.perform, Account.currentSession]
    cases v.account.session with
    | none => rfl
    | some s => rfl
  | _ => rfl

namespace Progress

lemma isNone_failure_andThen (p : Progress) (next : Visit → Progress) :
    (p.andThen next).failure.isNone = (p.failure.isNone && (next p.visit).failure.isNone) := by
  simp only [andThen]
  cases failed : p.failure with
  | some e => simp [failed]
  | none => simp

lemma isNone_failure_nested (p : Progress) (caught : Bool) :
    (p.nested caught).failure.isNone = (caught || p.failure.isNone) := by
  cases caught <;> rfl

end Progress

namespace Visit

lemma Leads.namedAlike {v v' : Visit} {log : List Event} (led : Leads v log v') :
    v.people.NamedAlike v'.people := by
  induction led with
  | stayed v => exact .refl v.people
  | closed v =>
    cases session : v.account.session with
    | none =>
      simp only [close, session]
      exact .refl v.people
    | some s =>
      simp only [close, session]
      exact v.people.namedAlike_releaseAll _
  | renumbered v id => exact .refl v.people
  | assigned v h known =>
    exact (v.people.namedAlike_retainAll _).trans (People.namedAlike_releaseAll _ _)
  | renamed v name =>
    rw [renameCustomer]
    split
    · exact v.people.namedAlike_update _ (Person.kind_setName name)
    · exact .refl v.people
  | andThen first next ihFirst ihNext => exact ihFirst.trans ihNext

/-- A checking account and a savings account that differ in nothing but their customers. -/
structure Alike (c s : Visit) : Prop where
  checking : c.account.kind = .checking
  savings : s.account.kind = .savings
  people : c.people.NamedAlike s.people
  number : c.account.number = s.account.number
  id : c.account.id = s.account.id
  session : c.account.session = s.account.session
  closedAt : c.account.closedAt = s.account.closedAt
  clock : c.clock = s.clock

/-- What both accounts show of themselves. -/
def face (v : Visit) : Int64 × Option Serial × Option Nat × Nat :=
  (v.account.id, v.account.session, v.account.closedAt, v.clock)

lemma face_renameCustomer (v : Visit) (name : String) : (v.renameCustomer name).face = v.face := by
  rw [renameCustomer]
  split <;> rfl

/-- An act changes the face by what it shows, and by no more. -/
lemma face_act {c s : Visit} (same : c.face = s.face) (a : Act) :
    ((BlockStep.act a).run c).visit.face = ((BlockStep.act a).run s).visit.face := by
  simp only [face, Prod.mk.injEq] at same
  obtain ⟨id, session, closedAt, clock⟩ := same
  rw [BlockStep.run, BlockStep.run]
  cases a with
  | close =>
    cases open? : s.account.session with
    | none => simp [Act.perform, Progress.ofReply, Outcome.logged, close, open?, face, id, session,
        closedAt, clock]
    | some n => simp [Act.perform, Progress.ofReply, Outcome.logged, close, open?, face, id,
        session, clock, Account.released]
  | setCustomer slot =>
    have kept (v : Visit) :
        (Progress.ofReply v ((Act.setCustomer slot).perform v)).visit.face = v.face := by
      rw [Act.perform]
      cases v.people.resolveOptional .customer slot with
      | error r => rfl
      | ok h => rfl
    rw [kept, kept]
    simp only [face, id, session, closedAt, clock]
  | renameCustomer name =>
    simp only [Act.perform, Progress.ofReply, Outcome.said, face_renameCustomer]
    simp only [face, id, session, closedAt, clock]
  | session =>
    rw [Act.perform, Act.perform, Progress.visit_ofReply_ok, Progress.visit_ofReply_ok]
    simp only [face, id, session, closedAt, clock]
  | setId n => simp [Act.perform, Progress.ofReply, Outcome.said, setId, face, session, closedAt,
      clock]
  | get => simp [Act.perform, Progress.ofReply, Outcome.said, face, id, session, closedAt, clock]
  | identifier =>
    simp [Act.perform, Progress.ofReply, Outcome.said, face, id, session, closedAt, clock]

namespace Alike

variable {c s : Visit}

lemma act (alike : Alike c s) (a : Act) :
    Alike ((BlockStep.act a).run c).visit ((BlockStep.act a).run s).visit := by
  have ledC := (BlockStep.act a).leads_run c
  have ledS := (BlockStep.act a).leads_run s
  have face : c.face = s.face := by
    simp only [Visit.face, alike.id, alike.session, alike.closedAt, alike.clock]
  have after := face_act face a
  simp only [Visit.face, Prod.mk.injEq] at after
  obtain ⟨id, session, closedAt, clock⟩ := after
  exact {
    checking := ledC.precedes.kind.trans alike.checking
    savings := ledS.precedes.kind.trans alike.savings
    people := ledC.namedAlike.symm.trans (alike.people.trans ledS.namedAlike)
    number := ledC.precedes.number.trans (alike.number.trans ledS.precedes.number.symm)
    id, session, closedAt, clock }

lemma doAll (alike : Alike c s) (as : List Act) : Alike (c.doAll as).1 (s.doAll as).1 := by
  induction as generalizing c s with
  | nil => exact alike
  | cons a as ih => exact ih (alike.act a)

/-- Steps that come to the same acts leave two accounts alike. -/
lemma run (alike : Alike c s) {step : BlockStep} (same : step.acts c = step.acts s) :
    Alike (step.run c).visit (step.run s).visit := by
  have doneC := congrArg Prod.fst (step.doAll_acts c)
  have doneS := congrArg Prod.fst (step.doAll_acts s)
  rw [same] at doneC
  simp only [Progress.effect] at doneC doneS
  rw [← doneC, ← doneS]
  exact alike.doAll _

end Alike
end Visit

mutual

lemma BlockStep.acts_eq_of_alike {c s : Visit} : (step : BlockStep) → step.isIndifferent →
    c.Alike s → step.acts c = step.acts s ∧
      (step.run c).failure.isNone = (step.run s).failure.isNone
  | .act a, _, alike => by
    refine ⟨rfl, ?_⟩
    rw [isNone_failure_act, isNone_failure_act, alike.session]
  | .goodbye language, known, _ => by
    refine ⟨rfl, ?_⟩
    rw [BlockStep.run, BlockStep.run, failure_sayGoodbye known, failure_sayGoodbye known]
  | .fail _, _, _ => ⟨rfl, rfl⟩
  | .scopedBlock steps caught, indifferent, alike => by
    obtain ⟨same, failed⟩ := blockActs_eq_of_alike steps indifferent alike
    constructor
    · rw [BlockStep.acts, BlockStep.acts, same]
    · rw [BlockStep.run, BlockStep.run, Progress.isNone_failure_nested,
        Progress.isNone_failure_nested]
      exact congrArg (caught || ·) failed
  | .malformed, _, _ => ⟨rfl, rfl⟩

/-- Of two accounts that are alike, a block comes to the same acts. -/
lemma blockActs_eq_of_alike {c s : Visit} : (steps : List BlockStep) → areIndifferent steps →
    c.Alike s → blockActs steps c = blockActs steps s ∧
      (runBlock steps c).failure.isNone = (runBlock steps s).failure.isNone
  | [], _, _ => ⟨rfl, rfl⟩
  | step :: steps, indifferent, alike => by
    obtain ⟨head, tail⟩ := Bool.and_eq_true_iff.1 indifferent
    obtain ⟨first, stopped⟩ := step.acts_eq_of_alike head alike
    obtain ⟨later, failed⟩ := blockActs_eq_of_alike steps tail (alike.run first)
    constructor
    · rw [blockActs, blockActs, first, later, stopped]
    · rw [runBlock, runBlock, Progress.isNone_failure_andThen, Progress.isNone_failure_andThen,
        stopped, failed]

end

namespace Visit

/-- Steps that are asked for one after the other, none of which ends the visit, and the acts that
they come to. -/
def askAll (v : Visit) : List BlockStep → Visit × List Act
  | [] => (v, [])
  | step :: steps =>
    let (last, rest) := (step.run v).visit.askAll steps
    (last, step.acts v ++ rest)

lemma askAll_cons (v : Visit) (step : BlockStep) (steps : List BlockStep) :
    v.askAll (step :: steps) =
      (((step.run v).visit.askAll steps).1,
        step.acts v ++ ((step.run v).visit.askAll steps).2) := rfl

lemma askAll_eq_doAll (v : Visit) (steps : List BlockStep) :
    (v.askAll steps).1 = (v.doAll (v.askAll steps).2).1 := by
  induction steps generalizing v with
  | nil => rfl
  | cons step steps ih =>
    rw [askAll_cons, doAll_append, step.doAll_acts]
    exact ih (step.run v).visit

lemma Alike.askAll_eq {c s : Visit} (alike : c.Alike s) {steps : List BlockStep}
    (indifferent : areIndifferent steps) : (c.askAll steps).2 = (s.askAll steps).2 := by
  induction steps generalizing c s with
  | nil => rfl
  | cons step steps ih =>
    obtain ⟨head, tail⟩ := Bool.and_eq_true_iff.1 indifferent
    have first := (step.acts_eq_of_alike head alike).1
    rw [askAll_cons, askAll_cons, first, ih (alike.run first) tail]

end Visit

/-- Whom an act makes the customer, if it sets one or none. -/
def Act.gift? (p : People) : Act → Option (Option Handle)
  | .setCustomer slot => (p.resolveOptional .customer slot).toOption
  | _ => none

/-- The customer given last, or the one there was before. -/
def lastGiven (p : People) (first : Option Handle) (as : List Act) : Option Handle :=
  (as.filterMap (Act.gift? p)).getLastD first

/-- The acts behind the first closing. -/
def behindClosing (as : List Act) : List Act := (as.dropWhile (· != .close)).tail

lemma lastGiven_cons (p : People) (first : Option Handle) (a : Act) (as : List Act) :
    lastGiven p first (a :: as) = lastGiven p ((a.gift? p).getD first) as := by
  rw [lastGiven, List.filterMap_cons]
  cases a.gift? p with
  | none => rfl
  | some h => rw [List.getLastD_cons]; rfl

lemma People.NamedAlike.gift?_eq {p q : People} (alike : p.NamedAlike q) :
    Act.gift? p = Act.gift? q := by
  funext a
  cases a with
  | setCustomer slot => rw [Act.gift?, Act.gift?, alike.resolveOptional_eq]
  | _ => rfl

lemma People.NamedAlike.lastGiven_eq {p q : People} (alike : p.NamedAlike q)
    (first : Option Handle) (as : List Act) : lastGiven p first as = lastGiven q first as := by
  rw [lastGiven, lastGiven, alike.gift?_eq]

namespace Visit

variable {v : Visit}

/-- The first closing of a savings account apart, only a gift changes the customer. -/
lemma customer_act {a : Act}
    (kept : a ≠ .close ∨ v.account.kind = .checking ∨ v.account.isClosed = true) :
    ((BlockStep.act a).run v).visit.account.customer =
      (a.gift? v.people).getD v.account.customer := by
  rw [BlockStep.run]
  cases a with
  | setCustomer slot =>
    rw [Act.perform, Act.gift?]
    cases v.people.resolveOptional .customer slot with
    | error r => rfl
    | ok h => rfl
  | close =>
    simp only [Act.perform, Progress.ofReply, Outcome.logged, Act.gift?, Option.getD_none]
    cases session : v.account.session with
    | none => simp only [close, session]
    | some n =>
      rcases kept with other | checking | closed
      · exact absurd rfl other
      · simp only [close, session, Account.released, Account.keptCustomer, checking]
      · simp [Account.isClosed, session] at closed
  | renameCustomer name =>
    simp only [Act.perform, Progress.ofReply, Outcome.said, Act.gift?, Option.getD_none,
      renameCustomer]
    split <;> rfl
  | session =>
    rw [Act.perform, Progress.visit_ofReply_ok]
    rfl
  | _ => rfl

/-- A first closing leaves a savings account without a customer. -/
lemma customer_close_savings (savings : v.account.kind = .savings)
    (isOpen : v.account.isClosed = false) : v.close.1.account.customer = none := by
  cases session : v.account.session with
  | none => simp [Account.isClosed, session] at isOpen
  | some n => simp only [close, session, Account.released, Account.keptCustomer, savings]

lemma session_act (a : Act) :
    ((BlockStep.act a).run v).visit.account.session =
      if a = .close then none else v.account.session := by
  split
  · rename_i closing
    subst closing
    exact Option.isNone_iff_eq_none.1 v.isClosed_close
  · rename_i other
    apply BlockStep.session_run_of_not_closes
    cases a with
    | close => exact absurd rfl other
    | _ => rfl

lemma session_doAll (as : List Act) :
    (v.doAll as).1.account.session = if .close ∈ as then none else v.account.session := by
  induction as generalizing v with
  | nil => rfl
  | cons a as ih =>
    rw [doAll_cons, ih, session_act]
    by_cases closing : a = .close
    · simp [closing]
    · simp [closing, Ne.symm closing]

lemma leads_doAll (v : Visit) (as : List Act) : v.Leads (v.doAll as).2 (v.doAll as).1 := by
  induction as generalizing v with
  | nil => exact .stayed v
  | cons a as ih => exact ((BlockStep.act a).leads_run v).andThen (ih _)

/-- Where no closing can part it from its customer, an account has the customer given last. -/
lemma customer_doAll (as : List Act)
    (kept : v.account.kind = .checking ∨ v.account.isClosed = true) :
    (v.doAll as).1.account.customer = lastGiven v.people v.account.customer as := by
  induction as generalizing v with
  | nil => rfl
  | cons a as ih =>
    have led := (BlockStep.act a).leads_run v
    have still : ((BlockStep.act a).run v).visit.account.kind = .checking ∨
        ((BlockStep.act a).run v).visit.account.isClosed = true := by
      exact kept.imp led.precedes.kind.trans fun closed => (led.precedes.kept closed).1
    rw [doAll_cons, ih still, customer_act (.inr kept), lastGiven_cons,
      led.namedAlike.lastGiven_eq]

/-- An open savings account has the customer given last; its closing takes that one away, and from
then on it has the one given last since. -/
lemma customer_doAll_savings (as : List Act) (savings : v.account.kind = .savings)
    (isOpen : v.account.isClosed = false) :
    (v.doAll as).1.account.customer =
      if .close ∈ as then lastGiven v.people none (behindClosing as)
      else lastGiven v.people v.account.customer as := by
  induction as generalizing v with
  | nil => rfl
  | cons a as ih =>
    have led := (BlockStep.act a).leads_run v
    by_cases closing : a = .close
    · subst closing
      have closed : ((BlockStep.act .close).run v).visit.account.isClosed = true := v.isClosed_close
      have parted : ((BlockStep.act .close).run v).visit.account.customer = none :=
        customer_close_savings savings isOpen
      rw [doAll_cons, if_pos List.mem_cons_self, customer_doAll as (.inr closed), parted,
        led.namedAlike.lastGiven_eq]
      rfl
    · have stillOpen : ((BlockStep.act a).run v).visit.account.isClosed = false := by
        rw [Account.isClosed, session_act, if_neg closing]
        exact isOpen
      have behind : behindClosing (a :: as) = behindClosing as := by
        have passed : (a != .close) = true := bne_iff_ne.2 closing
        simp only [behindClosing, List.dropWhile_cons, passed, if_true]
      rw [doAll_cons, ih (led.precedes.kind.trans savings) stillOpen, customer_act (.inl closing),
        lastGiven_cons, behind, led.namedAlike.lastGiven_eq, led.namedAlike.lastGiven_eq]
      simp only [List.mem_cons, Ne.symm closing, false_or]

/-- The session of a new account can be had until the first closing. -/
lemma currentSession_doAll (people : People) (kind : AccountKind) (number : Serial) (id : Int64)
    (customer : Option Handle) (clock : Nat) (as : List Act) :
    (doAll ⟨people, .opened kind number id customer, clock⟩ as).1.account.currentSession =
      if .close ∈ as then .error (.accountClosed (kind.letters ++ "-" ++ number.label))
      else .ok number := by
  have same := (leads_doAll ⟨people, .opened kind number id customer, clock⟩ as).precedes.identifier
  rw [Account.currentSession, session_doAll, same]
  split_ifs <;> rfl

end Visit

/-- A checking and a savings account, opened with the same number, id and customer, are asked for
the same, blocks included. They come to the same acts; and after any acts, so after each of these in
turn, they have the same id, are both open or both closed since the same time, and hand out the same
session or none. The customer of the checking account is the one given last. So is that of the
savings account, but that a closing takes away what was given before it. -/
theorem kinds_differ_in_customer_only (people : People) (clock : Nat) (number : Serial)
    (id : Int64) (customer : Option Handle) (steps : List BlockStep)
    (indifferent : areIndifferent steps) :
    let checking : Visit := ⟨people, .opened .checking number id customer, clock⟩
    let savings : Visit := ⟨people, .opened .savings number id customer, clock⟩
    let acts := (checking.askAll steps).2
    (savings.askAll steps).2 = acts ∧
    (checking.askAll steps).1 = (checking.doAll acts).1 ∧
    (savings.askAll steps).1 = (savings.doAll acts).1 ∧
    ∀ done : List Act,
      let c := (checking.doAll done).1.account
      let s := (savings.doAll done).1.account
      c.id = s.id ∧ c.isClosed = s.isClosed ∧ c.closedAt = s.closedAt ∧
      c.currentSession =
        (if .close ∈ done then .error (.accountClosed ("CHK" ++ "-" ++ number.label))
          else .ok number) ∧
      s.currentSession =
        (if .close ∈ done then .error (.accountClosed ("SAV" ++ "-" ++ number.label))
          else .ok number) ∧
      c.customer = lastGiven people customer done ∧
      s.customer = if .close ∈ done then lastGiven people none (behindClosing done)
        else lastGiven people customer done := by
  intro checking savings acts
  have alike : checking.Alike savings := ⟨rfl, rfl, .refl people, rfl, rfl, rfl, rfl, rfl⟩
  have same : (savings.askAll steps).2 = acts := (alike.askAll_eq indifferent).symm
  refine ⟨same, checking.askAll_eq_doAll steps, ?_, fun done => ?_⟩
  · rw [savings.askAll_eq_doAll steps, same]
  · intro c s
    have after := alike.doAll done
    have closed : c.isClosed = s.isClosed := congrArg Option.isNone after.session
    exact ⟨after.id, closed, after.closedAt,
      Visit.currentSession_doAll people .checking number id customer clock done,
      Visit.currentSession_doAll people .savings number id customer clock done,
      Visit.customer_doAll done (.inl rfl), Visit.customer_doAll_savings done rfl rfl⟩

/-- A block closes both accounts, makes another their customer and fails. Between the closing and
that gift only the checking account has a customer. -/
theorem block_parts_savings_from_customer :
    let people := ((People.empty.introduce "p" (.customer ⟨1, "Ada"⟩)).2.introduce "q"
      (.customer ⟨2, "Grace"⟩)).2
    let steps : List BlockStep :=
      [.act (.setId 8), .scopedBlock [.act .close, .act (.setCustomer (some "q")), .act .session,
        .act (.setId 9)] false]
    let checking : Visit := ⟨people, .opened .checking ⟨1⟩ 7 (some ⟨0⟩), 0⟩
    let savings : Visit := ⟨people, .opened .savings ⟨1⟩ 7 (some ⟨0⟩), 0⟩
    let acts : List Act := [.setId 8, .close, .setCustomer (some "q"), .session, .close]
    areIndifferent steps ∧ (checking.askAll steps).2 = acts ∧ (savings.askAll steps).2 = acts ∧
    (checking.doAll (acts.take 2)).1.account.customer = some ⟨0⟩ ∧
    (savings.doAll (acts.take 2)).1.account.customer = none ∧
    (savings.doAll acts).1.account.customer = some ⟨1⟩ := by
  intro people steps checking savings acts
  have indifferent : areIndifferent steps := by decide
  have history : (checking.askAll steps).2 = acts := by decide
  obtain ⟨same, -, -, after⟩ :=
    kinds_differ_in_customer_only people 0 ⟨1⟩ 7 (some ⟨0⟩) steps indifferent
  obtain ⟨-, -, -, -, -, checkingFirst, savingsFirst⟩ := after (acts.take 2)
  obtain ⟨-, -, -, -, -, -, savingsLast⟩ := after acts
  exact ⟨indifferent, history, same.trans history, checkingFirst.trans (by decide),
    savingsFirst.trans (by decide), savingsLast.trans (by decide)⟩

end Countinghouse
