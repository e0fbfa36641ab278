import Countinghouse.Account.Block
import Countinghouse.Proofs.People.Uncounted

/-!
Answers without counts. At the counter nothing depends on how often somebody is held, but for the
counts that an answer shows.
-/
namespace Countinghouse

def AccountView.uncounted (v : AccountView) : AccountView :=
  { v with customer := v.customer.map .uncounted }

def BankView.uncounted (v : BankView) : BankView :=
  { v with customer := v.customer.map .uncounted, teller := v.teller.map .uncounted }

mutual

/-- An answer, but for the numbers of holders that it shows. -/
def Answer.uncounted : Answer → Answer
  | .person v => .person v.uncounted
  | .account v => .account v.uncounted
  | .bank v => .bank v.uncounted
  | .block inner result after => .block (uncountedAll inner) result (after.map .uncounted)
  | .ending refs => .ending (refs.map fun e => (e.1, 0))
  | a => a

def uncountedAll : List Answer → List Answer
  | [] => []
  | a :: as => a.uncounted :: uncountedAll as

end

lemma uncountedAll_eq_map (as : List Answer) : uncountedAll as = as.map Answer.uncounted := by
  induction as with
  | nil => rfl
  | cons a as ih => rw [uncountedAll, List.map_cons, ih]

lemma Answer.uncounted_person (v : Option PersonView) :
    (Answer.ofOption .person v).uncounted = .ofOption .person (v.map .uncounted) := by
  cases v <;> rfl

section

variable {σ τ α : Type} {R : σ → τ → Prop}

/-- The same is said, counts aside, and the same logged; `R` tells how the states compare. -/
inductive Reply.Agrees (R : σ → τ → Prop) : Reply σ → Reply τ → Prop
  | refused (r : Refusal) : Agrees R (.error r) (.error r)
  | answered {a b : Answer} {log : List Event} {s : σ} {t : τ} (same : a.uncounted = b.uncounted)
      (state : R s t) : Agrees R (.ok ⟨.ok a, log, s⟩) (.ok ⟨.ok b, log, t⟩)
  | failed (e : Failure) {log : List Event} {s : σ} {t : τ} (state : R s t) :
      Agrees R (.ok ⟨.error e, log, s⟩) (.ok ⟨.error e, log, t⟩)

/-- What was sought is found on both sides or on neither. -/
lemma Reply.Agrees.map {x : Except Refusal α} {f : α → Outcome σ} {g : α → Outcome τ}
    (each : ∀ a, Reply.Agrees R (.ok (f a)) (.ok (g a))) :
    Reply.Agrees R (x.map f) (x.map g) := by
  cases x with
  | error r => exact .refused r
  | ok a => exact each a

/-- The same again about other states. -/
lemma Reply.Agrees.mapState {σ' τ' : Type} {Q : σ' → τ' → Prop} {x : Reply σ} {y : Reply τ}
    (replies : Reply.Agrees R x y) {f : σ → σ'} {g : τ → τ'}
    (each : ∀ s t, R s t → Q (f s) (g t)) :
    Reply.Agrees Q (x.map fun o => ⟨o.answer, o.log, f o.state⟩)
      (y.map fun o => ⟨o.answer, o.log, g o.state⟩) := by
  cases replies with
  | refused r => exact .refused r
  | answered same state => exact .answered same (each _ _ state)
  | failed e state => exact .failed e (each _ _ state)

end

/-- The same account at the same time, among people who agree. -/
structure Visit.Agrees (u v : Visit) : Prop where
  people : u.people.Agrees v.people
  account : u.account = v.account
  clock : u.clock = v.clock

namespace Visit.Agrees

variable {u v : Visit}

lemma view (agree : u.Agrees v) : u.view.uncounted = v.view.uncounted := by
  simp only [Visit.view, AccountView.uncounted, agree.account, agree.people.bind_view?]

lemma customerAnswer (agree : u.Agrees v) :
    u.customerAnswer.uncounted = v.customerAnswer.uncounted := by
  simp only [Visit.customerAnswer, Answer.uncounted_person, agree.account, agree.people.bind_view?]

lemma close (agree : u.Agrees v) : u.close.2 = v.close.2 ∧ u.close.1.Agrees v.close.1 := by
  simp only [Visit.close, agree.account, agree.clock]
  split
  · exact ⟨rfl, agree⟩
  · exact ⟨rfl, agree.people.releaseAll _ _, rfl, rfl⟩

lemma setCustomer (agree : u.Agrees v) (h : Option Handle) :
    (u.setCustomer h).Agrees (v.setCustomer h) where
  people := (agree.people.retainAll _ _).releaseAll _ _
  account := by simp only [Visit.setCustomer, agree.account]
  clock := agree.clock

lemma setId (agree : u.Agrees v) (id : Int64) : (u.setId id).Agrees (v.setId id) where
  people := agree.people
  account := by simp only [Visit.setId, agree.account]
  clock := agree.clock

lemma renameCustomer (agree : u.Agrees v) (name : String) :
    (u.renameCustomer name).Agrees (v.renameCustomer name) := by
  simp only [Visit.renameCustomer, agree.account]
  split
  · exact ⟨agree.people.update .., rfl, agree.clock⟩
  · exact agree

lemma perform (agree : u.Agrees v) (a : Act) :
    Reply.Agrees Visit.Agrees (a.perform u) (a.perform v) := by
  cases a with
  | get => exact .answered (congrArg Answer.account agree.view) agree
  | setId id => exact .answered rfl (agree.setId id)
  | setCustomer slot =>
    rw [Act.perform, Act.perform, agree.people.resolveOptional]
    exact .map fun h => .answered (agree.setCustomer h).customerAnswer (agree.setCustomer h)
  | renameCustomer name =>
    exact .answered (agree.renameCustomer name).customerAnswer (agree.renameCustomer name)
  | identifier =>
    rw [Act.perform, Act.perform, agree.account]
    exact .answered rfl agree
  | session =>
    rw [Act.perform, Act.perform, agree.account]
    cases v.account.currentSession with
    | error e => exact .failed e agree
    | ok s => exact .answered rfl agree
  | close =>
    obtain ⟨log, closed⟩ := agree.close
    have same : u.closing u.close.1 = v.closing v.close.1 := by
      simp only [closing, agree.account, closed.account]
    rw [Act.perform, Act.perform, log, same]
    exact .answered rfl closed

end Visit.Agrees

structure Progress.Agrees (p q : Progress) : Prop where
  answers : uncountedAll p.answers = uncountedAll q.answers
  failure : p.failure = q.failure
  log : p.log = q.log
  visit : p.visit.Agrees q.visit

namespace Progress.Agrees

variable {p q : Progress} {u v : Visit}

lemma ofReply (agree : u.Agrees v) {x y : Reply Visit} (same : Reply.Agrees Visit.Agrees x y) :
    (Progress.ofReply u x).Agrees (Progress.ofReply v y) := by
  cases same with
  | refused r => exact ⟨rfl, rfl, rfl, agree⟩
  | answered said state => exact ⟨congrArg (· :: []) said, rfl, rfl, state⟩
  | failed e state => exact ⟨rfl, rfl, rfl, state⟩

lemma result (agree : p.Agrees q) : p.result = q.result := by
  have lengths := congrArg List.length agree.answers
  rw [uncountedAll_eq_map, uncountedAll_eq_map, List.length_map, List.length_map] at lengths
  rw [Progress.result, Progress.result, agree.failure, lengths]

lemma andThen (agree : p.Agrees q) {f g : Visit → Progress}
    (next : (f p.visit).Agrees (g q.visit)) : (p.andThen f).Agrees (q.andThen g) := by
  simp only [Progress.andThen, agree.failure]
  split
  · exact agree
  · refine ⟨?_, next.failure, ?_, next.visit⟩
    · have first := agree.answers
      have later := next.answers
      rw [uncountedAll_eq_map, uncountedAll_eq_map] at first later ⊢
      rw [List.map_append, List.map_append, first, later]
    · rw [agree.log, next.log]

lemma runScoped {block other : Visit → Progress} (agree : (block u).Agrees (other v)) :
    (runScoped block u).Agrees (runScoped other v) := by
  obtain ⟨log, closed⟩ := agree.visit.close
  refine ⟨agree.answers, agree.failure, ?_, closed⟩
  simp only [Countinghouse.runScoped, agree.log, log]

lemma nested (agree : p.Agrees q) (caught : Bool) : (p.nested caught).Agrees (q.nested caught) := by
  refine ⟨?_, ?_, agree.log, agree.visit⟩
  · simp only [Progress.nested, uncountedAll, Answer.uncounted, agree.answers, agree.result]
  · simp only [Progress.nested, agree.failure]

lemma sayGoodbye (agree : u.Agrees v) (language : String) :
    (sayGoodbye language u).Agrees (sayGoodbye language v) := by
  have person? : u.people.person? = v.people.person? := funext agree.people.person?
  rw [Countinghouse.sayGoodbye, Countinghouse.sayGoodbye, agree.account, person?]
  cases v.account.customer.bind v.people.person? with
  | none => exact ⟨rfl, rfl, rfl, agree⟩
  | some person =>
    dsimp only
    cases person.goodbye language with
    | ok s => exact ⟨rfl, rfl, rfl, agree⟩
    | error e => exact ⟨rfl, rfl, rfl, agree⟩

end Progress.Agrees

mutual

lemma BlockStep.agrees_run {u v : Visit} : (step : BlockStep) → u.Agrees v →
    (step.run u).Agrees (step.run v)
  | .act a, agree => .ofReply agree (agree.perform a)
  | .goodbye language, agree => .sayGoodbye agree language
  | .fail _, agree => ⟨rfl, rfl, rfl, agree⟩
  | .scopedBlock steps caught, agree =>
    (Progress.Agrees.runScoped (agrees_runBlock steps agree)).nested caught
  | .malformed, agree => ⟨rfl, rfl, rfl, agree⟩

/-- A block comes as far on both sides, by the same answers. -/
lemma agrees_runBlock {u v : Visit} : (steps : List BlockStep) → u.Agrees v →
    (runBlock steps u).Agrees (runBlock steps v)
  | [], agree => ⟨rfl, rfl, rfl, agree⟩
  | step :: steps, agree =>
    have first := step.agrees_run agree
    first.andThen (agrees_runBlock steps first.visit)

end

end Countinghouse
