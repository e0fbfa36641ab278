import Countinghouse.Proofs.Language.Words
import Countinghouse.Proofs.Tree.Firsts
import Countinghouse.Proofs.World.Lives

/-!
How requests come out. A request is turned away, or it is denied for one of four reasons, or it is
served; unless it is served, the house stays as it was and nothing is logged.
-/
namespace Countinghouse

lemma Bank.removeBranch_eq_error_iff {b : Bank} {index : UInt64} {e : Failure} :
    b.removeBranch index = .error e ↔ b.branchCount ≤ index.toNat ∧ e = .branchNotFound index := by
  rw [removeBranch, branchCount, ← List.getElem?_eq_none_iff]
  cases b.branches[index.toNat]? <;> simp [eq_comm]

lemma BranchChange.apply_eq_error_iff {c : BranchChange} {r : Branch} {e : Failure} :
    c.apply r = .error e ↔
      ∃ id, c = .removeVault id ∧ (∀ v ∈ r.vaults, v.id ≠ id) ∧ e = .vaultNotFound id := by
  cases c with
  | removeVault id =>
    simp only [apply, removeVault.injEq, exists_eq_left', ← Branch.vault?_eq_none_iff,
      ← Branch.removeVault_eq_error_iff]
    cases r.removeVault id <;> simp [Except.map]
  | _ => simp [apply]

lemma Account.currentSession_eq_error_iff {a : Account} {e : Failure} :
    a.currentSession = .error e ↔ a.isClosed ∧ e = .accountClosed a.identifier := by
  rw [currentSession, isClosed]
  cases a.session <;> simp [eq_comm]

/-- What a request is denied for, once it is understood and all that it names is there. -/
inductive Step.Denied (w : World) : Step → Failure → Prop
  | removeBranch (slot : String) (b : Bank) (here : w.banks.find? slot = some b) (index : UInt64)
      (beyond : b.branchCount ≤ index.toNat) :
      Denied w (.bank (.removeBranch slot index)) (.branchNotFound index)
  | removeVault (s : Spot) (r : Branch) (here : w.branch? s = .ok (some r)) (id : String)
      (absent : ∀ v ∈ r.vaults, v.id ≠ id) :
      Denied w (.branch (.change s (.removeVault id))) (.vaultNotFound id)
  | session (slot : String) (a : Account) (here : w.accounts.find? slot = some a)
      (closed : a.isClosed) :
      Denied w (.account (.act slot .session)) (.accountClosed a.identifier)
  | goodbye (slot : String) (h : Handle) (c : Customer)
      (here : w.people.resolve slot = .ok (h, .customer c)) (language : String)
      (unnamed : ∀ l : Language, ¬ l.IsNamedBy language) :
      Denied w (.person (.goodbye slot language)) (.unsupportedLanguage language)

/-- An answer that tells of an error. -/
def Answer.isError : Answer → Bool
  | refused _ => true
  | failed _ => true
  | _ => false

namespace Answer

@[simp] lemma isError_ofOption {α : Type} {f : α → Answer} (x : Option α)
    (plain : ∀ a, (f a).isError = false) : (ofOption f x).isError = false := by
  cases x with
  | none => rfl
  | some a => exact plain a

end Answer

/-- The replies that a request may get: it is turned away, it is denied and leaves all as it was, or
it is served. -/
inductive Step.Settles (s : Step) (w : World) : Reply World → Prop
  | refused (r : Refusal) : Settles s w (.error r)
  | denied (e : Failure) (why : Denied w s e) : Settles s w (.ok (.failure e w))
  | served (o : Outcome World) (a : Answer) (answers : o.answer = .ok a)
      (plain : a.isError = false) : Settles s w (.ok o)

lemma Step.Settles.map {s : Step} {w : World} {α : Type} {x : Except Refusal α}
    {f : α → Outcome World} (each : ∀ a, x = .ok a → s.Settles w (.ok (f a))) :
    s.Settles w (x.map f) := by
  cases x with
  | error r => exact .refused r
  | ok a => exact each a rfl

lemma PersonStep.settles (s : PersonStep) (w : World) :
    (Step.person s).Settles w (s.perform w) := by
  cases s with
  | introduce slot p => exact .served _ _ rfl (Answer.isError_ofOption _ fun _ => rfl)
  | share source slot =>
    exact .map fun _ _ => .served _ _ rfl (Answer.isError_ofOption _ fun _ => rfl)
  | copy source slot =>
    exact .map fun _ _ => .served _ _ rfl (Answer.isError_ofOption _ fun _ => rfl)
  | compare a b =>
    simp only [perform]
    split
    · split
      · exact .served _ _ rfl rfl
      · exact .refused _
    · exact .refused _
    · exact .refused _
  | get slot =>
    exact .map fun _ _ => .served _ _ rfl (Answer.isError_ofOption _ fun _ => rfl)
  | setId slot id =>
    exact .map fun _ _ => .served _ _ rfl (Answer.isError_ofOption _ fun _ => rfl)
  | setName slot name =>
    exact .map fun _ _ => .served _ _ rfl (Answer.isError_ofOption _ fun _ => rfl)
  | setDesk slot desk =>
    refine .map fun _ _ => .served _ _ rfl (Answer.isError_ofOption _ fun _ => ?_)
    exact Answer.isError_ofOption _ fun _ => rfl
  | goodbye slot language =>
    apply Step.Settles.map
    rintro ⟨h, p⟩ here
    cases said : p.goodbye language with
    | ok s => exact .served _ _ (by simp only [said]; rfl) rfl
    | error e =>
      cases p with
      | teller t => cases said
      | customer c =>
        have refused := Person.goodbye_customer_eq_error_iff.1 said
        obtain ⟨unnamed, rfl⟩ := Language.ofText_eq_error_iff.1 refused
        simp only [said]
        exact .denied _ (.goodbye slot h c here language unnamed)
  | _ => exact .map fun _ _ => .served _ _ rfl rfl

lemma Act.answers_or_asks_session {a : Act} {v : Visit} {o : Outcome Visit}
    (done : a.perform v = .ok o) :
    (∃ answer, o.answer = .ok answer ∧ answer.isError = false) ∨
      a = .session ∧ v.account.isClosed ∧ o = .failure (.accountClosed v.account.identifier) v := by
  cases a with
  | session =>
    cases done
    cases current : v.account.currentSession with
    | ok s => exact .inl ⟨.session s, rfl, rfl⟩
    | error e =>
      obtain ⟨closed, rfl⟩ := Account.currentSession_eq_error_iff.1 current
      exact .inr ⟨rfl, closed, rfl⟩
  | setCustomer slot =>
    obtain ⟨h, -, rfl⟩ := exists_of_map_eq_ok done
    exact .inl ⟨_, rfl, Answer.isError_ofOption _ fun _ => rfl⟩
  | renameCustomer name =>
    cases done
    exact .inl ⟨_, rfl, Answer.isError_ofOption _ fun _ => rfl⟩
  | _ =>
    cases done
    exact .inl ⟨_, rfl, rfl⟩

lemma AccountStep.settles (s : AccountStep) (w : World) :
    (Step.account s).Settles w (s.perform w) := by
  cases s with
  | act slot a =>
    simp only [perform]
    split
    · exact .refused _
    · rename_i v found
      obtain ⟨b, here, rfl⟩ := World.exists_account_of_visit? (World.visit?_of_visit found)
      apply Step.Settles.map
      intro o done
      rcases Act.answers_or_asks_session done with ⟨answer, answers, plain⟩ | ⟨rfl, closed, rfl⟩
      · exact .served _ answer answers plain
      · simp only [Outcome.failure, World.afterVisit_self here]
        exact .denied _ (.session slot b here closed)
  | _ => exact .map fun _ _ => .served _ _ rfl rfl

lemma BankStep.settles (s : BankStep) (w : World) :
    (Step.bank s).Settles w (s.perform w) := by
  cases s with
  | founded slot id name customer teller =>
    simp only [perform]
    split
    · exact .refused _
    · exact .refused _
    · exact .served _ _ rfl rfl
  | setCustomer slot customer =>
    simp only [perform]
    split
    · exact .refused _
    · exact .map fun _ _ => .served _ _ rfl (Answer.isError_ofOption _ fun _ => rfl)
  | setTeller slot teller =>
    simp only [perform]
    split
    · exact .refused _
    · exact .map fun _ _ => .served _ _ rfl (Answer.isError_ofOption _ fun _ => rfl)
  | removeBranch slot index =>
    apply Step.Settles.map
    intro b found
    split
    · exact .served _ _ rfl rfl
    · rename_i e failed
      obtain ⟨beyond, rfl⟩ := Bank.removeBranch_eq_error_iff.1 failed
      exact .denied _ (.removeBranch slot b (World.find?_of_bank found) index beyond)
  | _ => exact .map fun _ _ => .served _ _ rfl rfl

lemma settles_replyEqual {α : Type} [DecidableEq α] (s : Step) (w : World)
    (x y : Except Refusal (Option α)) : s.Settles w (replyEqual w x y) := by
  simp only [replyEqual]
  split
  · exact .refused _
  · exact .refused _
  · exact .served _ _ rfl rfl
  · exact .served _ _ rfl rfl

lemma BranchStep.settles (s : BranchStep) (w : World) :
    (Step.branch s).Settles w (s.perform w) := by
  cases s with
  | change s c =>
    apply Step.Settles.map
    intro b found
    split
    · exact .served _ _ rfl rfl
    · rename_i r here
      split
      · rename_i e failed
        obtain ⟨id, rfl, absent, rfl⟩ := BranchChange.apply_eq_error_iff.1 failed
        refine .denied _ (.removeVault s r ?_ id absent)
        rw [World.branch?, found, ← here]
        rfl
      · exact .served _ _ rfl rfl
  | equal s s' => exact settles_replyEqual _ w _ _
  | _ => exact .map fun _ _ => .served _ _ rfl (Answer.isError_ofOption _ fun _ => rfl)

lemma VaultStep.settles_changed (s : Step) (w : World) (spot : Spot) (id : String)
    (f : Vault → Vault) : s.Settles w (changed w spot id f) := by
  apply Step.Settles.map
  intro b _
  split
  · exact .served _ _ rfl rfl
  · split
    · exact .served _ _ rfl rfl
    · exact .served _ _ rfl rfl

lemma VaultStep.settles (s : VaultStep) (w : World) :
    (Step.vault s).Settles w (s.perform w) := by
  cases s with
  | setId s id newId => exact settles_changed _ w s id _
  | setOccupied s id occupied => exact settles_changed _ w s id _
  | equal s id s' id' => exact settles_replyEqual _ w _ _
  | _ => exact .map fun _ _ => .served _ _ rfl (Answer.isError_ofOption _ fun _ => rfl)

namespace Step

variable {w : World}

lemma settles (s : Step) (w : World) : s.Settles w (s.perform w) := by
  cases s with
  | person s => exact s.settles w
  | account s => exact s.settles w
  | bank s => exact s.settles w
  | branch s => exact s.settles w
  | vault s => exact s.settles w
  | malformed => exact .refused _

/-- Where there is a reason to deny a request, it is denied. -/
lemma Denied.perform_eq {s : Step} {e : Failure} (why : s.Denied w e) :
    s.perform w = .ok (.failure e w) := by
  cases why with
  | removeBranch slot b here index beyond =>
    have failed := Bank.removeBranch_eq_error_iff.2 ⟨beyond, rfl⟩
    simp only [perform, BankStep.perform, World.bank_of_find? here, Except.map, failed]
  | removeVault s r here id absent =>
    obtain ⟨b, found, there⟩ := exists_of_map_eq_ok here
    have failed := Branch.removeVault_eq_error_iff.2 ⟨Branch.vault?_eq_none_iff.2 absent, rfl⟩
    simp only [perform, BranchStep.perform, found, Except.map, there, BranchChange.apply, failed]
  | session slot a here closed =>
    have failed := Account.currentSession_eq_error_iff.2 ⟨closed, rfl⟩
    simp only [perform, AccountStep.perform, World.visit_of_find? here, Act.perform, failed,
      Except.map, World.afterVisit_self here, Outcome.failure]
  | goodbye slot h c here language unnamed =>
    have refused := Language.ofText_eq_error_iff.2 ⟨unnamed, rfl⟩
    have failed : (Person.customer c).goodbye language = .error (.unsupportedLanguage language) :=
      Person.goodbye_customer_eq_error_iff.2 refused
    simp only [perform, PersonStep.perform, here, Except.map, failed, Outcome.failure]

/-- What a request answers and leaves, in the three ways that it may come out. -/
lemma run_cases (s : Step) (w : World) :
    (∃ r, s.run w = (⟨.refused r, []⟩, w)) ∨
    (∃ e, s.Denied w e ∧ s.run w = (⟨.failed e, []⟩, w)) ∨
    (s.run w).1.answer.isError = false := by
  have settled := s.settles w
  rw [run]
  cases done : s.perform w with
  | error r => exact .inl ⟨r, rfl⟩
  | ok o =>
    rw [done] at settled
    cases settled with
    | denied e why => exact .inr (.inl ⟨e, why, rfl⟩)
    | served o a answers plain =>
      obtain ⟨answer, log, w'⟩ := o
      cases answers
      exact .inr (.inr plain)

lemma failed_iff (s : Step) (w : World) (e : Failure) :
    (s.run w).1.answer = .failed e ↔ s.Denied w e := by
  constructor
  · intro failed
    rcases s.run_cases w with ⟨r, out⟩ | ⟨e', why, out⟩ | plain
    · rw [out] at failed
      cases failed
    · rw [out] at failed
      cases failed
      exact why
    · rw [failed] at plain
      cases plain
  · intro why
    rw [run, why.perform_eq]
    rfl

/-- An error leaves no trace. -/
lemma run_of_isError {s : Step} (error : (s.run w).1.answer.isError) :
    (s.run w).2 = w ∧ (s.run w).1.log = [] := by
  rcases s.run_cases w with ⟨r, out⟩ | ⟨e, -, out⟩ | plain
  · rw [out]
    exact ⟨rfl, rfl⟩
  · rw [out]
    exact ⟨rfl, rfl⟩
  · rw [plain] at error
    cases error

end Step

namespace World

/-- The requests of a run that are answered without an error. -/
def served (w : World) : List Step → List Step
  | [] => []
  | s :: ss =>
    if (s.run w).1.answer.isError then w.served ss else s :: (s.run w).2.served ss

/-- To leave out the requests that end in errors changes nothing for the others. -/
lemma run_served (w : World) (steps : List Step) :
    w.run (w.served steps) =
      ((w.run steps).1.filter fun line => !line.answer.isError, (w.run steps).2) := by
  induction steps generalizing w with
  | nil => rfl
  | cons s ss ih =>
    rw [served]
    split
    · rename_i error
      have same := (Step.run_of_isError error).1
      simp only [ih, run, same, List.filter_cons, error, Bool.not_true, Bool.false_eq_true,
        if_false]
    · rename_i plain
      simp only [run, ih, List.filter_cons, plain, Bool.not_false, if_true]

/-- An account is closed just when it has a time of closing, and just when it has been asked for
what closes it. -/
lemma isClosed_iff_of_run {steps : List Step} {slot : String} {a : Account}
    (here : (empty.run steps).2.accounts.find? slot = some a) :
    (a.isClosed ↔ a.closedAt ≠ none) ∧
      (a.isClosed ↔ (deedsOf a.number (empty.deeds steps)).any BlockStep.closes) := by
  rcases exists_life_run numbered_empty steps here with ⟨o, opened, life⟩ | ⟨j, b, before, -⟩
  · rw [← life.precedes.number] at life
    rw [eq_opened_of_mem_openings opened] at life
    constructor
    · rw [ne_eq, life.isConsistent_of_opened.closedAt_eq_none_iff, Bool.not_eq_false]
    · rw [Account.isClosed, life.session_eq, Account.opened]
      cases (deedsOf a.number (empty.deeds steps)).any BlockStep.closes <;> simp
  · cases before

end World

/-- In every house that a run leads to, the requests that fail are those with a reason to be denied,
and they fail for that reason: to remove a branch where there is none or a vault that is not in the
branch, to ask a closed account for its session, and to say goodbye to a customer in an unknown
language. An account is closed if and only if it was released, as its time of closing and all that
was asked of it tell. A request that fails or is turned away leaves the whole house as it was and
logs nothing; a run goes on as if it had never been made. -/
theorem errors_leave_no_trace (steps : List Step) :
    let w := (World.empty.run steps).2
    (∀ (s : Step) (e : Failure), (s.run w).1.answer = .failed e ↔ s.Denied w e) ∧
    (∀ slot a, w.accounts.find? slot = some a → (a.isClosed ↔ a.closedAt ≠ none) ∧
      (a.isClosed ↔ (deedsOf a.number (World.empty.deeds steps)).any BlockStep.closes)) ∧
    (∀ s : Step, (s.run w).1.answer.isError → (s.run w).2 = w ∧ (s.run w).1.log = []) ∧
    ∀ more, w.run (w.served more) =
      ((w.run more).1.filter fun line => !line.answer.isError, (w.run more).2) := by
  intro w
  exact ⟨fun s => s.failed_iff w, fun slot a here => World.isClosed_iff_of_run here,
    fun s => Step.run_of_isError, w.run_served⟩

/-- A bank without branches and an account that is closed: what they are asked for is denied. -/
theorem denied_requests_leave_no_trace :
    let steps : List Step :=
      [.bank (.founded "b" 8 "Bank" none none), .account (.opened "a" .savings 7 none),
        .account (.act "a" .close)]
    let w := (World.empty.run steps).2
    let a : Account := ⟨.savings, ⟨1⟩, 7, none, none, some 0⟩
    let removal := Step.bank (.removeBranch "b" 18446744073709551615)
    let session := Step.account (.act "a" .session)
    let misnamed := Step.account (.opened "c" .checking 9 (some "nobody"))
    w.accounts.find? "a" = some a ∧ a.isClosed ∧ a.closedAt ≠ none ∧
    (removal.run w).1.answer = .failed (.branchNotFound 18446744073709551615) ∧
    (session.run w).1.answer = .failed (.accountClosed a.identifier) ∧
    (removal.run w).2 = w ∧ (session.run w).2 = w ∧ (misnamed.run w).2 = w ∧
    (w.run (w.served [removal, misnamed, session])).2 = w := by
  intro steps w a removal session misnamed
  obtain ⟨failed, closed, unchanged, omitted⟩ := errors_leave_no_trace steps
  have here : w.accounts.find? "a" = some a := rfl
  have removed := (failed removal _).2 (.removeBranch "b" _ rfl _ (by decide))
  have asked := (failed session _).2 (.session "a" a here rfl)
  have same := (unchanged removal (by rw [removed]; rfl)).1
  refine ⟨here, rfl, (closed "a" a here).1.1 rfl, removed, asked, same,
    (unchanged session (by rw [asked]; rfl)).1, (unchanged misnamed rfl).1, ?_⟩
  rw [omitted]
  rfl

end Countinghouse
