import Countinghouse.Proofs.Account.Life
import Countinghouse.Proofs.World.Openings

/-!
The accounts that stand in a house are accounts that its run opened, each after what the run asked
of it; so all that holds of the life of an account holds of every account in every run.
-/
namespace Countinghouse

/-- What was asked of the account with this number. -/
def deedsOf (n : Serial) (ds : List (Serial × BlockStep)) : List BlockStep :=
  (ds.filter (·.1 = n)).map (·.2)

lemma deedsOf_append (n : Serial) (ds es : List (Serial × BlockStep)) :
    deedsOf n (ds ++ es) = deedsOf n ds ++ deedsOf n es := by
  simp [deedsOf]

lemma deedsOf_eq_nil {n : Serial} {ds : List (Serial × BlockStep)} (others : ∀ d ∈ ds, d.1 ≠ n) :
    deedsOf n ds = [] := by
  simpa [deedsOf] using others

namespace World

/-- What a run asks of accounts. -/
def deeds (w : World) : List Step → List (Serial × BlockStep)
  | [] => []
  | s :: ss => s.deeds w ++ (s.run w).2.deeds ss

/-- Accounts bear different numbers, and none that is still to be handed out. -/
structure Numbered (w : World) : Prop where
  distinct : ∀ {i j a b}, w.accounts.find? i = some a → w.accounts.find? j = some b →
    a.number = b.number → i = j
  issued : ∀ {i a}, w.accounts.find? i = some a → a.number.number ≤ w.opened

variable {w w' : World} {os : List Account} {ds : List (Serial × BlockStep)} {log : List Event}

lemma numbered_empty : empty.Numbered where
  distinct there := by cases there
  issued there := by cases there

lemma Leads.numbered (led : Leads w os ds log w') (before : w.Numbered) : w'.Numbered := by
  obtain ⟨distinct, issued⟩ := before
  obtain ⟨-, -, accounts, opened⟩ | ⟨slot, a, -, -, number, accounts, opened⟩ |
    ⟨slot, a, step, b, there, -, -, life, accounts, opened⟩ | ⟨slot, -, -, accounts, opened⟩ :=
    led.accounts_cases
  · constructor
    · rw [accounts]
      exact distinct
    · rw [accounts, opened]
      exact issued
  · constructor
    · intro i j b c
      simp only [accounts, Slots.find?_put]
      grind
    · intro i b
      simp only [accounts, opened, Slots.find?_put]
      grind
  · have same := life.precedes.number
    constructor
    · intro i j c d
      simp only [accounts, Slots.find?_put]
      grind
    · intro i c
      simp only [accounts, opened, Slots.find?_put]
      grind
  · constructor
    · intro i j b c
      simp only [accounts, Slots.find?_clear]
      grind
    · intro i b
      simp only [accounts, opened, Slots.find?_clear]
      grind

/-- An account that stands in a house after a request was opened by it, or stood there before. -/
lemma Leads.exists_life (led : Leads w os ds log w') (numbered : w.Numbered) {i : String}
    {b : Account} (here : w'.accounts.find? i = some b) :
    (b ∈ os ∧ ds = []) ∨ ∃ j a, w.accounts.find? j = some a ∧ a.Life (deedsOf a.number ds) b := by
  obtain ⟨-, rfl, accounts, -⟩ | ⟨slot, a, rfl, rfl, -, accounts, -⟩ |
    ⟨slot, a, step, c, there, -, rfl, life, accounts, -⟩ | ⟨slot, -, rfl, accounts, -⟩ :=
    led.accounts_cases
  · rw [accounts] at here
    exact .inr ⟨i, b, here, .new⟩
  · rw [accounts, Slots.find?_put] at here
    split at here
    · cases here
      exact .inl ⟨List.mem_singleton_self _, rfl⟩
    · exact .inr ⟨i, b, here, .new⟩
  · rw [accounts, Slots.find?_put] at here
    split at here
    · cases here
      refine .inr ⟨slot, a, there, ?_⟩
      simpa [deedsOf] using life
    · rename_i elsewhere
      have other : a.number ≠ b.number := fun same =>
        elsewhere (numbered.distinct here there same.symm)
      refine .inr ⟨i, b, here, ?_⟩
      rw [deedsOf_eq_nil (by simpa using other)]
      exact .new
  · rw [accounts, Slots.find?_clear] at here
    split at here
    · cases here
    · exact .inr ⟨i, b, here, .new⟩

/-- Nothing is asked of an account before it is opened. -/
lemma Leads.number_of_mem_deeds (led : Leads w os ds log w') (numbered : w.Numbered)
    {d : Serial × BlockStep} (asked : d ∈ ds) :
    d.1.number ≤ w.opened := by
  obtain ⟨-, rfl, -, -⟩ | ⟨-, -, -, rfl, -, -, -⟩ | ⟨slot, a, step, c, there, -, rfl, -, -, -⟩ |
    ⟨-, -, rfl, -, -⟩ := led.accounts_cases
  · cases asked
  · cases asked
  · rw [List.mem_singleton.1 asked]
    exact numbered.issued there
  · cases asked

lemma exists_life_run (numbered : w.Numbered) (steps : List Step) {i : String}
    {b : Account} (here : (w.run steps).2.accounts.find? i = some b) :
    (∃ o ∈ w.openings steps, o.Life (deedsOf o.number (w.deeds steps)) b) ∨
      ∃ j a, w.accounts.find? j = some a ∧ a.Life (deedsOf a.number (w.deeds steps)) b := by
  induction steps generalizing w with
  | nil => exact .inr ⟨i, b, here, .new⟩
  | cons s ss ih =>
    have led := s.leads w
    rcases ih (led.numbered numbered) here with ⟨o, opened, life⟩ | ⟨j, a, there, life⟩
    · refine .inl ⟨o, List.mem_append_right _ opened, ?_⟩
      have new : ∀ d ∈ s.deeds w, d.1 ≠ o.number := by
        intro d asked same
        have old := led.number_of_mem_deeds numbered asked
        have later := lt_number_of_mem_openings opened
        rw [led.opened_eq.1, ← same] at later
        omega
      rw [deeds, deedsOf_append, deedsOf_eq_nil new, List.nil_append]
      exact life
    · rcases led.exists_life numbered there with ⟨new, none⟩ | ⟨k, c, before, first⟩
      · refine .inl ⟨a, List.mem_append_left _ new, ?_⟩
        rw [deeds, none, List.nil_append]
        exact life
      · refine .inr ⟨k, c, before, ?_⟩
        rw [deeds, deedsOf_append]
        rw [first.precedes.number] at life
        exact first.trans life

end World

/-- An account has its session, and no time of closing, until it is first closed; from then on it
has no session and keeps that time. The session given is the one it was opened with, and the
identifier, the letters of the kind and the number, is the same at any time. Inside blocks, up to
the first step that fails, and in whole runs accounts have no other life than this, and no two
accounts of a run have one identifier. -/
theorem account_lifecycle :
    (∀ (kind : AccountKind) (number : Serial) (id : Int64) (customer : Option Handle)
      (deeds : List BlockStep) (a : Account),
      (Account.opened kind number id customer).Life deeds a →
      (a.session.isSome ↔ a.closedAt = none) ∧ (a.closedAt = none ↔ a.isClosed = false) ∧
      a.currentSession = (if deeds.any BlockStep.closes then .error (.accountClosed a.identifier)
        else .ok number) ∧
      (kind = .checking → a.identifier = "CHK-" ++ number.label) ∧
      (kind = .savings → a.identifier = "SAV-" ++ number.label) ∧
      ∀ more b, a.Life more b → b.identifier = a.identifier ∧
        (∀ t, a.closedAt = some t → b.closedAt = some t) ∧ (a.isClosed → b.isClosed)) ∧
    (∀ (steps : List BlockStep) (v : Visit),
      ((runBlock steps v).failure = none →
        v.account.Life steps (runBlock steps v).visit.account) ∧
      ∀ e, (runBlock steps v).failure = some e → ∃ done s rest, steps = done ++ s :: rest ∧
        (runBlock done v).failure = none ∧ (s.run (runBlock done v).visit).failure = some e ∧
        v.account.Life (done ++ [s]) (runBlock steps v).visit.account) ∧
    ∀ steps : List Step, ((World.empty.openings steps).map Account.identifier).Nodup ∧
      ∀ slot a, (World.empty.run steps).2.accounts.find? slot = some a →
        ∃ o ∈ World.empty.openings steps, o = .opened o.kind o.number o.id o.customer ∧
          o.Life (deedsOf o.number (World.empty.deeds steps)) a := by
  refine ⟨?_, fun steps v => ⟨life_runBlock, fun e => exists_life_of_failure_runBlock⟩,
    fun steps => ⟨World.nodup_identifier_openings _ steps, ?_⟩⟩
  · intro kind number id customer deeds a life
    have consistent := life.isConsistent_of_opened
    have closed_iff := consistent.closedAt_eq_none_iff
    have named := life.precedes.identifier
    refine ⟨consistent, closed_iff, life.currentSession_eq,
      fun checking => named.trans (Account.identifier_of_checking checking),
      fun savings => named.trans (Account.identifier_of_savings savings), ?_⟩
    intro more b later
    have kept := later.precedes.kept
    refine ⟨later.precedes.identifier, fun t stamped => ?_, fun closed => (kept closed).1⟩
    have closed : a.isClosed := by
      by_contra isOpen
      rw [closed_iff.2 (Bool.not_eq_true _ ▸ isOpen)] at stamped
      cases stamped
    rw [(kept closed).2, stamped]
  · intro slot a here
    rcases World.exists_life_run World.numbered_empty steps here with ⟨o, opened, life⟩ |
      ⟨j, b, before, -⟩
    · exact ⟨o, opened, World.eq_opened_of_mem_openings opened, life⟩
    · cases before

/-- A savings account is closed, and closed again by a block that comes to no end: it asks for the
session before it would take another customer. -/
theorem closed_account_keeps_its_time :
    let o := Account.opened .savings ⟨1⟩ 7 none
    let a := ((BlockStep.act .close).run ⟨.empty, o, 5⟩).visit.account
    let inner : List BlockStep := [.act (.setId 9), .act .session, .act (.setCustomer none)]
    let block := BlockStep.scopedBlock inner false
    let b := (block.run ⟨.empty, a, 6⟩).visit.account
    let steps : List Step :=
      [.account (.opened "a" .savings 7 none), .account (.act "a" .close)]
    o.Life [.act .close] a ∧ a.Life [block] b ∧ a.closedAt = some 5 ∧
      a.currentSession = .error (.accountClosed a.identifier) ∧ a.identifier = "SAV-#1" ∧
      b.identifier = a.identifier ∧ b.closedAt = some 5 ∧
      (∃ done s rest, inner = done ++ s :: rest ∧
        a.Life (done ++ [s]) (runBlock inner ⟨.empty, a, 6⟩).visit.account) ∧
      ∀ c ∈ (World.empty.run steps).2.accounts.find? "a", ∃ o ∈ World.empty.openings steps,
        o.Life (deedsOf o.number (World.empty.deeds steps)) c := by
  intro o a inner block b steps
  have life : o.Life [.act .close] a := .asked .new (.act .close) .empty 5
  have later : a.Life [block] b := .asked .new block .empty 6
  obtain ⟨-, -, session, -, named, keeps⟩ := account_lifecycle.1 .savings ⟨1⟩ 7 none _ a life
  obtain ⟨same, time, -⟩ := keeps _ b later
  obtain ⟨done, s, rest, split, -, -, reached⟩ :=
    (account_lifecycle.2.1 inner ⟨.empty, a, 6⟩).2 (.accountClosed "SAV-#1") (by decide)
  refine ⟨life, later, rfl, session, named rfl, same, time 5 rfl, ⟨done, s, rest, split, reached⟩,
    fun c here => ?_⟩
  obtain ⟨o, opened, -, lived⟩ := (account_lifecycle.2.2 steps).2 "a" c here
  exact ⟨o, opened, lived⟩

end Countinghouse
