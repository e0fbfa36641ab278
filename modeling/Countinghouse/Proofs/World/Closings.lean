import Countinghouse.Proofs.Slots.Totals
import Countinghouse.Proofs.World.Openings
import Mathlib.Data.Multiset.AddSub
import Mathlib.Data.Multiset.Count
import Mathlib.Data.Multiset.Filter

/-!
The closing of every account is reported once. The reports still to come of a house, together with
those already made, are always those of the accounts that were opened; a house that is closed down
has no report to come.
-/
namespace Countinghouse

namespace Account

/-- The report of an account's closing. -/
def closing (a : Account) : Event := .accountClosed a.kind a.identifier

/-- The report still to come of an account. -/
def pending (a : Account) : Multiset Event := if a.isClosed then 0 else {a.closing}

lemma closing_inj {a b : Account} : a.closing = b.closing ↔ a.identifier = b.identifier := by
  constructor
  · intro h
    exact (Event.accountClosed.inj h).2
  · intro h
    simp only [closing, h, (identifier_inj.1 h).1]

lemma pending_of_isClosed {a : Account} (closed : a.isClosed = true) : a.pending = 0 :=
  if_pos closed

lemma mem_pending {a : Account} {e : Event} :
    e ∈ a.pending ↔ a.isClosed = false ∧ e = a.closing := by
  cases open? : a.isClosed <;> simp [pending, open?]

end Account

/-- The reports of closings in a log. -/
def closings (log : List Event) : Multiset Event := ↑(log.filter (·.level = .info))

@[simp] lemma closings_nil : closings [] = 0 := rfl

@[simp] lemma closings_append (log rest : List Event) :
    closings (log ++ rest) = closings log + closings rest := by
  simp [closings]

lemma closings_of_debug {log : List Event} (quiet : ∀ e ∈ log, e.level = .debug) :
    closings log = 0 := by
  simp only [closings, Multiset.coe_eq_zero, List.filter_eq_nil_iff]
  intro e member
  simp [quiet e member]

lemma mem_closings {log : List Event} {a : Account} :
    a.closing ∈ closings log ↔ a.closing ∈ log := by
  simp [closings, Account.closing, Event.level]

namespace Visit

/-- A closing makes the report that is still to come, and none is to come after it. -/
lemma closings_close (v : Visit) :
    v.account.pending = v.close.1.account.pending + closings v.close.2 := by
  cases session : v.account.session with
  | none => simp [close, session]
  | some s =>
    simp [close, session, Account.pending, Account.isClosed, Account.released, closings,
      Event.level, Account.closing]

lemma Leads.conserves {v v' : Visit} {log : List Event} (led : Leads v log v') :
    v.account.pending = v'.account.pending + closings log := by
  induction led with
  | stayed v => rw [closings_nil, add_zero]
  | closed v => exact v.closings_close
  | renumbered v id => rw [closings_nil, add_zero]; rfl
  | assigned v h known => rw [closings_nil, add_zero]; rfl
  | renamed v name =>
    rw [closings_nil, add_zero, renameCustomer]
    split <;> rfl
  | andThen first next ihFirst ihNext =>
    rw [ihFirst, ihNext, closings_append, add_assoc, add_comm (closings _)]

end Visit

namespace World

variable {w w' : World} {os : List Account} {ds : List (Serial × BlockStep)} {log : List Event}

/-- The reports still to come of a house. -/
def pending (w : World) : Multiset Event := w.accounts.total Account.pending

/-- Somewhere in the house stands an open account with this identifier. -/
def HasOpen (w : World) (identifier : String) : Prop :=
  ∃ a ∈ w.accounts.values, a.identifier = identifier ∧ a.isClosed = false

lemma closings_discardAccount (w : World) (a : Account) :
    closings (w.discardAccount a).2 = a.pending := by
  have made := Visit.closings_close ⟨w.people, a, w.clock⟩
  have none := Visit.isClosed_close ⟨w.people, a, w.clock⟩
  rw [Account.pending_of_isClosed none, zero_add] at made
  exact made.symm

lemma closings_putAccount (w : World) (slot : String) (a : Account) :
    closings (w.putAccount slot a).2 = (w.accounts.find? slot).elim 0 Account.pending := by
  simp only [putAccount]
  split
  · rename_i here
    simp [here]
  · rename_i old here
    simp [here, closings_discardAccount]

/-- Reports to come and accounts newly opened are accounted for by reports to come and made. -/
lemma Leads.conserves (led : Leads w os ds log w') :
    w.pending + ↑(os.map Account.closing) = w'.pending + closings log := by
  cases led with
  | opened slot kind id h known =>
    have added := Slots.total_put Account.pending w.accounts slot (w.openAccount kind id h).1
    have new : (w.openAccount kind id h).1.pending = {(w.openAccount kind id h).1.closing} := rfl
    rw [pending, pending, accounts_putAccount, closings_putAccount]
    simp only [openAccount] at added new ⊢
    rw [added, new, add_comm]
    rfl
  | visited slot v here block =>
    obtain ⟨a, there, rfl⟩ := exists_account_of_visit? here
    have changed := Slots.total_put Account.pending w.accounts slot
      (block.run ⟨w.people, a, w.clock⟩).visit.account
    have kept := (block.leads_run ⟨w.people, a, w.clock⟩).conserves
    rw [there, Option.elim_some, kept, add_left_comm] at changed
    have balance := add_left_cancel changed
    simp only [pending, afterVisit, List.map_nil, Multiset.coe_nil, add_zero, ← balance]
  | accountDropped slot a here =>
    have cleared := Slots.total_clear Account.pending w.accounts slot
    rw [here, Option.elim_some] at cleared
    simp only [pending, accounts_discardAccount, closings_discardAccount, cleared, List.map_nil,
      Multiset.coe_nil, add_zero]
  | bankChanged slot b b' log here customer teller quiet =>
    rw [closings_of_debug quiet]
    rfl
  | founded slot b customer teller => simp [pending]
  | cloned source slot b here => simp [pending]
  | _ => rfl

lemma closing_mem_pending {a : Account} :
    a.closing ∈ w.pending ↔ w.HasOpen a.identifier := by
  simp only [pending, HasOpen, Slots.mem_total, Account.mem_pending, Account.closing_inj]
  constructor
  · rintro ⟨b, member, isOpen, same⟩
    exact ⟨b, member, same.symm, isOpen⟩
  · rintro ⟨b, member, same, isOpen⟩
    exact ⟨b, member, isOpen, same.symm⟩

/-- What a request opens is still open when the request is done. -/
lemma Leads.mem_pending_of_opened (led : Leads w os ds log w') {e : Event}
    (new : e ∈ os.map Account.closing) : e ∈ w'.pending := by
  cases led with
  | opened slot kind id h known =>
    rw [List.map_singleton, List.mem_singleton] at new
    rw [new, closing_mem_pending]
    refine ⟨_, Slots.mem_values_iff.2 ⟨slot, ?_⟩, rfl, rfl⟩
    rw [accounts_putAccount, Slots.find?_put, if_pos rfl]
  | _ => cases new

end World

/-- A line of a transcript between the house before it and the house after it. -/
structure Passage where
  before : World
  entry : Entry
  after : World

namespace World

def passages (w : World) : List Step → List Passage
  | [] => [⟨w, ⟨.ending w.closeDown.1.holdings, w.closeDown.2⟩, w.closeDown.1⟩]
  | s :: ss => ⟨w, (s.run w).1, (s.run w).2⟩ :: (s.run w).2.passages ss

lemma entry_passages (w : World) (steps : List Step) :
    (w.passages steps).map Passage.entry =
      (w.run steps).1 ++
        [⟨.ending (w.run steps).2.closeDown.1.holdings, (w.run steps).2.closeDown.2⟩] := by
  induction steps generalizing w with
  | nil => rfl
  | cons s ss ih => simp only [passages, run, List.map_cons, ih, List.cons_append]

lemma closings_discardEach (w : World) (as : List Account) :
    closings (w.discardEach as).2 = (as.map Account.pending).sum := by
  induction as generalizing w with
  | nil => rfl
  | cons a as ih =>
    simp only [discardEach, closings_append, closings_discardAccount, ih, List.map_cons,
      List.sum_cons]

lemma closings_closeDown (w : World) : closings w.closeDown.2 = w.pending := by
  simp only [closeDown, discardAccounts, closings_discardEach, accounts_discardBanks]
  rfl

lemma pending_closeDown (w : World) : w.closeDown.1.pending = 0 := Slots.total_empty _

/-- All reports of a run, and those still to come before it, are those of the accounts opened. -/
lemma closings_passages (w : World) (steps : List Step) :
    closings ((w.passages steps).flatMap fun p => p.entry.log) =
      w.pending + ↑((w.openings steps).map Account.closing) := by
  induction steps generalizing w with
  | nil => simp [passages, openings, closings_closeDown]
  | cons s ss ih =>
    have balance := (s.leads w).conserves
    simp only [passages, openings, List.flatMap_cons, closings_append, ih, List.map_append]
    rw [← Multiset.coe_add, ← add_assoc (pending w), balance, ← add_assoc, add_comm (closings _)]

/-- A report is made in the passage in which its account goes from open to closed. -/
lemma closing_mem_passage {w : World} {steps : List Step} {a : Account}
    (once : (w.pending + ↑((w.openings steps).map Account.closing)).count a.closing ≤ 1)
    {p : Passage} (member : p ∈ w.passages steps) :
    a.closing ∈ p.entry.log ↔
      p.before.HasOpen a.identifier ∧ ¬ p.after.HasOpen a.identifier := by
  rw [← mem_closings, ← closing_mem_pending, ← closing_mem_pending]
  induction steps generalizing w with
  | nil =>
    cases List.mem_singleton.1 member
    simp [closings_closeDown, pending_closeDown]
  | cons s ss ih =>
    have balance := congrArg (Multiset.count a.closing) (s.leads w).conserves
    simp only [openings, List.map_append, ← Multiset.coe_add, Multiset.count_add] at once balance
    rcases List.mem_cons.1 member with rfl | later
    · have new : 0 < Multiset.count a.closing ↑((s.openings w).map Account.closing) →
          0 < Multiset.count a.closing (s.run w).2.pending := by
        rw [Multiset.count_pos, Multiset.count_pos]
        exact (s.leads w).mem_pending_of_opened
      simp only [← Multiset.count_pos]
      omega
    · refine ih ?_ later
      rw [Multiset.count_add]
      omega

end World

/-- An event for the operators that bears this identifier. -/
def Event.reportsOn (identifier : String) (e : Event) : Bool :=
  e.level = .info ∧ ("identifier", .text identifier) ∈ e.fields

lemma Event.reportsOn_iff {identifier : String} {e : Event} :
    e.reportsOn identifier ↔ ∃ kind, e = .accountClosed kind identifier := by
  cases e <;> simp [reportsOn, level, fields, eq_comm]

lemma Account.reportsOn_closing {a b : Account} :
    b.closing.reportsOn a.identifier ↔ b.closing = a.closing := by
  rw [Event.reportsOn_iff, closing_inj]
  constructor
  · rintro ⟨kind, same⟩
    exact (Event.accountClosed.inj same).2
  · intro same
    exact ⟨b.kind, congrArg _ same⟩

lemma transcript_eq_passages (steps : List Step) :
    (World.empty.passages steps).map Passage.entry = transcript steps :=
  World.entry_passages World.empty steps

/-- The reports in a transcript are those of the accounts opened, each as often as it was opened. -/
lemma closings_transcript (steps : List Step) :
    closings ((transcript steps).flatMap Entry.log) =
      ↑((World.empty.openings steps).map Account.closing) := by
  rw [← transcript_eq_passages, List.flatMap_map, World.closings_passages]
  exact zero_add _

lemma nodup_closing_openings (w : World) (steps : List Step) :
    ((w.openings steps).map Account.closing).Nodup := by
  refine List.pairwise_map.2 ((List.pairwise_map.1 (w.nodup_identifier_openings steps)).imp ?_)
  intro a b other same
  exact other (Account.closing_inj.1 same)

/-- A log that holds just these reports holds one that bears the identifier of each. -/
lemma filter_reportsOn {log : List Event} {as : List Account} {a : Account}
    (reports : closings log = ↑(as.map Account.closing)) (once : (as.map Account.closing).Nodup)
    (member : a ∈ as) : log.filter (Event.reportsOn a.identifier) = [a.closing] := by
  rw [← Multiset.coe_eq_singleton]
  calc (↑(log.filter (Event.reportsOn a.identifier)) : Multiset Event)
      = (closings log).filter (·.reportsOn a.identifier) := by
        rw [closings, Multiset.filter_coe, List.filter_filter]
        refine congrArg _ (List.filter_congr fun e _ => ?_)
        cases reported : e.reportsOn a.identifier with
        | false => rfl
        | true =>
          obtain ⟨kind, rfl⟩ := Event.reportsOn_iff.1 reported
          simp [Event.level]
    _ = (↑(as.map Account.closing) : Multiset Event).filter (· = a.closing) := by
        rw [reports]
        apply Multiset.filter_congr
        intro e known
        obtain ⟨b, -, rfl⟩ := List.mem_map.1 (Multiset.mem_coe.1 known)
        exact Account.reportsOn_closing
    _ = {a.closing} := by
        rw [Multiset.filter_eq', Multiset.coe_count,
          List.count_eq_one_of_mem once (List.mem_map_of_mem member), Multiset.replicate_one]

lemma Account.message_closing (a : Account) :
    (a.kind = .checking → a.closing.message = "checking account closed") ∧
    (a.kind = .savings → a.closing.message = "savings account closed") := by
  constructor
  · intro kind
    rw [closing, Event.message, kind]
    rfl
  · intro kind
    rw [closing, Event.message, kind]
    rfl

/-- Every account opened in a run is reported closed once, in the words for its kind, in the request
(or in the closing down) that finds it open and does not leave it so; nothing else is reported. -/
theorem each_account_reported_closed_once (steps : List Step) :
    (World.empty.passages steps).map Passage.entry = transcript steps ∧
    (∀ a ∈ World.empty.openings steps,
      ((transcript steps).flatMap Entry.log).filter (Event.reportsOn a.identifier) = [a.closing] ∧
      (a.kind = .checking → a.closing.message = "checking account closed") ∧
      (a.kind = .savings → a.closing.message = "savings account closed") ∧
      ∀ p ∈ World.empty.passages steps, a.closing ∈ p.entry.log ↔
        p.before.HasOpen a.identifier ∧ ¬ p.after.HasOpen a.identifier) ∧
    ∀ e ∈ (transcript steps).flatMap Entry.log, e.level = .info →
      ∃ a ∈ World.empty.openings steps, e = a.closing := by
  have reports := closings_transcript steps
  have once := nodup_closing_openings World.empty steps
  refine ⟨transcript_eq_passages steps, fun a opened => ⟨?_, a.message_closing.1,
    a.message_closing.2, fun p member => ?_⟩, ?_⟩
  · exact filter_reportsOn reports once opened
  · refine World.closing_mem_passage ?_ member
    have none : World.empty.pending = 0 := Slots.total_empty _
    rw [none, zero_add, Multiset.coe_count]
    exact List.nodup_iff_count_le_one.1 once _
  · intro e member level
    have reported : e ∈ closings ((transcript steps).flatMap Entry.log) :=
      Multiset.mem_coe.2 (List.mem_filter.2 ⟨member, by simp [level]⟩)
    rw [reports, Multiset.mem_coe] at reported
    obtain ⟨a, opened, rfl⟩ := List.mem_map.1 reported
    exact ⟨a, opened, rfl⟩

/-- A savings account that a failing block closes twice, and that is then replaced. -/
theorem replaced_account_reported_closed_once :
    let steps : List Step :=
      [.account (.opened "a" .savings 7 none),
        .account (.scopedBlock "a" [.scopedBlock [.act .close] false, .act .session]),
        .account (.opened "a" .checking 8 none)]
    let a := Account.opened .savings ⟨1⟩ 7 none
    let log := (transcript steps).flatMap Entry.log
    a ∈ World.empty.openings steps ∧ log.filter (Event.reportsOn a.identifier) = [a.closing] ∧
      a.closing.message = "savings account closed" ∧
      ∀ p ∈ ((World.empty.passages steps)[1]?), a.closing ∈ p.entry.log ∧
        p.before.HasOpen a.identifier ∧ ¬ p.after.HasOpen a.identifier := by
  intro steps a log
  have opened : a ∈ World.empty.openings steps := by decide
  obtain ⟨once, -, message, passage⟩ := (each_account_reported_closed_once steps).2.1 a opened
  refine ⟨opened, once, message rfl, fun p second => ?_⟩
  have member : p ∈ World.empty.passages steps := List.mem_of_getElem? second
  have reported : a.closing ∈ p.entry.log := by
    cases second
    decide
  exact ⟨reported, (passage p member).1 reported⟩

end Countinghouse
