import Countinghouse.Proofs.Account.Acts
import Countinghouse.Proofs.World.Closings

/-!
A scoped block is the block and then a closing, at every depth: the result is the block's own,
what was done before a failure stays done, and of the account's closing one report is made if it was
open when the block began.
-/
namespace Countinghouse

namespace Visit

lemma close_of_isClosed {v : Visit} (closed : v.account.isClosed = true) : v.close = (v, []) := by
  simp only [close, Option.isNone_iff_eq_none.1 closed]

/-- Whatever leads to a closed account has reported its closing, unless it was closed before. -/
lemma Leads.log_eq {v v' : Visit} {log : List Event} (led : Leads v log v')
    (closed : v'.account.isClosed = true) :
    log = if v.account.isClosed then [] else [v.account.closing] := by
  have balance := led.conserves
  rw [Account.pending_of_isClosed closed, zero_add] at balance
  have all : log.filter (·.level = .info) = log :=
    List.filter_eq_self.2 fun e member => by simp [led.level_of_mem member]
  rw [closings, all, Account.pending] at balance
  split at balance
  · rename_i before
    rw [if_pos before]
    exact (Multiset.coe_eq_zero log).1 balance.symm
  · rename_i before
    rw [if_neg before]
    exact Multiset.coe_eq_singleton.1 balance.symm

end Visit

lemma runScoped_of_isClosed {block : Visit → Progress} {v : Visit}
    (closed : (block v).visit.account.isClosed = true) : runScoped block v = block v := by
  simp only [runScoped, Visit.close_of_isClosed closed, List.append_nil]

lemma log_runScoped (steps : List BlockStep) (v : Visit) :
    (runScoped (runBlock steps) v).log = if v.account.isClosed then [] else [v.account.closing] :=
  (leads_runBlock steps v).close_after.log_eq (Visit.isClosed_close _)

/-- A scoped block has the result of the block: that of the first step to fail, behind which
nothing is done, or none. It leaves the account as the acts do that the block came to and a closing
behind them, so an account that the block left closed stays as it is; and one closing is reported
if the account was open. So it is at the counter, within blocks and for the house. -/
theorem scoped_block_closes_behind (steps : List BlockStep) (v : Visit) :
    let block := runBlock steps v
    let whole := runScoped (runBlock steps) v
    whole.answers = block.answers ∧ whole.result = block.result ∧
    (∀ e, whole.result = .error e ↔
      ∃ done s rest, steps = done ++ s :: rest ∧ (runBlock done v).failure = none ∧
        (s.run (runBlock done v).visit).failure = some e ∧
        block = (runBlock done v).andThen s.run) ∧
    whole.visit = block.visit.close.1 ∧ whole.visit.account.isClosed ∧
    whole.effect = v.doAll (blockActs steps v ++ [.close]) ∧
    (block.visit.account.isClosed → whole = block) ∧
    (whole.log = if v.account.isClosed then [] else [v.account.closing]) ∧
    (∀ caught, (BlockStep.scopedBlock steps caught).run v =
      ⟨[.block block.answers block.result none], if caught then none else block.failure,
        whole.log, whole.visit⟩) ∧
    ∀ w slot, w.visit? slot = some v → (Step.account (.scopedBlock slot steps)).run w =
      (⟨.block block.answers block.result (some whole.visit.view), whole.log⟩,
        w.afterVisit slot whole.visit) := by
  intro block whole
  refine ⟨rfl, rfl, fun e => ?_, rfl, Visit.isClosed_close _, ?_, runScoped_of_isClosed,
    log_runScoped steps v, fun caught => rfl, ?_⟩
  · exact Progress.result_eq_error_iff.trans failure_runBlock_iff
  · exact (effect_runScoped (doAll_blockActs steps v)).symm
  · intro w slot here
    have found : w.visit slot = .ok v := by simp only [World.visit, here]
    simp only [Step.run, Step.perform, AccountStep.perform, found]
    rfl

/-- A savings account closed by an inner block that fails, attached to its customer again, and asked
for its session. -/
theorem failed_block_keeps_reattached_customer :
    let w := (World.empty.run [.person (.introduce "p" (.customer ⟨1, "Ada"⟩)),
      .account (.opened "a" .savings 7 (some "p"))]).2
    let v : Visit := ⟨w.people, .opened .savings ⟨1⟩ 7 (some ⟨0⟩), 0⟩
    let steps : List BlockStep :=
      [.scopedBlock [.act (.setId 5), .fail (.vaultNotFound "x"), .act (.setId 6)] true,
        .act (.setCustomer (some "p")), .act .session, .act (.setId 9)]
    let block := runBlock steps v
    let whole := runScoped (runBlock steps) v
    w.visit? "a" = some v ∧
    (Step.account (.scopedBlock "a" steps)).run w =
      (⟨.block block.answers block.result (some whole.visit.view), whole.log⟩,
        w.afterVisit "a" whole.visit) ∧
    whole.failure = some (.accountClosed "SAV-#1") ∧ whole.visit.account.id = 5 ∧
    whole.visit.account.customer = some ⟨0⟩ ∧ whole.visit.account.closedAt = some 0 ∧
    whole.log = [.accountClosed .savings "SAV-#1"] := by
  intro w v steps block whole
  have here : w.visit? "a" = some v := by decide
  obtain ⟨-, -, -, -, -, -, -, log, -, request⟩ := scoped_block_closes_behind steps v
  exact ⟨here, request w "a" here, by decide, by decide, by decide, by decide,
    log.trans (by decide)⟩

end Countinghouse
