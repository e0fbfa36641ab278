import Countinghouse.Account.Block
import Countinghouse.Proofs.People.Leads

/-!
What an account may go through at the counter. Every action and every block, however deeply blocks
are nested in it, is a chain of the few moves listed here.
-/
namespace Countinghouse

inductive Visit.Leads : Visit → List Event → Visit → Prop
  | stayed (v : Visit) : Leads v [] v
  | closed (v : Visit) : Leads v v.close.2 v.close.1
  | renumbered (v : Visit) (id : Int64) : Leads v [] (v.setId id)
  | assigned (v : Visit) (h : Option Handle) (known : ∀ k ∈ h, v.people.Knows .customer k) :
      Leads v [] (v.setCustomer h)
  | renamed (v : Visit) (name : String) : Leads v [] (v.renameCustomer name)
  | andThen {u v w : Visit} {log rest : List Event} (first : Leads u log v)
      (next : Leads v rest w) : Leads u (log ++ rest) w

namespace Visit

lemma isClosed_close (v : Visit) : v.close.1.account.isClosed = true := by
  cases session : v.account.session with
  | none => simp [close, session, Account.isClosed]
  | some s => simp [close, session, Account.isClosed, Account.released]

lemma level_of_mem_close {v : Visit} {e : Event} (member : e ∈ v.close.2) : e.level = .info := by
  cases session : v.account.session with
  | none =>
    rw [close, session] at member
    cases member
  | some s =>
    rw [close, session] at member
    rw [List.mem_singleton.1 member]
    rfl

/-- Of an account nothing is logged but its closing. -/
lemma Leads.level_of_mem {v v' : Visit} {log : List Event} (led : Leads v log v') {e : Event}
    (member : e ∈ log) : e.level = .info := by
  induction led with
  | closed v => exact level_of_mem_close member
  | andThen first next ihFirst ihNext =>
    rcases List.mem_append.1 member with earlier | later
    · exact ihFirst earlier
    · exact ihNext later
  | _ => cases member

lemma Leads.close_after {u v : Visit} {log : List Event} (led : Leads u log v) :
    Leads u (log ++ v.close.2) v.close.1 :=
  led.andThen (.closed v)

lemma leads_of_perform {v : Visit} {a : Act} {o : Outcome Visit} (done : a.perform v = .ok o) :
    v.Leads o.log o.state := by
  cases a with
  | setCustomer slot =>
    obtain ⟨h, found, rfl⟩ := exists_of_map_eq_ok done
    exact .assigned v h (People.knows_of_resolveOptional found)
  | setId id =>
    cases done
    exact .renumbered v id
  | renameCustomer name =>
    cases done
    exact .renamed v name
  | close =>
    cases done
    exact .closed v
  | get =>
    cases done
    exact .stayed v
  | identifier =>
    cases done
    exact .stayed v
  | session =>
    cases done
    exact .stayed v

end Visit

namespace Progress

lemma log_ofReply_ok (v : Visit) (o : Outcome Visit) : (ofReply v (.ok o)).log = o.log := by
  obtain ⟨answer, log, state⟩ := o
  cases answer <;> rfl

lemma visit_ofReply_ok (v : Visit) (o : Outcome Visit) : (ofReply v (.ok o)).visit = o.state := by
  obtain ⟨answer, log, state⟩ := o
  cases answer <;> rfl

lemma leads_ofReply {v : Visit} (a : Act) :
    v.Leads (ofReply v (a.perform v)).log (ofReply v (a.perform v)).visit := by
  cases done : a.perform v with
  | error r => exact .stayed v
  | ok o =>
    rw [log_ofReply_ok, visit_ofReply_ok]
    exact Visit.leads_of_perform done

end Progress

lemma leads_sayGoodbye (language : String) (v : Visit) :
    v.Leads (sayGoodbye language v).log (sayGoodbye language v).visit := by
  simp only [sayGoodbye]
  split
  · exact .stayed v
  · split
    · exact .stayed v
    · exact .stayed v

lemma Progress.leads_andThen {v : Visit} {p : Progress} {next : Visit → Progress}
    (first : v.Leads p.log p.visit)
    (later : p.visit.Leads (next p.visit).log (next p.visit).visit) :
    v.Leads (p.andThen next).log (p.andThen next).visit := by
  simp only [andThen]
  split
  · exact first
  · exact first.andThen later

mutual

lemma BlockStep.leads_run : (step : BlockStep) → (v : Visit) →
    v.Leads (step.run v).log (step.run v).visit
  | .act a, _ => Progress.leads_ofReply a
  | .goodbye language, v => leads_sayGoodbye language v
  | .fail _, v => .stayed v
  | .scopedBlock steps _, v => (leads_runBlock steps v).close_after
  | .malformed, v => .stayed v

/-- A block that fails has still gone the way up to its failure. -/
lemma leads_runBlock : (steps : List BlockStep) → (v : Visit) →
    v.Leads (runBlock steps v).log (runBlock steps v).visit
  | [], v => .stayed v
  | step :: steps, v =>
    Progress.leads_andThen (step.leads_run v) (leads_runBlock steps (step.run v).visit)

end

end Countinghouse
