import Countinghouse.Account.Block
import Countinghouse.World

/-! Requests about accounts, which are named by their slots. -/
namespace Countinghouse

inductive AccountStep
  | opened (slot : String) (kind : AccountKind) (id : Int64) (customer : Option String)
  | act (slot : String) (a : Act)
  | drop (slot : String)
  | scopedBlock (slot : String) (steps : List BlockStep)

namespace AccountStep

def perform (step : AccountStep) (w : World) : Reply World :=
  match step with
  | opened slot kind id customer =>
    (w.people.resolveOptional .customer customer).map fun h =>
      let (a, held) := w.openAccount kind id h
      let (w', log) := held.putAccount slot a
      .logged (.account (Visit.view ⟨w'.people, a, w'.clock⟩)) log w'
  | act slot a =>
    match w.visit slot with
    | .error r => .error r
    | .ok v => (a.perform v).map fun o => ⟨o.answer, o.log, w.afterVisit slot o.state⟩
  | drop slot =>
    (w.visit slot).map fun v =>
      let (w', log) := w.discardAccount v.account
      .logged .dropped log { w' with accounts := w'.accounts.clear slot }
  | scopedBlock slot steps =>
    (w.visit slot).map fun v =>
      let p := runScoped (runBlock steps) v
      .logged (.block p.answers p.result (some p.visit.view)) p.log (w.afterVisit slot p.visit)

end AccountStep
end Countinghouse
