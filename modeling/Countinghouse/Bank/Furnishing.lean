import Countinghouse.Bank.Branch

/-! Branches furnished with vaults, and other changes to what a branch holds. -/
namespace Countinghouse

/-- A vault for a new branch: installed under `id`, then occupied and renamed if so wished. -/
structure VaultPlan where
  id : String
  occupied : Option Bool
  rename : Option String
deriving DecidableEq, Repr

namespace Vault

def setOccupied (occupied : Bool) (v : Vault) : Vault := { v with occupied := occupied }

def setId (id : String) (v : Vault) : Vault := { v with id := id }

/-- What a plan asks for beyond the installation. -/
def follow (plan : VaultPlan) (v : Vault) : Vault :=
  ⟨plan.rename.getD v.id, plan.occupied.getD v.occupied⟩

end Vault

namespace Branch

def fill (b : Branch) (occupied : Bool) : Branch := b.updateVaults (.setOccupied occupied)

/-- Installs vaults one after the other, each event showing the first id. -/
def furnish (b : Branch) : List VaultPlan → Branch × List Event
  | [] => (b, [])
  | plan :: plans =>
    let (installed, event) := b.installVault plan.id
    let (furnished, log) := (installed.updateLastVault (.follow plan)).furnish plans
    (furnished, event :: log)

end Branch

/-- What can be changed about a branch. -/
inductive BranchChange
  | setAddress (address : String)
  | setPhoneNumber (phoneNumber : String)
  | installVault (id : String) (occupied : Option Bool)
  | removeVault (id : String)
  | fill (occupied : Bool)
  | labelVaults (front : String)
deriving DecidableEq, Repr

def BranchChange.apply (c : BranchChange) (b : Branch) : Except Failure (Branch × List Event) :=
  match c with
  | setAddress address => .ok ({ b with address := address }, [])
  | setPhoneNumber phoneNumber => .ok ({ b with phoneNumber := phoneNumber }, [])
  | installVault id occupied => .ok (b.furnish [⟨id, occupied, none⟩])
  | removeVault id => (b.removeVault id).map fun r => (r.1, [r.2])
  | fill occupied => .ok (b.fill occupied, [])
  | labelVaults front => .ok (b.updateVaults fun v => v.setId (front ++ v.id), [])

end Countinghouse
