import Countinghouse.Event
import Countinghouse.Failure
import Countinghouse.Json.Value

/-! Branches and the vaults in them. Neither ids nor addresses need be unique. -/
namespace Countinghouse

/-- Goes over all in order and changes each in its turn; a turn may depend on those before it. -/
def walk {σ α : Type} (turn : σ → α → α × σ) (s : σ) : List α → List α × σ
  | [] => ([], s)
  | a :: as =>
    let (changed, next) := turn s a
    let (rest, last) := walk turn next as
    (changed :: rest, last)

theorem walk_cons {σ α : Type} (turn : σ → α → α × σ) (s : σ) (a : α) (as : List α) :
    walk turn s (a :: as) =
      ((turn s a).1 :: (walk turn (turn s a).2 as).1, (walk turn (turn s a).2 as).2) := rfl

/-- Where no turn depends on another, a walk is a map. -/
theorem walk_unit {α : Type} (f : α → α) (as : List α) :
    walk (fun _ a => (f a, ())) () as = (as.map f, ()) := by
  induction as with
  | nil => rfl
  | cons a as ih => rw [walk_cons, ih, List.map_cons]

structure Vault where
  id : String
  occupied : Bool
deriving DecidableEq, Repr

namespace Vault

/-- A copy for another branch. -/
def duplicate (v : Vault) : Vault := ⟨v.id, v.occupied⟩

theorem duplicate_eq (v : Vault) : v.duplicate = v := rfl

def toJson (v : Vault) : Json.Value := .object [("id", .text v.id), ("occupied", .bool v.occupied)]

def inspect (v : Vault) : String :=
  Text.inspectRecord "Vault"
    [("id", Text.inspectText v.id), ("occupied", Text.inspectBool v.occupied)]

end Vault

/-- Vaults stand in the order of their installation. -/
structure Branch where
  address : String
  phoneNumber : String
  vaults : List Vault
deriving DecidableEq, Repr

namespace Branch

def bare (address phoneNumber : String) : Branch := ⟨address, phoneNumber, []⟩

/-- A copy for another bank, with copies of all vaults. -/
def duplicate (b : Branch) : Branch := ⟨b.address, b.phoneNumber, b.vaults.map Vault.duplicate⟩

theorem duplicate_eq (b : Branch) : b.duplicate = b := by
  rw [duplicate, List.map_id'' Vault.duplicate_eq]

def vaultCount (b : Branch) : Nat := b.vaults.length

def occupiedCount (b : Branch) : Nat := b.vaults.countP (·.occupied)

def available (b : Branch) : List Vault := b.vaults.filter (!·.occupied)

/-- The first vault with this id. -/
def vault? (b : Branch) (id : String) : Option Vault := b.vaults.find? (·.id == id)

def vaultIndex? (b : Branch) (id : String) : Option Nat := b.vaults.findIdx? (·.id == id)

/-- Changes the first vault with this id. -/
def updateVault (b : Branch) (id : String) (f : Vault → Vault) : Branch :=
  match b.vaultIndex? id with
  | some i => { b with vaults := b.vaults.modify i f }
  | none => b

def updateLastVault (b : Branch) (f : Vault → Vault) : Branch :=
  { b with vaults := b.vaults.modify (b.vaultCount - 1) f }

def walkVaults {σ : Type} (b : Branch) (turn : σ → Vault → Vault × σ) (s : σ) : Branch × σ :=
  let (vaults, last) := walk turn s b.vaults
  ({ b with vaults := vaults }, last)

def updateVaults (b : Branch) (f : Vault → Vault) : Branch :=
  (b.walkVaults (fun _ v => (f v, ())) ()).1

theorem updateVaults_eq (b : Branch) (f : Vault → Vault) :
    b.updateVaults f = { b with vaults := b.vaults.map f } := by
  simp only [updateVaults, walkVaults, walk_unit]

/-- A new vault stands last and is empty. -/
def installVault (b : Branch) (id : String) : Branch × Event :=
  ({ b with vaults := b.vaults ++ [⟨id, false⟩] }, .vaultInstalled b.address id)

/-- Removes the first vault with this id. -/
def removeVault (b : Branch) (id : String) : Except Failure (Branch × Event) :=
  match b.vaults.findIdx? (·.id == id) with
  | some i => .ok ({ b with vaults := b.vaults.eraseIdx i }, .vaultRemoved b.address id)
  | none => .error (.vaultNotFound id)

def toJson (b : Branch) : Json.Value :=
  .object [("address", .text b.address), ("phone_number", .text b.phoneNumber),
    ("vaults", .array (b.vaults.map Vault.toJson))]

def inspect (b : Branch) : String :=
  Text.inspectRecord "Branch"
    [("address", Text.inspectText b.address), ("phone_number", Text.inspectText b.phoneNumber),
      ("vaults", Text.inspectList (b.vaults.map Vault.inspect))]

@[simp] theorem vaultCount_installVault (b : Branch) (id : String) :
    (b.installVault id).1.vaultCount = b.vaultCount + 1 := by
  simp [installVault, vaultCount]

end Branch
end Countinghouse
