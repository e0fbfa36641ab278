import Countinghouse.Account.Kind

/-! What the house writes into its log. -/
namespace Countinghouse

inductive Level
  | debug
  | info
deriving DecidableEq, Repr

def Level.name : Level → String
  | debug => "DEBUG"
  | info => "INFO"

inductive Event
  | branchOpened (bank address : String)
  | vaultInstalled (branch vault : String)
  | vaultRemoved (branch vault : String)
  | branchRemoved (bank address : String) (vaults : Nat)
  | accountClosed (kind : AccountKind) (identifier : String)
deriving DecidableEq, Repr

/-- What a field of an event holds. -/
inductive Event.Content
  | text (s : String)
  | count (n : Nat)
deriving DecidableEq, Repr

namespace Event

def level : Event → Level
  | accountClosed _ _ => .info
  | _ => .debug

def message : Event → String
  | branchOpened _ _ => "branch opened"
  | vaultInstalled _ _ => "vault installed"
  | vaultRemoved _ _ => "vault removed"
  | branchRemoved _ _ _ => "branch removed"
  | accountClosed kind _ => kind.word ++ " account closed"

def fields : Event → List (String × Content)
  | branchOpened bank address => [("bank", .text bank), ("address", .text address)]
  | vaultInstalled branch vault => [("branch", .text branch), ("vault", .text vault)]
  | vaultRemoved branch vault => [("branch", .text branch), ("vault", .text vault)]
  | branchRemoved bank address vaults =>
    [("bank", .text bank), ("address", .text address), ("vaults", .count vaults)]
  | accountClosed _ identifier => [("identifier", .text identifier)]

end Event
end Countinghouse
