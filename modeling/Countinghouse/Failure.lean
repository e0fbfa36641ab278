import Countinghouse.Decimal.Numeral
import Countinghouse.Text.Inspect

/-! The four ways in which the house refuses a service. -/
namespace Countinghouse

inductive Failure
  | unsupportedLanguage (language : String)
  | accountClosed (identifier : String)
  | branchNotFound (index : UInt64)
  | vaultNotFound (id : String)
deriving DecidableEq, Repr

namespace Failure

def kind : Failure → String
  | unsupportedLanguage _ => "UnsupportedLanguage"
  | accountClosed _ => "AccountClosed"
  | branchNotFound _ => "BranchNotFound"
  | vaultNotFound _ => "VaultNotFound"

def message : Failure → String
  | unsupportedLanguage language => "unsupported language '" ++ language ++ "'"
  | accountClosed identifier => "account " ++ identifier ++ " is closed"
  | branchNotFound index => "no branch at index " ++ String.ofList (Decimal.digits index.toNat)
  | vaultNotFound id => "vault not found: " ++ id

/-- The name and the value of the one field that a failure carries. -/
def detail : Failure → String × String
  | unsupportedLanguage language => ("language", Text.inspectText language)
  | accountClosed identifier => ("identifier", Text.inspectText identifier)
  | branchNotFound index => ("index", String.ofList (Decimal.digits index.toNat))
  | vaultNotFound id => ("id", Text.inspectText id)

def inspect (e : Failure) : String := Text.inspectRecord e.kind [e.detail]

example : (branchNotFound 3).inspect = "BranchNotFound \x7b index: 3 \x7d" := by decide

end Failure
end Countinghouse
