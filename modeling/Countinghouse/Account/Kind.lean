/-! The kinds of account. -/
namespace Countinghouse

inductive AccountKind
  | checking
  | savings
deriving DecidableEq, Repr

/-- The letters that an identifier begins with. -/
def AccountKind.letters : AccountKind → String
  | checking => "CHK"
  | savings => "SAV"

def AccountKind.word : AccountKind → String
  | checking => "checking"
  | savings => "savings"

end Countinghouse
