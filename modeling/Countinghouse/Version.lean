/-! The version that the house announces. -/
namespace Countinghouse

def version : String := "0.1.0"

end Countinghouse
