import Countinghouse.Event
import Countinghouse.Proofs.Tree.Marks
import Mathlib.Algebra.Order.Group.Multiset
import Mathlib.Algebra.BigOperators.Group.Multiset.Basic

/-!
The ledger of births and departures. Whoever was born is still here or left once, and the marks
given are the numbers in their order.
-/
namespace Countinghouse

/-- Who was taken out of what. -/
inductive Departure
  | vault (r : MarkedBranch) (v : MarkedVault)
  | branch (b : MarkedBank) (r : MarkedBranch)
  | bank (b : MarkedBank)

namespace Departure

/-- Who left, with all that it owned. -/
def births : Departure → List Birth
  | vault _ v => [v.toBirth]
  | branch _ r => r.births
  | bank b => b.births

/-- Nothing is logged when a bank goes. -/
def report : Departure → Option Event
  | vault r v => some (.vaultRemoved r.address v.vault.id)
  | branch b r => some (.branchRemoved b.name r.address r.vaults.length)
  | bank _ => none

/-- Whoever left had been born to the owner that it was taken from. -/
def Orderly : Departure → Prop
  | vault r v => v.home = some r.mark
  | branch b r => r.home = some b.mark ∧ r.Orderly
  | bank b => b.Orderly

end Departure

/-- The reports of removals in a log. -/
def removals (log : List Event) : List Event :=
  log.filter fun
    | .vaultRemoved _ _ => true
    | .branchRemoved _ _ _ => true
    | _ => false

lemma removals_append (log rest : List Event) :
    removals (log ++ rest) = removals log ++ removals rest :=
  List.filter_append ..

/-- All births and all departures so far, in their order. -/
structure Ledger where
  births : List Birth
  gone : List Departure

namespace Ledger

def empty : Ledger := ⟨[], []⟩

/-- The mark to be given next. -/
def next (l : Ledger) : Nat := l.births.length

def enter (l : Ledger) (born : List Birth) : Ledger := { l with births := l.births ++ born }

def record (l : Ledger) (d : Departure) : Ledger := { l with gone := l.gone ++ [d] }

def reports (l : Ledger) : List Event := l.gone.filterMap Departure.report

lemma reports_record (l : Ledger) (d : Departure) :
    (l.record d).reports = l.reports ++ d.report.toList := by
  rw [reports, record, List.filterMap_append]
  cases h : d.report <;> simp [reports, h]

/-- All who left. -/
def departed (l : Ledger) : Multiset Birth := (l.gone.map fun d => (↑d.births : Multiset Birth)).sum

lemma departed_record (l : Ledger) (d : Departure) :
    (l.record d).departed = ↑d.births + l.departed := by
  rw [departed, record, List.map_append, List.sum_append, List.map_singleton, List.sum_singleton,
    add_comm]
  rfl

/-- Births are only added, and at most one departure is, of a kind that is allowed. -/
structure Grows (l l' : Ledger) (allowed : Departure → Prop) : Prop where
  births : l.births <+: l'.births
  gone : ∃ out : Option Departure, l'.gone = l.gone ++ out.toList ∧ ∀ x ∈ out, allowed x

lemma grows_self (l : Ledger) (allowed : Departure → Prop) : l.Grows l allowed :=
  ⟨List.prefix_rfl, none, (List.append_nil _).symm, fun _ none => by cases none⟩

lemma grows_enter (l : Ledger) (born : List Birth) (allowed : Departure → Prop) :
    l.Grows (l.enter born) allowed :=
  ⟨List.prefix_append _ _, none, (List.append_nil _).symm, fun _ none => by cases none⟩

lemma grows_record (l : Ledger) {d : Departure} {allowed : Departure → Prop} (fits : allowed d) :
    l.Grows (l.record d) allowed :=
  ⟨List.prefix_rfl, some d, rfl, fun x only => by cases only; exact fits⟩

/-- Everybody who was born is here or left, and was given the number of its birth for a mark. -/
structure Keeps (l : Ledger) (here : Multiset Birth) : Prop where
  balanced : here + l.departed = ↑l.births
  numbered : l.births.map Birth.mark = List.range l.next
  left : ∀ d ∈ l.gone, d.Orderly

namespace Keeps

variable {l : Ledger} {here : Multiset Birth}

lemma enter (kept : l.Keeps here) {born : List Birth} {count : Nat}
    (fresh : born.map Birth.mark = List.range' l.next count) :
    (l.enter born).Keeps (here + ↑born) where
  balanced := by
    calc here + ↑born + l.departed
        = here + l.departed + ↑born := add_right_comm ..
      _ = ↑(l.births ++ born) := by rw [kept.balanced, Multiset.coe_add]
  numbered := by
    have many : born.length = count := by
      have lengths := congrArg List.length fresh
      rwa [List.length_map, List.length_range'] at lengths
    rw [next, Ledger.enter, List.map_append, kept.numbered, fresh, List.length_append, many,
      List.range_eq_range', List.range_eq_range', ← List.range'_append_1, Nat.zero_add]
    rfl
  left := kept.left

lemma record {d : Departure} (kept : l.Keeps (here + ↑d.births)) (orderly : d.Orderly) :
    (l.record d).Keeps here where
  balanced := by
    rw [departed_record, ← add_assoc]
    exact kept.balanced
  numbered := kept.numbered
  left x gone := by
    rcases List.mem_append.1 gone with before | last
    · exact kept.left x before
    · rwa [List.mem_singleton.1 last]

lemma mark_lt_next {x : Birth} (kept : l.Keeps here) (member : x ∈ here) : x.mark < l.next := by
  have born : x ∈ (↑l.births : Multiset Birth) := by
    rw [← kept.balanced]
    exact Multiset.mem_add.2 (.inl member)
  have given := List.mem_map_of_mem (f := Birth.mark) (Multiset.mem_coe.1 born)
  rw [kept.numbered] at given
  exact List.mem_range.1 given

end Keeps
end Ledger
end Countinghouse
