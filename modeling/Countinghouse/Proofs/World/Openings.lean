import Countinghouse.Proofs.Account.Life
import Countinghouse.Proofs.World.Leads
import Mathlib.Data.List.Nodup
import Mathlib.Data.List.Range

/-! The accounts opened in a run. They are numbered one after the other, so no two share a name. -/
namespace Countinghouse.World

/-- All accounts that a run opens, each as it stands when new. -/
def openings (w : World) : List Step → List Account
  | [] => []
  | s :: ss => s.openings w ++ (s.run w).2.openings ss

@[simp] lemma opened_putAccount (w : World) (slot : String) (a : Account) :
    (w.putAccount slot a).1.opened = w.opened := by
  simp only [putAccount]
  split <;> rfl

@[simp] lemma opened_putBank (w : World) (slot : String) (b : Bank) :
    (w.putBank slot b).opened = w.opened := by
  simp only [putBank]
  split <;> rfl

@[simp] lemma accounts_discardAccount (w : World) (a : Account) :
    (w.discardAccount a).1.accounts = w.accounts := rfl

lemma accounts_putAccount (w : World) (slot : String) (a : Account) :
    (w.putAccount slot a).1.accounts = w.accounts.put slot a := by
  simp only [putAccount]
  split <;> rfl

@[simp] lemma accounts_putBank (w : World) (slot : String) (b : Bank) :
    (w.putBank slot b).accounts = w.accounts := by
  simp only [putBank]
  split <;> rfl

@[simp] lemma accounts_discardBanks (w : World) : w.discardBanks.accounts = w.accounts := by
  have kept : ∀ (bs : List Bank) (w : World), (bs.foldl discardBank w).accounts = w.accounts := by
    intro bs
    induction bs with
    | nil => intro w; rfl
    | cons b bs ih => intro w; exact ih (w.discardBank b)
  exact kept w.banks.values w

lemma opened_openAccount (w : World) (kind : AccountKind) (id : Int64) (h : Option Handle) :
    (w.openAccount kind id h).2.opened = w.opened + 1 := rfl

/-- The serial numbers handed out next. -/
def serials (w : World) (count : Nat) : List Serial :=
  (List.range' (w.opened + 1) count).map Serial.mk

variable {w w' : World} {os : List Account} {ds : List (Serial × BlockStep)} {log : List Event}

/-- To the accounts one of four things happens. -/
lemma Leads.accounts_cases (led : Leads w os ds log w') :
    (os = [] ∧ ds = [] ∧ w'.accounts = w.accounts ∧ w'.opened = w.opened) ∨
    (∃ slot a, os = [a] ∧ ds = [] ∧ a.number = ⟨w.opened + 1⟩ ∧
      w'.accounts = w.accounts.put slot a ∧ w'.opened = w.opened + 1) ∨
    (∃ slot a step b, w.accounts.find? slot = some a ∧ os = [] ∧ ds = [(a.number, step)] ∧
      a.Life [step] b ∧ w'.accounts = w.accounts.put slot b ∧ w'.opened = w.opened) ∨
    ∃ slot, os = [] ∧ ds = [] ∧ w'.accounts = w.accounts.clear slot ∧ w'.opened = w.opened := by
  cases led with
  | opened slot kind id h known =>
    refine .inr (.inl ⟨slot, _, rfl, rfl, rfl, accounts_putAccount .., ?_⟩)
    rw [opened_putAccount, opened_openAccount]
  | visited slot v here block =>
    obtain ⟨a, there, rfl⟩ := exists_account_of_visit? here
    exact .inr (.inr (.inl ⟨slot, a, block, _, there, rfl, rfl,
      .asked .new block w.people w.clock, rfl, rfl⟩))
  | accountDropped slot a here => exact .inr (.inr (.inr ⟨slot, rfl, rfl, rfl, rfl⟩))
  | founded slot b customer teller =>
    exact .inl ⟨rfl, rfl, accounts_putBank .., opened_putBank ..⟩
  | cloned source slot b here => exact .inl ⟨rfl, rfl, accounts_putBank .., opened_putBank ..⟩
  | _ => exact .inl ⟨rfl, rfl, rfl, rfl⟩

lemma Leads.opened_eq (led : Leads w os ds log w') :
    w'.opened = w.opened + os.length ∧ os.map Account.number = w.serials os.length := by
  obtain ⟨rfl, -, -, opened⟩ | ⟨-, a, rfl, -, number, -, opened⟩ |
    ⟨-, -, -, -, -, rfl, -, -, -, opened⟩ | ⟨-, rfl, -, -, opened⟩ := led.accounts_cases
  · exact ⟨opened, rfl⟩
  · exact ⟨opened, congrArg (fun n => [n]) number⟩
  · exact ⟨opened, rfl⟩
  · exact ⟨opened, rfl⟩

lemma number_openings (w : World) (steps : List Step) :
    (w.openings steps).map Account.number = w.serials (w.openings steps).length := by
  induction steps generalizing w with
  | nil => rfl
  | cons s ss ih =>
    obtain ⟨counter, numbers⟩ := (s.leads w).opened_eq
    simp only [openings, List.map_append, List.length_append, numbers, ih, serials, counter]
    rw [← List.map_append, Nat.add_right_comm, List.range'_append_1]

lemma lt_number_of_mem_openings {steps : List Step} {o : Account}
    (opened : o ∈ w.openings steps) : w.opened < o.number.number := by
  have handed : o.number ∈ (w.openings steps).map Account.number := List.mem_map_of_mem opened
  rw [number_openings, serials] at handed
  obtain ⟨n, range, number⟩ := List.mem_map.1 handed
  rw [← number]
  exact (List.mem_range'_1.1 range).1

lemma eq_opened_of_mem_openings {steps : List Step} {o : Account}
    (opened : o ∈ w.openings steps) : o = .opened o.kind o.number o.id o.customer := by
  induction steps generalizing w with
  | nil => cases opened
  | cons s ss ih =>
    rcases List.mem_append.1 opened with first | later
    · simp only [Step.openings] at first
      split at first
      · split at first
        · rw [List.mem_singleton.1 first]
          rfl
        · cases first
      · cases first
    · exact ih later

lemma nodup_number_openings (w : World) (steps : List Step) :
    ((w.openings steps).map Account.number).Nodup := by
  rw [number_openings]
  exact List.Nodup.map (fun m n h => congrArg Serial.number h) List.nodup_range'

/-- No two accounts opened in one run have the same identifier. -/
lemma nodup_identifier_openings (w : World) (steps : List Step) :
    ((w.openings steps).map Account.identifier).Nodup := by
  refine List.pairwise_map.2 ((List.pairwise_map.1 (nodup_number_openings w steps)).imp ?_)
  intro a b other same
  exact other (Account.identifier_inj.1 same).2

end Countinghouse.World
