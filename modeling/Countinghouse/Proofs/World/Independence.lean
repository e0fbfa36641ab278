import Countinghouse.Proofs.People.Leads
import Countinghouse.Proofs.World.Leads
import Countinghouse.Proofs.World.Subjects
import Mathlib.Data.List.Basic
import Mathlib.Logic.Equiv.Basic

/-!
A bank and its clone. They are equal to begin with, and from then on what is asked of one says
nothing of the other and does nothing to it.
-/
namespace Countinghouse

variable {slot : String} {w u : World}

namespace World

/-- Whatever the reply does to the house, it does nothing that shows from this slot. -/
def Spares (w : World) (slot : String) (r : Reply World) : Prop :=
  ∀ o, r = .ok o → World.Agrees slot slot o.state w

lemma spares_map {α : Type} {x : Except Refusal α} {f : α → Outcome World}
    (each : ∀ a, World.Agrees slot slot (f a).state w) : w.Spares slot (x.map f) := by
  intro o done
  obtain ⟨a, -, rfl⟩ := exists_of_map_eq_ok done
  exact each a

lemma agrees_discardBank (w : World) (b : Bank) (slot : String) :
    World.Agrees slot slot (w.discardBank b) w :=
  ⟨w.people.agrees_releaseAll _, rfl, rfl, rfl, rfl⟩

lemma agrees_retainAll (w : World) (hs : List Handle) (slot : String) :
    World.Agrees slot slot { w with people := w.people.retainAll hs } w :=
  ⟨w.people.agrees_retainAll _, rfl, rfl, rfl, rfl⟩

lemma agrees_put {x : String} (other : x ≠ slot) (w : World) (b : Bank) :
    World.Agrees slot slot { w with banks := w.banks.put x b } w := by
  refine ⟨.refl _, rfl, rfl, rfl, ?_⟩
  rw [Slots.find?_put, if_neg (Ne.symm other)]

lemma agrees_clear {x : String} (other : x ≠ slot) (w : World) :
    World.Agrees slot slot { w with banks := w.banks.clear x } w := by
  refine ⟨.refl _, rfl, rfl, rfl, ?_⟩
  rw [Slots.find?_clear, if_neg (Ne.symm other)]

lemma agrees_settle {x : String} (other : x ≠ slot) (w : World) (b : Bank) :
    World.Agrees slot slot
      (World.putBank { w with people := w.people.retainAll b.handles } x b) w :=
  (agrees_putBank _ x b slot).trans ((agrees_put other _ b).trans (w.agrees_retainAll _ slot))

lemma spares_replyEqual {α : Type} [DecidableEq α] (x y : Except Refusal (Option α)) :
    w.Spares slot (replyEqual w x y) := by
  intro o done
  simp only [replyEqual] at done
  split at done
  · cases done
  · cases done
  · cases done
    exact .refl slot w
  · cases done
    exact .refl slot w

end World

open World

lemma BankStep.agrees_exchanged_other {x : String} (other : x ≠ slot) (w : World)
    (old new : Option Handle) (b : Bank) :
    World.Agrees slot slot (exchanged w x old new b).state w := by
  refine (agrees_put other _ b).trans ⟨?_, rfl, rfl, rfl, rfl⟩
  exact (People.agrees_releaseAll ..).trans (w.people.agrees_retainAll _)

lemma BankStep.spares (s : BankStep) (other : s.subject ≠ slot) (uncloned : ∀ x, s ≠ clone x slot) :
    w.Spares slot (s.perform w) := by
  cases s with
  | founded x id name customer teller =>
    intro o done
    simp only [perform] at done
    split at done
    · cases done
    · cases done
    · cases done
      exact agrees_settle other w _
  | clone x y =>
    have elsewhere : y ≠ slot := by
      rintro rfl
      exact uncloned x rfl
    exact spares_map fun b => agrees_settle elsewhere w b.clone
  | drop x => exact spares_map fun b => (agrees_clear other _).trans (w.agrees_discardBank b slot)
  | get x => exact spares_map fun b => .refl slot w
  | counts x => exact spares_map fun b => .refl slot w
  | setId x id => exact spares_map fun b => agrees_put other w _
  | setName x name => exact spares_map fun b => agrees_put other w _
  | setCustomer x customer =>
    simp only [perform]
    cases w.people.resolveOptional .customer customer with
    | error r =>
      rintro o ⟨⟩
    | ok h => exact spares_map fun b => agrees_exchanged_other other w _ _ _
  | setTeller x teller =>
    simp only [perform]
    cases w.people.resolveOptional .teller teller with
    | error r =>
      rintro o ⟨⟩
    | ok h => exact spares_map fun b => agrees_exchanged_other other w _ _ _
  | openBranch x address phoneNumber vaults => exact spares_map fun b => agrees_put other w _
  | removeBranch x index =>
    apply spares_map
    intro b
    cases b.removeBranch index with
    | error e => exact .refl slot w
    | ok removed => exact agrees_put other w _
  | fill x occupied => exact spares_map fun b => agrees_put other w _
  | rephone x phoneNumber => exact spares_map fun b => agrees_put other w _

lemma BranchStep.spares (s : BranchStep) (other : ∃ t ∈ s.spots, t.bank ≠ slot) :
    w.Spares slot (s.perform w) := by
  cases s with
  | get s => exact spares_map fun b => .refl slot w
  | encode s => exact spares_map fun b => .refl slot w
  | inspect s => exact spares_map fun b => .refl slot w
  | change s c =>
    have elsewhere : s.bank ≠ slot := by simpa [spots] using other
    apply spares_map
    intro b
    split
    · exact .refl slot w
    · split
      · exact .refl slot w
      · exact agrees_put elsewhere w _
  | equal s s' => exact spares_replyEqual _ _

lemma VaultStep.spares_changed {s : Spot} (other : s.bank ≠ slot) (id : String)
    (g : Vault → Vault) : w.Spares slot (changed w s id g) := by
  apply spares_map
  intro b
  split
  · exact .refl slot w
  · split
    · exact agrees_put other w _
    · exact .refl slot w

lemma VaultStep.spares (s : VaultStep) (other : ∃ t ∈ s.spots, t.bank ≠ slot) :
    w.Spares slot (s.perform w) := by
  cases s with
  | get s id => exact spares_map fun v => .refl slot w
  | encode s id => exact spares_map fun v => .refl slot w
  | inspect s id => exact spares_map fun v => .refl slot w
  | setId s id newId => exact spares_changed (by simpa [spots] using other) id _
  | setOccupied s id occupied => exact spares_changed (by simpa [spots] using other) id _
  | equal s id s' id' => exact spares_replyEqual _ _

def Entry.uncounted (e : Entry) : Entry := { e with answer := e.answer.uncounted }

namespace Step

/-- No request but a cloning into its slot reaches a bank that it is not about. -/
lemma agrees_of_foreign {s : Step} (foreign : s.isOf slot = false)
    (uncloned : ∀ x, s ≠ .bank (.clone x slot)) (w : World) :
    World.Agrees slot slot (s.run w).2 w := by
  have spared : w.Spares slot (s.perform w) := by
    cases s with
    | person s => simp [isOf, subjects] at foreign
    | account s => simp [isOf, subjects] at foreign
    | bank s =>
      refine s.spares (by simpa [isOf, subjects] using foreign) fun x same => ?_
      exact uncloned x (congrArg Step.bank same)
    | branch s => exact s.spares (by simpa [isOf, subjects] using foreign)
    | vault s => exact s.spares (by simpa [isOf, subjects] using foreign)
    | malformed => simp [isOf, subjects] at foreign
  simp only [run]
  split
  · exact .refl slot w
  · rename_i done
    exact spared _ done
  · rename_i done
    exact spared _ done

lemma agrees_run {f : String → String} (inj : f.Injective) {s : Step} (own : s.isOf slot)
    (agree : World.Agrees slot (f slot) w u) :
    (s.run w).1.uncounted = ((s.rename f).run u).1.uncounted ∧
      World.Agrees slot (f slot) (s.run w).2 ((s.rename f).run u).2 := by
  have replies := s.agrees_perform inj own agree
  simp only [run]
  generalize s.perform w = x at replies
  generalize (s.rename f).perform u = y at replies
  cases replies with
  | refused r => exact ⟨rfl, agree⟩
  | answered same state => exact ⟨congrArg (Entry.mk · _) same, state⟩
  | failed e state => exact ⟨rfl, state⟩

end Step

/-- What a run says of one bank: the lines of the requests that are its own, counts aside. -/
def World.linesOf (w : World) (slot : String) (steps : List Step) : List Entry :=
  ((steps.zip (w.run steps).1).filter (·.1.isOf slot)).map (·.2.uncounted)

/-- The requests that are a bank's own, with the bank called by another name. -/
def Step.ownOf (slot : String) (f : String → String) (steps : List Step) : List Step :=
  (steps.filter (·.isOf slot)).map (·.rename f)

lemma World.linesOf_cons (w : World) (slot : String) (s : Step) (steps : List Step) :
    w.linesOf slot (s :: steps) =
      if s.isOf slot then (s.run w).1.uncounted :: (s.run w).2.linesOf slot steps
      else (s.run w).2.linesOf slot steps := by
  simp only [linesOf, run, List.zip_cons_cons, List.filter_cons]
  split <;> rfl

/-- A bank goes through any run as through its own part of it, unless it is replaced by a clone of
another. -/
lemma World.agrees_run_own {f : String → String} (inj : f.Injective) {steps : List Step}
    (uncloned : ∀ x, x ≠ slot → Step.bank (.clone x slot) ∉ steps)
    (agree : World.Agrees slot (f slot) w u) :
    w.linesOf slot steps = (u.run (Step.ownOf slot f steps)).1.map Entry.uncounted ∧
      World.Agrees slot (f slot) (w.run steps).2 (u.run (Step.ownOf slot f steps)).2 := by
  -- an own request moves both houses, any other one moves the first alone
  induction steps generalizing w u with
  | nil => exact ⟨rfl, agree⟩
  | cons s steps ih =>
    have later : ∀ x, x ≠ slot → Step.bank (.clone x slot) ∉ steps :=
      fun x other member => uncloned x other (List.mem_cons_of_mem s member)
    rw [linesOf_cons]
    cases own : s.isOf slot with
    | true =>
      obtain ⟨line, next⟩ := Step.agrees_run inj own agree
      obtain ⟨lines, last⟩ := ih later next
      have first : Step.ownOf slot f (s :: steps) = s.rename f :: Step.ownOf slot f steps := by
        simp only [Step.ownOf, List.filter_cons, own, if_true, List.map_cons]
      rw [first]
      refine ⟨?_, last⟩
      rw [if_pos rfl, line, lines]
      rfl
    | false =>
      have apart (x : String) : s ≠ .bank (.clone x slot) := by
        rintro rfl
        apply uncloned x _ List.mem_cons_self
        rintro rfl
        simp [Step.isOf, Step.subjects, BankStep.subject] at own
      have skipped : Step.ownOf slot f (s :: steps) = Step.ownOf slot f steps := by
        simp only [Step.ownOf, List.filter_cons, own]
        rfl
      rw [skipped]
      exact ih later ((Step.agrees_of_foreign own apart w).trans agree)

namespace World

/-- Seen from its slot a clone is its original, and nothing else is changed by the cloning. -/
lemma agrees_cloned {source target : String} {b : Bank} (here : w.banks.find? source = some b) :
    World.Agrees target source ((Step.bank (.clone source target)).run w).2 w := by
  rw [run_clone here, b.clone_eq]
  refine (agrees_putBank _ target b target).trans ⟨w.people.agrees_retainAll _, rfl, rfl, rfl, ?_⟩
  rw [Slots.find?_put, if_pos rfl, here]

lemma agrees_original {source target : String} (apart : source ≠ target) {b : Bank}
    (here : w.banks.find? source = some b) :
    World.Agrees source source ((Step.bank (.clone source target)).run w).2 w := by
  rw [run_clone here]
  exact agrees_settle (Ne.symm apart) w b.clone

/-- A bank shows the people whose handles it has as they are now. -/
lemma run_get {b : Bank} (here : w.banks.find? slot = some b) :
    (Step.bank (.get slot)).run w = (⟨.bank (w.bankView b), []⟩, w) := by
  simp only [Step.run, Step.perform, BankStep.perform, bank_of_find? here]
  rfl

lemma person_view? (p : People) (h : Option Handle) :
    (h.bind p.view?).map PersonView.person = h.bind p.person? := by
  cases h with
  | none => rfl
  | some h =>
    simp only [Option.bind_some, People.view?, Option.map_map]
    exact Option.map_id'

end World

namespace Bank

/-- Each branch of a clone is the copy of the branch at its place, vault for vault. -/
lemma exists_getElem?_clone {b : Bank} {i : Nat} {r : Branch} (there : b.branches[i]? = some r) :
    ∃ s : Branch, b.clone.branches[i]? = some s ∧ s.address = r.address ∧
      s.phoneNumber = r.phoneNumber ∧ s.vaults.length = r.vaults.length ∧
      ∀ (j : Nat) (v : Vault), r.vaults[j]? = some v →
        ∃ u : Vault, s.vaults[j]? = some u ∧ u.id = v.id ∧ u.occupied = v.occupied := by
  refine ⟨r.duplicate, ?_, rfl, rfl, List.length_map .., fun j v inside =>
    ⟨v.duplicate, ?_, rfl, rfl⟩⟩
  · rw [clone, List.getElem?_map, there]
    rfl
  · rw [Branch.duplicate, List.getElem?_map, inside]
    rfl

end Bank

/-- A clone is its original to the last vault: it has the same data and the same handles, as many
branches, and at each place a branch of the same data with as many vaults, each like the one that it
is a copy of. Whatever is asked later, and in whatever order, what is said of either bank, counts
aside, and what becomes of it is the same as if there had been no cloning and only its own requests,
with those about people and accounts, had been made of the original. So nothing that is asked of the
other comes into it, nor that the other is dropped; and the people are the same to both, each as it
is now. -/
theorem clone_equal_then_independent {source target : String} {b : Bank}
    (here : w.banks.find? source = some b) (apart : source ≠ target) (later : List Step)
    (uncloned : ∀ x, ∀ slot ∈ [source, target], x ≠ slot → Step.bank (.clone x slot) ∉ later) :
    let cloning := (Step.bank (.clone source target)).run w
    let reached := (cloning.2.run later).2
    (b.clone.id = b.id ∧ b.clone.name = b.name ∧ b.clone.customer = b.customer ∧
      b.clone.teller = b.teller ∧ b.clone.branches.length = b.branches.length ∧
      (∀ (i : Nat) (r : Branch), b.branches[i]? = some r →
        ∃ s : Branch, b.clone.branches[i]? = some s ∧ s.address = r.address ∧
          s.phoneNumber = r.phoneNumber ∧ s.vaults.length = r.vaults.length ∧
          ∀ (j : Nat) (v : Vault), r.vaults[j]? = some v →
            ∃ u : Vault, s.vaults[j]? = some u ∧ u.id = v.id ∧ u.occupied = v.occupied) ∧
      b.clone = b) ∧
    (∃ view, cloning.1 = ⟨.bank view, []⟩ ∧ view.bank = b.clone) ∧
    cloning.2.banks.find? source = some b ∧ cloning.2.banks.find? target = some b.clone ∧
    (∀ slot ∈ [source, target],
      let alone := w.run (Step.ownOf slot (Equiv.swap slot source) later)
      cloning.2.linesOf slot later = alone.1.map Entry.uncounted ∧
      reached.banks.find? slot = alone.2.banks.find? source ∧
      reached.people.uncounted = alone.2.people.uncounted) ∧
    ∀ slot c, reached.banks.find? slot = some c → ∃ view,
      (Step.bank (.get slot)).run reached = (⟨.bank view, []⟩, reached) ∧ view.bank = c ∧
      view.customer.map PersonView.person = c.customer.bind reached.people.person? ∧
      view.teller.map PersonView.person = c.teller.bind reached.people.person? := by
  intro cloning reached
  have original : World.Agrees source source cloning.2 w := World.agrees_original apart here
  have copy : World.Agrees target source cloning.2 w := World.agrees_cloned here
  refine ⟨⟨rfl, rfl, rfl, rfl, List.length_map .., fun i r => Bank.exists_getElem?_clone,
    b.clone_eq⟩, ⟨_, congrArg Prod.fst (World.run_clone here), rfl⟩, original.bank.trans here, ?_,
    fun slot either => ?_, fun slot c there => ?_⟩
  · rw [b.clone_eq]
    exact copy.bank.trans here
  · intro alone
    have agree : World.Agrees slot (Equiv.swap slot source slot) cloning.2 w := by
      rw [Equiv.swap_apply_left]
      rcases List.mem_pair.1 either with rfl | rfl
      · exact original
      · exact copy
    obtain ⟨lines, last⟩ := World.agrees_run_own (Equiv.swap slot source).injective
      (fun x => uncloned x slot either) agree
    refine ⟨lines, ?_, last.people⟩
    rw [last.bank, Equiv.swap_apply_left]
  · exact ⟨_, World.run_get there, rfl, World.person_view? .., World.person_view? ..⟩

/-- The original is emptied and dropped while the clone gets a branch; their customer is renamed. -/
theorem clone_outlives_dropped_original :
    let w := (World.empty.run [.person (.introduce "p" (.customer ⟨1, "Ada"⟩)),
      .bank (.founded "a" 7 "A" (some "p") none),
      .bank (.openBranch "a" "x" "1" [⟨"v", some true, none⟩])]).2
    let b : Bank := ⟨7, "A", some ⟨0⟩, none, [⟨"x", "1", [⟨"v", true⟩]⟩]⟩
    let later : List Step := [.bank (.openBranch "b" "y" "2" []),
      .vault (.setOccupied ⟨"a", .index 0⟩ "v" false), .bank (.setCustomer "a" none),
      .person (.setName "p" "Eve"), .bank (.drop "a"), .bank (.get "b"),
      .bank (.removeBranch "b" 5)]
    let cloned := ((Step.bank (.clone "a" "b")).run w).2
    let alone := w.run [.bank (.openBranch "a" "y" "2" []), .person (.setName "p" "Eve"),
      .bank (.get "a"), .bank (.removeBranch "a" 5)]
    w.banks.find? "a" = some b ∧ cloned.banks.find? "b" = some b.clone ∧
    b.clone.branches = [⟨"x", "1", [⟨"v", true⟩]⟩] ∧
    cloned.linesOf "b" later = alone.1.map Entry.uncounted ∧
    (cloned.run later).2.banks.find? "a" = none ∧
    (cloned.run later).2.banks.find? "b" =
      some { b with branches := b.branches ++ [⟨"y", "2", []⟩] } ∧
    (cloned.run later).2.people.person? ⟨0⟩ = some (.customer ⟨1, "Eve"⟩) := by
  intro w b later cloned alone
  have here : w.banks.find? "a" = some b := by decide
  obtain ⟨⟨-, -, -, -, -, -, same⟩, -, -, copy, either, -⟩ :=
    @clone_equal_then_independent w "a" "b" b here (by decide) later (by simp [later])
  obtain ⟨lines, bank, -⟩ := either "b" (by simp)
  exact ⟨here, copy, congrArg Bank.branches same, lines, by decide, bank.trans (by decide),
    by decide⟩

end Countinghouse
