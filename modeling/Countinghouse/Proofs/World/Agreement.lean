import Countinghouse.Proofs.Account.Uncounted
import Countinghouse.World.AccountStep
import Countinghouse.World.PersonStep

/-!
Two houses side by side that agree but for their banks, of which they have one in common. Asked for
the same about that bank, or about no bank, they say the same and go on agreeing, whatever it is
called in either.
-/
namespace Countinghouse

/-- Houses that agree but for their banks, with the same bank, or none, in one slot of each. -/
structure World.Agrees (slot place : String) (w u : World) : Prop where
  people : w.people.Agrees u.people
  accounts : w.accounts = u.accounts
  opened : w.opened = u.opened
  clock : w.clock = u.clock
  bank : w.banks.find? slot = u.banks.find? place

namespace World.Agrees

variable {slot place : String} {w u : World}

lemma refl (slot : String) (w : World) : World.Agrees slot slot w w :=
  ⟨.refl _, rfl, rfl, rfl, rfl⟩

lemma symm (agree : World.Agrees slot place w u) : World.Agrees place slot u w :=
  ⟨agree.people.symm, agree.accounts.symm, agree.opened.symm, agree.clock.symm, agree.bank.symm⟩

lemma trans {mid : String} {x : World} (first : World.Agrees slot mid w u)
    (next : World.Agrees mid place u x) : World.Agrees slot place w x where
  people := first.people.trans next.people
  accounts := first.accounts.trans next.accounts
  opened := first.opened.trans next.opened
  clock := first.clock.trans next.clock
  bank := first.bank.trans next.bank

lemma withPeople (agree : World.Agrees slot place w u) {p q : People} (people : p.Agrees q) :
    World.Agrees slot place { w with people := p } { u with people := q } :=
  ⟨people, agree.accounts, agree.opened, agree.clock, agree.bank⟩

lemma personAnswer (agree : World.Agrees slot place w u) (h : Option Handle) :
    (w.personAnswer h).uncounted = (u.personAnswer h).uncounted := by
  simp only [World.personAnswer, Answer.uncounted_person, agree.people.bind_view?]

lemma bankView (agree : World.Agrees slot place w u) (b : Bank) :
    (w.bankView b).uncounted = (u.bankView b).uncounted := by
  simp only [World.bankView, BankView.uncounted, agree.people.bind_view?]

lemma bank_eq (agree : World.Agrees slot place w u) : w.bank slot = u.bank place := by
  simp only [World.bank, agree.bank]

lemma map_bank (agree : World.Agrees slot place w u) {f g : Bank → Outcome World}
    (each : ∀ b, Reply.Agrees (World.Agrees slot place) (.ok (f b)) (.ok (g b))) :
    Reply.Agrees (World.Agrees slot place) ((w.bank slot).map f) ((u.bank place).map g) := by
  rw [agree.bank_eq]
  exact .map each

/-- Two slots are filled alike: those of the common bank, or two others. -/
lemma put (agree : World.Agrees slot place w u) {x y : String} (same : slot = x ↔ place = y)
    (b : Bank) : World.Agrees slot place { w with banks := w.banks.put x b }
      { u with banks := u.banks.put y b } := by
  refine ⟨agree.people, agree.accounts, agree.opened, agree.clock, ?_⟩
  rw [Slots.find?_put, Slots.find?_put, agree.bank]
  simp only [same]

lemma setBank (agree : World.Agrees slot place w u) (b : Bank) :
    World.Agrees slot place (w.setBank slot b) (u.setBank place b) :=
  agree.put (by simp) b

lemma clear (agree : World.Agrees slot place w u) :
    World.Agrees slot place { w with banks := w.banks.clear slot }
      { u with banks := u.banks.clear place } := by
  refine ⟨agree.people, agree.accounts, agree.opened, agree.clock, ?_⟩
  rw [Slots.find?_clear, Slots.find?_clear, if_pos rfl, if_pos rfl]

end World.Agrees

/-- Whoever lets go of a bank that was there before, it does not show. -/
lemma World.agrees_putBank (w : World) (x : String) (b : Bank) (slot : String) :
    World.Agrees slot slot (w.putBank x b) { w with banks := w.banks.put x b } := by
  rw [putBank]
  split
  · exact .refl slot _
  · exact ⟨w.people.agrees_releaseAll _, rfl, rfl, rfl, rfl⟩

variable {slot place : String} {w u : World}

namespace World.Agrees

lemma putBank (agree : World.Agrees slot place w u) {x y : String} (same : slot = x ↔ place = y)
    (b : Bank) : World.Agrees slot place (w.putBank x b) (u.putBank y b) :=
  (w.agrees_putBank x b slot).trans ((agree.put same b).trans (u.agrees_putBank y b place).symm)

lemma settle (agree : World.Agrees slot place w u) {x y : String} (same : slot = x ↔ place = y)
    (b : Bank) :
    World.Agrees slot place (World.putBank { w with people := w.people.retainAll b.handles } x b)
      (World.putBank { u with people := u.people.retainAll b.handles } y b) :=
  putBank (agree.withPeople (agree.people.retainAll _ _)) same b

end World.Agrees

lemma PersonStep.agrees_shown (agree : World.Agrees slot place w u) {p q : People}
    (people : p.Agrees q) (h : Handle) :
    Reply.Agrees (World.Agrees slot place) (.ok (shown w h p)) (.ok (shown u h q)) :=
  .answered ((agree.withPeople people).personAnswer h) (agree.withPeople people)

lemma PersonStep.agrees_changed (agree : World.Agrees slot place w u) (h : Handle)
    (f : Person → Person) (answer : Person → Answer) :
    Reply.Agrees (World.Agrees slot place) (.ok (changed w h f answer))
      (.ok (changed u h f answer)) := by
  have people : (w.people.update h f).Agrees (u.people.update h f) := agree.people.update h f
  simp only [changed, people.person?]
  exact .answered rfl (agree.withPeople people)

lemma PersonStep.agrees_perform (s : PersonStep) (agree : World.Agrees slot place w u) :
    Reply.Agrees (World.Agrees slot place) (s.perform w) (s.perform u) := by
  have resolve : w.people.resolve = u.people.resolve := funext agree.people.resolve
  cases s with
  | introduce x p =>
    obtain ⟨fresh, people⟩ := agree.people.introduce x p
    simp only [perform]
    rw [fresh]
    exact agrees_shown agree people _
  | share source x =>
    simp only [perform, resolve]
    exact .map fun found => agrees_shown agree ((agree.people.retainAll _ _).put x found.1) found.1
  | copy source x =>
    simp only [perform, resolve]
    refine .map fun found => ?_
    obtain ⟨fresh, people⟩ := agree.people.introduce x found.2
    rw [fresh]
    exact agrees_shown agree people _
  | drop x =>
    simp only [perform, resolve]
    exact .map fun _ => .answered rfl (agree.withPeople (agree.people.clear x))
  | compare a b =>
    simp only [perform, resolve]
    split
    · split
      · exact .answered rfl agree
      · exact .refused .wrongKind
    · exact .refused _
    · exact .refused _
  | get x =>
    simp only [perform, resolve]
    exact .map fun found => .answered (agree.personAnswer _) agree
  | setId x id =>
    simp only [perform, resolve]
    exact .map fun found => agrees_changed agree found.1 _ _
  | setName x name =>
    simp only [perform, resolve]
    exact .map fun found => agrees_changed agree found.1 _ _
  | setDesk x desk =>
    simp only [perform, agree.people.resolveKind]
    exact .map fun h => agrees_changed agree h _ _
  | hello x =>
    simp only [perform, resolve]
    exact .map fun _ => .answered rfl agree
  | goodbye x language =>
    simp only [perform, resolve]
    refine .map fun found => ?_
    cases found.2.goodbye language with
    | error e => exact .failed e agree
    | ok s => exact .answered rfl agree
  | encode x =>
    simp only [perform, resolve]
    exact .map fun _ => .answered rfl agree
  | inspect x =>
    simp only [perform, resolve]
    exact .map fun _ => .answered rfl agree

namespace World.Agrees

lemma visit (agree : World.Agrees slot place w u) (a : Account) :
    Visit.Agrees ⟨w.people, a, w.clock⟩ ⟨u.people, a, u.clock⟩ :=
  ⟨agree.people, rfl, agree.clock⟩

lemma afterVisit (agree : World.Agrees slot place w u) (x : String) {v v' : Visit}
    (visits : v.Agrees v') : World.Agrees slot place (w.afterVisit x v) (u.afterVisit x v') where
  people := visits.people
  accounts := by simp only [World.afterVisit, agree.accounts, visits.account]
  opened := agree.opened
  clock := visits.clock
  bank := agree.bank

lemma discardAccount (agree : World.Agrees slot place w u) (a : Account) :
    (w.discardAccount a).2 = (u.discardAccount a).2 ∧
      World.Agrees slot place (w.discardAccount a).1 (u.discardAccount a).1 := by
  obtain ⟨log, closed⟩ := (agree.visit a).close
  refine ⟨log, ?_, agree.accounts, agree.opened, closed.clock, agree.bank⟩
  simp only [World.discardAccount, closed.account]
  exact closed.people.releaseAll _ _

lemma withAccounts (agree : World.Agrees slot place w u) (accounts : Slots Account) :
    World.Agrees slot place { w with accounts := accounts } { u with accounts := accounts } :=
  ⟨agree.people, rfl, agree.opened, agree.clock, agree.bank⟩

lemma putAccount (agree : World.Agrees slot place w u) (x : String) (a : Account) :
    (w.putAccount x a).2 = (u.putAccount x a).2 ∧
      World.Agrees slot place (w.putAccount x a).1 (u.putAccount x a).1 := by
  simp only [World.putAccount, agree.accounts]
  split
  · exact ⟨rfl, agree.withAccounts _⟩
  · rename_i old _
    obtain ⟨log, discarded⟩ := agree.discardAccount old
    refine ⟨log, ?_⟩
    simp only [discarded.accounts]
    exact discarded.withAccounts _

lemma openAccount (agree : World.Agrees slot place w u) (kind : AccountKind) (id : Int64)
    (h : Option Handle) :
    (w.openAccount kind id h).1 = (u.openAccount kind id h).1 ∧
      World.Agrees slot place (w.openAccount kind id h).2 (u.openAccount kind id h).2 := by
  simp only [World.openAccount, agree.opened, true_and]
  exact ⟨agree.people.retainAll _ _, agree.accounts, rfl, agree.clock, agree.bank⟩

/-- An account is there on both sides or on neither. -/
lemma visit_cases (agree : World.Agrees slot place w u) (x : String) :
    (w.visit x = .error .noSuchSlot ∧ u.visit x = .error .noSuchSlot) ∨
      ∃ v v', w.visit x = .ok v ∧ u.visit x = .ok v' ∧ v.Agrees v' := by
  simp only [World.visit, World.visit?, agree.accounts]
  cases u.accounts.find? x with
  | none => exact .inl ⟨rfl, rfl⟩
  | some a => exact .inr ⟨_, _, rfl, rfl, agree.visit a⟩

lemma map_visit (agree : World.Agrees slot place w u) (x : String) {f g : Visit → Outcome World}
    (each : ∀ v v', v.Agrees v' → Reply.Agrees (World.Agrees slot place) (.ok (f v)) (.ok (g v'))) :
    Reply.Agrees (World.Agrees slot place) ((w.visit x).map f) ((u.visit x).map g) := by
  obtain ⟨absent, missing⟩ | ⟨v, v', here, there, visits⟩ := agree.visit_cases x
  · rw [absent, missing]
    exact .refused .noSuchSlot
  · rw [here, there]
    exact each v v' visits

end World.Agrees

lemma AccountStep.agrees_perform (s : AccountStep) (agree : World.Agrees slot place w u) :
    Reply.Agrees (World.Agrees slot place) (s.perform w) (s.perform u) := by
  cases s with
  | opened x kind id customer =>
    simp only [perform, agree.people.resolveOptional]
    refine .map fun h => ?_
    obtain ⟨same, held⟩ := agree.openAccount kind id h
    obtain ⟨log, filled⟩ := held.putAccount x (u.openAccount kind id h).1
    simp only [same, log]
    exact .answered (congrArg Answer.account (filled.visit _).view) filled
  | act x a =>
    obtain ⟨absent, missing⟩ | ⟨v, v', here, there, visits⟩ := agree.visit_cases x
    · simp only [perform, absent, missing]
      exact .refused .noSuchSlot
    · simp only [perform, here, there]
      exact (visits.perform a).mapState fun s t state => agree.afterVisit x state
  | drop x =>
    refine agree.map_visit x fun v v' visits => ?_
    obtain ⟨log, discarded⟩ := agree.discardAccount v'.account
    simp only [visits.account, log, discarded.accounts]
    exact .answered rfl (discarded.withAccounts _)
  | scopedBlock x steps =>
    refine agree.map_visit x fun v v' visits => ?_
    have blocks := Progress.Agrees.runScoped (agrees_runBlock steps visits)
    simp only [blocks.log, blocks.result]
    refine .answered ?_ (agree.afterVisit x blocks.visit)
    simp only [Answer.uncounted, blocks.answers, Option.map_some, blocks.visit.view]

end Countinghouse
