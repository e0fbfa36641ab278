import Countinghouse.Proofs.World.Writes

/-!
People as their holders see them. All who hold one handle read the same person, with whatever was
written last through any of them, and who holds another handle, be it that of a copy, reads nothing
of it.
-/
namespace Countinghouse

/-- Who holds a person: a name, an account, or a bank as its customer or its teller. -/
inductive Holder
  | name (slot : String)
  | account (slot : String)
  | bankCustomer (slot : String)
  | bankTeller (slot : String)
deriving DecidableEq, Repr

namespace Holder

def seat : Holder → Seat
  | name slot => .person slot
  | account slot => .account slot
  | bankCustomer slot => .bank slot
  | bankTeller slot => .bank slot

/-- The request whose answer shows the person. -/
def request : Holder → Step
  | name slot => .person (.get slot)
  | account slot => .account (.act slot .get)
  | bankCustomer slot => .bank (.get slot)
  | bankTeller slot => .bank (.get slot)

def inAnswer : Holder → Answer → Option Person
  | name _, .person v => some v.person
  | account _, .account v => v.customer.map (·.person)
  | bankCustomer _, .bank v => v.customer.map (·.person)
  | bankTeller _, .bank v => v.teller.map (·.person)
  | _, _ => none

end Holder

namespace World

/-- The handle that is held. -/
def handle? (w : World) : Holder → Option Handle
  | .name slot => w.people.slots.find? slot
  | .account slot => (w.accounts.find? slot).bind (·.customer)
  | .bankCustomer slot => (w.banks.find? slot).bind (·.customer)
  | .bankTeller slot => (w.banks.find? slot).bind (·.teller)

/-- The person that the holder is shown when it asks. -/
def read? (w : World) (x : Holder) : Option Person := x.inAnswer (x.request.run w).1.answer

variable {w w' : World} {x : Holder} {h : Handle}

lemma person_bind_view? (p : People) (k : Option Handle) :
    (k.bind p.view?).map (·.person) = k.bind p.person? := by
  cases k with
  | none => rfl
  | some h =>
    rw [Option.bind_some, Option.bind_some, People.view?, Option.map_map]
    exact Option.map_id'

lemma read?_name (w : World) (slot : String) :
    w.read? (.name slot) = (w.handle? (.name slot)).bind w.people.person? := by
  rw [read?, Holder.request, Step.run, Step.perform, PersonStep.perform, People.resolve, handle?]
  cases held : w.people.slots.find? slot with
  | none => rfl
  | some h =>
    cases known : w.people.person? h with
    | none =>
      rw [Option.bind_some, known]
      simp only [known]
      rfl
    | some p =>
      simp only [known, Except.map, Outcome.said, personAnswer, Option.bind_some, People.view?,
        Option.map_some, Answer.ofOption, Holder.inAnswer]

lemma read?_account (w : World) (slot : String) :
    w.read? (.account slot) = (w.handle? (.account slot)).bind w.people.person? := by
  rw [read?, Holder.request, Step.run, Step.perform, AccountStep.perform, visit, visit?, handle?]
  cases w.accounts.find? slot with
  | none => rfl
  | some a => exact person_bind_view? w.people a.customer

lemma read?_bankCustomer (w : World) (slot : String) :
    w.read? (.bankCustomer slot) = (w.handle? (.bankCustomer slot)).bind w.people.person? := by
  rw [read?, Holder.request, Step.run, Step.perform, BankStep.perform, bank, handle?]
  cases w.banks.find? slot with
  | none => rfl
  | some b => exact person_bind_view? w.people b.customer

lemma read?_bankTeller (w : World) (slot : String) :
    w.read? (.bankTeller slot) = (w.handle? (.bankTeller slot)).bind w.people.person? := by
  rw [read?, Holder.request, Step.run, Step.perform, BankStep.perform, bank, handle?]
  cases w.banks.find? slot with
  | none => rfl
  | some b => exact person_bind_view? w.people b.teller

/-- What is shown is the person behind the handle that is held. -/
lemma read?_eq (w : World) (x : Holder) : w.read? x = (w.handle? x).bind w.people.person? := by
  cases x with
  | name slot => exact w.read?_name slot
  | account slot => exact w.read?_account slot
  | bankCustomer slot => exact w.read?_bankCustomer slot
  | bankTeller slot => exact w.read?_bankTeller slot

lemma read?_of_handle? (held : w.handle? x = some h) : w.read? x = w.people.person? h := by
  rw [read?_eq, held, Option.bind_some]

lemma handle?_of_sameAt (same : w.SameAt w' x.seat) : w'.handle? x = w.handle? x := by
  cases x with
  | name slot => exact same
  | account slot => exact congrArg (·.bind (·.customer)) same
  | bankCustomer slot => exact congrArg (·.bind (·.customer)) same
  | bankTeller slot => exact congrArg (·.bind (·.teller)) same

/-- A newcomer has its name and no other holder. -/
lemma handle?_introduce (w : World) (slot : String) (p : Person) (x : Holder) :
    handle? { w with people := (w.people.introduce slot p).2 } x =
      if x = .name slot then some w.people.fresh else w.handle? x := by
  cases x with
  | name other =>
    rw [handle?, People.find?_introduce, handle?]
    simp only [Holder.name.injEq]
  | _ => rfl

lemma mem_held_of_handle? (holds : w.handle? x = some h) : h ∈ w.held := by
  rw [held, Multiset.mem_add, Multiset.mem_add]
  cases x with
  | name slot =>
    refine .inr (Slots.mem_total.2 ⟨h, ?_, Multiset.mem_singleton_self h⟩)
    exact Slots.mem_values_iff.2 ⟨slot, holds⟩
  | account slot =>
    obtain ⟨a, here, customer⟩ := Option.bind_eq_some_iff.1 holds
    refine .inl (.inl (Slots.mem_total.2 ⟨a, Slots.mem_values_iff.2 ⟨slot, here⟩, ?_⟩))
    exact Multiset.mem_coe.2 (Option.mem_toList.2 customer)
  | bankCustomer slot =>
    obtain ⟨b, here, customer⟩ := Option.bind_eq_some_iff.1 holds
    refine .inl (.inr (Slots.mem_total.2 ⟨b, Slots.mem_values_iff.2 ⟨slot, here⟩, ?_⟩))
    exact Multiset.mem_coe.2 (List.mem_append_left _ (Option.mem_toList.2 customer))
  | bankTeller slot =>
    obtain ⟨b, here, teller⟩ := Option.bind_eq_some_iff.1 holds
    refine .inl (.inr (Slots.mem_total.2 ⟨b, Slots.mem_values_iff.2 ⟨slot, here⟩, ?_⟩))
    exact Multiset.mem_coe.2 (List.mem_append_right _ (Option.mem_toList.2 teller))

/-- Nobody holds a handle behind which nobody is known. -/
lemma Audited.exists_person (audited : w.Audited) (holds : w.handle? x = some h) :
    ∃ p, w.people.person? h = some p := by
  have counted : 0 < w.people.register.refs h := by
    rw [audited.counts h]
    exact Multiset.count_pos.2 (mem_held_of_handle? holds)
  apply Option.isSome_iff_exists.1
  refine Register.isSome_person?_iff.2 (Nat.lt_of_not_le fun beyond => ?_)
  rw [Register.refs_of_length_le beyond] at counted
  exact absurd counted (Nat.lt_irrefl 0)

lemma Audited.handle?_ne_fresh (audited : w.Audited) (x : Holder) :
    w.handle? x ≠ some w.people.fresh := by
  intro holds
  obtain ⟨p, known⟩ := audited.exists_person holds
  rw [w.people.person?_fresh] at known
  cases known

end World

/-- The requests that write one field through the handle that a name or an account holds. -/
inductive Step.WritesTo (w : World) : Step → Handle → Write → Prop
  | setId {slot : String} {h : Handle} (id : Int64) (holds : w.handle? (.name slot) = some h) :
      WritesTo w (.person (.setId slot id)) h (.id id)
  | setName {slot : String} {h : Handle} (name : String)
      (holds : w.handle? (.name slot) = some h) :
      WritesTo w (.person (.setName slot name)) h (.name name)
  | setDesk {slot : String} {h : Handle} (desk : Option String)
      (holds : w.handle? (.name slot) = some h) (teller : w.people.Knows .teller h) :
      WritesTo w (.person (.setDesk slot desk)) h (.desk desk)
  | renameCustomer {slot : String} {h : Handle} (name : String)
      (holds : w.handle? (.account slot) = some h) :
      WritesTo w (.account (.act slot (.renameCustomer name))) h (.name name)

namespace Step.WritesTo

variable {w : World} {s : Step} {h : Handle} {write : Write}

lemma resolve_eq (audited : w.Audited) {slot : String} (holds : w.handle? (.name slot) = some h) :
    ∃ p, w.people.person? h = some p ∧ w.people.resolve slot = .ok (h, p) := by
  obtain ⟨p, known⟩ := audited.exists_person holds
  have held : w.people.slots.find? slot = some h := holds
  refine ⟨p, known, ?_⟩
  rw [People.resolve, held]
  simp only [known]

lemma writes_eq (audited : w.Audited) (writes : s.WritesTo w h write) :
    s.writes w = [(h, write)] := by
  cases writes with
  | setId id holds =>
    obtain ⟨p, -, found⟩ := resolve_eq audited holds
    rw [Step.writes, PersonStep.writes, found]
    rfl
  | setName name holds =>
    obtain ⟨p, -, found⟩ := resolve_eq audited holds
    rw [Step.writes, PersonStep.writes, found]
    rfl
  | setDesk desk holds teller =>
    obtain ⟨p, known, found⟩ := resolve_eq audited holds
    obtain ⟨q, again, kind⟩ := teller
    rw [known] at again
    cases again
    rw [Step.writes, PersonStep.writes, People.resolveKind, found]
    simp only [if_pos kind]
    rfl
  | @renameCustomer slot _ name holds =>
    obtain ⟨a, here, customer⟩ := Option.bind_eq_some_iff.1 holds
    rw [Step.writes, AccountStep.writes, World.visit?, here, Option.map_some, Option.toList_some,
      List.flatMap_singleton, Visit.writes, Visit.writes, List.append_nil, Visit.written]
    show a.customer.toList.map _ = _
    rw [customer]
    rfl

lemma accounts_renameCustomer {slot : String} (name : String)
    (holds : w.handle? (.account slot) = some h) :
    ((Step.account (.act slot (.renameCustomer name))).run w).2.accounts = w.accounts := by
  obtain ⟨a, here, customer⟩ := Option.bind_eq_some_iff.1 holds
  have visited : ((Step.account (.act slot (.renameCustomer name))).run w).2 =
      w.afterVisit slot (Visit.renameCustomer ⟨w.people, a, w.clock⟩ name) := by
    apply Step.run_eq
    rw [Step.perform, AccountStep.perform, World.visit_of_find? here]
    rfl
  have same : (Visit.renameCustomer ⟨w.people, a, w.clock⟩ name).account = a := by
    simp only [Visit.renameCustomer]
    split <;> rfl
  rw [visited]
  show w.accounts.put slot (Visit.renameCustomer ⟨w.people, a, w.clock⟩ name).account = _
  rw [same, Slots.put_of_find? here]

/-- A write leaves every handle with its holder. -/
lemma handle?_run (writes : s.WritesTo w h write) (x : Holder) :
    (s.run w).2.handle? x = w.handle? x := by
  apply World.handle?_of_sameAt
  cases writes with
  | @renameCustomer slot _ name holds =>
    by_cases elsewhere : x.seat = .account slot
    · rw [elsewhere]
      exact congrArg (Slots.find? · slot) (accounts_renameCustomer name holds)
    · exact Step.spared_run _ w x.seat fun same => elsewhere (Option.some.inj same).symm
  | _ => exact Step.spared_run _ w x.seat (by simp [Step.seat?, PersonStep.seat?])

/-- Whoever holds the handle reads what is written, and nobody else reads anything of it. -/
lemma read?_run (audited : w.Audited) (writes : s.WritesTo w h write) (x : Holder) :
    (s.run w).2.read? x =
      if w.handle? x = some h then (w.read? x).map write.apply else w.read? x := by
  have follows : w.people.Follows [(h, write)] (s.run w).2.people := by
    rw [← writes.writes_eq audited]
    exact Step.follows_run (by cases writes <;> rfl)
  rw [World.read?_eq, World.read?_eq, writes.handle?_run x]
  cases w.handle? x with
  | none => rfl
  | some k =>
    rw [Option.bind_some, Option.bind_some, follows k]
    by_cases same : k = h
    · subst same
      rw [if_pos rfl]
      congr 1
      funext p
      rw [Person.after_cons, if_pos rfl, Person.after_nil]
    · rw [if_neg fun eq => same (Option.some.inj eq)]
      have others : (fun p : Person => p.after k [(h, write)]) = id := by
        funext p
        rw [Person.after_cons, if_neg (Ne.symm same), Person.after_nil, id]
      rw [others, Option.map_id, id]

end Step.WritesTo

mutual

/-- Whether a customer may be renamed, at whatever depth. -/
def BlockStep.renames : BlockStep → Bool
  | .act (.renameCustomer _) => true
  | .scopedBlock steps _ => blockRenames steps
  | _ => false

def blockRenames : List BlockStep → Bool
  | [] => false
  | step :: steps => step.renames || blockRenames steps

end

/-- The requests that may write into the record of a person. -/
def Step.mayWrite : Step → Bool
  | .person (.setId ..) => true
  | .person (.setName ..) => true
  | .person (.setDesk ..) => true
  | .account (.act _ (.renameCustomer _)) => true
  | .account (.scopedBlock _ steps) => blockRenames steps
  | _ => false

mutual

lemma BlockStep.ne_rename_of_mem_acts : (step : BlockStep) → (v : Visit) →
    step.renames = false → ∀ a ∈ step.acts v, ∀ name, a ≠ .renameCustomer name
  | .act a, v, silent => by
    intro b member name same
    rw [BlockStep.acts, List.mem_singleton] at member
    subst member same
    cases silent
  | .scopedBlock steps caught, v, silent => by
    intro b member name same
    rcases List.mem_append.1 member with inner | closing
    · exact ne_rename_of_mem_blockActs steps v silent b inner name same
    · rw [List.mem_singleton.1 closing] at same
      cases same
  | .goodbye _, _, _ => by
    intro b member
    cases member
  | .fail _, _, _ => by
    intro b member
    cases member
  | .malformed, _, _ => by
    intro b member
    cases member

lemma ne_rename_of_mem_blockActs : (steps : List BlockStep) → (v : Visit) →
    blockRenames steps = false → ∀ a ∈ blockActs steps v, ∀ name, a ≠ .renameCustomer name
  | [], _, _ => by
    intro b member
    cases member
  | step :: steps, v, silent => by
    rw [blockRenames, Bool.or_eq_false_iff] at silent
    intro b member
    rw [blockActs, List.mem_append] at member
    rcases member with first | later
    · exact step.ne_rename_of_mem_acts v silent.1 b first
    · split at later
      · exact ne_rename_of_mem_blockActs steps _ silent.2 b later
      · cases later

end

lemma Visit.writes_of_ne_rename {as : List Act}
    (silent : ∀ a ∈ as, ∀ name, a ≠ .renameCustomer name)
    (v : Visit) : v.writes as = [] := by
  induction as generalizing v with
  | nil => rfl
  | cons a as ih =>
    have nothing : v.written a = [] := by
      cases a with
      | renameCustomer name => exact absurd rfl (silent _ List.mem_cons_self name)
      | _ => rfl
    rw [writes, nothing, List.nil_append]
    exact ih (fun b member => silent b (List.mem_cons_of_mem a member)) _

lemma Step.writes_of_not_mayWrite {s : Step} (silent : s.mayWrite = false) (w : World) :
    s.writes w = [] := by
  cases s with
  | person s =>
    cases s with
    | setId slot id => cases silent
    | setName slot name => cases silent
    | setDesk slot desk => cases silent
    | _ => rfl
  | account s =>
    cases s with
    | act slot a =>
      have others : ∀ b ∈ [a], ∀ name, b ≠ .renameCustomer name := by
        intro b member name same
        rw [List.mem_singleton] at member
        subst member same
        cases silent
      rw [writes, AccountStep.writes]
      cases w.visit? slot with
      | none => rfl
      | some v =>
        rw [Option.toList_some, List.flatMap_singleton]
        exact v.writes_of_ne_rename others
    | scopedBlock slot steps =>
      rw [writes, AccountStep.writes]
      cases w.visit? slot with
      | none => rfl
      | some v =>
        rw [Option.toList_some, List.flatMap_singleton]
        exact v.writes_of_ne_rename
          ((BlockStep.scopedBlock steps false).ne_rename_of_mem_acts v silent)
    | _ => rfl
  | _ => rfl

namespace World.Audited

variable {w : World} {x : Holder} {h : Handle}

/-- Who holds a handle after a request reads a person known before, with the writes since, or it is
the name of a newcomer. -/
lemma read?_run (audited : w.Audited) (s : Step) (holds : (s.run w).2.handle? x = some h) :
    (∃ p, w.people.person? h = some p ∧
      (s.run w).2.read? x = some (p.after h (s.writes w))) ∨
    ∃ slot p, s.newcomer? w = some (slot, p) ∧ x = .name slot ∧ h = w.people.fresh ∧
      (s.run w).2.read? x = some p := by
  rw [read?_of_handle? holds]
  cases comes : s.newcomer? w with
  | none =>
    obtain ⟨q, known⟩ := ((s.leads w).audited audited).exists_person holds
    have follows := Step.follows_run comes h
    rw [known] at follows
    obtain ⟨p, before, rfl⟩ := Option.map_eq_some_iff.1 follows.symm
    exact .inl ⟨p, before, known⟩
  | some newcomer =>
    obtain ⟨slot, p⟩ := newcomer
    obtain ⟨came, nothing⟩ := Step.run_of_newcomer? comes
    rw [came] at holds ⊢
    rw [handle?_introduce] at holds
    split at holds
    · rename_i named
      cases holds
      exact .inr ⟨slot, p, rfl, named, rfl, w.people.person?_introduce slot p⟩
    · obtain ⟨q, known⟩ := audited.exists_person holds
      refine .inl ⟨q, known, ?_⟩
      rw [nothing]
      exact w.people.recalls_introduce slot p h q known

/-- After a run every field of a person holds what was written into it last. -/
lemma read?_later {p : Person} (known : w.people.person? h = some p) (later : List Step)
    (holds : (w.run later).2.handle? x = some h) :
    ∃ q, (w.run later).2.read? x = some q ∧ q.kind = p.kind ∧
      q.id = (lastWritten Write.id? h (w.writes later)).getD p.id ∧
      q.name = (lastWritten Write.name? h (w.writes later)).getD p.name ∧
      (p.kind = .teller → q.desk = (lastWritten Write.desk? h (w.writes later)).getD p.desk) := by
  refine ⟨p.after h (w.writes later), ?_, p.kind_after h _, p.id_after h _, p.name_after h _,
    Person.desk_after_of_teller h _⟩
  rw [read?_of_handle? holds]
  exact w.recalls_run later h p known

end World.Audited

/-- A write through a handle is seen by all who hold that handle and by nobody else, and between
writes everybody stays as they are, so each field reads as it was last written through any holder of
its handle. A newcomer, and a copy is one, has a handle that nobody held. Nothing that is done at
one seat is done to what sits at another. -/
theorem aliases_coherent (before : List Step) (s : Step) :
    let w := (World.empty.run before).2
    let w' := (s.run w).2
    (∀ h write, s.WritesTo w h write → ∀ x, w'.handle? x = w.handle? x ∧
      w'.read? x = if w.handle? x = some h then (w.read? x).map write.apply else w.read? x) ∧
    (∀ x h, w'.handle? x = some h →
      (∃ p, w.people.person? h = some p ∧ w'.read? x = some (p.after h (s.writes w))) ∨
      ∃ slot p, s.newcomer? w = some (slot, p) ∧ x = .name slot ∧ h = w.people.fresh ∧
        w'.read? x = some p) ∧
    (∀ x, w.handle? x ≠ some w.people.fresh) ∧
    (s.mayWrite = false → ∀ h p, w.people.person? h = some p → w'.people.person? h = some p) ∧
    (∀ later x h p, w.people.person? h = some p → (w.run later).2.handle? x = some h →
      ∃ q, (w.run later).2.read? x = some q ∧ q.kind = p.kind ∧
        q.id = (lastWritten Write.id? h (w.writes later)).getD p.id ∧
        q.name = (lastWritten Write.name? h (w.writes later)).getD p.name ∧
        (p.kind = .teller →
          q.desk = (lastWritten Write.desk? h (w.writes later)).getD p.desk)) ∧
    ∀ seat, s.seat? ≠ some seat → w.SameAt w' seat := by
  intro w w'
  have audited : w.Audited := World.audited_empty.run before
  refine ⟨?_, ?_, audited.handle?_ne_fresh, ?_, ?_, s.spared_run w⟩
  · intro h write writes x
    exact ⟨writes.handle?_run x, writes.read?_run audited x⟩
  · intro x h holds
    exact audited.read?_run s holds
  · intro silent h p known
    have recalls := s.recalls_run w
    rw [Step.writes_of_not_mayWrite silent] at recalls
    exact recalls h p known
  · intro later x h p known holds
    exact World.Audited.read?_later known later holds

/-- A customer with two names, an account and a bank is renamed through the account; the copy that
was taken before keeps the name. -/
theorem renamed_customer_seen_by_all :
    let before : List Step :=
      [.person (.introduce "a" (.customer ⟨1, "Ann"⟩)), .person (.share "a" "b"),
        .person (.copy "a" "c"), .account (.opened "k" .checking 7 (some "b")),
        .bank (.founded "m" 1 "Bank" (some "a") none)]
    let w := (World.empty.run before).2
    let w' := ((Step.account (.act "k" (.renameCustomer "Bea"))).run w).2
    (w'.read? (.name "a") = some (.customer ⟨1, "Bea"⟩) ∧
      w'.read? (.name "b") = some (.customer ⟨1, "Bea"⟩) ∧
      w'.read? (.account "k") = some (.customer ⟨1, "Bea"⟩) ∧
      w'.read? (.bankCustomer "m") = some (.customer ⟨1, "Bea"⟩)) ∧
    w'.read? (.name "c") = some (.customer ⟨1, "Ann"⟩) := by
  intro before w w'
  obtain ⟨seen, -⟩ := aliases_coherent before (.account (.act "k" (.renameCustomer "Bea")))
  have writes : (Step.account (.act "k" (.renameCustomer "Bea"))).WritesTo w ⟨0⟩ (.name "Bea") :=
    .renameCustomer "Bea" (by decide)
  have read (x : Holder) := (seen ⟨0⟩ (.name "Bea") writes x).2
  refine ⟨⟨?_, ?_, ?_, ?_⟩, ?_⟩
  · exact (read (.name "a")).trans (by decide)
  · exact (read (.name "b")).trans (by decide)
  · exact (read (.account "k")).trans (by decide)
  · exact (read (.bankCustomer "m")).trans (by decide)
  · exact (read (.name "c")).trans (by decide)

end Countinghouse
