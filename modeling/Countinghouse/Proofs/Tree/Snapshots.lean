import Countinghouse.Proofs.Json.Accepted
import Countinghouse.Proofs.Json.Writing
import Countinghouse.Proofs.World.Footprints
import Countinghouse.Proofs.World.Independence

/-!
Branches as they are written down. The text of a branch spells one value and no other, and that
value has all that the branch has; so two branches have the same text only if they are the same.
-/
namespace Countinghouse

open Json

lemma Vault.spells_toJson (v : Vault) : Spells v.toJson v.toJson.write := by
  apply Value.spells_write_object
  simp only [List.forall_mem_cons]
  exact ⟨Value.spells_write_text v.id, Value.spells_write_bool v.occupied, nofun⟩

lemma Vault.toJson_injective : Function.Injective Vault.toJson := by
  intro v w same
  simp only [toJson, Value.object.injEq, List.cons.injEq, Prod.mk.injEq, Value.text.injEq,
    Value.bool.injEq, true_and, and_true] at same
  obtain ⟨id, occupied⟩ := v
  obtain ⟨rfl, rfl⟩ := same
  rfl

namespace Branch

lemma spells_toJson (r : Branch) : Spells r.toJson r.toJson.write := by
  have vaults : Spells (.array (r.vaults.map Vault.toJson))
      (Value.array (r.vaults.map Vault.toJson)).write := by
    apply Value.spells_write_array
    rw [List.forall_mem_map]
    exact fun v _ => v.spells_toJson
  apply Value.spells_write_object
  simp only [List.forall_mem_cons]
  exact ⟨Value.spells_write_text r.address, Value.spells_write_text r.phoneNumber, vaults, nofun⟩

lemma spelledBy_toText (r : Branch) : r.toJson.SpelledBy r.toJson.toText :=
  Value.spelledBy_toText r.spells_toJson

lemma toJson_injective : Function.Injective Branch.toJson := by
  intro r s same
  simp only [toJson, Value.object.injEq, List.cons.injEq, Prod.mk.injEq, Value.text.injEq,
    Value.array.injEq, true_and, and_true] at same
  obtain ⟨address, phoneNumber, vaults⟩ := same
  obtain ⟨a, p, vs⟩ := r
  obtain ⟨b, q, ws⟩ := s
  rw [Branch.mk.injEq]
  exact ⟨address, phoneNumber, List.map_injective_iff.2 Vault.toJson_injective vaults⟩

/-- Who reads the text of a branch as a value can tell which branch it was. -/
lemma toText_injective : Function.Injective fun r : Branch => r.toJson.toText := by
  intro r s same
  have spelled := s.spelledBy_toText
  rw [← show r.toJson.toText = s.toJson.toText from same] at spelled
  exact toJson_injective (r.spelledBy_toText.unique spelled)

end Branch

namespace World

variable {w w' : World} {slot slot' : String}

/-- What the house answers when it is asked to write down the branch at a place. -/
def pictureAt (w : World) (slot : String) (p : Place) : Answer :=
  ((Step.branch (.encode ⟨slot, p⟩)).run w).1.answer

lemma pictureAt_eq {b : Bank} (here : w.banks.find? slot = some b) (p : Place) :
    w.pictureAt slot p = .ofOption (fun r => .text r.toJson.toText) (b.branch? p) := by
  have found : w.bank slot = .ok b := by simp only [bank, here]
  simp only [pictureAt, Step.run, Step.perform, BranchStep.perform, branch?, found]
  rfl

lemma picture_eq_iff {r s : Option Branch} :
    Answer.ofOption (fun r => .text r.toJson.toText) r =
      .ofOption (fun r => .text r.toJson.toText) s ↔ r = s := by
  cases r with
  | none => cases s <;> simp [Answer.ofOption]
  | some r =>
    cases s with
    | none => simp [Answer.ofOption]
    | some s =>
      simp only [Answer.ofOption, Answer.text.injEq, Option.some.injEq]
      exact Branch.toText_injective.eq_iff

/-- Whatever is asked of others, a bank stays as it is. -/
lemma find?_run_of_spared {steps : List Step}
    (elsewhere : ∀ s ∈ steps, s.seat? ≠ some (.bank slot)) :
    (w.run steps).2.banks.find? slot = w.banks.find? slot := by
  induction steps generalizing w with
  | nil => rfl
  | cons s steps ih =>
    obtain ⟨first, later⟩ := List.forall_mem_cons.1 elsewhere
    exact (ih later).trans (s.spared_run w (.bank slot) first)

/-- Behind a cloning both slots hold the bank that was cloned. -/
lemma find?_run_clone {source target : String} {b : Bank} (here : w.banks.find? source = some b) :
    ∀ slot ∈ [source, target],
      ((Step.bank (.clone source target)).run w).2.banks.find? slot = some b := by
  intro slot either
  have copy := (@agrees_cloned w source target b here).bank.trans here
  rcases List.mem_pair.1 either with rfl | rfl
  · by_cases same : slot = target
    · rw [← same] at copy ⊢
      exact copy
    · exact (agrees_original same here).bank.trans here
  · exact copy

end World

/-- The text of a branch spells an object of its address, its phone number and its vaults as they
were installed, and nothing else; a reader of JSON finds just that. So two branches have the same
text only if they are the same. A clone is told in the texts of its original, and from then on two
places in them are told alike as long as the branches there are equal; what is asked of others
changes nothing in what is told of either bank. -/
theorem branch_snapshots_faithful :
    (∀ r : Branch,
      let picture : Value := .object [("address", .text r.address),
        ("phone_number", .text r.phoneNumber),
        ("vaults", .array (r.vaults.map fun v =>
          .object [("id", .text v.id), ("occupied", .bool v.occupied)]))]
      Value.ofText? r.toJson.toText = some picture ∧
      ∀ v : Value, v.SpelledBy r.toJson.toText ↔ v = picture) ∧
    (∀ r s : Branch, r.toJson.toText = s.toJson.toText ↔
      r.address = s.address ∧ r.phoneNumber = s.phoneNumber ∧ r.vaults = s.vaults) ∧
    ∀ (w : World) (source target : String) (b : Bank), w.banks.find? source = some b →
      let cloned := ((Step.bank (.clone source target)).run w).2
      (∀ p, cloned.pictureAt target p = cloned.pictureAt source p ∧
        cloned.pictureAt source p = w.pictureAt source p) ∧
      ∀ later : List Step,
        let reached := (cloned.run later).2
        (∀ slot ∈ [source, target], (∀ s ∈ later, s.seat? ≠ some (.bank slot)) →
          ∀ p, reached.pictureAt slot p = w.pictureAt source p) ∧
        ∀ b' c', reached.banks.find? source = some b' → reached.banks.find? target = some c' →
          ∀ p q, reached.pictureAt source p = reached.pictureAt target q ↔
            b'.branch? p = c'.branch? q := by
  refine ⟨fun r => ?_, fun r s => ?_, fun w source target b here => ?_⟩
  · intro picture
    have spelled : picture.SpelledBy r.toJson.toText := r.spelledBy_toText
    refine ⟨Value.ofText?_eq_some_iff.2 spelled, fun v => ⟨fun other => other.unique spelled, ?_⟩⟩
    rintro rfl
    exact spelled
  · rw [Branch.toText_injective.eq_iff (a := r) (b := s)]
    obtain ⟨address, phoneNumber, vaults⟩ := r
    obtain ⟨address', phoneNumber', vaults'⟩ := s
    exact Iff.of_eq (Branch.mk.injEq ..)
  · intro cloned
    have both := @World.find?_run_clone w source target b here
    have original := both source List.mem_cons_self
    have copy := both target (List.mem_cons_of_mem _ List.mem_cons_self)
    refine ⟨fun p => ⟨?_, ?_⟩, fun later => ⟨fun slot either elsewhere p => ?_, ?_⟩⟩
    · rw [World.pictureAt_eq copy, World.pictureAt_eq original]
    · rw [World.pictureAt_eq original, World.pictureAt_eq here]
    · have still := (World.find?_run_of_spared elsewhere).trans (both slot either)
      rw [World.pictureAt_eq still, World.pictureAt_eq here]
    · intro b' c' one other p q
      rw [World.pictureAt_eq one, World.pictureAt_eq other, World.picture_eq_iff]

/-- An address that looks like the rest of its own text, vaults of one empty id, and a clone whose
original is changed afterwards. -/
theorem quoted_branch_pictured :
    let r : Branch := ⟨"\",\"vaults\":[]\x7d", "", [⟨"", true⟩, ⟨"", false⟩]⟩
    let text := "\x7b\"address\":\"\\\",\\\"vaults\\\":[]\x7d\",\"phone_number\":\"\",\"vaults\":[" ++
      "\x7b\"id\":\"\",\"occupied\":true\x7d,\x7b\"id\":\"\",\"occupied\":false\x7d]\x7d"
    let w := (World.empty.run [.bank (.founded "a" 7 "A" none none),
      .bank (.openBranch "a" r.address "" [⟨"", some true, none⟩, ⟨"", none, none⟩])]).2
    let cloned := ((Step.bank (.clone "a" "b")).run w).2
    let reached := (cloned.run [.vault (.setOccupied ⟨"a", .index 0⟩ "" false)]).2
    r.toJson.toText = text ∧ Value.ofText? text = some r.toJson ∧
    cloned.pictureAt "b" (.index 0) = .text text ∧
    reached.pictureAt "b" (.index 0) = .text text ∧
    reached.pictureAt "a" (.index 0) ≠ reached.pictureAt "b" (.index 0) := by
  intro r text w cloned reached
  obtain ⟨reads, -, clones⟩ := branch_snapshots_faithful
  have written : r.toJson.toText = text := by decide
  have here : w.banks.find? "a" = some ⟨7, "A", none, none, [r]⟩ := by decide
  have changed : reached.banks.find? "a" =
      some ⟨7, "A", none, none, [{ r with vaults := [⟨"", false⟩, ⟨"", false⟩] }]⟩ := by decide
  have kept : reached.banks.find? "b" = some ⟨7, "A", none, none, [r]⟩ := by decide
  obtain ⟨same, later⟩ := clones w "a" "b" _ here
  obtain ⟨spared, apart⟩ := later [.vault (.setOccupied ⟨"a", .index 0⟩ "" false)]
  have told : w.pictureAt "a" (.index 0) = .text text := by
    rw [World.pictureAt_eq here, ← written]
    rfl
  refine ⟨written, written ▸ (reads r).1, ?_, ?_, ?_⟩
  · rw [(same _).1, (same _).2, told]
  · rw [spared "b" (by decide) (by decide), told]
  · rw [Ne, apart _ _ changed kept]
    decide

end Countinghouse
