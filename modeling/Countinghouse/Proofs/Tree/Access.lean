import Countinghouse.Proofs.Tree.Firsts

/-!
Access to the branches of a bank and to the vaults of a branch. What is changed through it is the
one child that is designated, or every child in its turn; all else stays as it was.
-/
namespace Countinghouse

section

variable {α : Type} {key : α → String} {k : String} {before after : List α} {a : α}

/-- What is found when `a`, which stands between others, has become `a'`: under the key that it has
now, the earliest one with the key; under a key that it was the first to have and has lost, the next
one with the key; under every other key, what was found before. -/
structure Finds (key : α → String) (before : List α) (a a' : α) (after : List α)
    (find : String → Option α) : Prop where
  earliest : find (key a') = (before.find? (key · == key a')).or (some a')
  next : ∀ k, key a' ≠ k → IsFirst key k before a → find k = after.find? (key · == k)
  others : ∀ k, key a' ≠ k → ¬ IsFirst key k before a →
    find k = (before ++ a :: after).find? (key · == k)

lemma find?_append_cons_of_ne (before after : List α) (away : key a ≠ k) :
    (before ++ a :: after).find? (key · == k) =
      (before.find? (key · == k)).or (after.find? (key · == k)) := by
  rw [List.find?_append, List.find?_cons_of_neg (by simpa using away)]

lemma finds_append_cons (before : List α) (a a' : α) (after : List α) :
    Finds key before a a' after fun k => (before ++ a' :: after).find? (key · == k) where
  earliest := by
    rw [List.find?_append, List.find?_cons_of_pos (by simp)]
  next k lost first := by
    rw [find?_append_cons_of_ne before after lost, find?_eq_none_iff_forall.2 first.others,
      Option.none_or]
  others k lost late := by
    -- An earlier one hides what has changed; without one, it did not have the key before either.
    rw [find?_append_cons_of_ne before after lost, List.find?_append]
    cases earlier : before.find? (key · == k) with
    | some c => rfl
    | none =>
      have other : key a ≠ k := fun fits => late ⟨fits, find?_eq_none_iff_forall.1 earlier⟩
      rw [List.find?_cons_of_neg (by simpa using other)]

/-- The children after so many turns of a walk over them: in each turn one is changed, and the turn
that comes after `n` others is that of the child that stands behind `n` others. -/
def turns (change : Nat → α → α) (l : List α) : Nat → List α
  | 0 => l
  | n + 1 => (turns change l n).modify n (change n)

/-- Each is changed once, when its turn comes, and is till then as it was. -/
lemma getElem?_turns (change : Nat → α → α) (l : List α) (n i : Nat) :
    (turns change l n)[i]? = if i < n then l[i]?.map (change i) else l[i]? := by
  induction n with
  | zero => rfl
  | succ n ih =>
    rw [turns, List.getElem?_modify, ih]
    by_cases now : n = i
    · subst now
      rw [if_neg (Nat.lt_irrefl n), if_pos (Nat.lt_succ_self n)]
      simp
    · have unchanged : i < n + 1 ↔ i < n := by omega
      simp only [if_neg now, unchanged, id_map']

lemma walk_append {σ : Type} (turn : σ → α → α × σ) (s : σ) (before after : List α) :
    walk turn s (before ++ after) =
      let front := walk turn s before
      let back := walk turn front.2 after
      (front.1 ++ back.1, back.2) := by
  induction before generalizing s with
  | nil => rfl
  | cons a before ih => simp only [List.cons_append, walk_cons, ih]

/-- A walk that counts its turns knows the place of each child. -/
lemma walk_counting (change : Nat → α → α) (m : Nat) (l : List α) :
    walk (fun i a => (change i a, i + 1)) m l =
      (l.mapIdx fun i => change (m + i), m + l.length) := by
  induction l generalizing m with
  | nil => rfl
  | cons a l ih =>
    rw [walk_cons, ih, List.mapIdx_cons, List.length_cons]
    simp only [Nat.add_zero, Nat.add_right_comm, Nat.add_assoc]

lemma mapIdx_eq_turns (change : Nat → α → α) (l : List α) (n : Nat) :
    l.mapIdx (fun i a => if i < n then change i a else a) = turns change l n := by
  apply List.ext_getElem?
  intro i
  rw [List.getElem?_mapIdx, getElem?_turns]
  split
  · rfl
  · exact Option.map_id'

/-- A change of all is a walk over all. -/
lemma map_eq_turns (f : α → α) (l : List α) : l.map f = turns (fun _ => f) l l.length := by
  apply List.ext_getElem?
  intro i
  rw [List.getElem?_map, getElem?_turns]
  split
  · rfl
  · rename_i beyond
    rw [List.getElem?_eq_none (Nat.not_lt.1 beyond)]
    rfl

end

namespace Branch

variable {r : Branch} {id : String} {before after : List Vault} {v : Vault}

lemma Designates.finds_updateVault (found : r.Designates id before v after) (g : Vault → Vault) :
    Finds Vault.id before v (g v) after (r.updateVault id g).vault? := by
  rw [found.updateVault_eq g]
  exact finds_append_cons before v (g v) after

/-- The vault that has just been installed is the one at hand. -/
lemma updateLastVault_installVault (r : Branch) (id : String) (g : Vault → Vault) :
    (r.installVault id).1.updateLastVault g = { r with vaults := r.vaults ++ [g ⟨id, false⟩] } := by
  rw [updateLastVault, vaultCount_installVault, Nat.add_sub_cancel]
  simp only [installVault, vaultCount, modify_append_cons]

lemma vault?_installVault (r : Branch) (id : String) :
    (r.installVault id).1.vault? id = (r.vault? id).or (some ⟨id, false⟩) := by
  simp [installVault, vault?]

/-- What the change does not touch is the same throughout the branch. -/
lemma map_updateVault {β : Type} {view : Vault → β} {g : Vault → Vault}
    (same : ∀ v, view (g v) = view v) (r : Branch) (id : String) :
    (r.updateVault id g).vaults.map view = r.vaults.map view := by
  cases here : r.vault? id with
  | none => rw [updateVault_of_vault?_eq_none here]
  | some v =>
    obtain ⟨before, after, found⟩ := vault?_eq_some_iff.1 here
    rw [found.updateVault_eq g, found.split]
    simp only [List.map_append, List.map_cons, same]

/-- A walk that changes each of the first `n` vaults in its turn leaves all others alone. -/
lemma walkVaults_eq_turns (r : Branch) (change : Nat → Vault → Vault) (n : Nat) :
    r.walkVaults (fun i v => (if i < n then change i v else v, i + 1)) 0 =
      ({ r with vaults := turns change r.vaults n }, r.vaultCount) := by
  simp only [walkVaults, walk_counting, Nat.zero_add, mapIdx_eq_turns, vaultCount]

lemma walkVaults_of_split {σ : Type} (split : r.vaults = before ++ v :: after)
    (turn : σ → Vault → Vault × σ) (s : σ) :
    let front := walk turn s before
    let back := walk turn (turn front.2 v).2 after
    r.walkVaults turn s =
      ({ r with vaults := front.1 ++ (turn front.2 v).1 :: back.1 }, back.2) := by
  simp only [walkVaults, split, walk_append, walk_cons]

lemma updateVaults_eq_turns (r : Branch) (g : Vault → Vault) :
    r.updateVaults g = { r with vaults := turns (fun _ => g) r.vaults r.vaultCount } := by
  rw [updateVaults_eq, map_eq_turns, vaultCount]

@[simp] lemma occupiedCount_fill (r : Branch) (occupied : Bool) :
    (r.fill occupied).occupiedCount = if occupied then r.vaultCount else 0 := by
  cases occupied <;> simp [fill, updateVaults_eq, occupiedCount, vaultCount, Vault.setOccupied,
    List.countP_map, Function.comp_def]

end Branch

namespace Bank

variable {b : Bank} {p : Place} {before after : List Branch} {r : Branch}

lemma Designates.finds_updateBranch (found : b.Designates p before r after)
    (f : Branch → Branch) :
    Finds Branch.address before r (f r) after
      fun a => (b.updateBranch p f).branch? (.address a) := by
  rw [found.updateBranch_eq f]
  exact finds_append_cons before r (f r) after

/-- What the change does not touch is the same throughout the bank. -/
lemma map_updateBranch {β : Type} {view : Branch → β} {f : Branch → Branch}
    (same : ∀ r, view (f r) = view r) (b : Bank) (p : Place) :
    (b.updateBranch p f).branches.map view = b.branches.map view := by
  cases here : b.branch? p with
  | none => rw [updateBranch_of_branch?_eq_none here]
  | some r =>
    obtain ⟨before, after, found⟩ := branch?_eq_some_iff.1 here
    rw [found.updateBranch_eq f, found.split]
    simp only [List.map_append, List.map_cons, same]

/-- The branch that has just been opened is the one at hand. -/
lemma updateLastBranch_openBranch (b : Bank) (address phoneNumber : String)
    (f : Branch → Branch) :
    (b.openBranch address phoneNumber).1.updateLastBranch f =
      { b with branches := b.branches ++ [f (.bare address phoneNumber)] } := by
  rw [updateLastBranch, branchCount_openBranch, Nat.add_sub_cancel]
  simp only [openBranch, branchCount, modify_append_cons]

lemma branch?_openBranch (b : Bank) (address phoneNumber : String) :
    (b.openBranch address phoneNumber).1.branch? (.address address) =
      (b.branch? (.address address)).or (some (.bare address phoneNumber)) := by
  simp [openBranch, branch?, Branch.bare]

/-- A walk that changes each of the first `n` branches in its turn leaves all others alone. -/
lemma walkBranches_eq_turns (b : Bank) (change : Nat → Branch → Branch) (n : Nat) :
    b.walkBranches (fun i r => (if i < n then change i r else r, i + 1)) 0 =
      ({ b with branches := turns change b.branches n }, b.branchCount) := by
  simp only [walkBranches, walk_counting, Nat.zero_add, mapIdx_eq_turns, branchCount]

lemma walkBranches_of_split {σ : Type} (split : b.branches = before ++ r :: after)
    (turn : σ → Branch → Branch × σ) (s : σ) :
    let front := walk turn s before
    let back := walk turn (turn front.2 r).2 after
    b.walkBranches turn s =
      ({ b with branches := front.1 ++ (turn front.2 r).1 :: back.1 }, back.2) := by
  simp only [walkBranches, split, walk_append, walk_cons]

lemma updateBranches_eq_turns (b : Bank) (f : Branch → Branch) :
    b.updateBranches f = { b with branches := turns (fun _ => f) b.branches b.branchCount } := by
  rw [updateBranches_eq, map_eq_turns, branchCount]

/-- A change of one vault stays within that vault. -/
lemma Designates.updateVault_eq {id : String} {front back : List Vault} {v : Vault}
    (found : b.Designates p before r after) (inside : r.Designates id front v back)
    (g : Vault → Vault) :
    b.updateBranch p (·.updateVault id g) =
      { b with branches := before ++ { r with vaults := front ++ g v :: back } :: after } := by
  rw [found.updateBranch_eq, inside.updateVault_eq]

lemma Designates.updateVault_of_vault?_eq_none {id : String}
    (found : b.Designates p before r after) (absent : r.vault? id = none) (g : Vault → Vault) :
    b.updateBranch p (·.updateVault id g) = b := by
  rw [found.updateBranch_eq, Branch.updateVault_of_vault?_eq_none absent, ← found.split]

end Bank

/-- Access reaches what it designates and nothing else. A search finds the first branch, or vault,
that fits; a change through it changes that one where it stands, and the others, the order, what the
change leaves out and the bank's own data stay as they were. Without a match nothing changes.
Afterwards the searches find what is then the first to fit. What has just been opened or installed
is the last child, even where an earlier one is found under the same key. A walk comes to every
child once, in order, with what the turns before have left, and changes nothing else; a change of
all is such a walk. -/
theorem access_reaches_designated_only (b : Bank) :
    (∀ p r, b.branch? p = some r ↔ ∃ before after, b.Designates p before r after) ∧
    (∀ (r : Branch) id v, r.vault? id = some v ↔ ∃ front back, r.Designates id front v back) ∧
    (∀ p f, b.branch? p = none → b.updateBranch p f = b) ∧
    (∀ p before r after, b.Designates p before r after →
      (∀ f, b.updateBranch p f = { b with branches := before ++ f r :: after } ∧
        Finds Branch.address before r (f r) after
          fun a => (b.updateBranch p f).branch? (.address a)) ∧
      (∀ id g, r.vault? id = none → b.updateBranch p (·.updateVault id g) = b) ∧
      ∀ id g front v back, r.Designates id front v back →
        b.updateBranch p (·.updateVault id g) =
          { b with branches := before ++ { r with vaults := front ++ g v :: back } :: after } ∧
        Finds Vault.id front v (g v) back (r.updateVault id g).vault?) ∧
    (∀ (β : Type) (view : Branch → β) f, (∀ r, view (f r) = view r) →
      ∀ p, (b.updateBranch p f).branches.map view = b.branches.map view) ∧
    (∀ (β : Type) (view : Vault → β) g, (∀ v, view (g v) = view v) →
      ∀ (r : Branch) id, (r.updateVault id g).vaults.map view = r.vaults.map view) ∧
    (∀ address phoneNumber f,
      (b.openBranch address phoneNumber).1.updateLastBranch f =
        { b with branches := b.branches ++ [f (.bare address phoneNumber)] } ∧
      (b.openBranch address phoneNumber).1.branch? (.address address) =
        (b.branch? (.address address)).or (some (.bare address phoneNumber))) ∧
    (∀ (r : Branch) id g,
      (r.installVault id).1.updateLastVault g =
        { r with vaults := r.vaults ++ [g ⟨id, false⟩] } ∧
      (r.installVault id).1.vault? id = (r.vault? id).or (some ⟨id, false⟩)) ∧
    (∀ (σ : Type) (turn : σ → Branch → Branch × σ) s before r after,
      b.branches = before ++ r :: after →
        let front := walk turn s before
        let back := walk turn (turn front.2 r).2 after
        b.walkBranches turn s =
          ({ b with branches := front.1 ++ (turn front.2 r).1 :: back.1 }, back.2)) ∧
    (∀ change n, b.walkBranches (fun i r => (if i < n then change i r else r, i + 1)) 0 =
      ({ b with branches := turns change b.branches n }, b.branchCount)) ∧
    (∀ f, b.updateBranches f =
      { b with branches := turns (fun _ => f) b.branches b.branchCount }) ∧
    (∀ change n i, (turns change b.branches n)[i]? =
      if i < n then b.branches[i]?.map (change i) else b.branches[i]?) ∧
    (∀ (r : Branch) (σ : Type) (turn : σ → Vault → Vault × σ) s before v after,
      r.vaults = before ++ v :: after →
        let front := walk turn s before
        let back := walk turn (turn front.2 v).2 after
        r.walkVaults turn s =
          ({ r with vaults := front.1 ++ (turn front.2 v).1 :: back.1 }, back.2)) ∧
    (∀ (r : Branch) change n,
      r.walkVaults (fun i v => (if i < n then change i v else v, i + 1)) 0 =
        ({ r with vaults := turns change r.vaults n }, r.vaultCount)) ∧
    (∀ (r : Branch) g, r.updateVaults g =
      { r with vaults := turns (fun _ => g) r.vaults r.vaultCount }) ∧
    (∀ (r : Branch) change n i, (turns change r.vaults n)[i]? =
      if i < n then r.vaults[i]?.map (change i) else r.vaults[i]?) ∧
    ∀ occupied, (b.updateBranches (·.fill occupied)).branches.map Branch.occupiedCount =
      b.branches.map fun r => if occupied then r.vaultCount else 0 := by
  refine ⟨fun p r => Bank.branch?_eq_some_iff, fun r id v => Branch.vault?_eq_some_iff,
    fun p f absent => Bank.updateBranch_of_branch?_eq_none absent f, ?_,
    fun β view f same p => Bank.map_updateBranch same b p,
    fun β view g same r id => Branch.map_updateVault same r id,
    fun address phoneNumber f => ⟨b.updateLastBranch_openBranch address phoneNumber f,
      b.branch?_openBranch address phoneNumber⟩,
    fun r id g => ⟨r.updateLastVault_installVault id g, r.vault?_installVault id⟩,
    fun σ turn s before r after split => Bank.walkBranches_of_split split turn s,
    b.walkBranches_eq_turns, b.updateBranches_eq_turns,
    fun change => getElem?_turns change b.branches,
    fun r σ turn s before v after split => Branch.walkVaults_of_split split turn s,
    Branch.walkVaults_eq_turns, Branch.updateVaults_eq_turns,
    fun r change => getElem?_turns change r.vaults, ?_⟩
  · intro p before r after found
    refine ⟨fun f => ⟨found.updateBranch_eq f, found.finds_updateBranch f⟩,
      fun id g absent => found.updateVault_of_vault?_eq_none absent g, ?_⟩
    intro id g front v back inside
    exact ⟨found.updateVault_eq inside g, inside.finds_updateVault g⟩
  · intro occupied
    simp only [Bank.updateBranches_eq, List.map_map]
    exact List.map_congr_left fun r _ => r.occupiedCount_fill occupied

/-- Of two branches at one address the first is renamed to the address of an earlier one, and so is
the first of two vaults with one id; then every other vault is occupied. -/
theorem access_reaches_first_namesake :
    let far : Branch := ⟨"Far", "1", []⟩
    let near : Branch := ⟨"Near", "2", [⟨"w", true⟩, ⟨"v", false⟩, ⟨"v", true⟩]⟩
    let twin : Branch := ⟨"Near", "3", [⟨"v", false⟩]⟩
    let b : Bank := ⟨8, "Bank", none, none, [far, near, twin]⟩
    let moved := b.updateBranch (.address "Near") fun r => { r with address := "Far" }
    b.Designates (.address "Near") [far] near [twin] ∧
    moved.branches = [far, { near with address := "Far" }, twin] ∧
    moved.branch? (.address "Near") = some twin ∧
    moved.branch? (.address "Far") = some far ∧
    b.updateBranch (.index 1) (·.updateVault "v" (.setId "w")) =
      { b with branches :=
        [far, { near with vaults := [⟨"w", true⟩, ⟨"w", false⟩, ⟨"v", true⟩] }, twin] } ∧
    (near.updateVault "v" (.setId "w")).vault? "v" = some ⟨"v", true⟩ ∧
    (near.updateVault "v" (.setId "w")).vault? "w" = some ⟨"w", true⟩ ∧
    b.updateBranch (.index 3) (·.fill true) = b ∧
    near.walkVaults (fun turn v => (v.setOccupied turn, !turn)) false =
      ({ near with vaults := [⟨"w", false⟩, ⟨"v", true⟩, ⟨"v", false⟩] }, true) := by
  intro far near twin b moved
  obtain ⟨-, -, missed, reached, -, -, -, -, -, -, -, -, walks, -⟩ :=
    access_reaches_designated_only b
  have first : b.Designates (.address "Near") [far] near [twin] := ⟨rfl, rfl, by decide⟩
  have second : b.Designates (.index 1) [far] near [twin] := ⟨rfl, rfl⟩
  have inside : near.Designates "v" [⟨"w", true⟩] ⟨"v", false⟩ [⟨"v", true⟩] :=
    ⟨rfl, rfl, by decide⟩
  obtain ⟨is, finds⟩ := (reached _ _ _ _ first).1 fun r => { r with address := "Far" }
  obtain ⟨changed, searches⟩ := (reached _ _ _ _ second).2.2 "v" (.setId "w") _ _ _ inside
  refine ⟨first, congrArg Bank.branches is, ?_, finds.earliest, changed, ?_, searches.earliest,
    missed (.index 3) _ rfl, walks near _ _ false _ _ _ inside.split⟩
  · exact finds.next "Near" (by decide) first.picks
  · exact searches.next "v" (by decide) inside.first

end Countinghouse
