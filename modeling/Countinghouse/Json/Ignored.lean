import Countinghouse.Json.Lead

/-!
Values that nobody asked for. They are passed over with a stack of the brackets still open; their
numbers may be of any size and their strings may hold units that are no characters.
-/
namespace Countinghouse.Json

inductive Bracket
  | array
  | object
deriving DecidableEq, Repr

/-- What comes next: a value, or what may follow one. -/
inductive Stage
  | value
  | after
deriving DecidableEq, Repr

/-- Passes over a scalar. -/
def passScalar : List Char → Option (List Char)
  | 'n' :: 'u' :: 'l' :: 'l' :: rest => some rest
  | 't' :: 'r' :: 'u' :: 'e' :: rest => some rest
  | 'f' :: 'a' :: 'l' :: 's' :: 'e' :: rest => some rest
  | '"' :: rest => (pieces rest).map (·.2)
  | cs => (Number.scan cs).map (·.2)

def passColon (cs : List Char) : Option (List Char) :=
  match skipSpace cs with
  | ':' :: rest => some rest
  | _ => none

/-- Passes over a key and its colon. -/
def passKey (cs : List Char) : Option (List Char) :=
  match skipSpace cs with
  | '"' :: rest =>
    match pieces rest with
    | some (_, after) => passColon after
    | none => none
  | _ => none

theorem length_passScalar_lt {cs rest : List Char} (h : passScalar cs = some rest) :
    rest.length < cs.length := by
  unfold passScalar at h
  split at h
  case h_4 =>
    obtain ⟨p, hp, rfl⟩ := Option.map_eq_some_iff.1 h
    exact Nat.lt_succ_of_lt (length_pieces_lt hp)
  case h_5 =>
    obtain ⟨p, hp, rfl⟩ := Option.map_eq_some_iff.1 h
    exact Number.length_scan_lt hp
  all_goals
    simp only [Option.some.injEq] at h
    simp only [← h, List.length_cons]
    omega

theorem length_passColon_lt {cs rest : List Char} (h : passColon cs = some rest) :
    rest.length < cs.length := by
  have space := length_skipSpace_le cs
  unfold passColon at h
  split at h
  · rename_i heq
    rw [heq, List.length_cons] at space
    simp only [Option.some.injEq] at h
    rw [← h]
    omega
  · simp at h

theorem length_passKey_lt {cs rest : List Char} (h : passKey cs = some rest) :
    rest.length < cs.length := by
  have space := length_skipSpace_le cs
  unfold passKey at h
  split at h
  · rename_i heq
    rw [heq, List.length_cons] at space
    split at h
    · rename_i hs
      have := length_pieces_lt hs
      have := length_passColon_lt h
      omega
    · simp at h
  · simp at h

/-- One move across a scalar, a bracket or a comma. -/
def move : Stage → List Bracket → List Char → Option (Stage × List Bracket × List Char)
  | .value, stack, cs =>
    match skipSpace cs with
    | '[' :: rest =>
      match skipSpace rest with
      | ']' :: after => some (.after, stack, after)
      | _ => some (.value, .array :: stack, rest)
    | '\x7b' :: rest =>
      match skipSpace rest with
      | '\x7d' :: after => some (.after, stack, after)
      | _ => (passKey rest).map (.value, .object :: stack, ·)
    | front => (passScalar front).map (.after, stack, ·)
  | .after, [], _ => none
  | .after, .array :: stack, cs =>
    match skipSpace cs with
    | ',' :: rest => some (.value, .array :: stack, rest)
    | ']' :: rest => some (.after, stack, rest)
    | _ => none
  | .after, .object :: stack, cs =>
    match skipSpace cs with
    | ',' :: rest => (passKey rest).map (.value, .object :: stack, ·)
    | '\x7d' :: rest => some (.after, stack, rest)
    | _ => none

theorem length_move_lt {stage stage' : Stage} {stack stack' : List Bracket} {cs rest : List Char}
    (h : move stage stack cs = some (stage', stack', rest)) : rest.length < cs.length := by
  have space := length_skipSpace_le cs
  have keyed {inner : List Char} {next : Stage} {brackets : List Bracket}
      (hk : (passKey inner).map (next, brackets, ·) = some (stage', stack', rest)) :
      rest.length < inner.length := by
    obtain ⟨after, ha, he⟩ := Option.map_eq_some_iff.1 hk
    simp only [Prod.mk.injEq] at he
    exact he.2.2 ▸ length_passKey_lt ha
  unfold move at h
  split at h
  · split at h
    · rename_i inner heq
      have within := length_skipSpace_le inner
      rw [heq, List.length_cons] at space
      split at h
      · rename_i heq'
        rw [heq', List.length_cons] at within
        simp only [Option.some.injEq, Prod.mk.injEq] at h
        rw [← h.2.2]
        omega
      · simp only [Option.some.injEq, Prod.mk.injEq] at h
        rw [← h.2.2]
        omega
    · rename_i inner heq
      have within := length_skipSpace_le inner
      rw [heq, List.length_cons] at space
      split at h
      · rename_i heq'
        rw [heq', List.length_cons] at within
        simp only [Option.some.injEq, Prod.mk.injEq] at h
        rw [← h.2.2]
        omega
      · have := keyed h
        omega
    · obtain ⟨after, ha, he⟩ := Option.map_eq_some_iff.1 h
      have := length_passScalar_lt ha
      simp only [Prod.mk.injEq] at he
      rw [← he.2.2]
      omega
  · simp at h
  · split at h
    · rename_i heq
      rw [heq, List.length_cons] at space
      simp only [Option.some.injEq, Prod.mk.injEq] at h
      rw [← h.2.2]
      omega
    · rename_i heq
      rw [heq, List.length_cons] at space
      simp only [Option.some.injEq, Prod.mk.injEq] at h
      rw [← h.2.2]
      omega
    · simp at h
  · split at h
    · rename_i heq
      rw [heq, List.length_cons] at space
      have := keyed h
      omega
    · rename_i heq
      rw [heq, List.length_cons] at space
      simp only [Option.some.injEq, Prod.mk.injEq] at h
      rw [← h.2.2]
      omega
    · simp at h

/-- Passes over a value and over all that is still open around it. -/
def pass (stage : Stage) (stack : List Bracket) (cs : List Char) : Option (List Char) :=
  if stage = .after ∧ stack = [] then some cs else
    match _h : move stage stack cs with
    | some (stage, stack, rest) => pass stage stack rest
    | none => none
termination_by cs.length
decreasing_by exact length_move_lt _h

/-- What follows the value that begins here. -/
def passValue (cs : List Char) : Option (List Char) := pass .value [] cs

theorem length_pass_le {stage : Stage} {stack : List Bracket} {cs rest : List Char}
    (h : pass stage stack cs = some rest) : rest.length ≤ cs.length := by
  fun_induction pass stage stack cs with
  | case1 => simp_all
  | case2 stage stack cs _ stage' stack' rest' hm ih =>
    have := length_move_lt hm
    have := ih h
    omega
  | case3 => simp at h

end Countinghouse.Json
