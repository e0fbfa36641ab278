import Countinghouse.Account.Block
import Mathlib.Tactic.Common

/-!
How far a block comes, and what it does. It is stopped by the first of its steps to fail; and
however deeply blocks are nested in it, it does to the account what a plain list of acts does to it:
those it comes to before it is stopped, with a closing behind every scoped block.
-/
namespace Countinghouse

namespace Progress

lemma andThen_of_failure {p : Progress} {e : Failure} (failed : p.failure = some e)
    (next : Visit → Progress) : p.andThen next = p := by
  simp only [andThen, failed]

lemma failure_andThen {p : Progress} (passed : p.failure = none) (next : Visit → Progress) :
    (p.andThen next).failure = (next p.visit).failure := by
  simp only [andThen, passed]

lemma andThen_assoc (p : Progress) (f g : Visit → Progress) :
    (p.andThen f).andThen g = p.andThen fun v => (f v).andThen g := by
  cases first : p.failure with
  | some e => rw [andThen_of_failure first, andThen_of_failure first, andThen_of_failure first]
  | none =>
    simp only [andThen, first]
    cases second : (f p.visit).failure with
    | some e => simp only [second]
    | none => simp only [List.append_assoc]

lemma result_eq_error_iff {p : Progress} {e : Failure} :
    p.result = .error e ↔ p.failure = some e := by
  simp only [result]
  cases p.failure with
  | some d => simp
  | none => simp

end Progress

lemma runBlock_append (xs ys : List BlockStep) (v : Visit) :
    runBlock (xs ++ ys) v = (runBlock xs v).andThen (runBlock ys) := by
  induction xs generalizing v with
  | nil => simp only [List.nil_append, runBlock, Progress.andThen]
  | cons s ss ih =>
    rw [List.cons_append, runBlock, runBlock, Progress.andThen_assoc]
    exact congrArg _ (funext ih)

/-- A block that fails has come to a first step that fails, and no further. -/
lemma exists_of_failure_runBlock {steps : List BlockStep} {v : Visit} {e : Failure}
    (failed : (runBlock steps v).failure = some e) :
    ∃ done s rest, steps = done ++ s :: rest ∧ (runBlock done v).failure = none ∧
      (s.run (runBlock done v).visit).failure = some e := by
  induction steps generalizing v with
  | nil => cases failed
  | cons s ss ih =>
    cases first : (s.run v).failure with
    | some d =>
      rw [runBlock, Progress.andThen_of_failure first, first] at failed
      cases failed
      exact ⟨[], s, ss, rfl, rfl, first⟩
    | none =>
      rw [runBlock, Progress.failure_andThen first] at failed
      obtain ⟨done, t, rest, rfl, passed, stopped⟩ := ih failed
      refine ⟨s :: done, t, rest, rfl, ?_, ?_⟩
      · rw [runBlock, Progress.failure_andThen first, passed]
      · simpa only [runBlock, Progress.andThen, first] using stopped

/-- What stands behind the first step that fails makes no difference. -/
lemma runBlock_of_failure {done rest : List BlockStep} {s : BlockStep} {v : Visit} {e : Failure}
    (passed : (runBlock done v).failure = none)
    (stopped : (s.run (runBlock done v).visit).failure = some e) :
    runBlock (done ++ s :: rest) v = (runBlock done v).andThen s.run := by
  rw [runBlock_append]
  simp only [Progress.andThen, passed, runBlock, stopped]

/-- A block is stopped by the first of its steps to fail, and only then. -/
lemma failure_runBlock_iff {steps : List BlockStep} {v : Visit} {e : Failure} :
    (runBlock steps v).failure = some e ↔
      ∃ done s rest, steps = done ++ s :: rest ∧ (runBlock done v).failure = none ∧
        (s.run (runBlock done v).visit).failure = some e ∧
        runBlock steps v = (runBlock done v).andThen s.run := by
  constructor
  · intro failed
    obtain ⟨done, s, rest, rfl, passed, stopped⟩ := exists_of_failure_runBlock failed
    exact ⟨done, s, rest, rfl, passed, stopped, runBlock_of_failure passed stopped⟩
  · rintro ⟨done, s, rest, rfl, passed, stopped, same⟩
    rw [same, Progress.failure_andThen passed, stopped]

namespace Visit

/-- The acts are done one after the other, whatever comes of them. -/
def doAll (v : Visit) : List Act → Visit × List Event
  | [] => (v, [])
  | a :: as =>
    let p := (BlockStep.act a).run v
    let (last, rest) := p.visit.doAll as
    (last, p.log ++ rest)

lemma doAll_cons (v : Visit) (a : Act) (as : List Act) :
    v.doAll (a :: as) =
      ((((BlockStep.act a).run v).visit.doAll as).1,
        ((BlockStep.act a).run v).log ++ (((BlockStep.act a).run v).visit.doAll as).2) := rfl

lemma doAll_append (v : Visit) (as bs : List Act) :
    v.doAll (as ++ bs) =
      (((v.doAll as).1.doAll bs).1, (v.doAll as).2 ++ ((v.doAll as).1.doAll bs).2) := by
  induction as generalizing v with
  | nil => rfl
  | cons a as ih => simp only [List.cons_append, doAll_cons, ih, List.append_assoc]

lemma doAll_close (v : Visit) : v.doAll [.close] = v.close := by
  rw [doAll_cons]
  simp only [doAll, List.append_nil]
  rfl

end Visit

mutual

/-- The acts that a step comes to; behind those of a scoped block stands its closing. -/
def BlockStep.acts : BlockStep → Visit → List Act
  | .act a, _ => [a]
  | .goodbye _, _ => []
  | .fail _, _ => []
  | .scopedBlock steps _, v => blockActs steps v ++ [.close]
  | .malformed, _ => []

def blockActs : List BlockStep → Visit → List Act
  | [], _ => []
  | step :: steps, v =>
    step.acts v ++ if (step.run v).failure.isNone then blockActs steps (step.run v).visit else []

end

/-- What a block leaves of the account, and the events that it logs. -/
def Progress.effect (p : Progress) : Visit × List Event := (p.visit, p.log)

lemma effect_sayGoodbye (language : String) (v : Visit) :
    (sayGoodbye language v).effect = (v, []) := by
  simp only [sayGoodbye]
  split
  · rfl
  · split
    · rfl
    · rfl

lemma effect_runScoped {block : Visit → Progress} {v : Visit} {as : List Act}
    (same : v.doAll as = (block v).effect) :
    v.doAll (as ++ [.close]) = (runScoped block v).effect := by
  rw [Visit.doAll_append, same, Visit.doAll_close]
  rfl

mutual

lemma BlockStep.doAll_acts : (step : BlockStep) → (v : Visit) →
    v.doAll (step.acts v) = (step.run v).effect
  | .act a, v => by
    rw [BlockStep.acts, Visit.doAll_cons]
    simp only [Visit.doAll, List.append_nil]
    rfl
  | .goodbye language, v => (effect_sayGoodbye language v).symm
  | .fail _, _ => rfl
  | .scopedBlock steps _, v => effect_runScoped (doAll_blockActs steps v)
  | .malformed, _ => rfl

/-- Nesting makes no difference to what is done. -/
lemma doAll_blockActs : (steps : List BlockStep) → (v : Visit) →
    v.doAll (blockActs steps v) = (runBlock steps v).effect
  | [], _ => rfl
  | step :: steps, v => by
    have first := step.doAll_acts v
    have later := doAll_blockActs steps (step.run v).visit
    rw [blockActs, runBlock, Progress.andThen, Visit.doAll_append, first]
    cases failed : (step.run v).failure with
    | some e => simp [Visit.doAll, Progress.effect]
    | none =>
      simp only [Option.isNone_none, if_true, Progress.effect] at later ⊢
      rw [later]

end

end Countinghouse
