import Countinghouse.Json.Ignored
import Countinghouse.Json.Problem

/-!
Records read in one pass from left to right, so that the first problem met is the one reported. A
record is spelt as an object, or as an array of its fields in the order of declaration.
-/
namespace Countinghouse.Json

/-- A named field of drafts `δ`, filled from the lead of its value. -/
structure Field (δ : Type) where
  key : String
  isFilled : δ → Bool
  fill : Lead → δ → Except Problem δ

/-- How a record `α` is drafted field by field and then completed. -/
structure Record (δ α : Type) where
  title : String
  fields : List (Field δ)
  blank : δ
  complete : δ → Except Problem α

/-- What follows inside an object: the closing brace or the next key. -/
inductive Turn
  | close (rest : List Char)
  | key (name : String) (rest : List Char)

def nextKey (cs : List Char) : Option Turn :=
  match skipSpace cs with
  | '"' :: rest => (unquote rest).map fun p => .key (String.ofList p.1) p.2
  | _ => none

/-- A comma comes before every key but the first. -/
def nextTurn (isFirst : Bool) (cs : List Char) : Option Turn :=
  match skipSpace cs with
  | '\x7d' :: rest => some (.close rest)
  | ',' :: rest => if isFirst then none else nextKey rest
  | front => if isFirst then nextKey front else none

/-- The lead of the value behind a colon. -/
def leadAfterColon (cs : List Char) : Option (Lead × List Char) := (passColon cs).bind Lead.read

def passAfterColon (cs : List Char) : Option (List Char) := (passColon cs).bind passValue

theorem length_nextKey_lt {cs rest : List Char} {name : String}
    (h : nextKey cs = some (.key name rest)) : rest.length < cs.length := by
  have space := length_skipSpace_le cs
  unfold nextKey at h
  split at h
  · rename_i heq
    rw [heq, List.length_cons] at space
    obtain ⟨p, hp, he⟩ := Option.map_eq_some_iff.1 h
    have := length_unquote_lt hp
    simp only [Turn.key.injEq] at he
    rw [← he.2]
    omega
  · simp at h

theorem length_nextTurn_lt {isFirst : Bool} {cs rest : List Char} {name : String}
    (h : nextTurn isFirst cs = some (.key name rest)) : rest.length < cs.length := by
  have space := length_skipSpace_le cs
  unfold nextTurn at h
  split at h
  · simp at h
  · rename_i heq
    rw [heq, List.length_cons] at space
    split at h
    · simp at h
    · have := length_nextKey_lt h
      omega
  · split at h
    · have := length_nextKey_lt h
      omega
    · simp at h

theorem length_leadAfterColon_lt {cs rest : List Char} {lead : Lead}
    (h : leadAfterColon cs = some (lead, rest)) : rest.length < cs.length := by
  obtain ⟨inner, hc, hl⟩ := Option.bind_eq_some_iff.1 h
  exact Nat.lt_trans (Lead.length_read_lt hl) (length_passColon_lt hc)

theorem length_passAfterColon_lt {cs rest : List Char} (h : passAfterColon cs = some rest) :
    rest.length < cs.length := by
  obtain ⟨inner, hc, hl⟩ := Option.bind_eq_some_iff.1 h
  exact Nat.lt_of_le_of_lt (length_pass_le hl) (length_passColon_lt hc)

namespace Record

variable {δ α : Type}

def field? (r : Record δ α) (name : String) : Option (Field δ) :=
  r.fields.find? fun f => f.key == name

/-- The members of an object from here to its closing brace; those of unknown keys are ignored. -/
def members (r : Record δ α) (isFirst : Bool) (draft : δ) (cs : List Char) :
    Except Problem (α × List Char) :=
  match _ht : nextTurn isFirst cs with
  | none => .error .malformed
  | some (.close rest) => (r.complete draft).map (·, rest)
  | some (.key name rest) =>
    match r.field? name with
    | none =>
      match _hp : passAfterColon rest with
      | none => .error .malformed
      | some rest => r.members false draft rest
    | some f =>
      if f.isFilled draft then .error (.duplicate f.key) else
        match _hl : leadAfterColon rest with
        | none => .error .malformed
        | some (lead, rest) =>
          match f.fill lead draft with
          | .error p => .error p
          | .ok draft => r.members false draft rest
termination_by cs.length
decreasing_by
  · exact Nat.lt_trans (length_passAfterColon_lt _hp) (length_nextTurn_lt _ht)
  · exact Nat.lt_trans (length_leadAfterColon_lt _hl) (length_nextTurn_lt _ht)

/-- The lead of an element; a comma comes before every element but the first. -/
def elementLead (isFirst : Bool) (cs : List Char) : Option (Lead × List Char) :=
  if isFirst then Lead.read cs else
    match skipSpace cs with
    | ',' :: rest => Lead.read rest
    | _ => none

/-- The elements of an array from here to its closing bracket, for the fields still to come. -/
def elements (r : Record δ α) (count : Nat) (draft : δ) :
    List (Field δ) → List Char → Except Problem (α × List Char)
  | [], cs =>
    match skipSpace cs with
    | ']' :: rest => (r.complete draft).map (·, rest)
    | _ => .error .malformed
  | f :: fs, cs =>
    match skipSpace cs with
    | ']' :: _ => .error (.tooShort count r.title r.fields.length)
    | front =>
      match elementLead (count == 0) front with
      | none => .error .malformed
      | some (lead, rest) =>
        match f.fill lead draft with
        | .error p => .error p
        | .ok draft => r.elements (count + 1) draft fs rest

/-- The record that begins here. -/
def read (r : Record δ α) (cs : List Char) : Except Problem (α × List Char) :=
  match Lead.read cs with
  | none => .error .malformed
  | some (.object, rest) => r.members true r.blank rest
  | some (.array, rest) => r.elements 0 r.blank r.fields rest
  | some (lead, _) => .error (.wrongType lead r.title)

end Record

/-- A whole text: only space may follow what is read. -/
def readAll {α : Type} (read : List Char → Except Problem (α × List Char)) (text : String) :
    Except Problem α :=
  match read text.toList with
  | .error p => .error p
  | .ok (a, rest) => if (skipSpace rest).isEmpty then .ok a else .error .malformed

end Countinghouse.Json
