import Countinghouse.World

/-! Requests about people, who are named by their slots. -/
namespace Countinghouse

inductive PersonStep
  | introduce (slot : String) (p : Person)
  | share (source slot : String)
  | copy (source slot : String)
  | drop (slot : String)
  | compare (a b : String)
  | get (slot : String)
  | setId (slot : String) (id : Int64)
  | setName (slot : String) (name : String)
  | setDesk (slot : String) (desk : Option String)
  | hello (slot : String)
  | goodbye (slot : String) (language : String)
  | encode (slot : String)
  | inspect (slot : String)
deriving DecidableEq, Repr

namespace PersonStep

def withPeople (w : World) (people : People) : World := { w with people := people }

/-- Puts a handle that is held already and shows what the slot then holds. -/
def shown (w : World) (h : Handle) (people : People) : Outcome World :=
  .said ((withPeople w people).personAnswer (some h)) (withPeople w people)

def changed (w : World) (h : Handle) (f : Person → Person) (answer : Person → Answer) :
    Outcome World :=
  let people := w.people.update h f
  .said (.ofOption answer (people.person? h)) (withPeople w people)

def perform (step : PersonStep) (w : World) : Reply World :=
  match step with
  | introduce slot p =>
    let (h, people) := w.people.introduce slot p
    .ok (shown w h people)
  | share source slot =>
    (w.people.resolve source).map fun (h, _) =>
      shown w h ((w.people.retainAll [h]).put slot h)
  | copy source slot =>
    (w.people.resolve source).map fun (_, p) =>
      let (h, people) := w.people.introduce slot p
      shown w h people
  | drop slot =>
    (w.people.resolve slot).map fun _ => .said .dropped (withPeople w (w.people.clear slot))
  | compare a b =>
    match w.people.resolve a, w.people.resolve b with
    | .ok (h, p), .ok (k, q) =>
      if p.kind = q.kind then .ok (.said (.comparison (h = k) (p = q)) w) else .error .wrongKind
    | .error r, _ => .error r
    | _, .error r => .error r
  | get slot => (w.people.resolve slot).map fun (h, _) => .said (w.personAnswer (some h)) w
  | setId slot id =>
    (w.people.resolve slot).map fun (h, _) =>
      changed w h (.setId id) fun p => .number p.id
  | setName slot name =>
    (w.people.resolve slot).map fun (h, _) =>
      changed w h (.setName name) fun p => .text p.name
  | setDesk slot desk =>
    (w.people.resolveKind .teller slot).map fun h =>
      changed w h (.setDesk desk) fun p => .ofOption .text p.desk
  | hello slot =>
    (w.people.resolve slot).map fun (_, p) =>
      .said (.greetings (p.hello .english) (p.hello .german)) w
  | goodbye slot language =>
    (w.people.resolve slot).map fun (_, p) => ⟨(p.goodbye language).map .text, [], w⟩
  | encode slot => (w.people.resolve slot).map fun (_, p) => .said (.text p.encode) w
  | inspect slot => (w.people.resolve slot).map fun (_, p) => .said (.text p.inspect) w

end PersonStep
end Countinghouse
