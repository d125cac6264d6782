import Autoproto.ArrayAlgorithms
import Autoproto.Transition

namespace Autoproto

open List ArrayAlgorithms Transition

/-!
# The queue of `VectorQueue`

Popped elements stay in the vector, in front of the position that is read next,
until they are more than half of it.
-/

structure VectorQueue (Element : Type) where
  vector : List Element := []
  readPos : Nat := 0

namespace VectorQueue

variable {Element : Type} {queue : VectorQueue Element}

def push (element : Element) (queue : VectorQueue Element) : VectorQueue Element :=
  { queue with vector := queue.vector ++ [element] }

/-- The new element is constructed in its place. -/
def emplace (element : Element) (queue : VectorQueue Element) : VectorQueue Element :=
  queue.push element

def size (queue : VectorQueue Element) : Nat :=
  queue.vector.length - queue.readPos

/-- Erase the popped elements if they are more than half of the vector. -/
def tryShrink (queue : VectorQueue Element) : VectorQueue Element :=
  if queue.readPos * 2 > queue.vector.length ∧ queue.readPos > 4 then
    { vector := queue.vector.drop queue.readPos, readPos := 0 }
  else
    queue

/-- The element that is returned is moved out of the vector, which keeps what the move leaves. -/
def pop (moved : Element → Element) (queue : VectorQueue Element) :
    Except Fault (Element × VectorQueue Element) := do
  let queue := queue.tryShrink
  let element ← read queue.vector queue.readPos
  let vector ← write queue.vector queue.readPos (moved element)
  return (element, ⟨vector, queue.readPos + 1⟩)

/-- The value of `rnd()` is given.  Dividing by a size of zero ends the process. -/
def popRand (moved : Element → Element) (rnd : Nat) (queue : VectorQueue Element) :
    Except Fault (Element × VectorQueue Element) := do
  check (queue.size ≠ 0)
  let i := rnd % queue.size
  let chosen ← read queue.vector i
  let first ← read queue.vector queue.readPos
  let vector ← write queue.vector i first
  let vector ← write vector queue.readPos chosen
  pop moved { queue with vector }

def popN (n : Nat) (queue : VectorQueue Element) : VectorQueue Element :=
  tryShrink { queue with readPos := queue.readPos + n }

def front (queue : VectorQueue Element) : Except Fault Element :=
  read queue.vector queue.readPos

def back (queue : VectorQueue Element) : Except Fault Element :=
  read queue.vector (queue.vector.length - 1)

/-- The calls of a queue. -/
inductive Operation (Element : Type) where
  | push (element : Element)
  | emplace (element : Element)
  | pop
  | popN (n : Nat)
  | popRand (rnd : Nat)
  | front
  | back

/-- What a call returns, and the queue after it. -/
def perform (moved : Element → Element) (queue : VectorQueue Element) :
    Operation Element → Except Fault (Option Element × VectorQueue Element)
  | .push element => .ok (none, queue.push element)
  | .emplace element => .ok (none, queue.emplace element)
  | .pop => (queue.pop moved).map fun (element, after) => (some element, after)
  | .popN n => .ok (none, queue.popN n)
  | .popRand rnd => (queue.popRand moved rnd).map fun (element, after) => (some element, after)
  | .front => queue.front.map fun element => (some element, queue)
  | .back => queue.back.map fun element => (some element, queue)

/-- A call that asks for no more elements than there are. -/
def Held (queue : VectorQueue Element) : Operation Element → Prop
  | .push _ | .emplace _ => True
  | .pop | .popRand _ | .front | .back => 0 < queue.size
  | .popN n => n ≤ queue.size

/-- The index of a random element is used without the position that is read next. -/
def DrawsHeld (queue : VectorQueue Element) : Operation Element → Prop
  | .popRand rnd => queue.readPos ≤ rnd % queue.size
  | _ => True

def Step (moved : Element → Element) (queue : VectorQueue Element) (operation : Operation Element)
    (after : VectorQueue Element) : Prop :=
  ∃ result, queue.perform moved operation = .ok (result, after)

/-- The elements that have not been popped, with the oldest one first. -/
def contents (queue : VectorQueue Element) : List Element :=
  queue.vector.drop queue.readPos

def Inside (queue : VectorQueue Element) : Prop :=
  queue.readPos ≤ queue.vector.length

/-- What a call returns of a list of elements, and which elements are left. -/
def Answers (before : List Element) (result : Option Element) (after : List Element) :
    Operation Element → Prop
  | .push element | .emplace element => result = none ∧ after = before ++ [element]
  | .pop => ∃ oldest, result = some oldest ∧ before = oldest :: after
  | .popN n => result = none ∧ after = before.drop n
  | .popRand _ => ∃ chosen, result = some chosen ∧ before ~ chosen :: after
  | .front => result = before.head? ∧ after = before
  | .back => result = before.getLast? ∧ after = before

theorem tryShrink_spec (queue : VectorQueue Element) (inside : queue.Inside) :
    queue.tryShrink.contents = queue.contents ∧ queue.tryShrink.Inside := by
  rw [tryShrink]
  split
  · exact ⟨rfl, Nat.zero_le _⟩
  · exact ⟨rfl, inside⟩

variable (moved : Element → Element)

theorem pop_spec (queue : VectorQueue Element) (inside : queue.Inside)
    {oldest : Element} {rest : List Element} (held : queue.contents = oldest :: rest) :
    ∃ after, queue.pop moved = .ok (oldest, after) ∧ after.contents = rest ∧ after.Inside := by
  rw [← (tryShrink_spec queue inside).1, contents] at held
  have isIndex : queue.tryShrink.readPos < queue.tryShrink.vector.length := by
    have positive := congrArg length held
    rw [length_drop, length_cons] at positive
    omega
  obtain ⟨rfl, rfl⟩ := cons.inj ((drop_eq_getElem_cons isIndex).symm.trans held)
  rw [pop, read_eq isIndex, ok_bind, write_eq isIndex]
  refine ⟨_, rfl, drop_set_of_lt (Nat.lt_succ_self _), ?_⟩
  rwa [Inside, length_set]

theorem popRand_spec {rnd : Nat} (held : 0 < queue.size)
    (drawsHeld : queue.readPos ≤ rnd % queue.size) :
    ∃ chosen after, queue.popRand moved rnd = .ok (chosen, after) ∧
      queue.contents ~ chosen :: after.contents ∧ after.Inside := by
  have bounded := Nat.mod_lt rnd held
  rw [popRand, check_eq_ok held.ne', ok_bind]
  generalize rnd % queue.size = i at drawsHeld bounded ⊢
  rw [size] at bounded
  dsimp only
  have chosenIndex : i < queue.vector.length := by omega
  have firstIndex : queue.readPos < queue.vector.length := by omega
  have length_contents : queue.contents.length = queue.vector.length - queue.readPos := length_drop
  have exchanged := @set_set_perm _ queue.contents (i - queue.readPos) 0 (by omega) (by omega)
  simp only [contents, getElem_drop, Nat.add_sub_cancel' drawsHeld, Nat.add_zero] at exchanged
  rw [read_eq chosenIndex, ok_bind, read_eq firstIndex, ok_bind, write_eq chosenIndex, ok_bind,
    write_eq (by rwa [length_set]), ok_bind]
  generalize firstSet : queue.vector.set i queue.vector[queue.readPos] = vector
  have stillIndex : queue.readPos < (vector.set queue.readPos queue.vector[i]).length := by
    rwa [length_set, ← firstSet, length_set]
  obtain ⟨after, popped, left, inside⟩ := pop_spec moved
    ⟨vector.set queue.readPos queue.vector[i], queue.readPos⟩ stillIndex.le
    (drop_eq_getElem_cons stillIndex)
  refine ⟨_, after, popped, ?_, inside⟩
  rw [left, ← drop_eq_getElem_cons stillIndex, drop_set, if_neg (Nat.lt_irrefl _), Nat.sub_self,
    ← firstSet, drop_set, if_neg (Nat.not_lt.mpr drawsHeld)]
  exact exchanged.symm

theorem perform_spec (inside : queue.Inside) {operation : Operation Element}
    (held : queue.Held operation) (drawsHeld : queue.DrawsHeld operation) :
    ∃ result after, queue.perform moved operation = .ok (result, after) ∧
      Answers queue.contents result after.contents operation ∧ after.Inside := by
  cases operation with
  | push element | emplace element =>
    refine ⟨none, _, rfl, ⟨rfl, drop_append_of_le_length inside⟩, ?_⟩
    exact inside.trans (by simp [push, emplace])
  | pop =>
    have length_contents : 0 < queue.contents.length := by rwa [contents, length_drop]
    obtain ⟨oldest, rest, split⟩ := exists_cons_of_length_pos length_contents
    obtain ⟨after, popped, rfl, inside⟩ := pop_spec moved queue inside split
    exact ⟨_, after, by rw [perform, popped]; rfl, ⟨oldest, rfl, split⟩, inside⟩
  | popN n =>
    obtain ⟨same, inside⟩ := tryShrink_spec { queue with readPos := queue.readPos + n }
      (Nat.add_le_of_le_sub' inside held)
    refine ⟨none, _, rfl, ⟨rfl, ?_⟩, inside⟩
    rw [popN, same, contents, contents, drop_drop]
  | popRand rnd =>
    obtain ⟨chosen, after, popped, same, inside⟩ := popRand_spec moved held drawsHeld
    exact ⟨_, after, by rw [perform, popped]; rfl, ⟨chosen, rfl, same⟩, inside⟩
  | front =>
    have isIndex : queue.readPos < queue.vector.length := Nat.lt_of_sub_pos held
    refine ⟨_, queue, by rw [perform, front, read_eq isIndex]; rfl, ⟨?_, rfl⟩, inside⟩
    rw [contents, head?_drop, getElem?_eq_getElem isIndex]
  | back =>
    have isIndex : queue.readPos < queue.vector.length := Nat.lt_of_sub_pos held
    refine ⟨_, queue, by rw [perform, back, read_eq (by omega)]; rfl, ⟨?_, rfl⟩, inside⟩
    rw [contents, getLast?_drop, if_neg (by omega), getLast?_eq_getElem?, getElem?_eq_getElem]

/--
In any calls that ask for no more elements than there are, every call returns
what a list of the elements returns and leaves, if each random index is at least
the position read next.
-/
theorem behaves_like_list
    {operations : List (Operation Element)}
    (reached : Run (Guarded (fun queue operation => queue.Held operation ∧
      queue.DrawsHeld operation) (Step moved)) {} operations queue)
    {operation : Operation Element}
    (held : queue.Held operation)
    (drawsHeld : queue.DrawsHeld operation) :
    ∃ result after, queue.perform moved operation = .ok (result, after) ∧
      Answers queue.contents result after.contents operation := by
  have inside : queue.Inside := by
    refine reached.invariant ?_ ?_
    · exact Nat.zero_le 0
    rintro before event after inside ⟨⟨held, drawsHeld⟩, result, returned⟩
    obtain ⟨_, _, same, _, stillInside⟩ := perform_spec moved inside held drawsHeld
    cases same.symm.trans returned
    exact stillInside
  obtain ⟨result, after, returned, answers, _⟩ := perform_spec moved inside held drawsHeld
  exact ⟨result, after, returned, answers⟩

/-- A random element behind one that has been popped. -/
theorem random_element_after_pop :
    ∃ result after, perform (fun _ => 0) ⟨[0, 20, 30, 40], 1⟩ (.popRand 5) = .ok (result, after) ∧
      Answers [20, 30, 40] result after.contents (.popRand 5) := by
  have run : Run (Guarded (fun queue operation => queue.Held operation ∧
      queue.DrawsHeld operation) (Step fun _ => 0)) {}
      [.push 10, .push 20, .push 30, .push 40, .pop] (⟨[0, 20, 30, 40], 1⟩ : VectorQueue Nat) :=
    .cons ⟨⟨trivial, trivial⟩, none, rfl⟩ (.cons ⟨⟨trivial, trivial⟩, none, rfl⟩
      (.cons ⟨⟨trivial, trivial⟩, none, rfl⟩ (.cons ⟨⟨trivial, trivial⟩, none, rfl⟩
        (.cons ⟨⟨Nat.succ_pos 3, trivial⟩, some 10, rfl⟩ .start))))
  exact behaves_like_list _ run (Nat.succ_pos 2) (by decide : 1 ≤ 5 % 3)

/-- After one element has been popped, a random one can be what the move has left of it. -/
theorem popped_element_returned : ∃ queue : VectorQueue Nat,
    Run (Guarded Held (Step fun _ => 0)) {} [.push 1, .push 2, .pop] queue ∧
      queue.contents = [2] ∧ queue.Held (.popRand 0) ∧
      ∃ after, queue.perform (fun _ => 0) (.popRand 0) = .ok (some 0, after) ∧
        after.contents = [] := by
  refine ⟨⟨[0, 2], 1⟩, ?_, rfl, Nat.one_pos, _, rfl, rfl⟩
  exact .cons ⟨trivial, none, rfl⟩ (.cons ⟨trivial, none, rfl⟩
    (.cons ⟨Nat.two_pos, some 1, rfl⟩ .start))

end VectorQueue

end Autoproto
