import Mathlib.Data.List.Basic
import Mathlib.Logic.Function.Basic
import Autoproto.Fault
import Autoproto.Transition

namespace Autoproto.SharedMemory

open Transition

/-!
# Calls that share a memory

A call runs a program, one access of the memory at a time, and the accesses of
calls interleave in any order. A history records when calls begin and end. It is
linearizable if each call seems to take effect at one moment in between.
-/

section Programs

variable {Access : Type} {Reply : Access → Type} {Memory : Type}

/-- A program that accesses a memory and ends with a result, or aborts. -/
inductive Program (Access : Type) (Reply : Access → Type) (Result : Type) where
  | done (result : Result)
  | abort (fault : Fault)
  | access (request : Access) (resume : Reply request → Program Access Reply Result)

namespace Program

def request (request : Access) : Program Access Reply (Reply request) :=
  .access request .done

def sequence (first : Program Access Reply Middle) (second : Middle → Program Access Reply Result) :
    Program Access Reply Result :=
  match first with
  | done result => second result
  | abort fault => .abort fault
  | access request resume => .access request (fun reply => (resume reply).sequence second)

instance : Monad (Program Access Reply) where
  pure := .done
  bind := sequence

/-- Abort unless a condition holds. -/
def require (condition : Prop) [Decidable condition] : Program Access Reply Unit :=
  if condition then .done () else .abort .check

/-- What a program does that nothing interferes with. -/
def runAlone (perform : (request : Access) → Memory → Except Fault (Memory × Reply request)) :
    Program Access Reply Result → Memory → Except Fault (Memory × Result)
  | done result, memory => .ok (memory, result)
  | abort fault, _ => .error fault
  | access request resume, memory => do
      let (memory, reply) ← perform request memory
      (resume reply).runAlone perform memory

variable (perform : (request : Access) → Memory → Except Fault (Memory × Reply request))

@[simp] theorem runAlone_pure (result : Result) (memory : Memory) :
    (pure result : Program Access Reply Result).runAlone perform memory = .ok (memory, result) :=
  rfl

@[simp] theorem runAlone_request (request : Access) (memory : Memory) :
    (Program.request request : Program Access Reply _).runAlone
      perform memory = perform request memory := by
  rw [Program.request, runAlone]
  cases perform request memory <;> rfl

@[simp] theorem runAlone_bind (first : Program Access Reply Middle)
    (second : Middle → Program Access Reply Result) (memory : Memory) :
    (first >>= second).runAlone perform memory = (do
      let (memory, middle) ← first.runAlone perform memory
      (second middle).runAlone perform memory) := by
  change (first.sequence second).runAlone perform memory = _
  induction first generalizing memory with
  | done | abort => rfl
  | access request resume ih =>
    rw [sequence, runAlone, runAlone]
    cases perform request memory with
    | error fault => rfl
    | ok performed => exact ih performed.2 performed.1

/-- A program none of whose accesses changes the memory. -/
def ReadOnly : Program Access Reply Result → Prop
  | done _ => True
  | abort _ => True
  | access request resume =>
    (∀ memory reached reply, perform request memory = .ok (reached, reply) → reached = memory) ∧
      ∀ reply, (resume reply).ReadOnly

variable {perform} {first : Program Access Reply Middle}
  {second : Middle → Program Access Reply Result} {memory : Memory}

theorem runAlone_bind_ok {reached : Memory} {middle : Middle}
    (runs : first.runAlone perform memory = .ok (reached, middle)) :
    (first >>= second).runAlone perform memory = (second middle).runAlone perform reached := by
  rw [runAlone_bind, runs]
  rfl

theorem runAlone_require {condition : Prop} [Decidable condition] (holds : condition) :
    (require condition : Program Access Reply Unit).runAlone perform memory = .ok (memory, ()) := by
  rw [require, if_pos holds]
  rfl

/-- A sequence of programs that only read. -/
theorem ReadOnly.bind (firstReads : first.ReadOnly perform)
    (secondReads : ∀ middle, (second middle).ReadOnly perform) :
    (first >>= second).ReadOnly perform := by
  induction first with
  | done result => exact secondReads result
  | abort fault => trivial
  | access request resume ih =>
    exact ⟨firstReads.1, fun reply => ih reply (firstReads.2 reply)⟩

theorem ReadOnly.reached_eq {program : Program Access Reply Result}
    (reads : program.ReadOnly perform) {reached : Memory} {result : Result}
    (runs : program.runAlone perform memory = .ok (reached, result)) : reached = memory := by
  induction program generalizing memory with
  | done _ =>
    cases runs
    rfl
  | abort _ => cases runs
  | access request resume ih =>
    obtain ⟨⟨middle, reply⟩, performed, rest⟩ := bind_eq_ok runs
    rw [ih reply (reads.2 reply) rest, reads.1 memory middle reply performed]

end Program

end Programs

section Parts

variable {Access : Type} {Reply : Access → Type} {Memory : Type} {WholeAccess : Type}
  {WholeReply : WholeAccess → Type} {Whole : Type}

structure Part (perform : (request : Access) → Memory → Except Fault (Memory × Reply request))
    (performWhole :
      (request : WholeAccess) → Whole → Except Fault (Whole × WholeReply request)) where
  embed : Access → WholeAccess
  reply : (request : Access) → WholeReply (embed request) → Reply request
  get : Whole → Memory
  set : Whole → Memory → Whole
  get_set : ∀ whole part, get (set whole part) = part
  set_get : ∀ whole, set whole (get whole) = whole
  set_set : ∀ whole first second, set (set whole first) second = set whole second
  performs : ∀ request whole,
      (performWhole (embed request) whole).map (Prod.map id (reply request)) =
        (perform request (get whole)).map (Prod.map (set whole) id)

namespace Part

variable {perform : (request : Access) → Memory → Except Fault (Memory × Reply request)}
  {performWhole : (request : WholeAccess) → Whole → Except Fault (Whole × WholeReply request)}
  (part : Part perform performWhole)

def lift :
    Program Access Reply Result → Program WholeAccess WholeReply Result
  | .done result => .done result
  | .abort fault => .abort fault
  | .access request resume =>
    .access (part.embed request) (fun answer => lift (resume (part.reply request answer)))

theorem performs_ok {request : Access} {whole reached : Whole}
    {answer : WholeReply (part.embed request)}
    (performed : performWhole (part.embed request) whole = .ok (reached, answer)) : ∃ memory,
      perform request (part.get whole) = .ok (memory, part.reply request answer) ∧
        reached = part.set whole memory := by
  have same := part.performs request whole
  rw [performed] at same
  cases inPart : perform request (part.get whole) with
  | error fault =>
    rw [inPart] at same
    cases same
  | ok result =>
    rw [inPart] at same
    injection same with same
    injection same with sameMemory sameReply
    exact ⟨result.1, by rw [sameReply]; rfl, sameMemory⟩

variable {program : Program Access Reply Result}

theorem runAlone_lift (whole : Whole) {memory : Memory} {result : Result}
    (runs : program.runAlone perform (part.get whole) = .ok (memory, result)) :
    (part.lift program).runAlone performWhole whole = .ok (part.set whole memory, result) := by
  induction program generalizing whole with
  | done _ =>
    cases runs
    rw [part.set_get]
    rfl
  | abort _ => cases runs
  | access request resume ih =>
    obtain ⟨⟨middle, reply⟩, performed, rest⟩ := bind_eq_ok runs
    have same := part.performs request whole
    rw [performed] at same
    rw [lift, Program.runAlone]
    cases inWhole : performWhole (part.embed request) whole with
    | error fault =>
      rw [inWhole] at same
      cases same
    | ok answered =>
      rw [inWhole] at same
      injection same with same
      injection same with sameMemory sameReply
      change (part.lift (resume (part.reply request answered.2))).runAlone _ answered.1 = _
      have sameWhole : answered.1 = part.set whole middle := sameMemory
      have sameAnswer : part.reply request answered.2 = reply := sameReply
      rw [sameWhole, sameAnswer, ih reply _ (by rw [part.get_set]; exact rest),
        part.set_set]

theorem readOnly_lift (reads : program.ReadOnly perform) :
    (part.lift program).ReadOnly performWhole := by
  induction program with
  | done | abort => trivial
  | access request resume ih =>
    refine ⟨?_, fun answer => ih _ (reads.2 _)⟩
    intro whole reached answer performed
    obtain ⟨memory, inPart, sameWhole⟩ := part.performs_ok performed
    rw [sameWhole, reads.1 _ _ _ inPart, part.set_get]

end Part

end Parts

/-- When calls begin and end. -/
inductive HistoryEvent (Operation Result : Type) where
  | invoke (call : Nat) (operation : Operation)
  | respond (call : Nat) (result : Result)
  deriving Repr, DecidableEq

structure Completed (Operation Result : Type) where
  call : Nat
  operation : Operation
  result : Result
  deriving Repr, DecidableEq

section Linearizability

variable {Operation Result State : Type}

/-- Calls that the object allows one after the other. -/
inductive Legal (Allowed : Operation → State → State → Result → Prop) (initial : State) :
    List (Completed Operation Result) → State → Prop where
  | start : Legal Allowed initial [] initial
  | extend {order : List (Completed Operation Result)} {before after : State}
      {completed : Completed Operation Result} :
      Legal Allowed initial order before →
      Allowed completed.operation before after completed.result →
      Legal Allowed initial (order ++ [completed]) after

/--
An order of calls that explains a history: it has every call that has ended,
keeps the order of calls that do not overlap, and is allowed by the sequential
object.
-/
structure Linearization (Allowed : Operation → State → State → Result → Prop) (initial : State)
    (history : List (HistoryEvent Operation Result)) (order : List (Completed Operation Result))
    (final : State) : Prop where
  distinct : (order.map Completed.call).Nodup
  invoked : ∀ completed ∈ order, .invoke completed.call completed.operation ∈ history
  responded : ∀ call result, .respond call result ∈ history →
      ∃ completed ∈ order, completed.call = call ∧ completed.result = result
  realTime : ∀ first ∈ order, ∀ second ∈ order,
      [.respond first.call first.result, .invoke second.call second.operation].Sublist history →
      [first, second].Sublist order
  legal : Legal Allowed initial order final

/-- A history that some order of its calls explains. -/
def Linearizable (Allowed : Operation → State → State → Result → Prop) (initial : State)
    (history : List (HistoryEvent Operation Result)) : Prop :=
  ∃ order final, Linearization Allowed initial history order final

end Linearizability

section Systems

variable {Access : Type} {Reply : Access → Type} {Memory : Type} {Operation Result State : Type}

structure System (Access : Type) (Reply : Access → Type)
    (Memory Operation Result : Type) where
  memory : Memory
  pending : Nat → Option (Operation × Program Access Reply Result)
  nextCall : Nat

inductive Event (Operation Result : Type) where
  | invoke (call : Nat) (operation : Operation)
  | access (call : Nat)
  | respond (call : Nat) (result : Result)
  deriving Repr, DecidableEq

/-- What of an event is seen from outside. -/
def Event.observed :
    Event Operation Result → Option (HistoryEvent Operation Result)
  | .invoke call operation => some (.invoke call operation)
  | .access _ => none
  | .respond call result => some (.respond call result)

def historyOf (events : List (Event Operation Result)) : List (HistoryEvent Operation Result) :=
  events.filterMap Event.observed

namespace System

/-- A system in which no call has begun. -/
def initial (memory : Memory) : System Access Reply Memory Operation Result :=
  ⟨memory, fun _ => none, 0⟩

/-- A call begins. -/
def invoke (program : Operation → Program Access Reply Result) (operation : Operation)
    (system : System Access Reply Memory Operation Result) :
    System Access Reply Memory Operation Result where
  memory := system.memory
  pending := Function.update system.pending system.nextCall (some (operation, program operation))
  nextCall := system.nextCall + 1

def proceed (call : Nat) (operation : Operation) (memory : Memory)
    (remaining : Program Access Reply Result)
    (system : System Access Reply Memory Operation Result) :
    System Access Reply Memory Operation Result where
  memory := memory
  pending := Function.update system.pending call (some (operation, remaining))
  nextCall := system.nextCall

def respond (call : Nat) (system : System Access Reply Memory Operation Result) :
    System Access Reply Memory Operation Result where
  memory := system.memory
  pending := Function.update system.pending call none
  nextCall := system.nextCall

theorem pending_invoke (program : Operation → Program Access Reply Result) (operation : Operation)
    (system : System Access Reply Memory Operation Result) :
    (system.invoke program operation).pending =
      Function.update system.pending system.nextCall (some (operation, program operation)) :=
  rfl

theorem pending_proceed (call : Nat) (operation : Operation) (memory : Memory)
    (remaining : Program Access Reply Result)
    (system : System Access Reply Memory Operation Result) :
    (system.proceed call operation memory remaining).pending =
      Function.update system.pending call (some (operation, remaining)) :=
  rfl

theorem pending_respond (call : Nat) (system : System Access Reply Memory Operation Result) :
    (system.respond call).pending = Function.update system.pending call none :=
  rfl

end System

variable (perform : (request : Access) → Memory → Except Fault (Memory × Reply request))
  (program : Operation → Program Access Reply Result)

inductive Step :
    System Access Reply Memory Operation Result →
      Event Operation Result →
      System Access Reply Memory Operation Result → Prop where
  | invoke (system : System Access Reply Memory Operation Result) (operation : Operation) :
      Step system (.invoke system.nextCall operation) (system.invoke program operation)
  | access (system : System Access Reply Memory Operation Result) {call : Nat}
      {operation : Operation} {request : Access}
      {resume : Reply request → Program Access Reply Result} {memory : Memory}
      {reply : Reply request}
      (isPending : system.pending call = some (operation, .access request resume))
      (performed : perform request system.memory = .ok (memory, reply)) :
      Step system (.access call) (system.proceed call operation memory (resume reply))
  | respond (system : System Access Reply Memory Operation Result) {call : Nat}
      {operation : Operation} {result : Result}
      (isPending : system.pending call = some (operation, .done result)) :
      Step system (.respond call result) (system.respond call)

/-- Some call is about to abort or to access what it must not access. -/
def Faulty (system : System Access Reply Memory Operation Result) : Prop :=
  ∃ call operation fault, system.pending call = some (operation, .abort fault) ∨
      ∃ request resume, system.pending call = some (operation, .access request resume) ∧
          perform request system.memory = .error fault

/-- Whether a call is about to abort or to access what it must not access. -/
def isFaulty (system : System Access Reply Memory Operation Result) (call : Nat) : Bool :=
  match system.pending call with
  | some (_, .abort _) => true
  | some (_, .access request _) =>
    match perform request system.memory with
    | .ok _ => false
    | .error _ => true
  | _ => false

/-- The step of an event, if the event can happen. -/
def handle [DecidableEq Result] (system : System Access Reply Memory Operation Result) :
    Event Operation Result → Except Fault (System Access Reply Memory Operation Result)
  | .invoke call operation => do
      check (call = system.nextCall)
      return system.invoke program operation
  | .access call =>
    match system.pending call with
    | some (operation, .access request resume) => do
        let (memory, reply) ← perform request system.memory
        return system.proceed call operation memory (resume reply)
    | _ => .error .check
  | .respond call result =>
    match system.pending call with
    | some (_, .done returned) => do
        check (returned = result)
        return system.respond call
    | _ => .error .check

variable {perform program} {system : System Access Reply Memory Operation Result}

theorem faulty_of_isFaulty {call : Nat} (fails : isFaulty perform system call = true) :
    Faulty perform system := by
  rw [isFaulty] at fails
  split at fails
  · rename_i operation fault isPending
    exact ⟨call, operation, fault, Or.inl isPending⟩
  · rename_i operation request resume isPending
    split at fails
    · cases fails
    · rename_i fault performed
      exact ⟨call, operation, fault, Or.inr ⟨request, resume, isPending, performed⟩⟩
  · cases fails

theorem step_of_handle [DecidableEq Result] {reached : System Access Reply Memory Operation Result}
    {event : Event Operation Result} (handled : handle perform program system event = .ok reached) :
    Step perform program system event reached := by
  cases event with
  | invoke call operation =>
    obtain ⟨_, isNext, same⟩ := bind_eq_ok handled
    cases holds_of_check isNext
    cases same
    exact .invoke system operation
  | access call =>
    simp only [handle] at handled
    split at handled
    · rename_i isPending
      obtain ⟨_, performed, same⟩ := bind_eq_ok handled
      cases same
      exact .access system isPending performed
    · cases handled
  | respond call result =>
    simp only [handle] at handled
    split at handled
    · rename_i isPending
      obtain ⟨_, isResult, same⟩ := bind_eq_ok handled
      cases holds_of_check isResult
      cases same
      exact .respond system isPending
    · cases handled

theorem run_of_handled [DecidableEq Result] {first : System Access Reply Memory Operation Result}
    {events : List (Event Operation Result)}
    {test : System Access Reply Memory Operation Result → Bool}
    (handled : (events.foldlM (handle perform program) first).toOption.any test = true) :
    ∃ reached, Run (Step perform program) first events reached ∧ test reached = true := by
  obtain ⟨reached, returned, passes⟩ := exists_of_any handled
  exact ⟨reached, Run.start.foldlM (fun _ _ _ => step_of_handle) returned, passes⟩

end Systems

end Autoproto.SharedMemory
