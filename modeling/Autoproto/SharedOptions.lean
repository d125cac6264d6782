import Autoproto.InMemoryKeyValue
import Autoproto.SeparateCalls
import Autoproto.SharedMap

namespace Autoproto.SharedOptions

open SharedMemory SharedMemory.Program SharedTable Function

/-!
# The options of `Global` as threads share them

The options are kept in three hash maps, one for each type of value, and the
functions of `Global` access them without a lock.
-/

/-- The template parameters of the three maps. -/
structure OptionTraits where
  strings : TableTraits Bytes
  integers : TableTraits Bytes
  booleans : TableTraits Bytes

/-- The memory of the three maps. -/
structure OptionCells where
  strings : TableCells Bytes Bytes := {}
  integers : TableCells Bytes Int64 := {}
  booleans : TableCells Bytes Bool := {}

/-- A single access of the memory of a map. -/
inductive OptionAccess where
  | strings (request : TableAccess Bytes Bytes)
  | integers (request : TableAccess Bytes Int64)
  | booleans (request : TableAccess Bytes Bool)
  deriving Repr, DecidableEq

def OptionAccess.Reply : OptionAccess → Type
  | .strings request => request.Reply
  | .integers request => request.Reply
  | .booleans request => request.Reply

/-- Carry out an access. -/
def performOption :
    (request : OptionAccess) → OptionCells → Except Fault (OptionCells × request.Reply)
  | .strings request, cells => do
      let (map, reply) ← performTable request cells.strings
      return ({ cells with strings := map }, reply)
  | .integers request, cells => do
      let (map, reply) ← performTable request cells.integers
      return ({ cells with integers := map }, reply)
  | .booleans request, cells => do
      let (map, reply) ← performTable request cells.booleans
      return ({ cells with booleans := map }, reply)

def stringPart : Part (@performTable Bytes Bytes _) performOption where
  embed := .strings
  reply := fun _ reply => reply
  get := OptionCells.strings
  set := fun cells map => { cells with strings := map }
  get_set := fun _ _ => rfl
  set_get := fun _ => rfl
  set_set := fun _ _ _ => rfl
  performs := by
    intro request cells
    rw [performOption]
    cases performTable request cells.strings <;> rfl

def integerPart : Part (@performTable Bytes Int64 _) performOption where
  embed := .integers
  reply := fun _ reply => reply
  get := OptionCells.integers
  set := fun cells map => { cells with integers := map }
  get_set := fun _ _ => rfl
  set_get := fun _ => rfl
  set_set := fun _ _ _ => rfl
  performs := by
    intro request cells
    rw [performOption]
    cases performTable request cells.integers <;> rfl

def booleanPart : Part (@performTable Bytes Bool _) performOption where
  embed := .booleans
  reply := fun _ reply => reply
  get := OptionCells.booleans
  set := fun cells map => { cells with booleans := map }
  get_set := fun _ _ => rfl
  set_get := fun _ => rfl
  set_set := fun _ _ _ => rfl
  performs := by
    intro request cells
    rw [performOption]
    cases performTable request cells.booleans <;> rfl

/-- The functions of `Global` that access the options. -/
inductive OptionOperation where
  | setOptionEmpty (name : Bytes)
  | setOptionBoolean (name : Bytes) (value : Bool)
  | setOptionInteger (name : Bytes) (value : Int64)
  | setOptionString (name value : Bytes)
  | haveOption (name : Bytes)
  | getOptionBoolean (name : Bytes) (defaultValue : Bool)
  | getOptionInteger (name : Bytes) (defaultValue : Int64)
  | getOptionString (name defaultValue : Bytes)
  deriving Repr, DecidableEq

/-- What the functions return. -/
inductive OptionResult where
  | done
  | boolean (value : Bool)
  | integer (value : Int64)
  | string (value : Bytes)
  deriving Repr, DecidableEq

def program (traits : OptionTraits) (patience : Nat) :
    OptionOperation → Program OptionAccess OptionAccess.Reply OptionResult
  | .setOptionEmpty name => do
      let _ ← stringPart.lift (erase traits.strings patience name)
      let _ ← integerPart.lift (erase traits.integers patience name)
      let _ ← booleanPart.lift (erase traits.booleans patience name)
      return .done
  | .setOptionBoolean name value => do
      booleanPart.lift (insertOrAssign traits.booleans patience name value)
      return .done
  | .setOptionInteger name value => do
      integerPart.lift (insertOrAssign traits.integers patience name value)
      return .done
  | .setOptionString name value => do
      stringPart.lift (insertOrAssign traits.strings patience name value)
      return .done
  | .haveOption name => do
      let strings ← stringPart.lift (SharedTable.count traits.strings patience name)
      if strings ≠ 0 then
        return .boolean true
      else
        let integers ← integerPart.lift (SharedTable.count traits.integers patience name)
        if integers ≠ 0 then
          return .boolean true
        else
          let booleans ← booleanPart.lift (SharedTable.count traits.booleans patience name)
          return .boolean (decide (booleans ≠ 0))
  | .getOptionBoolean name defaultValue => do
      let found ← booleanPart.lift (findValue traits.booleans patience name)
      return .boolean (found.getD defaultValue)
  | .getOptionInteger name defaultValue => do
      let found ← integerPart.lift (findValue traits.integers patience name)
      return .integer (found.getD defaultValue)
  | .getOptionString name defaultValue => do
      let found ← stringPart.lift (findValue traits.strings patience name)
      return .string (found.getD defaultValue)

/-- The options as a sequential object: three finite maps. -/
structure OptionState where
  strings : Bytes → Option Bytes
  integers : Bytes → Option Int64
  booleans : Bytes → Option Bool

def Allowed :
    OptionOperation → OptionState → OptionState → OptionResult → Prop
  | .setOptionEmpty name, before, after, result =>
    after = ⟨update before.strings name none, update before.integers name none,
          update before.booleans name none⟩ ∧
      result = .done
  | .setOptionBoolean name value, before, after, result =>
    after = { before with
          booleans := update before.booleans name (some value) } ∧
      result = .done
  | .setOptionInteger name value, before, after, result =>
    after = { before with
          integers := update before.integers name (some value) } ∧
      result = .done
  | .setOptionString name value, before, after, result =>
    after = { before with
          strings := update before.strings name (some value) } ∧
      result = .done
  | .haveOption name, before, after, result =>
    after = before ∧
      result = .boolean
          ((before.strings name).isSome || (before.integers name).isSome ||
            (before.booleans name).isSome)
  | .getOptionBoolean name defaultValue, before, after, result =>
    after = before ∧ result = .boolean ((before.booleans name).getD defaultValue)
  | .getOptionInteger name defaultValue, before, after, result =>
    after = before ∧ result = .integer ((before.integers name).getD defaultValue)
  | .getOptionString name defaultValue, before, after, result =>
    after = before ∧ result = .string ((before.strings name).getD defaultValue)

def Reads : OptionOperation → Prop
  | .haveOption _ => True
  | .getOptionBoolean _ _ => True
  | .getOptionInteger _ _ => True
  | .getOptionString _ _ => True
  | _ => False

def Fits (traits : OptionTraits) : OptionOperation → OptionState → Prop
  | .setOptionBoolean name _, state => name ≠ [] ∧ Room traits.booleans state.booleans name
  | .setOptionInteger name _, state => name ≠ [] ∧ Room traits.integers state.integers name
  | .setOptionString name _, state => name ≠ [] ∧ Room traits.strings state.strings name
  | _, _ => True

/-- The memory of the maps stands for three finite maps. -/
structure Represents (traits : OptionTraits) (cells : OptionCells)
    (state : OptionState) : Prop where
  strings : HoldsMap traits.strings cells.strings state.strings
  integers : HoldsMap traits.integers cells.integers state.integers
  booleans : HoldsMap traits.booleans cells.booleans state.booleans

/-- The loops have enough rounds for each of the maps. -/
structure Patient (traits : OptionTraits) (patience : Nat) : Prop where
  strings : traits.strings.maxBucketCount ≤ patience
  integers : traits.integers.maxBucketCount ≤ patience
  booleans : traits.booleans.maxBucketCount ≤ patience

section Alone

variable {traits : OptionTraits} {patience : Nat} {cells : OptionCells} {state : OptionState}

section

variable (patient : Patient traits patience)
include patient

theorem runAlone_haveOption (represents : Represents traits cells state) (name : Bytes) :
    (program traits patience (.haveOption name)).runAlone performOption cells =
      .ok (cells, .boolean ((state.strings name).isSome || (state.integers name).isSome ||
            (state.booleans name).isSome)) := by
  have inStrings := stringPart.runAlone_lift cells (represents.strings.count patient.strings name)
  have inIntegers :=
    integerPart.runAlone_lift cells (represents.integers.count patient.integers name)
  have inBooleans :=
    booleanPart.runAlone_lift cells (represents.booleans.count patient.booleans name)
  refine (runAlone_bind_ok inStrings).trans ?_
  cases state.strings name with
  | some value => rfl
  | none =>
    refine (runAlone_bind_ok inIntegers).trans ?_
    cases state.integers name with
    | some value => rfl
    | none =>
      refine (runAlone_bind_ok inBooleans).trans ?_
      cases state.booleans name with
      | some | none => rfl

theorem ends_alone (operation : OptionOperation) (represents : Represents traits cells state)
    (fits : Fits traits operation state) : ∃ reached result next,
      (program traits patience operation).runAlone performOption cells = .ok (reached, result) ∧
        Represents traits reached next ∧ Allowed operation state next result := by
  obtain ⟨strings, integers, booleans⟩ := represents
  cases operation with
  | setOptionEmpty name =>
    obtain ⟨noString, _, erasesString, stringsErased⟩ := strings.erase patient.strings name
    obtain ⟨noInteger, _, erasesInteger, integersErased⟩ := integers.erase patient.integers name
    obtain ⟨noBoolean, _, erasesBoolean, booleansErased⟩ := booleans.erase patient.booleans name
    refine ⟨⟨noString, noInteger, noBoolean⟩, .done, ⟨update state.strings name none,
        update state.integers name none,
        update state.booleans name none⟩, ?_,
      ⟨stringsErased, integersErased, booleansErased⟩, rfl, rfl⟩
    refine (runAlone_bind_ok (stringPart.runAlone_lift cells erasesString)).trans ?_
    refine (runAlone_bind_ok (integerPart.runAlone_lift
      ⟨noString, cells.integers, cells.booleans⟩ erasesInteger)).trans ?_
    exact runAlone_bind_ok (booleanPart.runAlone_lift
      ⟨noString, noInteger, cells.booleans⟩ erasesBoolean)
  | setOptionBoolean name value =>
    obtain ⟨assigned, runs, holds⟩ := booleans.insertOrAssign patient.booleans fits.1 fits.2 value
    exact ⟨{ cells with booleans := assigned }, .done, { state with
        booleans := update state.booleans name (some value) },
      runAlone_bind_ok (booleanPart.runAlone_lift cells runs),
      ⟨strings, integers, holds⟩, rfl, rfl⟩
  | setOptionInteger name value =>
    obtain ⟨assigned, runs, holds⟩ := integers.insertOrAssign patient.integers fits.1 fits.2 value
    exact ⟨{ cells with integers := assigned }, .done, { state with
        integers := update state.integers name (some value) },
      runAlone_bind_ok (integerPart.runAlone_lift cells runs),
      ⟨strings, holds, booleans⟩, rfl, rfl⟩
  | setOptionString name value =>
    obtain ⟨assigned, runs, holds⟩ := strings.insertOrAssign patient.strings fits.1 fits.2 value
    exact ⟨{ cells with strings := assigned }, .done, { state with
        strings := update state.strings name (some value) },
      runAlone_bind_ok (stringPart.runAlone_lift cells runs),
      ⟨holds, integers, booleans⟩, rfl, rfl⟩
  | haveOption name =>
    exact ⟨cells, _, state, runAlone_haveOption patient ⟨strings, integers, booleans⟩ name,
      ⟨strings, integers, booleans⟩, rfl, rfl⟩
  | getOptionBoolean name defaultValue =>
    have runs := booleanPart.runAlone_lift cells (booleans.findValue patient.booleans name)
    exact ⟨cells, _, state, runAlone_bind_ok runs, ⟨strings, integers, booleans⟩, rfl, rfl⟩
  | getOptionInteger name defaultValue =>
    have runs := integerPart.runAlone_lift cells (integers.findValue patient.integers name)
    exact ⟨cells, _, state, runAlone_bind_ok runs, ⟨strings, integers, booleans⟩, rfl, rfl⟩
  | getOptionString name defaultValue =>
    have runs := stringPart.runAlone_lift cells (strings.findValue patient.strings name)
    exact ⟨cells, _, state, runAlone_bind_ok runs, ⟨strings, integers, booleans⟩, rfl, rfl⟩

theorem implements_options : Implements performOption (program traits patience) Reads
      (Represents traits) (Fits traits) Allowed where
  ends := fun operation _ _ represents fits => ends_alone patient operation represents fits
  readOnly := by
    intro operation reads
    cases operation with
    | haveOption name =>
      refine (stringPart.readOnly_lift
        (readOnly_count traits.strings patience name)).bind fun _ => ?_
      split
      · trivial
      · refine (integerPart.readOnly_lift
          (readOnly_count traits.integers patience name)).bind fun _ => ?_
        split
        · trivial
        · exact (booleanPart.readOnly_lift
            (readOnly_count traits.booleans patience name)).bind fun _ => trivial
    | getOptionBoolean name defaultValue =>
      exact (booleanPart.readOnly_lift
        (readOnly_findValue traits.booleans patience name)).bind fun _ => trivial
    | getOptionInteger name defaultValue =>
      exact (integerPart.readOnly_lift
        (readOnly_findValue traits.integers patience name)).bind fun _ => trivial
    | getOptionString name defaultValue =>
      exact (stringPart.readOnly_lift
        (readOnly_findValue traits.strings patience name)).bind fun _ => trivial
    | _ => exact reads.elim
  unchanged := by
    intro operation state next result reads allowed
    cases operation with
    | haveOption | getOptionBoolean | getOptionInteger | getOptionString => exact allowed.1
    | _ => exact reads.elim

end

end Alone

end Autoproto.SharedOptions
