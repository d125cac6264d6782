import Mathlib.Data.List.Infix
import Mathlib.Order.Bounds.Defs
import Autoproto.ByteEncoding
import Autoproto.Fault

namespace Autoproto

open List

/-!
# The search for a boundary

The bytes of a chain buffer lie in nodes.  A search that fails returns how many
bytes can never start the boundary, and the next search on more data goes on there.
-/

/-- The nodes of a chain buffer, and how many bytes may be read. -/
structure ChainBufferReader where
  nodes : List Bytes
  size : Nat
  available : size ≤ nodes.flatten.length

/-- The function `ChainBufferIterator::advance`: the bytes that are passed, and the nodes behind. -/
def advanceNodes : List Bytes → Nat → Bytes × List Bytes
  | [], _ => ([], [])
  | node :: next, offset =>
    if offset < node.length then
      (node.take offset, node.drop offset :: next)
    else
      let (passed, rest) := advanceNodes next (offset - node.length)
      (node ++ passed, rest)

theorem advanceNodes_eq (nodes : List Bytes) (offset : Nat) :
    (advanceNodes nodes offset).1 = nodes.flatten.take offset ∧
      (advanceNodes nodes offset).2.flatten = nodes.flatten.drop offset := by
  induction nodes generalizing offset with
  | nil => simp [advanceNodes]
  | cons node next ih =>
    obtain ⟨passed, rest⟩ := ih (offset - node.length)
    rw [advanceNodes, flatten_cons, take_append, drop_append]
    split
    case isTrue inside =>
      have none : offset - node.length = 0 := by omega
      simp [none]
    case isFalse outside =>
      have all : node.length ≤ offset := by omega
      simp [passed, rest, take_of_length_le all, drop_of_length_le all]

namespace ChainBufferReader

/-- The bytes that can be read. -/
def bytes (range : ChainBufferReader) : Bytes :=
  range.nodes.flatten.take range.size

/-- The function `ChainBufferReader::prepare_read`, which skips empty nodes. -/
def prepareRead (range : ChainBufferReader) : Bytes :=
  ((range.nodes.find? (· ≠ [])).getD []).take range.size

theorem available_advanceNodes (range : ChainBufferReader) (offset : Nat) :
    range.size - offset ≤ (advanceNodes range.nodes offset).2.flatten.length := by
  rw [(advanceNodes_eq _ _).2, length_drop]
  exact Nat.sub_le_sub_right range.available offset

/-- The function `ChainBufferReader::advance`, which copies what fits into `dest` bytes. -/
def advance (range : ChainBufferReader) (offset dest : Nat) :
    Except Fault (Bytes × ChainBufferReader) := do
  check (offset ≤ range.size)
  pure
    ((advanceNodes range.nodes offset).1.take dest,
      { nodes := (advanceNodes range.nodes offset).2
        size := range.size - offset
        available := range.available_advanceNodes offset })

variable {range : ChainBufferReader} {offset : Nat}

theorem length_bytes (range : ChainBufferReader) : range.bytes.length = range.size := by
  rw [bytes, length_take, Nat.min_eq_left range.available]

theorem advance_eq (inside : offset ≤ range.size) (dest : Nat) : ∃ next,
      range.advance offset dest = .ok ((range.bytes.take offset).take dest, next) ∧
        next.bytes = range.bytes.drop offset := by
  rw [advance, check_eq_ok inside, ok_bind, (advanceNodes_eq _ _).1]
  have same : range.nodes.flatten.take offset = range.bytes.take offset := by
    rw [bytes, take_take, Nat.min_eq_left inside]
  rw [same]
  refine ⟨_, rfl, ?_⟩
  rw [bytes, bytes, (advanceNodes_eq _ _).2, drop_take]

theorem exists_prepareRead (isThere : range.size ≠ 0) :
    ∃ c ready rest, range.prepareRead = c :: ready ∧ range.bytes = c :: ready ++ rest := by
  obtain ⟨nodes, size, available⟩ := range
  rw [prepareRead, bytes]
  dsimp only at isThere ⊢
  induction nodes with
  | nil => exact absurd (Nat.le_zero.mp available) isThere
  | cons node next ih =>
    cases node with
    | nil => exact ih available
    | cons c node =>
      obtain ⟨size, rfl⟩ := Nat.exists_eq_succ_of_ne_zero isThere
      refine ⟨c, node.take size, next.flatten.take (size - node.length), rfl, ?_⟩
      rw [flatten_cons, cons_append, take_succ_cons, take_append]
      rfl

end ChainBufferReader

/-- The loop over the bytes that may start the boundary. -/
def findBoundaryLoop (boundary : Bytes) (first : UInt8) :
    Nat → ChainBufferReader → Nat → Except Fault (Bool × Nat)
  | 0, _, _ => .error .spin
  | fuel + 1, range, alreadyRead =>
    if range.size = 0 then
      pure (false, alreadyRead)
    else
      match range.prepareRead with
      | [] => .error .outOfBounds
      | c :: ready =>
        if c = first then
          if range.size < boundary.length then
            pure (false, alreadyRead)
          else do
            let (x, _) ← range.advance boundary.length 74
            if x = boundary then
              pure (true, alreadyRead)
            else do
              let (_, next) ← range.advance 1 0
              findBoundaryLoop boundary first fuel next (alreadyRead + 1)
        else do
          -- the first such byte, or else the end of what is ready
          let shift := (c :: ready).idxOf first
          let (_, next) ← range.advance shift 0
          findBoundaryLoop boundary first fuel next (alreadyRead + shift)

/-- Search behind `alreadyRead` bytes, and return where to go on. -/
def findBoundary (range : ChainBufferReader) (boundary : Bytes) (alreadyRead : Nat) :
    Except Fault (Bool × Nat) := do
  let (_, range) ← range.advance alreadyRead 0
  check (boundary.length ≤ 74)
  match boundary with
  | [] => if range.size = 0 then pure (false, alreadyRead) else .error .outOfBounds
  | first :: _ => findBoundaryLoop boundary first (range.size + 1) range alreadyRead

/-- The boundary lies at an offset. -/
def Occurs (boundary data : Bytes) (offset : Nat) : Prop :=
  boundary <+: data.drop offset

/-- The boundary cannot lie at an offset, whatever follows the data. -/
def Refuted (boundary data : Bytes) (offset : Nat) : Prop :=
  ¬ boundary <+: data.drop offset ∧ ¬ data.drop offset <+: boundary

/-- What searches on growing data leave in `already_read`. -/
inductive Searched (boundary : Bytes) : Bytes → Nat → Prop
  | start : Searched boundary [] 0
  | call {data : Bytes} {alreadyRead next : Nat} {range : ChainBufferReader} {found : Bool}
      (before : Searched boundary data alreadyRead) (grown : data <+: range.bytes)
      (returned : findBoundary range boundary alreadyRead = .ok (found, next)) :
      Searched boundary range.bytes next

/-- All that was passed over cannot start the boundary. -/
structure Passed (boundary data : Bytes) (alreadyRead : Nat) : Prop where
  inside : alreadyRead ≤ data.length
  refuted : ∀ offset < alreadyRead, Refuted boundary data offset

variable {boundary data : Bytes} {alreadyRead offset : Nat} {range : ChainBufferReader}
  {first : UInt8} {tail : Bytes}

theorem Passed.grow {more : Bytes} (passed : Passed boundary data alreadyRead)
    (grown : data <+: more) : Passed boundary more alreadyRead where
  inside := Nat.le_trans passed.inside grown.length_le
  refuted := by
    intro offset before
    obtain ⟨notThere, notCut⟩ := passed.refuted offset before
    refine ⟨?_, fun cut => notCut ((grown.drop offset).trans cut)⟩
    intro isThere
    exact (List.prefix_or_prefix_of_prefix isThere (grown.drop offset)).elim notThere notCut

theorem Passed.advance {shift : Nat} (passed : Passed boundary data alreadyRead)
    (inside : alreadyRead + shift ≤ data.length)
    (refuted : ∀ offset < shift, Refuted boundary (data.drop alreadyRead) offset) :
    Passed boundary data (alreadyRead + shift) where
  inside := inside
  refuted := by
    intro offset before
    by_cases passedBefore : offset < alreadyRead
    · exact passed.refuted offset passedBefore
    · have := refuted (offset - alreadyRead) (by omega)
      rwa [Refuted, drop_drop, Nat.add_sub_cancel' (by omega)] at this

/-- What a search has found. -/
structure SearchResult (boundary data : Bytes) (found : Bool) (alreadyRead : Nat) : Prop where
  passed : Passed boundary data alreadyRead
  outcome :
    cond found (Occurs boundary data alreadyRead) (data.length - alreadyRead < boundary.length)

theorem refuted_of_getElem {c : UInt8} (starts : data[offset]? = some c) (differs : c ≠ first) :
    Refuted (first :: tail) data offset := by
  obtain ⟨inside, rfl⟩ := List.getElem?_eq_some_iff.mp starts
  rw [Refuted, List.drop_eq_getElem_cons inside, List.cons_prefix_cons, List.cons_prefix_cons]
  exact ⟨fun same => differs same.1.symm, fun same => differs same.1⟩

theorem findBoundaryLoop_spec {fuel : Nat} (notLong : (first :: tail).length ≤ 74)
    (enough : range.size < fuel) (rest : range.bytes = data.drop alreadyRead)
    (passed : Passed (first :: tail) data alreadyRead) : ∃ found next,
      findBoundaryLoop (first :: tail) first fuel range alreadyRead = .ok (found, next) ∧
        SearchResult (first :: tail) data found next := by
  induction fuel generalizing range alreadyRead with
  | zero => omega
  | succ fuel ih =>
    have size : range.size = data.length - alreadyRead := by
      rw [← range.length_bytes, rest, length_drop]
    -- the search goes on behind bytes that cannot start the boundary
    have goesOn {shift : Nat} (positive : 0 < shift) (inside : shift ≤ range.size)
        (refuted : ∀ offset < shift, Refuted (first :: tail) range.bytes offset) :
        ∃ found last,
          (do
            let (_, next) ← range.advance shift 0
            findBoundaryLoop (first :: tail) first fuel next (alreadyRead + shift)) =
              .ok (found, last) ∧
            SearchResult (first :: tail) data found last := by
      obtain ⟨next, advanced, left⟩ := range.advance_eq inside 0
      have sizeLeft : next.size = range.size - shift := by
        rw [← next.length_bytes, left, length_drop, range.length_bytes]
      rw [advanced, ok_bind]
      refine ih (by omega) ?_ (passed.advance (by omega) (rest ▸ refuted))
      rw [left, rest, drop_drop]
    rw [findBoundaryLoop]
    by_cases empty : range.size = 0
    · rw [if_pos empty]
      refine ⟨false, alreadyRead, rfl, passed, ?_⟩
      rw [cond_false, ← size, empty]
      exact Nat.succ_pos _
    · obtain ⟨c, ready, later, prepared, bytes⟩ := range.exists_prepareRead empty
      rw [if_neg empty, prepared]
      dsimp only
      by_cases same : c = first
      · rw [if_pos same]
        by_cases short : range.size < (first :: tail).length
        · rw [if_pos short]
          exact ⟨false, alreadyRead, rfl, passed, size ▸ short⟩
        · have enoughLeft := Nat.not_lt.mp short
          obtain ⟨next, advanced, left⟩ := range.advance_eq enoughLeft 74
          rw [if_neg short, advanced, ok_bind, take_take, Nat.min_eq_right notLong]
          by_cases isThere : range.bytes.take (first :: tail).length = first :: tail
          · rw [if_pos isThere]
            refine ⟨true, alreadyRead, rfl, passed, ?_⟩
            rw [cond_true, Occurs, ← rest, prefix_iff_eq_take]
            exact isThere.symm
          · rw [if_neg isThere]
            refine goesOn Nat.one_pos (Nat.one_le_iff_ne_zero.mpr empty) ?_
            intro offset before
            obtain rfl : offset = 0 := by omega
            have notThere : ¬ first :: tail <+: range.bytes :=
              fun found => isThere (prefix_iff_eq_take.mp found).symm
            refine ⟨notThere, fun cut => notThere ?_⟩
            rw [drop_zero] at cut
            rw [cut.eq_of_length_le (range.length_bytes ▸ enoughLeft)]
      · rw [if_neg same]
        have shorter : (c :: ready).idxOf first ≤ (c :: ready).length := idxOf_le_length
        refine goesOn ?_ ?_ ?_
        · rw [idxOf_cons_ne _ same]
          exact Nat.succ_pos _
        · rw [← range.length_bytes, bytes, length_append]
          omega
        · intro offset before
          have inReady : offset < (c :: ready).length := by omega
          have differs : (c :: ready)[offset] ≠ first := ne_of_beq_false (not_of_lt_findIdx before)
          refine refuted_of_getElem ?_ differs
          rw [bytes, getElem?_append_left inReady, getElem?_eq_getElem inReady]

theorem findBoundary_spec (notEmpty : 1 ≤ boundary.length) (notLong : boundary.length ≤ 74)
    (passed : Passed boundary data alreadyRead) (grown : data <+: range.bytes) : ∃ found next,
      findBoundary range boundary alreadyRead = .ok (found, next) ∧
        SearchResult boundary range.bytes found next := by
  obtain ⟨first, tail, rfl⟩ := exists_cons_of_length_pos notEmpty
  have passedNow := passed.grow grown
  obtain ⟨next, advanced, left⟩ := range.advance_eq (range.length_bytes ▸ passedNow.inside) 0
  rw [findBoundary, advanced, ok_bind]
  dsimp only
  rw [check_eq_ok notLong, ok_bind]
  exact findBoundaryLoop_spec notLong (Nat.lt_succ_self _) left passedNow

theorem Searched.passed (notEmpty : 1 ≤ boundary.length) (notLong : boundary.length ≤ 74)
    (searched : Searched boundary data alreadyRead) : Passed boundary data alreadyRead := by
  induction searched with
  | start => exact ⟨Nat.le_refl _, fun _ before => absurd before (Nat.not_lt_zero _)⟩
  | call before grown returned ih =>
    obtain ⟨_, _, returns, result⟩ := findBoundary_spec notEmpty notLong ih grown
    cases returned.symm.trans returns
    exact result.passed

/--
Every search on grown data returns whether and where the boundary is first in
it; nothing is passed over, and less than a boundary is left to be read.
-/
theorem boundary_found_first
    (notEmpty : 1 ≤ boundary.length)
    (notLong : boundary.length ≤ 74)
    (searched : Searched boundary data alreadyRead)
    (grown : data <+: range.bytes) :
    ∃ found next,
      findBoundary range boundary alreadyRead = .ok (found, next) ∧
        (found = true ↔ ∃ offset, Occurs boundary range.bytes offset) ∧
        (found = true → IsLeast {offset | Occurs boundary range.bytes offset} next) ∧
        (found = false → (∀ offset < next, ¬ Occurs boundary range.bytes offset) ∧
            next ≤ range.bytes.length ∧
            range.bytes.length - next < boundary.length) := by
  obtain ⟨found, next, returned, result⟩ :=
    findBoundary_spec notEmpty notLong (searched.passed notEmpty notLong) grown
  obtain ⟨passed, outcome⟩ := result
  have notBefore : ∀ offset < next, ¬ Occurs boundary range.bytes offset :=
    fun offset before => (passed.refuted offset before).1
  have least : next ∈ lowerBounds {offset | Occurs boundary range.bytes offset} :=
    fun offset occurs => Nat.not_lt.mp fun before => notBefore offset before occurs
  refine ⟨found, next, returned, ?_⟩
  cases found with
  | true => simpa using ⟨⟨next, outcome⟩, outcome, least⟩
  | false =>
    have nowhere : ∀ offset, ¬ Occurs boundary range.bytes offset := by
      intro offset occurs
      have after : next ≤ offset := least occurs
      have fits := occurs.length_le
      rw [cond_false] at outcome
      rw [length_drop] at fits
      omega
    simpa [nowhere] using ⟨passed.inside, outcome⟩

/-- A boundary that lies over two nodes, the second of which comes after a search that fails. -/
theorem boundary_found_over_nodes : Searched [13, 10] [13, 13] 1 ∧
      findBoundary ⟨[[13, 13], [], [10]], 3, by decide⟩ [13, 10] 1 = .ok (true, 1) ∧
      IsLeast {offset | Occurs [13, 10] [13, 13, 10] offset} 1 := by
  have failed : findBoundary ⟨[[13, 13], []], 2, by decide⟩ [13, 10] 0 = .ok (false, 1) := rfl
  have searched : Searched [13, 10] [13, 13] 1 := .call .start nil_prefix failed
  have grown : [13, 13] <+: ChainBufferReader.bytes ⟨[[13, 13], [], [10]], 3, by decide⟩ := by
    decide
  obtain ⟨found, next, returned, _, least, _⟩ :=
    boundary_found_first (by decide) (by decide) searched grown
  have isFound : (found, next) = (true, 1) := Except.ok.inj (returned.symm.trans (by decide))
  cases isFound
  exact ⟨searched, returned, least rfl⟩

end Autoproto
