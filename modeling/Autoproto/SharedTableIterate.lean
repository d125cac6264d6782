import Autoproto.SharedTableHolds

namespace Autoproto.SharedTable

open FlatHashTable SharedMemory SharedMemory.Program LinearProbing
open FlatHashTable (nextBucket)

/-!
# Iterating alone

A range-based loop that nothing interferes with visits the nodes that the loop
over the table visits.  It writes the member that keeps the iteration start, so
it is not a program that only reads.
-/

variable [Inhabited Key] [DecidableEq Key]

section Start

variable {cells : TableCells Key Value}

omit [Inhabited Key] [DecidableEq Key] in
theorem setMember_setMember (member : Member) (first second : Nat) :
    (cells.setMember member first).setMember member second = cells.setMember member second := by
  simp only [TableCells.setMember, Function.update_idem]

theorem runAlone_probeBegin {mask : Nat} {nodes : List (Option (Key × Value))}
    (shows : Shows cells mask nodes) {fuel patience start found : Nat}
    (walked : probeFrom (nextBucket mask) Option.isSome nodes fuel start = some found)
    (enough : fuel ≤ patience) :
    (probeBegin patience).runAlone performTable (cells.setMember .beginBucket start) =
      .ok (cells.setMember .beginBucket found, ()) := by
  induction fuel generalizing patience start with
  | zero => cases walked
  | succ fuel ih =>
    obtain ⟨patience, rfl⟩ := Nat.exists_eq_add_of_lt enough
    have startShows : Shows (cells.setMember .beginBucket start) mask nodes :=
      ⟨shows.mask_eq, shows.stored, shows.keyed⟩
    rw [probeFrom] at walked
    cases atStart : nodes[start]? with
    | none =>
      rw [atStart] at walked
      cases walked
    | some node =>
      rw [atStart] at walked
      refine (runAlone_bind_ok (startShows.runAlone_isEmpty atStart)).trans ?_
      cases node with
      | some entry =>
        cases walked
        rfl
      | none =>
        refine (runAlone_bind_ok (runAlone_readMember _)).trans ?_
        refine (runAlone_bind_ok (runAlone_followingBucket startShows.mask_eq)).trans ?_
        refine (runAlone_bind_ok (runAlone_writeMember _ _)).trans ?_
        rw [setMember_setMember]
        exact ih walked (Nat.le_add_right fuel patience)

theorem runAlone_beginImpl {table started : FlatHashTable Key Value} (holds : Holds cells table)
    {patience : Nat} (enough : table.bucketCount ≤ patience) {random : UInt32} {found : Option Nat}
    (begun : table.beginImpl random = .ok (started, found)) : ∃ reached,
      (beginImpl patience random).runAlone performTable cells =
          .ok (reached, found.map (NodePointer.mk reached.nodes)) ∧ Holds reached started := by
  rw [FlatHashTable.beginImpl] at begun
  rw [beginImpl, runAlone_bind_ok (runAlone_readMember _), holds.used]
  by_cases unused : table.usedNodeCount = 0
  · rw [if_pos unused] at begun ⊢
    cases begun
    exact ⟨cells, rfl, holds⟩
  · rw [if_neg unused] at begun ⊢
    by_cases chosen : table.beginBucket = invalidBucket
    · rw [if_pos chosen] at begun
      split at begun
      · cases begun
      · rename_i bucket walked
        cases begun
        have walks := runAlone_probeBegin holds.shows walked enough
        have chooses : (chooseBegin patience random).runAlone performTable cells =
              .ok (cells.setMember .beginBucket bucket, ()) := by
          rw [chooseBegin, runAlone_bind_ok (runAlone_readMember _), holds.begun, if_pos chosen,
            runAlone_bind_ok (runAlone_readMember _), holds.mask,
            runAlone_bind_ok (runAlone_writeMember _ _)]
          exact walks
        rw [runAlone_bind_ok chooses]
        exact ⟨cells.setMember .beginBucket bucket, rfl, { holds with begun := rfl }⟩
    · rw [if_neg chosen] at begun
      cases begun
      have keeps : (chooseBegin patience random).runAlone performTable cells = .ok (cells, ()) := by
        rw [chooseBegin, runAlone_bind_ok (runAlone_readMember _), holds.begun, if_neg chosen]
        rfl
      rw [runAlone_bind_ok keeps, runAlone_bind_ok runAlone_readNodes,
        runAlone_bind_ok (runAlone_readMember _), holds.begun]
      exact ⟨cells, rfl, holds⟩

end Start

section Rounds

variable {cells : TableCells Key Value} {mask start : Nat} {nodes : List (Option (Key × Value))}

def iteratorOf (array start length : Nat) : Iterator where
  begin := ⟨array, 0⟩
  start := ⟨array, start⟩
  ending := ⟨array, length⟩

theorem iteratorOf_next (array start length bucket : Nat) :
    (if NodePointer.next ⟨array, bucket⟩ = (iteratorOf array start length).ending then
        (iteratorOf array start length).begin
      else
        NodePointer.next ⟨array, bucket⟩) =
      ⟨array, next length bucket⟩ := by
  by_cases last : bucket + 1 = length
  · rw [next, if_pos last, if_pos (by rw [NodePointer.next, last]; rfl)]
    rfl
  · rw [next, if_neg last, if_neg]
    · rfl
    · intro same
      exact last (congrArg NodePointer.bucket same)

theorem runAlone_iteratorNext (shows : Shows cells mask nodes) (startBound : start < nodes.length)
    {patience offset : Nat} (offsetBound : offset < nodes.length)
    (enough : nodes.length ≤ patience + offset) :
    (iteratorNext (iteratorOf cells.nodes start nodes.length) patience
        ⟨cells.nodes, (offset + start) % nodes.length⟩).runAlone performTable cells =
      .ok (cells, (FlatHashTable.iteratorNext nodes start patience
          ((offset + start) % nodes.length)).map (NodePointer.mk cells.nodes)) := by
  induction patience generalizing offset with
  | zero => omega
  | succ patience ih =>
    obtain ⟨following, back⟩ := next_rotated startBound offsetBound
    rw [iteratorNext, iteratorOf_next, following, FlatHashTable.iteratorNext, following]
    by_cases atEnd : (offset + 1 + start) % nodes.length = start
    · rw [if_pos atEnd, if_pos (by rw [atEnd]; rfl)]
      rfl
    · have laterBound : offset + 1 < nodes.length := by
        have notLast : offset + 1 ≠ nodes.length := fun isLast => atEnd (back.mpr isLast)
        omega
      have notStart : (⟨cells.nodes, (offset + 1 + start) % nodes.length⟩ : NodePointer) ≠
            (iteratorOf cells.nodes start nodes.length).start := by
        intro same
        exact atEnd (congrArg NodePointer.bucket same)
      have bound : (offset + 1 + start) % nodes.length < nodes.length :=
        Nat.mod_lt _ (Nat.zero_lt_of_lt startBound)
      rw [if_neg atEnd, if_neg notStart]
      cases node : nodes[(offset + 1 + start) % nodes.length] with
      | some entry =>
        have atNext : nodes[(offset + 1 + start) % nodes.length]? = some (some entry) := by
          rw [List.getElem?_eq_getElem bound, node]
        rw [runAlone_bind_ok (shows.runAlone_isEmpty atNext), atNext]
        rfl
      | none =>
        have atNext : nodes[(offset + 1 + start) % nodes.length]? = some none := by
          rw [List.getElem?_eq_getElem bound, node]
        rw [runAlone_bind_ok (shows.runAlone_isEmpty atNext), atNext]
        exact ih laterBound (by omega)

theorem runAlone_iterateFrom (shows : Shows cells mask nodes) (startBound : start < nodes.length)
    {patience : Nat} (enough : nodes.length ≤ patience)
    {visit : NodePointer → TableProgram Key Value Visited} {seen : Key × Value → Visited}
    (visits : ∀ pointer entry, cells.heap pointer = some (nodeOf (some entry)) →
        (visit pointer).runAlone performTable cells = .ok (cells, seen entry)) {rounds offset : Nat}
    {entry : Key × Value} (offsetBound : offset < nodes.length)
    (enoughRounds : nodes.length ≤ rounds + offset)
    (occupied : (nodes.rotate start)[offset]? = some (some entry)) :
    (iterateFrom patience visit (iteratorOf cells.nodes start nodes.length) rounds
        ⟨cells.nodes, (offset + start) % nodes.length⟩).runAlone performTable cells =
      .ok (cells, (elements ((nodes.rotate start).drop offset)).map seen) := by
  induction rounds generalizing offset entry with
  | zero => omega
  | succ rounds ih =>
    obtain ⟨rotatedBound, atOffset⟩ := List.getElem?_eq_some_iff.mp occupied
    have atBucket : nodes[(offset + start) % nodes.length]? = some (some entry) := by
      rw [← List.getElem?_rotate offsetBound, occupied]
    have headElement : elements ((nodes.rotate start).drop offset) =
          entry :: elements ((nodes.rotate start).drop (offset + 1)) := by
      rw [List.drop_eq_getElem_cons rotatedBound, atOffset]
      rfl
    have advances := runAlone_iteratorNext shows startBound offsetBound
        (enough.trans (Nat.le_add_right patience offset))
    rw [headElement, iterateFrom, runAlone_bind_ok (visits _ entry (shows.stored.heap_eq atBucket)),
      runAlone_bind_ok advances]
    rcases iteratorNext_spec startBound patience offsetBound
        (enough.trans (Nat.le_add_right patience offset)) with
      ⟨finished, nothing⟩ |
      ⟨later, laterEntry, after, laterBound, advanced, laterOccupied, sameElements⟩
    · rw [finished, nothing]
      rfl
    · rw [advanced, sameElements]
      exact runAlone_bind_ok (ih laterBound (by omega) laterOccupied)

end Rounds

theorem runAlone_iterate {traits : TableTraits Key} {cells : TableCells Key Value}
    {table begun : FlatHashTable Key Value} (holds : Holds cells table)
    (wellFormed : table.WellFormed traits) {patience : Nat}
    (enough : traits.maxBucketCount ≤ patience) {random : UInt32} {order : List (Key × Value)}
    (done : table.iterate random = .ok (begun, order))
    {visit : NodePointer → TableProgram Key Value Visited} {seen : Key × Value → Visited}
    (visits : ∀ cells pointer entry, cells.heap pointer = some (nodeOf (some entry)) →
        (visit pointer).runAlone performTable cells = .ok (cells, seen entry)) : ∃ reached,
      (iterate patience random visit).runAlone performTable cells = .ok (reached, order.map seen) ∧
        Holds reached begun := by
  obtain ⟨⟨started, found⟩, begins, rest⟩ := bind_eq_ok done
  obtain ⟨reached, runs, reachedHolds⟩ :=
    runAlone_beginImpl holds (wellFormed.capacity.trans enough) begins
  rw [iterate, runAlone_bind_ok runs, runAlone_bind_ok runAlone_readNodes,
    runAlone_bind_ok runAlone_readNodes,
    runAlone_bind_ok (runAlone_readMember _), reachedHolds.count]
  cases found with
  | none =>
    cases rest
    exact ⟨reached, rfl, reachedHolds⟩
  | some start =>
    cases rest
    have nonempty : table.usedNodeCount ≠ 0 := by
      intro unused
      rw [FlatHashTable.beginImpl, if_pos unused] at begins
      cases begins
    obtain ⟨expected, entry, expectedBegins, occupied⟩ :=
      FlatHashTable.beginImpl_spec wellFormed random nonempty
    cases begins.symm.trans expectedBegins
    have startBound : start < table.nodes.length := (List.getElem?_eq_some_iff.mp occupied).1
    have positive : 0 < table.nodes.length := Nat.zero_lt_of_lt startBound
    have atStart : (0 + start) % table.nodes.length = start := by
      rw [Nat.zero_add, Nat.mod_eq_of_lt startBound]
    have rotatedOccupied : (table.nodes.rotate start)[0]? = some (some entry) := by
      rw [List.getElem?_rotate positive, atStart, occupied]
    have visited := iterateFrom_spec startBound table.nodes.length positive
        (Nat.le_refl _) rotatedOccupied
    have rounds := runAlone_iterateFrom reachedHolds.shows startBound
        (wellFormed.capacity.trans enough) (visits reached) positive
        (wellFormed.capacity.trans enough) rotatedOccupied
    rw [atStart] at visited rounds
    refine ⟨reached, ?_, reachedHolds⟩
    change _ = Except.ok (reached,
      (FlatHashTable.iterateFrom table.nodes start table.nodes.length start).map seen)
    rw [visited]
    exact rounds

end Autoproto.SharedTable

