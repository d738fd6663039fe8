import Mathlib.Data.List.Basic
import Mathlib.Data.List.Induction
import Mathlib.Order.Bounds.Defs
import MicroC.Proofs.Memoryless

/-! # The furthest miss

A session keeps, of all misses recorded so far, the furthest position and what was expected there.
Positions may be any integers, in any order. What the record says depends on the misses alone, and
among misses at different positions not on their order.

Main statements: `Tells.record`, what a record tells of the misses stays right when one more is
taken, and `session_tells_furthest_miss`.
-/

namespace MicroC.Source

namespace Furthest

/-- What a record tells of the misses that it has taken. Its position is the greatest of theirs, or
    -1 if none is greater; its expectations are those of the misses there, each once and in the
    order in which they were first recorded. -/
structure Tells (misses : List Miss) (furthest : Furthest) : Prop where
  greatest : IsGreatest {position | position = -1 ∨ ∃ miss ∈ misses, miss.position = position}
    furthest.position
  mem_iff : ∀ text, text ∈ furthest.expected ↔ ⟨furthest.position, text⟩ ∈ misses
  ordered : furthest.expected.Pairwise fun one two =>
    misses.idxOf ⟨furthest.position, one⟩ < misses.idxOf ⟨furthest.position, two⟩

/-- A miss further on makes a new record, one at the same place adds what it expected, and any other
    changes nothing. -/
theorem record_cases (furthest : Furthest) (miss : Miss) :
    (furthest.position < miss.position ∧
      furthest.record miss = { position := miss.position, expected := [miss.expected] }) ∨
    (miss.position = furthest.position ∧ miss.expected ∉ furthest.expected ∧
      furthest.record miss = { furthest with expected := furthest.expected ++ [miss.expected] }) ∨
    ((miss.position < furthest.position ∨
        miss.position = furthest.position ∧ miss.expected ∈ furthest.expected) ∧
      furthest.record miss = furthest) := by
  unfold record
  split
  next further => exact .inl ⟨further, rfl⟩
  next within =>
    split
    next new => exact .inr (.inl ⟨new.1, new.2, rfl⟩)
    next old =>
      refine .inr (.inr ⟨?_, rfl⟩)
      by_cases same : miss.position = furthest.position
      · exact .inr ⟨same, Classical.not_not.1 fun new => old ⟨same, new⟩⟩
      · exact .inl (by omega)

theorem record_of_further {furthest : Furthest} {miss : Miss}
    (further : furthest.position < miss.position) :
    furthest.record miss = { position := miss.position, expected := [miss.expected] } :=
  if_pos further

theorem position_record (furthest : Furthest) (miss : Miss) :
    (furthest.record miss).position = max furthest.position miss.position := by
  obtain ⟨further, step⟩ | ⟨same, -, step⟩ | ⟨within, step⟩ := furthest.record_cases miss
  · rw [step]
    exact (Int.max_eq_right (Int.le_of_lt further)).symm
  · rw [step, same]
    exact (Int.max_self _).symm
  · rw [step, Int.max_eq_left]
    omega

theorem record_of_nearer {furthest : Furthest} {miss : Miss}
    (nearer : miss.position < furthest.position) : furthest.record miss = furthest := by
  obtain ⟨further, -⟩ | ⟨same, -, -⟩ | ⟨-, step⟩ := furthest.record_cases miss
  · omega
  · omega
  · exact step

/-- A miss in front of another makes no difference, whether it is recorded before it or behind. -/
theorem record_with_nearer (furthest : Furthest) {near far : Miss}
    (nearer : near.position < far.position) :
    (furthest.record near).record far = furthest.record far ∧
      (furthest.record far).record near = furthest.record far := by
  constructor
  · by_cases within : near.position < furthest.position
    · rw [record_of_nearer within]
    · have passed : (furthest.record near).position < far.position := by
        rw [position_record]
        omega
      rw [record_of_further passed, record_of_further (by omega)]
  · apply record_of_nearer
    rw [position_record]
    omega

theorem record_comm (furthest : Furthest) {first second : Miss}
    (different : first.position ≠ second.position) :
    (furthest.record first).record second = (furthest.record second).record first := by
  rcases Int.lt_or_gt_of_ne different with less | greater
  · obtain ⟨before, behind⟩ := furthest.record_with_nearer less
    rw [before, behind]
  · obtain ⟨before, behind⟩ := furthest.record_with_nearer greater
    rw [before, behind]

theorem position_le_recordAll (furthest : Furthest) (misses : List Miss) :
    furthest.position ≤ (furthest.recordAll misses).position := by
  induction misses generalizing furthest with
  | nil => exact Int.le_refl _
  | cons miss misses ih =>
      have step : furthest.position ≤ (furthest.record miss).position := by
        rw [position_record]
        exact Int.le_max_left _ _
      exact Int.le_trans step (ih (furthest.record miss))

theorem recordAll_append (furthest : Furthest) (misses more : List Miss) :
    furthest.recordAll (misses ++ more) = (furthest.recordAll misses).recordAll more :=
  List.foldl_append

namespace Tells

variable {misses : List Miss} {furthest : Furthest}

theorem nil : Tells [] {} where
  greatest := by
    refine ⟨.inl rfl, ?_⟩
    rintro position (rfl | ⟨miss, member, -⟩)
    · exact Int.le_refl _
    · cases member
  mem_iff := by simp
  ordered := .nil

theorem position_le (tells : Tells misses furthest) {miss : Miss} (member : miss ∈ misses) :
    miss.position ≤ furthest.position :=
  tells.greatest.2 (.inr ⟨miss, member, rfl⟩)

theorem greatest_record (tells : Tells misses furthest) (miss : Miss) :
    IsGreatest {position | position = -1 ∨ ∃ other ∈ misses ++ [miss], other.position = position}
      (furthest.record miss).position := by
  rw [position_record]
  constructor
  · rcases Int.le_total furthest.position miss.position with le | ge
    · rw [Int.max_eq_right le]
      exact .inr ⟨miss, by simp, rfl⟩
    · rw [Int.max_eq_left ge]
      rcases tells.greatest.1 with start | ⟨other, member, same⟩
      · exact .inl start
      · exact .inr ⟨other, List.mem_append_left _ member, same⟩
  · rintro position (rfl | ⟨other, member, rfl⟩)
    · exact Int.le_trans (tells.greatest.2 (.inl rfl)) (Int.le_max_left _ _)
    · rcases List.mem_append.1 member with earlier | last
      · exact Int.le_trans (tells.position_le earlier) (Int.le_max_left _ _)
      · rw [List.mem_singleton.1 last]
        exact Int.le_max_right _ _

/-- One more miss behind the others does not change the order of what they expected. -/
theorem ordered_append (tells : Tells misses furthest) (miss : Miss) :
    furthest.expected.Pairwise fun one two =>
      (misses ++ [miss]).idxOf ⟨furthest.position, one⟩ <
        (misses ++ [miss]).idxOf ⟨furthest.position, two⟩ := by
  apply tells.ordered.imp_of_mem
  intro one two first second less
  rwa [List.idxOf_append_of_mem ((tells.mem_iff one).1 first),
    List.idxOf_append_of_mem ((tells.mem_iff two).1 second)]

/-- What a record tells stays right when one more miss is taken. -/
theorem record (tells : Tells misses furthest) (miss : Miss) :
    Tells (misses ++ [miss]) (furthest.record miss) := by
  have greatest := tells.greatest_record miss
  have ordered := tells.ordered_append miss
  obtain ⟨position, expected⟩ := miss
  obtain ⟨further, step⟩ | ⟨rfl, new, step⟩ | ⟨within, step⟩ :=
    furthest.record_cases ⟨position, expected⟩
  · rw [step] at greatest ⊢
    refine ⟨greatest, fun text => ?_, List.pairwise_singleton _ _⟩
    -- No earlier miss is as far as this one.
    have fresh : (⟨position, text⟩ : Miss) ∉ misses :=
      fun member => Int.not_lt.2 (tells.position_le member) further
    simp [fresh]
  · rw [step] at greatest ⊢
    have fresh : (⟨furthest.position, expected⟩ : Miss) ∉ misses :=
      mt (tells.mem_iff expected).2 new
    refine ⟨greatest, fun text => by simp [tells.mem_iff], ?_⟩
    rw [List.pairwise_append]
    refine ⟨ordered, List.pairwise_singleton _ _, ?_⟩
    intro one first two last
    have earlier := (tells.mem_iff one).1 first
    have inside := List.idxOf_lt_length_of_mem earlier
    rw [List.mem_singleton.1 last, List.idxOf_append_of_mem earlier,
      List.idxOf_append_of_notMem fresh]
    omega
  · rw [step] at greatest ⊢
    refine ⟨greatest, fun text => ?_, ordered⟩
    have known : (⟨furthest.position, text⟩ : Miss) = ⟨position, expected⟩ →
        text ∈ furthest.expected := by
      intro same
      cases same
      exact within.elim (fun nearer => absurd nearer (Int.lt_irrefl _)) And.right
    rw [List.mem_append, List.mem_singleton, ← tells.mem_iff]
    exact ⟨.inl, fun told => told.elim id known⟩

end Tells

/-- Misses that are taken one by one are told of as a whole. -/
theorem tells_recordAll (misses : List Miss) : Tells misses (recordAll {} misses) := by
  induction misses using List.reverseRecOn with
  | nil => exact .nil
  | append_singleton misses miss ih =>
      rw [recordAll_append]
      exact ih.record miss

end Furthest

namespace Session

/-- The record of a session after misses have been recorded in it one by one. -/
def furthestAfter (session : Session) (misses : List Miss) : Furthest :=
  (session.after (misses.map Request.record)).furthest

theorem furthestAfter_eq (session : Session) (misses : List Miss) :
    session.furthestAfter misses = session.furthest.recordAll misses := by
  induction misses generalizing session with
  | nil => rfl
  | cons miss misses ih =>
      have step : session.furthestAfter (miss :: misses) =
          (session.perform (.record miss)).2.furthestAfter misses :=
        congrArg furthest (session.after_cons (.record miss) (misses.map .record))
      rw [step, ih]
      rfl

end Session

/-- Let misses be recorded in a new session. Its record stands at the greatest of their positions,
    or at -1 if all are less, and lists what was expected there, each expectation once and in the
    order of the first misses with it. The position never falls when more misses are recorded, and
    two misses in a row at different positions may change places. -/
theorem session_tells_furthest_miss (tokens : List Token) (lines : List String)
    (misses : List Miss) :
    let fresh : Session := { tokens, lines }
    let furthest := fresh.furthestAfter misses
    IsGreatest {position | position = -1 ∨ ∃ miss ∈ misses, miss.position = position}
      furthest.position ∧
    furthest.expected.Nodup ∧
    (∀ text, text ∈ furthest.expected ↔ ⟨furthest.position, text⟩ ∈ misses) ∧
    furthest.expected.Pairwise (fun one two =>
      misses.idxOf ⟨furthest.position, one⟩ < misses.idxOf ⟨furthest.position, two⟩) ∧
    (∀ more, furthest.position ≤ (fresh.furthestAfter (misses ++ more)).position) ∧
    ∀ first second more, first.position ≠ second.position →
      fresh.furthestAfter (misses ++ first :: second :: more) =
        fresh.furthestAfter (misses ++ second :: first :: more) := by
  intro fresh furthest
  have recorded (misses : List Miss) : fresh.furthestAfter misses = Furthest.recordAll {} misses :=
    fresh.furthestAfter_eq misses
  have tells : Furthest.Tells misses furthest := by
    rw [show furthest = _ from recorded misses]
    exact Furthest.tells_recordAll misses
  refine ⟨tells.greatest, tells.ordered.imp ?_, tells.mem_iff, tells.ordered, ?_, ?_⟩
  · rintro one _ less rfl
    exact Nat.lt_irrefl _ less
  · intro more
    rw [recorded, Furthest.recordAll_append, ← recorded misses]
    exact Furthest.position_le_recordAll _ more
  · intro first second more different
    rw [recorded, recorded, Furthest.recordAll_append, Furthest.recordAll_append]
    exact congrArg (Furthest.recordAll · more) (Furthest.record_comm _ different)

/-- Of five misses those at position two count. The first text is expected twice there, and it makes
    no difference that a miss at position one comes between. -/
theorem session_tells_furthest_miss_repeated :
    let fresh : Session := { tokens := [] }
    let misses : List Miss := [⟨-7, "x"⟩, ⟨2, "b"⟩]
    let between : Miss := ⟨1, "x"⟩
    let more : List Miss := [⟨2, "b"⟩]
    between.position ≠ (⟨2, "a"⟩ : Miss).position ∧
    fresh.furthestAfter (misses ++ between :: ⟨2, "a"⟩ :: more) = ⟨2, ["b", "a"]⟩ ∧
    fresh.furthestAfter (misses ++ ⟨2, "a"⟩ :: between :: more) = ⟨2, ["b", "a"]⟩ := by
  intro fresh misses between more
  have different : between.position ≠ (⟨2, "a"⟩ : Miss).position := by decide
  obtain ⟨-, -, -, -, -, exchange⟩ := session_tells_furthest_miss [] [] misses
  have exchanged := exchange between ⟨2, "a"⟩ more different
  have first : fresh.furthestAfter (misses ++ between :: ⟨2, "a"⟩ :: more) = ⟨2, ["b", "a"]⟩ := by
    decide
  exact ⟨different, first, exchanged ▸ first⟩

end MicroC.Source
