import MicroC.Failure
import Mathlib.Algebra.Order.Group.Nat
import Mathlib.Algebra.Ring.Int.Defs

/-! # What can be written

An integer can be written if it has no more than 4300 digits, and a location if its line and its column
can. A diagnostic is written when it is raised, so that what is raised is the diagnostic itself just if
its location can be written.
-/

namespace MicroC

namespace Numeral

theorem writeBound_eq : writeBound = 10 ^ digitLimit := by
  unfold writeBound
  -- Nothing is to be computed.
  generalize digitLimit = limit
  exact Nat.pow_eq

theorem write_of_lt {value : Int} (small : value.natAbs < 10 ^ 4300) :
    write value = .ok (toString value) := by
  rw [write, writeBound_eq, digitLimit, if_pos small]

theorem write_of_le {value : Int} (large : 10 ^ 4300 ≤ value.natAbs) :
    write value = .error .tooLarge := by
  rw [write, writeBound_eq, digitLimit, if_neg (Nat.not_lt.2 large)]

theorem write_natCast_of_le {value : Nat} (large : 10 ^ 4300 ≤ value) :
    write value = .error .tooLarge :=
  write_of_le large

theorem write_natCast_eq_ok_iff {value : Nat} {text : String} :
    write value = .ok text ↔ value < 10 ^ 4300 ∧ text = toString value := by
  have same : toString (value : Int) = toString value := rfl
  rw [write, Int.natAbs_natCast, writeBound_eq, digitLimit, same]
  by_cases small : value < 10 ^ 4300
  · rw [if_pos small, Except.ok.injEq, eq_comm]
    exact (and_iff_right small).symm
  · rw [if_neg small]
    exact iff_of_false nofun fun both => small both.1

theorem lt_ten_pow {number limit : Nat} (less : number < limit) : number < 10 ^ limit :=
  Nat.lt_trans less (Nat.lt_pow_self (by decide))

theorem small_of_lt {number : Nat} (less : number < 4300) : number < 10 ^ 4300 :=
  lt_ten_pow less

theorem le_natAbs_ten_pow (limit : Nat) : 10 ^ limit ≤ ((10 : Int) ^ limit).natAbs := by
  rw [Int.natAbs_pow]
  exact Nat.le_refl _

end Numeral

/-- The line and the column of the location have no more digits than may be written. -/
structure Location.Writable (place : Location) : Prop where
  line : place.line.natAbs < 10 ^ 4300
  column : place.column.natAbs < 10 ^ 4300

namespace Location

variable {place : Location}

theorem render_of_writable (writable : place.Writable) : place.render = .ok place.text := by
  rw [render, Numeral.write_of_lt writable.line, Numeral.write_of_lt writable.column]
  rfl

theorem render_of_not_writable (long : ¬ place.Writable) : place.render = .error .tooLarge := by
  rw [render]
  by_cases line : place.line.natAbs < 10 ^ 4300
  · have column : ¬ place.column.natAbs < 10 ^ 4300 := fun column => long ⟨line, column⟩
    rw [Numeral.write_of_lt line, Numeral.write_of_le (Nat.not_lt.1 column)]
    rfl
  · rw [Numeral.write_of_le (Nat.not_lt.1 line)]
    rfl

end Location

/-- The location of the diagnostic can be written, if it has one. -/
def Diagnostic.Writable (diagnostic : Diagnostic) : Prop :=
  ∀ place, diagnostic.location = some place → place.Writable

namespace Failure

variable {diagnostic : Diagnostic}

theorem raised_of_writable (writable : diagnostic.Writable) :
    (diagnosed diagnostic).raised = .diagnosed diagnostic := by
  rw [raised]
  cases located : diagnostic.location with
  | none => rfl
  | some place =>
      rw [Option.mapM_some, Location.render_of_writable (writable place located)]
      rfl

theorem raised_of_not_writable (long : ¬ diagnostic.Writable) :
    (diagnosed diagnostic).raised = .numeral .tooLarge := by
  obtain ⟨place, located, long⟩ : ∃ place, diagnostic.location = some place ∧ ¬ place.Writable := by
    simpa [Diagnostic.Writable] using long
  rw [raised, located, Option.mapM_some, Location.render_of_not_writable long]
  rfl

theorem raised_eq_diagnosed_iff {failure : Failure} :
    failure.raised = .diagnosed diagnostic ↔ failure = .diagnosed diagnostic ∧ diagnostic.Writable := by
  cases failure with
  | diagnosed other =>
      by_cases writable : other.Writable
      · rw [raised_of_writable writable]
        exact ⟨fun same => ⟨same, diagnosed.inj same ▸ writable⟩, And.left⟩
      · rw [raised_of_not_writable writable]
        refine iff_of_false nofun ?_
        rintro ⟨same, writable'⟩
        exact writable (diagnosed.inj same ▸ writable')
  | _ => exact iff_of_false nofun fun both => nomatch both.1

theorem exists_unwritten_eq_internal (fault : Tree.WriteFault) :
    ∃ found, unwritten fault = .internal found := by
  cases fault <;> exact ⟨_, rfl⟩

theorem unwritten_inj {fault other : Tree.WriteFault} :
    unwritten fault = unwritten other ↔ fault = other := by
  cases fault <;> cases other <;> simp [unwritten, numeral]

end Failure

theorem Tree.display_place {line column : Int} (file : String) (small : line.natAbs < 10 ^ 4300)
    (small' : column.natAbs < 10 ^ 4300) :
    (Tree.place (.text file) (.number line) (.number column)).display =
      .ok (file ++ ":" ++ toString line ++ ":" ++ toString column) := by
  simp only [display, write, Numeral.write_of_lt small, Numeral.write_of_lt small']
  rfl

end MicroC
