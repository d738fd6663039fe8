import MicroC.CommandLine.Run
import MicroC.Proofs.Pipeline

/-! # The debug option

Arguments with and without the debug option ask for the same but for the debug mode. Wherever
options can stand, the debug option can be added.
-/

namespace MicroC.CommandLine

namespace Arguments

/-- The arguments without the debug option. -/
def withoutDebug (arguments : Arguments) : Arguments :=
  { arguments with given := arguments.given.filter (·.switch ≠ .debug) }

/-- Arguments that come after others. -/
def followedBy (first second : Arguments) : Arguments where
  given := first.given ++ second.given
  positional := first.positional ++ second.positional

end Arguments

/-- The same request in debug mode or not. -/
def Request.inMode (debug : Bool) : Request → Request
  | .display text => .display text
  | .compile parameters => .compile { parameters with debug }

/-- Two runs have the same arguments but for the debug option. -/
def AlikeButDebug (one two : List String) : Prop :=
  (Arguments.read one).map Arguments.withoutDebug = (Arguments.read two).map Arguments.withoutDebug

namespace Arguments

/-! ## Adding the option -/

theorem map_followedBy_nil (outcome : Except ArgumentFault Arguments) :
    outcome.map (followedBy {}) = outcome := by
  cases outcome <;> rfl

theorem readFrom_append {before after : List String} {waiting : Option Waiting} {first : Arguments}
    (complete : readFrom waiting before = .ok first) (plain : "--" ∉ before) :
    readFrom waiting (before ++ after) = (readFrom none after).map first.followedBy := by
  induction before generalizing waiting first with
  | nil =>
      cases waiting with
      | none =>
          cases complete
          exact (map_followedBy_nil _).symm
      | some waiting => cases complete
  | cons argument rest ih =>
      have other : argument ≠ "--" := fun same => plain (same ▸ List.mem_cons_self)
      have plain : "--" ∉ rest := fun member => plain (List.mem_cons_of_mem _ member)
      cases waiting with
      | some waiting =>
          rw [readFrom] at complete
          obtain ⟨others, read, joined⟩ := bind_eq_ok_iff.1 complete
          cases joined
          rw [List.cons_append, readFrom, ih read plain]
          cases readFrom none after <;> rfl
      | none =>
          rw [readFrom, if_neg other] at complete
          rw [List.cons_append, readFrom, if_neg other]
          split at complete
          next named =>
            rw [if_pos named]
            obtain ⟨reading, found, complete⟩ := bind_eq_ok_iff.1 complete
            obtain ⟨others, read, joined⟩ := bind_eq_ok_iff.1 complete
            cases joined
            rw [found]
            change (readFrom reading.waiting (rest ++ after) >>= _) = _
            rw [ih read plain]
            cases readFrom none after with
            | error fault => rfl
            | ok later => simp [followedBy, Except.map, bind, Except.bind, pure, Except.pure]
          next unnamed =>
            rw [if_neg unnamed]
            obtain ⟨others, read, joined⟩ := bind_eq_ok_iff.1 complete
            cases joined
            rw [ih read plain]
            cases readFrom none after <;> rfl

theorem readFrom_debug (after : List String) :
    readFrom none ("--debug" :: after) =
      (readFrom none after).map (followedBy { given := [{ switch := .debug }] }) := by
  have other : "--debug" ≠ "--" := by decide
  have named : namesOptions "--debug".toList = true := by decide
  have found : readOption "--debug".toList = .ok { given := [{ switch := .debug }] } := rfl
  rw [readFrom, if_neg other, if_pos named, found]
  change (readFrom none after >>= _) = _
  cases readFrom none after <;> rfl

theorem withoutDebug_followedBy (first second : Arguments) :
    (first.followedBy second).withoutDebug = first.withoutDebug.followedBy second.withoutDebug := by
  simp [withoutDebug, followedBy]

/-- The debug option can be added before, between and after complete options. -/
theorem alikeButDebug_insert {before after : List String} {first : Arguments}
    (complete : read before = .ok first) (plain : "--" ∉ before) :
    AlikeButDebug (before ++ after) (before ++ "--debug" :: after) := by
  rw [AlikeButDebug, read, read, readFrom_append complete plain, readFrom_append complete plain,
    readFrom_debug]
  cases readFrom none after with
  | error fault => rfl
  | ok later =>
      apply congrArg Except.ok
      rw [withoutDebug_followedBy, withoutDebug_followedBy, withoutDebug_followedBy]
      rfl

/-! ## Leaving the option out -/

theorem filter_foldl_insert (switches seen : List Switch) (kept : Switch → Bool) :
    (switches.foldl (fun seen switch => if switch ∈ seen then seen else seen ++ [switch])
        seen).filter kept =
      (switches.filter kept).foldl
        (fun seen switch => if switch ∈ seen then seen else seen ++ [switch])
        (seen.filter kept) := by
  induction switches generalizing seen with
  | nil => rfl
  | cons switch rest ih =>
      rw [List.foldl_cons, ih]
      by_cases keep : kept switch = true
      · rw [List.filter_cons_of_pos keep, List.foldl_cons]
        by_cases known : switch ∈ seen
        · rw [if_pos known, if_pos (List.mem_filter.2 ⟨known, keep⟩)]
        · rw [if_neg known, if_neg fun member => known (List.mem_filter.1 member).1,
            List.filter_append, List.filter_cons_of_pos keep, List.filter_nil]
      · rw [List.filter_cons_of_neg keep]
        split
        · rfl
        · rw [List.filter_append, List.filter_cons_of_neg keep, List.filter_nil, List.append_nil]

theorem kept_iff {switch : Switch} (other : switch ≠ .debug) (given : Given) :
    given.switch ≠ .debug ∧ given.switch = switch ↔ given.switch = switch :=
  and_iff_right_of_imp fun same => same ▸ other

section

variable (arguments : Arguments)

theorem value?_withoutDebug (switch : Switch) (other : switch ≠ .debug) :
    arguments.withoutDebug.value? switch = arguments.value? switch := by
  rw [value?, value?, withoutDebug, ← List.filter_reverse, List.find?_filter]
  simp only [decide_eq_true_eq, kept_iff other]

theorem has_withoutDebug (switch : Switch) (other : switch ≠ .debug) :
    arguments.withoutDebug.has switch = arguments.has switch := by
  rw [has, has, withoutDebug, List.any_filter]
  simp only [← Bool.decide_and, kept_iff other]

theorem parameters_eq_inMode (input output : String) :
    arguments.parameters input output =
      { arguments.withoutDebug.parameters input output with debug := arguments.has .debug } := by
  unfold parameters
  rw [value?_withoutDebug _ .target nofun, has_withoutDebug _ .lex nofun,
    has_withoutDebug _ .parse nofun, has_withoutDebug _ .codegen nofun]

theorem switches_withoutDebug :
    arguments.withoutDebug.switches = arguments.switches.filter (· ≠ .debug) := by
  rw [switches, switches, filter_foldl_insert, List.filter_map]
  rfl

theorem findSome?_shownBy?_filter (switches : List Switch) :
    (switches.filter (· ≠ .debug)).findSome? shownBy? = switches.findSome? shownBy? := by
  induction switches with
  | nil => rfl
  | cons switch rest ih =>
      by_cases debug : switch = .debug
      · subst debug
        exact ih
      · rw [List.filter_cons_of_pos (by simpa using debug), List.findSome?_cons,
          List.findSome?_cons, ih]

theorem checkSwitch_withoutDebug (status : Statuses) :
    checkSwitch status arguments.withoutDebug = checkSwitch status arguments := by
  funext switch
  cases switch with
  | output => simp only [checkSwitch, arguments.value?_withoutDebug .output nofun]
  | target => simp only [checkSwitch, arguments.value?_withoutDebug .target nofun]
  | _ => rfl

theorem forM_checkSwitch_filter (status : Statuses) (switches : List Switch) :
    (switches.filter (· ≠ .debug)).forM (checkSwitch status arguments) =
      switches.forM (checkSwitch status arguments) := by
  induction switches with
  | nil => rfl
  | cons switch rest ih =>
      by_cases debug : switch = .debug
      · subst debug
        exact ih
      · rw [List.filter_cons_of_pos (by simpa using debug)]
        exact congrArg (fun later => checkSwitch status arguments switch >>= fun _ => later) ih

/-- The debug option decides on the mode and on nothing else. -/
theorem request_eq_inMode (status : Statuses) :
    arguments.request status =
      (arguments.withoutDebug.request status).map (Request.inMode (arguments.has .debug)) := by
  have positional : arguments.withoutDebug.positional = arguments.positional := rfl
  unfold request
  rw [switches_withoutDebug, findSome?_shownBy?_filter, checkSwitch_withoutDebug,
    forM_checkSwitch_filter, positional, value?_withoutDebug _ .output nofun]
  cases arguments.switches.findSome? shownBy? with
  | some text => rfl
  | none =>
      dsimp only
      cases arguments.switches.forM (checkSwitch status arguments) with
      | error refusal => rfl
      | ok _ =>
          cases checkInput status arguments.positional with
          | error refusal => rfl
          | ok input =>
              cases arguments.value? .output with
              | none => rfl
              | some output =>
                  cases arguments.positional.drop 1 with
                  | nil =>
                      exact congrArg (Except.ok ∘ Request.compile)
                        (arguments.parameters_eq_inMode input output)
                  | cons => rfl

end

end Arguments

end MicroC.CommandLine
