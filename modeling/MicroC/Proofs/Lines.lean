import MicroC.Proofs.Finding
import Mathlib.Data.List.DropRight

/-! # Two ways to cut a text into lines

Cursors count lines by line feeds alone: a line is what stands between two of them. `splitLines` also
breaks at a carriage return without a line feed. So a line that a cursor numbers is found under a
higher number in `splitLines`, by one for every such return before it, and only up to the first return
in it.
-/

namespace MicroC

open Text

/-! ## Lines between line feeds -/

/-- The text in front of a line, lines counted from zero. -/
def textBefore (chars : List Char) (number : Nat) : List Char :=
  ((chars.splitOn '\n').take number).flatMap (· ++ ['\n'])

/-- A text that is nothing or ends with a line feed. -/
def WholeLines (head : List Char) : Prop :=
  head = [] ∨ ∃ body, head = body ++ ['\n']

theorem length_splitOn_feed (chars : List Char) :
    (chars.splitOn '\n').length = chars.count '\n' + 1 := by
  induction chars with
  | nil => rfl
  | cons c chars ih =>
      rw [List.splitOn_cons_eq_if_modifyHead]
      by_cases feed : c = '\n' <;> simp [feed, ih]

theorem head?_splitOn_feed (chars : List Char) :
    (chars.splitOn '\n')[0]? = some (chars.takeWhile (· != '\n')) := by
  induction chars with
  | nil => rfl
  | cons c chars ih =>
      rw [List.splitOn_cons_eq_if_modifyHead]
      by_cases feed : c = '\n'
      · simp [feed]
      · simp [feed, ih]

theorem flatMap_splitOn_feed (chars : List Char) :
    (chars.splitOn '\n').flatMap (· ++ ['\n']) = chars ++ ['\n'] := by
  induction chars with
  | nil => rfl
  | cons c chars ih =>
      rw [List.splitOn_cons_eq_if_modifyHead]
      by_cases feed : c = '\n'
      · simp [feed, ih]
      · obtain ⟨first, others, split⟩ := List.exists_cons_of_ne_nil (List.splitOn_ne_nil '\n' chars)
        simp_all

/-- The line behind whole lines. -/
theorem WholeLines.line_behind {head : List Char} (whole : WholeLines head) (rest : List Char) :
    ((head ++ rest).splitOn '\n')[head.count '\n']? = some (rest.takeWhile (· != '\n')) ∧
      textBefore (head ++ rest) (head.count '\n') = head := by
  rcases whole with rfl | ⟨body, rfl⟩
  · exact ⟨head?_splitOn_feed rest, rfl⟩
  · have cut : ((body ++ ['\n']) ++ rest).splitOn '\n' = body.splitOn '\n' ++ rest.splitOn '\n' := by
      rw [List.append_assoc, List.singleton_append, List.splitOn_append_cons_self]
    have count : (body ++ ['\n']).count '\n' = (body.splitOn '\n').length := by
      rw [length_splitOn_feed, List.count_append]
      rfl
    rw [textBefore, cut, count]
    constructor
    · rw [List.getElem?_append_right (Nat.le_refl _), Nat.sub_self, head?_splitOn_feed]
    · rw [List.take_left, flatMap_splitOn_feed]

/-- A text is whole lines and the beginning of a line. -/
theorem exists_wholeLines (before : List Char) :
    ∃ head lead, before = head ++ lead ∧ WholeLines head ∧ '\n' ∉ lead ∧
      lineStartOf before = head.length := by
  induction before using List.reverseRecOn with
  | nil => exact ⟨[], [], rfl, .inl rfl, List.not_mem_nil, rfl⟩
  | append_singleton before c ih =>
      by_cases feed : c = '\n'
      · subst feed
        refine ⟨before ++ ['\n'], [], by simp, .inr ⟨before, rfl⟩, List.not_mem_nil, ?_⟩
        rw [lineStartOf_append_feed, List.length_append, List.length_singleton]
      · obtain ⟨head, lead, rfl, whole, feedless, start⟩ := ih
        have other : '\n' ∉ [c] := by simpa using Ne.symm feed
        refine ⟨head, lead ++ [c], by simp, whole, by simp_all, ?_⟩
        rw [lineStartOf_append other, start]

/-! ## Carriage returns at the end of a line -/

theorem trimReturns_append {kept tail : List Char} (other : ∀ c ∈ kept.getLast?, c ≠ '\r') :
    trimReturns (kept ++ tail) = kept ++ trimReturns tail := by
  have stays : kept.reverse.dropWhile (· == '\r') = kept.reverse := by
    cases last : kept.reverse with
    | nil => rfl
    | cons c others =>
        have : c ≠ '\r' := other c (by rw [List.getLast?_eq_head?_reverse, last]; rfl)
        simp [this]
  rw [trimReturns, trimReturns, List.reverse_append, List.dropWhile_append]
  split
  next empty =>
    rw [List.isEmpty_iff.1 empty, stays]
    simp
  next => simp

theorem ne_of_not_blank {c : Char} (dark : ¬ IsBlank c) : c ≠ '\n' ∧ c ≠ '\r' := by
  constructor <;> rintro rfl <;> exact dark (by decide)

/-- A piece of a text without line feeds and returns stands in a line behind whole lines, and the place
    in front of it counts just that. -/
theorem exists_line_around (file : String) (before after : List Char) {piece : List Char}
    (nonempty : piece ≠ []) (plain : ∀ c ∈ piece, c ≠ '\n' ∧ c ≠ '\r') :
    ∃ head rest lead trail, before ++ piece ++ after = head ++ rest ∧ WholeLines head ∧
      (placeAfter file before).line = (head.count '\n' + 1 : Nat) ∧
      trimReturns (rest.takeWhile (· != '\n')) = lead ++ piece ++ trail ∧
      (placeAfter file before).column = (lead.length + 1 : Nat) := by
  obtain ⟨head, lead, rfl, whole, feedless, start⟩ := exists_wholeLines before
  refine ⟨head, lead ++ piece ++ after, lead, trimReturns (after.takeWhile (· != '\n')), by simp,
    whole, ?_, ?_, ?_⟩
  · simp only [placeAfter, List.count_append, List.count_eq_zero.2 feedless]
    omega
  · have stays : ∀ c ∈ lead ++ piece, (c != '\n') = true := by
      intro c member
      rw [bne_iff_ne]
      rcases List.mem_append.1 member with member | member
      · exact ne_of_mem_of_not_mem member feedless
      · exact (plain c member).1
    have last : ∀ c ∈ (lead ++ piece).getLast?, c ≠ '\r' := by
      intro c final
      rw [List.getLast?_append_of_ne_nil _ nonempty] at final
      exact (plain c (List.mem_of_getLast? final)).2
    rw [List.takeWhile_append_of_pos stays, trimReturns_append last]
  · simp only [placeAfter, start, List.length_append]
    omega

/-- Up to its first return, a line is the line without the returns at its end just if no return is
    left in that. -/
theorem takeWhile_eq_trimReturns_iff (line : List Char) :
    line.takeWhile (· != '\r') = trimReturns line ↔ '\r' ∉ trimReturns line := by
  constructor
  · intro same member
    rw [← same] at member
    simpa using List.mem_takeWhile_imp member
  · intro without
    have all : ∀ c ∈ trimReturns line, (c != '\r') = true := by
      intro c member
      rw [bne_iff_ne]
      rintro rfl
      exact without member
    have stops : Stops (· != '\r') (line.rtakeWhile (· == '\r')) := by
      intro c head
      simpa using List.mem_rtakeWhile_imp (List.mem_of_head? head)
    have split : trimReturns line ++ line.rtakeWhile (· == '\r') = line :=
      List.rdropWhile_append_rtakeWhile
    rw [← takeWhile_of_stops all stops, split]

/-! ## Lines at any break -/

/-- A text without line breaks other than line feeds and carriage returns. -/
def PlainBreaks (chars : List Char) : Prop :=
  ∀ c ∈ chars, isLineBreak c = true → c = '\n' ∨ c = '\r'

/-- The number of carriage returns that no line feed follows. -/
def loneReturns : List Char → Nat
  | [] => 0
  | '\r' :: '\n' :: rest => loneReturns rest
  | c :: rest => (if c = '\r' then 1 else 0) + loneReturns rest

theorem PlainBreaks.of_subset {part chars : List Char} (plain : PlainBreaks chars)
    (inside : part ⊆ chars) : PlainBreaks part :=
  fun c member => plain c (inside member)

theorem ne_of_isLineBreak {c : Char} (other : isLineBreak c = false) : c ≠ '\n' ∧ c ≠ '\r' := by
  constructor <;> rintro rfl <;> cases other

theorem takeWhile_congr {p q : Char → Bool} {chars : List Char} (same : ∀ c ∈ chars, p c = q c) :
    chars.takeWhile p = chars.takeWhile q := by
  induction chars with
  | nil => rfl
  | cons c chars ih =>
      rw [List.takeWhile_cons, List.takeWhile_cons, same c List.mem_cons_self,
        ih fun d member => same d (List.mem_cons_of_mem _ member)]

section Alone

variable {c : Char} {rest : List Char} (alone : c = '\r' → rest.head? ≠ some '\n')
include alone

theorem splitChars_cons :
    splitChars (c :: rest) =
      if isLineBreak c then [] :: splitChars rest else extendFirst c (splitChars rest) := by
  rw [splitChars]
  rintro later rfl rfl
  exact alone rfl rfl

theorem loneReturns_cons :
    loneReturns (c :: rest) = (if c = '\r' then 1 else 0) + loneReturns rest := by
  rw [loneReturns]
  rintro later rfl rfl
  exact alone rfl rfl

end Alone

theorem splitChars_ne_nil {chars : List Char} (nonempty : chars ≠ []) : splitChars chars ≠ [] := by
  fun_cases splitChars chars with
  | case1 => exact absurd rfl nonempty
  | case2 => exact List.cons_ne_nil _ _
  | case3 => exact List.cons_ne_nil _ _
  | case4 c rest =>
      cases splitChars rest <;> exact List.cons_ne_nil _ _

theorem extendFirst_append (c : Char) {lines : List (List Char)} (nonempty : lines ≠ [])
    (more : List (List Char)) : extendFirst c (lines ++ more) = extendFirst c lines ++ more := by
  cases lines with
  | nil => exact absurd rfl nonempty
  | cons line lines => rfl

theorem alone_append {c : Char} {body : List Char}
    (other : ∀ rest, c = '\r' → body = '\n' :: rest → False) (inside : ¬ (c = '\r' ∧ body = []))
    (more : List Char) : c = '\r' → (body ++ more).head? ≠ some '\n' := by
  intro isReturn feed
  cases body with
  | nil => exact inside ⟨isReturn, rfl⟩
  | cons d body =>
      obtain rfl : d = '\n' := by simpa using feed
      exact other body isReturn rfl

/-- Behind a line feed the lines start anew. -/
theorem splitChars_append_feed (body rest : List Char) :
    splitChars (body ++ '\n' :: rest) = splitChars (body ++ ['\n']) ++ splitChars rest := by
  fun_induction loneReturns body with
  | case1 => rfl
  | case2 body ih => simp [splitChars, ih]
  | case3 c body other ih =>
      -- A return at the very end of the body joins the line feed behind it.
      by_cases last : c = '\r' ∧ body = []
      · obtain ⟨rfl, rfl⟩ := last
        rfl
      · have alone := alone_append other last
        rw [List.cons_append, List.cons_append, splitChars_cons (alone _), splitChars_cons (alone _),
          ih]
        split
        · rfl
        · exact extendFirst_append c (splitChars_ne_nil (by simp)) _

theorem length_extendFirst (c : Char) {lines : List (List Char)} (nonempty : lines ≠ []) :
    (extendFirst c lines).length = lines.length := by
  cases lines with
  | nil => exact absurd rfl nonempty
  | cons line lines => rfl

theorem length_splitChars_feed {body : List Char} (plain : PlainBreaks body) :
    (splitChars (body ++ ['\n'])).length =
      (body ++ ['\n']).count '\n' + loneReturns (body ++ ['\n']) := by
  fun_induction loneReturns body with
  | case1 => rfl
  | case2 body ih =>
      have later := ih (plain.of_subset (by simp))
      simp [splitChars, loneReturns, later]
      omega
  | case3 c body other ih =>
      by_cases last : c = '\r' ∧ body = []
      · obtain ⟨rfl, rfl⟩ := last
        rfl
      · have alone := alone_append other last ['\n']
        have later := ih (plain.of_subset (by simp))
        have here := plain c List.mem_cons_self
        rw [List.cons_append, splitChars_cons alone, loneReturns_cons alone]
        cases broken : isLineBreak c with
        | true =>
            rcases here broken with rfl | rfl <;> simp [later] <;> omega
        | false =>
            have nonempty : splitChars (body ++ ['\n']) ≠ [] := splitChars_ne_nil (by simp)
            simp [length_extendFirst c nonempty, later, ne_of_isLineBreak broken]

theorem head?_splitChars {chars : List Char} (nonempty : chars ≠ []) :
    (splitChars chars)[0]? = .some (chars.takeWhile fun c => !isLineBreak c) := by
  fun_induction splitChars chars with
  | case1 => exact absurd rfl nonempty
  | case2 => rfl
  | case3 c rest _ ends => simp [ends]
  | case4 c rest _ goesOn ih =>
      cases rest with
      | nil => simp [splitChars, extendFirst, goesOn]
      | cons d rest =>
          have first := ih (List.cons_ne_nil _ _)
          cases lines : splitChars (d :: rest) with
          | nil => simp [lines] at first
          | cons line others =>
              obtain rfl : line = _ := by simpa [lines] using first
              simp [extendFirst, goesOn]

namespace WholeLines

variable {head : List Char} (whole : WholeLines head)
include whole

theorem splitChars_append (rest : List Char) :
    splitChars (head ++ rest) = splitChars head ++ splitChars rest := by
  rcases whole with rfl | ⟨body, rfl⟩
  · rfl
  · rw [List.append_assoc, List.singleton_append, splitChars_append_feed]

theorem length_splitChars (plain : PlainBreaks head) :
    (splitChars head).length = head.count '\n' + loneReturns head := by
  rcases whole with rfl | ⟨body, rfl⟩
  · rfl
  · exact length_splitChars_feed (plain.of_subset (by simp))

/-- The line behind whole lines has the number of those lines, and as many more as there are lone
    returns in them. -/
theorem getElem?_splitChars {rest : List Char} (nonempty : rest ≠ [])
    (plain : PlainBreaks (head ++ rest)) :
    (splitChars (head ++ rest))[head.count '\n' + loneReturns head]? =
      some ((rest.takeWhile (· != '\n')).takeWhile (· != '\r')) := by
  have length := whole.length_splitChars (plain.of_subset (by simp))
  have ends : ∀ c ∈ rest, (!isLineBreak c) = decide ((c != '\r') = true ∧ (c != '\n') = true) := by
    intro c member
    cases broken : isLineBreak c with
    | true => rcases plain c (List.mem_append_right _ member) broken with rfl | rfl <;> rfl
    | false => simp [ne_of_isLineBreak broken]
  rw [whole.splitChars_append, ← length, List.getElem?_append_right (Nat.le_refl _), Nat.sub_self,
    head?_splitChars nonempty, List.takeWhile_takeWhile, takeWhile_congr ends]

end WholeLines

/-- A sound cursor shows the line that it counts. -/
theorem Cursor.Sound.getElem?_splitOn (buffer : Buffer) {cursor : Cursor}
    (sound : cursor.Sound buffer.chars) :
    ∃ line, (buffer.chars.splitOn '\n')[cursor.line - 1]? = some line ∧
      cursor.currentLine buffer = String.ofList (trimReturns line) := by
  obtain ⟨head, lead, behind, whole, feedless, start⟩ :=
    exists_wholeLines (buffer.chars.take cursor.offset)
  have chars : buffer.chars = head ++ (lead ++ cursor.rest) := by
    rw [← List.append_assoc, ← behind, sound.take_append_rest]
  have number : cursor.line - 1 = head.count '\n' := by
    rw [sound.line_eq, behind, List.count_append, List.count_eq_zero.2 feedless]
    omega
  refine ⟨(lead ++ cursor.rest).takeWhile (· != '\n'), ?_, ?_⟩
  · rw [number, chars]
    exact (whole.line_behind _).1
  · rw [Cursor.currentLine, sound.lineStart_eq, start, lineFrom, chars, List.drop_left]

end MicroC
