import AccessController.Proofs.Assembler.Listing
import Mathlib.Data.List.ReduceOption

/-!
# Reading a text line by line

The lines of a text are assembled in order.  If all of them can be, the program is made of the
words on them; otherwise the first one that cannot be is blamed, by its number among all lines and
with its own error (`parse_blames_first`).  Both are said of lists of lines first, with any number
for the first line, since the lines behind it are numbered on from there.
-/

namespace AccessController.Program

open Assembler

/-- Lines that can all be assembled, and the words on them in order. -/
def Assembled (lines : List (List Char)) (words : List Word) : Prop :=
  ∃ found : List (Option Word),
    List.Forall₂ (fun line word => assembleLine line = .ok word) lines found ∧
      found.reduceOption = words

/-- The first line that cannot be assembled: its own error, and its number if the lines are
numbered from `first` on. -/
def FirstBad (first : Nat) (lines : List (List Char)) (failure : ParseError) : Prop :=
  ∃ before line behind, lines = before ++ line :: behind ∧
    (∀ other ∈ before, ∃ word, assembleLine other = .ok word) ∧
    assembleLine line = .error failure.error ∧ failure.lineNumber = first + before.length

/-! ## Lines that can be assembled -/

theorem assembled_nil_iff {words : List Word} : Assembled [] words ↔ words = [] := by
  constructor
  · rintro ⟨_, ⟨⟩, rfl⟩
    rfl
  · rintro rfl
    exact ⟨[], .nil, rfl⟩

theorem reduceOption_cons {α : Type} (entry : Option α) (found : List (Option α)) :
    (entry :: found).reduceOption = entry.toList ++ found.reduceOption := by
  cases entry with
  | none => exact List.reduceOption_cons_of_none found
  | some value => exact List.reduceOption_cons_of_some value found

theorem assembled_cons_iff {line : List Char} {rest : List (List Char)} {words : List Word} :
    Assembled (line :: rest) words ↔
      ∃ word more, assembleLine line = .ok word ∧ Assembled rest more ∧
        word.toList ++ more = words := by
  constructor
  · rintro ⟨_, ⟨⟩ | ⟨assembled, others⟩, rfl⟩
    exact ⟨_, _, assembled, ⟨_, others, rfl⟩, (reduceOption_cons ..).symm⟩
  · rintro ⟨word, _, assembled, ⟨found, others, rfl⟩, rfl⟩
    exact ⟨word :: found, .cons assembled others, reduceOption_cons ..⟩

/-- Lines have words exactly if all of them can be assembled, wherever they stand. -/
theorem assembleLines_eq_ok_iff {number : Nat} {lines : List (List Char)} {words : List Word} :
    assembleLines number lines = .ok words ↔ Assembled lines words := by
  induction lines generalizing number words with
  | nil =>
    rw [assembleLines, Except.ok.injEq, assembled_nil_iff]
    exact eq_comm
  | cons line rest ih =>
    rw [assembled_cons_iff]
    cases assembled : assembleLine line with
    | error error =>
      rw [assembleLines, assembled]
      refine iff_of_false (by rintro ⟨⟩) ?_
      rintro ⟨_, _, ⟨⟩, -⟩
    | ok word =>
      simp only [assembleLines_cons assembled, map_eq_ok_iff, ih, Except.ok.injEq, exists_and_left,
        exists_eq_left']

/-! ## Lines that cannot -/

theorem firstBad_cons_of_error {line : List Char} {error : LineError}
    (refused : assembleLine line = .error error) {first : Nat} {rest : List (List Char)}
    {failure : ParseError} :
    FirstBad first (line :: rest) failure ↔ failure = ⟨first, error⟩ := by
  constructor
  · rintro ⟨before, bad, behind, cut, good, blamed, number⟩
    cases before with
    | nil =>
      obtain ⟨rfl, -⟩ := List.cons.inj cut
      rw [refused] at blamed
      cases failure
      cases blamed
      cases number
      rfl
    | cons other _ =>
      obtain ⟨rfl, -⟩ := List.cons.inj cut
      obtain ⟨_, assembled⟩ := good line List.mem_cons_self
      cases refused.symm.trans assembled
  · rintro rfl
    exact ⟨[], line, rest, rfl, List.forall_mem_nil _, refused, rfl⟩

theorem firstBad_cons_of_ok {line : List Char} {word : Option Word}
    (assembled : assembleLine line = .ok word) {first : Nat} {rest : List (List Char)}
    {failure : ParseError} :
    FirstBad first (line :: rest) failure ↔ FirstBad (first + 1) rest failure := by
  constructor
  · rintro ⟨before, bad, behind, cut, good, blamed, number⟩
    cases before with
    | nil =>
      obtain ⟨rfl, -⟩ := List.cons.inj cut
      cases assembled.symm.trans blamed
    | cons other more =>
      obtain ⟨-, rfl⟩ := List.cons.inj cut
      refine ⟨more, bad, behind, rfl, (List.forall_mem_cons.1 good).2, blamed, ?_⟩
      rw [number, List.length_cons]
      omega
  · rintro ⟨before, bad, behind, rfl, good, blamed, number⟩
    refine ⟨line :: before, bad, behind, rfl, List.forall_mem_cons.2 ⟨⟨word, assembled⟩, good⟩,
      blamed, ?_⟩
    rw [number, List.length_cons]
    omega

theorem assembleLines_eq_error_iff {number : Nat} {lines : List (List Char)}
    {failure : ParseError} :
    assembleLines number lines = .error failure ↔ FirstBad number lines failure := by
  induction lines generalizing number with
  | nil =>
    refine iff_of_false nofun ?_
    rintro ⟨before, _, _, cut, -⟩
    cases before <;> cases cut
  | cons line rest ih =>
    cases assembled : assembleLine line with
    | error error =>
      rw [firstBad_cons_of_error assembled, assembleLines, assembled, Except.error.injEq]
      exact eq_comm
    | ok word =>
      rw [firstBad_cons_of_ok assembled, ← ih, assembleLines_cons assembled, map_eq_error_iff]

/-! ## Texts -/

theorem parse_eq_ok_iff {text : String} {words : List Word} :
    parse text = .ok ⟨words⟩ ↔ Assembled (Text.lines text.toList) words := by
  rw [parse, map_eq_ok_iff, ← @assembleLines_eq_ok_iff 1]
  simp only [mk.injEq, exists_eq_right]

theorem parse_eq_error_iff {text : String} {failure : ParseError} :
    parse text = .error failure ↔ FirstBad 1 (Text.lines text.toList) failure := by
  rw [parse, map_eq_error_iff, assembleLines_eq_error_iff]

/-- A line feed between two texts ends the last line of the first one, or stands for an empty
line. Neither changes the words. -/
theorem Assembled.feed {text : List Char} {lines : List (List Char)}
    (lined : Text.Lined text lines) {words : List Word} (assembled : Assembled lines words)
    {rest : List Char} {more : List Word} (others : Assembled (Text.lines rest) more) :
    Assembled (Text.lines (text ++ '\n' :: rest)) (words ++ more) := by
  induction lined generalizing words with
  | nil =>
    obtain rfl := assembled_nil_iff.1 assembled
    have empty : Text.lines ('\n' :: rest) = [] :: Text.lines rest :=
      Text.lines_feed List.not_mem_nil rest
    rw [List.nil_append, empty]
    exact assembled_cons_iff.2 ⟨none, more, rfl, others, rfl⟩
  | last _ unbroken =>
    obtain ⟨word, _, found, none, rfl⟩ := assembled_cons_iff.1 assembled
    obtain rfl := assembled_nil_iff.1 none
    rw [← assembleLine_withoutReturn] at found
    rw [Text.lines_feed unbroken, List.append_nil]
    exact assembled_cons_iff.2 ⟨word, more, found, others, rfl⟩
  | feed unbroken plain _ ih =>
    obtain ⟨word, _, found, behind, rfl⟩ := assembled_cons_iff.1 assembled
    rw [List.append_assoc, List.cons_append, Text.lines_feed unbroken, Text.withoutReturn,
      if_neg plain, List.append_assoc]
    exact assembled_cons_iff.2 ⟨word, _, found, ih behind, rfl⟩
  | returnFeed unbroken _ ih =>
    obtain ⟨word, _, found, behind, rfl⟩ := assembled_cons_iff.1 assembled
    rw [List.append_assoc, List.cons_append, List.cons_append, Text.lines_returnFeed unbroken,
      List.append_assoc]
    exact assembled_cons_iff.2 ⟨word, _, found, ih behind, rfl⟩

/-- A text is read line by line. -/
structure ReadByLine (text : String) : Prop where
  lined : ∀ pieces, Text.lines text.toList = pieces ↔ Text.Lined text.toList pieces
  ok_iff : ∀ words, parse text = .ok ⟨words⟩ ↔ Assembled (Text.lines text.toList) words
  /-- Lines are counted from 1 on. -/
  error_iff : ∀ failure, parse text = .error failure ↔ FirstBad 1 (Text.lines text.toList) failure
  message : ∀ number error, ParseError.message ⟨number, error⟩ =
    "line " ++ toString number ++ ": " ++ error.message
  /-- With a line feed between them two programs are read one after the other. -/
  joined : ∀ other words more, parse text = .ok ⟨words⟩ → parse other = .ok ⟨more⟩ →
    parse (text ++ "\n" ++ other) = .ok ⟨words ++ more⟩

/-- A text is a program exactly if all its lines can be assembled, and then has the words on them
in order; otherwise the first bad line is blamed, by its number among all lines and with its own
error. -/
theorem parse_blames_first (text : String) : ReadByLine text where
  lined _ := Text.lines_eq_iff
  ok_iff _ := parse_eq_ok_iff
  error_iff _ := parse_eq_error_iff
  message _ _ := rfl
  joined other words more first second := by
    have feed : (text ++ "\n" ++ other).toList = text.toList ++ '\n' :: other.toList := by
      rw [String.toList_append, String.toList_append, List.append_assoc]
      rfl
    rw [parse_eq_ok_iff, feed]
    exact Assembled.feed (Text.lined_lines _) (parse_eq_ok_iff.1 first) (parse_eq_ok_iff.1 second)

/-- The carriage return at the end of the first text becomes part of a line end. -/
theorem parse_blames_first_joined :
    let first := "0x1 # load\n\n start\r"
    let second := "# the end\nFINISH"
    parse first = .ok ⟨[1, 7]⟩ ∧ parse second = .ok ⟨[9]⟩ ∧
      parse (first ++ "\n" ++ second) = .ok ⟨[1, 7, 9]⟩ := by
  intro first second
  have one : parse first = .ok ⟨[1, 7]⟩ := by decide +kernel
  have two : parse second = .ok ⟨[9]⟩ := by decide +kernel
  have joined := (parse_blames_first first).joined second _ _ one two
  exact ⟨one, two, joined⟩

/-- Comments and empty lines count. -/
example : parse "# head\n\n0x12 3\nJUMP" = .error ⟨3, .operandsOnRawWord⟩ := by decide +kernel

end AccessController.Program
