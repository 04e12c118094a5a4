import AccessController.Assembler

/-!
# Lines between line feeds

The lines of a text, one after the other: a line feed ends the first one, and what follows has
its lines by itself.  `Lined` says so without saying how the lines are found.  A text has exactly
one such cut, the one that `lines` finds (`lines_eq_iff`).
-/

namespace AccessController.Text

/-- A text and its lines.  Either kind of line end ends a line, and a last line that is not empty
may stand without an end. -/
inductive Lined : List Char → List (List Char) → Prop where
  | nil : Lined [] []
  | last {line : List Char} : line ≠ [] → '\n' ∉ line → Lined line [line]
  | feed {line rest : List Char} {lines : List (List Char)} :
      '\n' ∉ line → line.getLast? ≠ some '\r' → Lined rest lines →
      Lined (line ++ '\n' :: rest) (line :: lines)
  | returnFeed {line rest : List Char} {lines : List (List Char)} :
      '\n' ∉ line → Lined rest lines → Lined (line ++ '\r' :: '\n' :: rest) (line :: lines)

/-! ## The first line -/

theorem lines_of_notMem {line : List Char} (unbroken : '\n' ∉ line) (present : line ≠ []) :
    lines line = [line] := by
  rw [lines, List.splitOn_eq_singleton unbroken]
  cases line with
  | nil => exact absurd rfl present
  | cons => rfl

theorem lines_feed {line : List Char} (unbroken : '\n' ∉ line) (rest : List Char) :
    lines (line ++ '\n' :: rest) = withoutReturn line :: lines rest := by
  have pieces := List.splitOn_append_cons_self_of_not_mem unbroken rest
  have more : rest.splitOn '\n' ≠ [] := List.splitOn_ne_nil '\n' rest
  have last : (line :: rest.splitOn '\n').getLast? = (rest.splitOn '\n').getLast? := by
    rw [List.getLast?_cons, List.getLast?_eq_some_getLast more]
    rfl
  rw [lines, lines]
  simp only [pieces, List.dropLast_cons_of_ne_nil more, last, List.map_cons]
  split <;> rfl

theorem withoutReturn_concat_return (line : List Char) :
    withoutReturn (line ++ ['\r']) = line := by
  rw [withoutReturn, if_pos (List.getLast?_concat ..), List.dropLast_concat]

theorem withoutReturn_cases (line : List Char) :
    withoutReturn line = line ∨ line = withoutReturn line ++ ['\r'] := by
  rw [withoutReturn]
  split
  next ended =>
    obtain ⟨front, rfl⟩ := List.getLast?_eq_some_iff.1 ended
    rw [List.dropLast_concat]
    exact .inr rfl
  next => exact .inl rfl

/-- A carriage return in front of the line feed belongs to the line end. -/
theorem lines_returnFeed {line : List Char} (unbroken : '\n' ∉ line) (rest : List Char) :
    lines (line ++ '\r' :: '\n' :: rest) = line :: lines rest := by
  have returned : '\n' ∉ line ++ ['\r'] := by
    rw [List.mem_append, not_or]
    exact ⟨unbroken, by decide⟩
  have ended := lines_feed returned rest
  rwa [withoutReturn_concat_return, List.append_assoc] at ended

/-! ## Cuts -/

theorem Lined.lines_eq {text : List Char} {pieces : List (List Char)}
    (lined : Lined text pieces) : lines text = pieces := by
  induction lined with
  | nil => rfl
  | last present unbroken => exact lines_of_notMem unbroken present
  | feed unbroken plain _ ih => rw [lines_feed unbroken, withoutReturn, if_neg plain, ih]
  | returnFeed unbroken _ ih => rw [lines_returnFeed unbroken, ih]

/-- Every text is cut into its lines: at its first line feed if it has one. -/
theorem lined_lines (text : List Char) : Lined text (lines text) := by
  by_cases broken : '\n' ∈ text
  · obtain ⟨line, rest, rfl, unbroken⟩ := List.eq_append_cons_of_mem broken
    -- what stands behind the line feed is shorter than the text
    have behind := lined_lines rest
    by_cases returned : line.getLast? = some '\r'
    · obtain ⟨front, rfl⟩ := List.getLast?_eq_some_iff.1 returned
      have unreturned : '\n' ∉ front := fun member => unbroken (List.mem_append_left _ member)
      rw [List.append_assoc, List.singleton_append, lines_returnFeed unreturned]
      exact .returnFeed unreturned behind
    · rw [lines_feed unbroken, withoutReturn, if_neg returned]
      exact .feed unbroken returned behind
  · cases text with
    | nil => exact .nil
    | cons char rest =>
      rw [lines_of_notMem broken (List.cons_ne_nil char rest)]
      exact .last (List.cons_ne_nil char rest) broken
termination_by text.length
decreasing_by
  subst_vars
  simp only [List.length_append, List.length_cons]
  omega

theorem lines_eq_iff {text : List Char} {pieces : List (List Char)} :
    lines text = pieces ↔ Lined text pieces :=
  ⟨fun same => same ▸ lined_lines text, Lined.lines_eq⟩

end AccessController.Text
