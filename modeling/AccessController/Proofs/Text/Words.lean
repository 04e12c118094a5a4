import AccessController.Assembler

/-!
# Words between blanks

A text is cut into its words when they stand in it in order, with blanks around them and at
least one blank between two of them.  `Separated` says so without saying how the cut is found.
A text has exactly one such cut, the one that `words` finds (`words_eq_iff`).
-/

namespace AccessController.Text

/-- A piece of text that is not empty and has no blank in it. -/
structure Solid (token : List Char) : Prop where
  ne_nil : token ≠ []
  solid : ∀ char ∈ token, isBlank char = false

/-- A text of tokens, in order, with blanks around them and at least one between two. -/
inductive Separated : List Char → List (List Char) → Prop where
  | nil : Separated [] []
  | last {token : List Char} : Solid token → Separated token [token]
  | blank {char : Char} {text : List Char} {tokens : List (List Char)} :
      isBlank char = true → Separated text tokens → Separated (char :: text) tokens
  | token {char : Char} {token text : List Char} {tokens : List (List Char)} :
      Solid token → isBlank char = true → Separated text tokens →
      Separated (token ++ char :: text) (token :: tokens)

/-! ## The words of a text -/

/-- A blank separates the words in front of it from those behind it. -/
theorem words_append_blank {char : Char} (blank : isBlank char = true) (front behind : List Char) :
    words (front ++ char :: behind) = words front ++ words behind := by
  rw [words, List.splitOnP_append_cons front behind blank, List.filter_append]
  rfl

theorem words_blank {char : Char} (blank : isBlank char = true) (text : List Char) :
    words (char :: text) = words text :=
  words_append_blank blank [] text

theorem words_solid {token : List Char} (solid : Solid token) : words token = [token] := by
  rw [words, List.splitOnP_eq_singleton solid.solid, List.filter_cons_of_pos, List.filter_nil]
  rw [Bool.not_eq_true', List.isEmpty_eq_false_iff]
  exact solid.ne_nil

theorem words_blanks_append {blanks : List Char} (blank : ∀ char ∈ blanks, isBlank char = true)
    (text : List Char) : words (blanks ++ text) = words text := by
  induction blanks with
  | nil => rfl
  | cons char rest ih =>
    obtain ⟨first, others⟩ := List.forall_mem_cons.1 blank
    rw [List.cons_append, words_blank first, ih others]

theorem words_append_blanks {blanks : List Char} (blank : ∀ char ∈ blanks, isBlank char = true)
    (text : List Char) : words (text ++ blanks) = words text := by
  cases blanks with
  | nil => rw [List.append_nil]
  | cons char rest =>
    obtain ⟨first, others⟩ := List.forall_mem_cons.1 blank
    have none : words (rest ++ []) = [] := words_blanks_append others []
    rw [words_append_blank first, ← List.append_nil rest, none, List.append_nil]

/-! ## Cuts -/

theorem Separated.words_eq {text : List Char} {tokens : List (List Char)}
    (separated : Separated text tokens) : words text = tokens := by
  induction separated with
  | nil => rfl
  | last solid => exact words_solid solid
  | blank blank _ ih => rw [words_blank blank, ih]
  | token solid blank _ ih => rw [words_append_blank blank, words_solid solid, ih]; rfl

/-- Every text is cut into its words: at its first blank if it has one. -/
theorem separated_words (text : List Char) : Separated text (words text) := by
  cases found : text.find? isBlank with
  | none =>
    have solid : ∀ char ∈ text, isBlank char = false := fun char member =>
      Bool.eq_false_iff.2 (List.find?_eq_none.1 found char member)
    cases text with
    | nil => exact .nil
    | cons char rest =>
      rw [words_solid ⟨List.cons_ne_nil char rest, solid⟩]
      exact .last ⟨List.cons_ne_nil char rest, solid⟩
  | some char =>
    obtain ⟨blank, front, behind, rfl, solid⟩ := List.find?_eq_some_iff_append.1 found
    -- what stands behind the blank is shorter than the text
    have cut := separated_words behind
    rw [words_append_blank blank]
    cases front with
    | nil => exact .blank blank cut
    | cons first rest =>
      have token : Solid (first :: rest) :=
        ⟨List.cons_ne_nil first rest, fun other member => by simpa using solid other member⟩
      rw [words_solid token]
      exact .token token blank cut
termination_by text.length
decreasing_by
  subst_vars
  simp only [List.length_append, List.length_cons]
  omega

theorem words_eq_iff {text : List Char} {tokens : List (List Char)} :
    words text = tokens ↔ Separated text tokens :=
  ⟨fun same => same ▸ separated_words text, Separated.words_eq⟩

theorem Separated.forall_blank {text : List Char} :
    Separated text [] → ∀ char ∈ text, isBlank char = true
  | .nil => List.forall_mem_nil _
  | .blank first separated => List.forall_mem_cons.2 ⟨first, separated.forall_blank⟩

theorem words_eq_nil_iff {text : List Char} :
    words text = [] ↔ ∀ char ∈ text, isBlank char = true := by
  constructor
  · intro none
    exact (words_eq_iff.1 none).forall_blank
  · intro blank
    rw [← List.append_nil text]
    exact words_blanks_append blank []

end AccessController.Text
