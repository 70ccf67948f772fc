namespace ContentQuery.Text

-- A taker removes a non-empty piece from the front of a text. The bound in its
-- result is what lets loops over it end.
abbrev Taker (α : Type) :=
  (text : List Char) → Option { taken : α × List Char // taken.2.length < text.length }

variable {α : Type}

def shorter (text : List Char) (read : Option (α × List Char)) :
    Option { taken : α × List Char // taken.2.length < text.length } :=
  read.bind fun taken => if less : taken.2.length < text.length then some ⟨taken, less⟩ else none

def takeSeparated (skip : List Char → List Char) (shrinks : ∀ text, (skip text).length ≤ text.length)
    (mayTrail : Bool) (closing : Char) (item : Taker α) : Taker (List α) := fun text =>
  match item text with
  | none => none
  | some ⟨(first, rest), shorter⟩ =>
    match seen : skip rest with
    | [] => none
    | c :: after =>
      have bound : after.length + 1 ≤ rest.length := by
        have := shrinks rest
        rw [seen] at this
        simpa using this
      if c = closing then some ⟨([first], after), by simp only at shorter ⊢; omega⟩
      else if c = ',' then
        match ended : skip after with
        | [] => none
        | next :: last =>
          have down : last.length + 1 < text.length := by
            have := shrinks after
            rw [ended] at this
            simp only [List.length_cons] at this shorter
            omega
          if mayTrail = true ∧ next = closing then
            some ⟨([first], last), by simp only; omega⟩
          else
            match takeSeparated skip shrinks mayTrail closing item (next :: last) with
            | none => none
            | some ⟨(more, final), later⟩ =>
              some ⟨(first :: more, final), by simp only [List.length_cons] at later ⊢; omega⟩
      else none
termination_by text => text.length

end ContentQuery.Text
