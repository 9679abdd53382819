import Mathlib.Data.List.Basic

namespace HighperfServer.Library

/-- A reader takes a value from the front of a text and leaves the rest. -/
abbrev Reader (A : Type) := List Char → Option (A × List Char)

namespace Reader
variable {A B : Type} {mark : Char}

/-- One reader goes on where another has stopped. -/
def andThen (first : Reader A) (next : A → Reader B) : Reader B := fun text =>
  (first text).bind fun result => next result.1 result.2

/-- A reader leaves an end of what it was given. -/
def Shortens (read : Reader A) : Prop :=
  ∀ text value left, read text = some (value, left) → ∃ consumed, text = consumed ++ left

/-- What stands behind the mark never changes what is read before it. -/
def LocalBefore (mark : Char) (read : Reader A) : Prop :=
  ∀ text rest, read (text ++ mark :: rest) =
    (read text).map fun result => (result.1, result.2 ++ mark :: rest)

/-- A sequence consumes a part of the text when both its readers do. -/
theorem Shortens.andThen {first : Reader A} {next : A → Reader B} (firstShortens : first.Shortens)
    (nextShortens : ∀ value, (next value).Shortens) : (first.andThen next).Shortens := by
  intro text value left read
  obtain ⟨result, opened, continued⟩ := Option.bind_eq_some_iff.mp read
  obtain ⟨before, splitText⟩ := firstShortens text result.1 result.2 opened
  obtain ⟨after, splitRest⟩ := nextShortens result.1 result.2 value left continued
  refine ⟨before ++ after, ?_⟩
  rw [splitText, splitRest, List.append_assoc]

/-- A sequence is local before a mark when both its readers are. -/
theorem LocalBefore.andThen {first : Reader A} {next : A → Reader B}
    (firstLocal : first.LocalBefore mark) (nextLocal : ∀ value, (next value).LocalBefore mark) :
    (first.andThen next).LocalBefore mark := by
  intro text rest
  simp only [Reader.andThen, firstLocal text rest]
  cases first text with
  | none => rfl
  | some result => exact nextLocal result.1 result.2 rest

/-- A computed value takes nothing from the text. -/
theorem shortens_return (value : A) : Shortens (fun text => some (value, text)) := by
  intro text other left read
  exact ⟨[], congrArg Prod.snd (Option.some.inj read)⟩

theorem localBefore_return (value : A) : LocalBefore mark (fun text => some (value, text)) :=
  fun _ _ => rfl

/-- What is left before the mark stays left in front of it. -/
theorem LocalBefore.of_some {read : Reader A} (isLocal : read.LocalBefore mark)
    {text rest : List Char} {value : A} {left : List Char}
    (found : read (text ++ mark :: rest) = some (value, left)) :
    ∃ before, read text = some (value, before) ∧ left = before ++ mark :: rest := by
  rw [isLocal] at found
  obtain ⟨result, inner, same⟩ := Option.map_eq_some_iff.mp found
  obtain ⟨rfl, rfl⟩ := Prod.mk.inj same
  exact ⟨result.2, inner, rfl⟩

end Reader

/-- Texts with one last delimiter agree on both of its sides. -/
theorem append_cons_inj_right {A : Type} {delimiter : A} {first second before after : List A}
    (same : first ++ delimiter :: before = second ++ delimiter :: after)
    (beforeClean : delimiter ∉ before) (afterClean : delimiter ∉ after) :
    first = second ∧ before = after := by
  rcases List.append_eq_append_iff.mp same with ⟨middle, rfl, tail⟩ | ⟨middle, rfl, tail⟩
  · cases middle with
    | nil => exact ⟨(List.append_nil _).symm, (List.cons.inj tail).2⟩
    | cons head rest =>
        obtain ⟨_, rfl⟩ := List.cons.inj tail
        exact absurd (by simp) beforeClean
  · cases middle with
    | nil => exact ⟨List.append_nil _, (List.cons.inj tail).2.symm⟩
    | cons head rest =>
        obtain ⟨_, rfl⟩ := List.cons.inj tail
        exact absurd (by simp) afterClean

end HighperfServer.Library
