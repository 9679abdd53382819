import Mathlib.Data.List.Basic

namespace HighperfServer.Library

/-- A tree of regular files and directories, whose entries have names. -/
inductive FileTree where
  | file (content : List UInt8)
  | directory (entries : List (List Char × FileTree))

namespace FileTree

/-- A walk ends at a missing entry or at a regular file that is used as a directory. -/
inductive WalkError where
  | notFound
  | notADirectory
  deriving DecidableEq, Repr

/-- The entry of a node under a name. -/
def entry (name : List Char) : FileTree → Except WalkError FileTree
  | file _ => .error .notADirectory
  | directory entries => (entries.lookup name).elim (.error .notFound) .ok

/-- A walk follows the names from directory to directory. -/
def walk (tree : FileTree) : List (List Char) → Except WalkError FileTree
  | [] => .ok tree
  | name :: rest =>
      match tree.entry name with
      | .error error => .error error
      | .ok node => node.walk rest

/-- The walk stops at a regular file before its last name. -/
def ThroughFile (tree : FileTree) (names : List (List Char)) : Prop :=
  ∃ front back content, names = front ++ back ∧ back ≠ [] ∧ tree.walk front = .ok (file content)

@[simp] theorem walk_nil (tree : FileTree) : tree.walk [] = .ok tree := rfl

/-- A walk may stop on the way and go on from there. -/
theorem walk_append (tree : FileTree) (first second : List (List Char)) :
    tree.walk (first ++ second) =
      match tree.walk first with
      | .error error => .error error
      | .ok node => node.walk second := by
  induction first generalizing tree with
  | nil => rfl
  | cons name rest ih =>
      rw [List.cons_append, walk, walk]
      cases tree.entry name with
      | error error => rfl
      | ok node => exact ih node

/-- A walk finds no directory exactly when it runs through a regular file. -/
theorem walk_eq_notADirectory_iff (tree : FileTree) (names : List (List Char)) :
    tree.walk names = .error .notADirectory ↔ tree.ThroughFile names := by
  constructor
  · intro failed
    induction names generalizing tree with
    | nil => simp at failed
    | cons name rest ih =>
        cases tree with
        | file content => exact ⟨[], name :: rest, content, rfl, by simp, rfl⟩
        | directory entries =>
            cases found : entries.lookup name with
            | none => simp [walk, entry, found] at failed
            | some node =>
                simp only [walk, entry, found, Option.elim_some] at failed
                obtain ⟨front, back, content, split, filled, walked⟩ := ih node failed
                refine ⟨name :: front, back, content, by simp [split], filled, ?_⟩
                simpa only [walk, entry, found, Option.elim_some] using walked
  · rintro ⟨front, back, content, rfl, filled, walked⟩
    rw [walk_append, walked]
    cases back with
    | nil => exact absurd rfl filled
    | cons name rest => rfl

end FileTree

end HighperfServer.Library
