import HighperfServer.Library.Text
import Mathlib.Data.List.DropRight

namespace HighperfServer.Library.UnixPath

/-- A component of a Unix path. -/
inductive Component where
  | rootDir
  | curDir
  | parentDir
  | normal (name : List Char)
  deriving DecidableEq, Repr

/-- A part between slashes is dropped when it is a dot and names a parent when it is two dots. -/
def component (part : List Char) : Option Component :=
  if part = ['.'] then none
  else if part = ['.', '.'] then some .parentDir
  else some (.normal part)

/-- A path starts at the root, at the current directory, or with a name. -/
def origin (path : List Char) : List Component :=
  if path.head? = some '/' then [.rootDir]
  else if (pieces '/' path).head? = some ['.'] then [.curDir]
  else []

/-- `Path::components` drops empty parts and every dot but a leading one. -/
def components (path : List Char) : List Component :=
  origin path ++ (pieces '/' path).filterMap component

/-- `PathBuf::push` replaces the path by an absolute one and inserts a missing separator. -/
def push (base path : List Char) : List Char :=
  if path.head? = some '/' then path
  else if base = [] ∨ base.getLast? = some '/' then base ++ path
  else base ++ '/' :: path

/-- `Path::extension` is what follows the last dot of a file name that does not start with it. -/
def extension (path : List Char) : Option (List Char) :=
  match (components path).getLast? with
  | some (.normal name) =>
      if (name.rdropWhile (· ≠ '.')).length ≤ 1 then none else some (name.rtakeWhile (· ≠ '.'))
  | _ => none

/-- A clean name is not empty, not a dot or two dots, and has no slash. -/
def IsName (name : List Char) : Prop :=
  name ≠ [] ∧ name ≠ ['.'] ∧ name ≠ ['.', '.'] ∧ '/' ∉ name

instance (name : List Char) : Decidable (IsName name) :=
  inferInstanceAs (Decidable (name ≠ [] ∧ name ≠ ['.'] ∧ name ≠ ['.', '.'] ∧ '/' ∉ name))

theorem IsName.solid {name : List Char} (clean : IsName name) : name ≠ [] ∧ '/' ∉ name :=
  ⟨clean.1, clean.2.2.2⟩

/-- A name is a normal component. -/
theorem component_of_isName {name : List Char} (clean : IsName name) :
    component name = some (.normal name) := by
  rw [component, if_neg clean.2.1, if_neg clean.2.2.1]

/-- A normal component of a part is the part itself. -/
theorem isName_of_component {part name : List Char} (filled : part ≠ []) (whole : '/' ∉ part)
    (found : component part = some (.normal name)) : IsName name := by
  unfold component at found
  split at found
  · exact absurd found (by simp)
  · rename_i notDot
    split at found
    · exact absurd found (by simp)
    · rename_i notDots
      obtain rfl := Component.normal.inj (Option.some.inj found)
      exact ⟨filled, notDot, notDots, whole⟩

/-- The parts of a pushed relative path follow those of the base. -/
theorem pieces_push {base path : List Char} (relative : path.head? ≠ some '/') :
    pieces '/' (push base path) = pieces '/' base ++ pieces '/' path := by
  rw [push, if_neg relative]
  split
  · rename_i ends
    rcases ends with empty | slash
    · subst empty
      simp
    · obtain ⟨initial, split⟩ := List.getLast?_eq_some_iff.mp slash
      rw [split, List.append_assoc, List.singleton_append, pieces_append_cons, pieces_append_cons]
      simp
  · exact pieces_append_cons '/' base path

/-- A relative path keeps the start of the base. -/
theorem head?_push {base path : List Char} (relative : path.head? ≠ some '/') (filled : base ≠ []) :
    (push base path).head? = base.head? := by
  rw [push, if_neg relative]
  cases base with
  | nil => exact absurd rfl filled
  | cons head base =>
      split
      · rfl
      · rfl

/-- A path with no part but a root has a leading slash. -/
theorem rooted_of_pieces_nil {path : List Char} (filled : path ≠ []) (none : pieces '/' path = []) :
    path.head? = some '/' := by
  cases path with
  | nil => exact absurd rfl filled
  | cons head rest =>
      by_cases slash : head = '/'
      · rw [slash, List.head?_cons]
      · exfalso
        have parts := List.splitOn_cons_eq_if_modifyHead (a := '/') head rest
        rw [if_neg (by simpa using slash)] at parts
        cases tail : rest.splitOn '/' with
        | nil => exact List.splitOn_ne_nil '/' rest tail
        | cons first others =>
            rw [tail, List.modifyHead_cons] at parts
            simp [pieces, parts] at none

/-- Only the empty path has no component. -/
theorem components_eq_nil_iff {path : List Char} : components path = [] ↔ path = [] := by
  constructor
  · intro none
    obtain ⟨noOrigin, noParts⟩ := List.append_eq_nil_iff.mp none
    by_contra filled
    unfold origin at noOrigin
    split at noOrigin
    · simp at noOrigin
    · rename_i relative
      cases parts : pieces '/' path with
      | nil => exact relative (rooted_of_pieces_nil filled parts)
      | cons first rest =>
          by_cases dot : first = ['.']
          · simp [parts, dot] at noOrigin
          · simp only [parts, List.filterMap_eq_nil_iff] at noParts
            have dropped := noParts first List.mem_cons_self
            rw [component, if_neg dot] at dropped
            split at dropped <;> simp at dropped
  · rintro rfl
    simp [components, origin]

/-- A pushed path is empty only when both its parts are. -/
theorem push_eq_nil_iff {base path : List Char} : push base path = [] ↔ base = [] ∧ path = [] := by
  unfold push
  split
  · rename_i rooted
    cases path <;> simp at rooted ⊢
  · split <;> simp_all

/-- The components of a pushed path follow those of the base. -/
theorem components_push {base path : List Char} (relative : path.head? ≠ some '/')
    (noDot : (pieces '/' path).head? ≠ some ['.']) :
    components (push base path) = components base ++ components path := by
  have plain : origin path = [] := by rw [origin, if_neg relative, if_neg noDot]
  by_cases empty : base = []
  · subst empty
    have start : push [] path = path := by simp [push, relative]
    rw [start]
    simp [components, origin]
  · have sameOrigin : origin (push base path) = origin base := by
      unfold origin
      rw [head?_push relative empty, pieces_push relative]
      by_cases rooted : base.head? = some '/'
      · rw [if_pos rooted, if_pos rooted]
      · rw [if_neg rooted, if_neg rooted]
        cases parts : pieces '/' base with
        | nil => exact absurd (rooted_of_pieces_nil empty parts) rooted
        | cons first rest => rfl
    rw [components, components, components, sameOrigin, pieces_push relative, plain,
      List.filterMap_append, List.nil_append, List.append_assoc]

/-- The components of a clean name are the name. -/
theorem components_of_isName {name : List Char} (clean : IsName name) :
    components name = [.normal name] ∧ name.head? ≠ some '/' ∧
      (pieces '/' name).head? ≠ some ['.'] := by
  have parts : pieces '/' name = [name] := by
    rw [pieces, List.splitOn_eq_singleton clean.2.2.2]
    simp [clean.1]
  have relative : name.head? ≠ some '/' := by
    intro slash
    exact clean.2.2.2 (List.mem_of_mem_head? slash)
  have notDot : (pieces '/' name).head? ≠ some ['.'] := by
    rw [parts, List.head?_cons]
    intro same
    exact clean.2.1 (Option.some.inj same)
  refine ⟨?_, relative, notDot⟩
  rw [components, origin, if_neg relative, if_neg notDot, parts, List.nil_append,
    List.filterMap_cons, component_of_isName clean]
  rfl

/-- Joined non-empty segments do not start with the separator. -/
theorem relative_intercalate {rest : List (List Char)}
    (clean : ∀ part ∈ rest, part ≠ [] ∧ '/' ∉ part) :
    (['/'].intercalate rest).head? ≠ some '/' := by
  cases rest with
  | nil => simp
  | cons first others =>
      obtain ⟨filled, whole⟩ := clean first List.mem_cons_self
      cases first with
      | nil => exact absurd rfl filled
      | cons head tail =>
          have start : (['/'].intercalate ((head :: tail) :: others)).head? = some head := by
            cases others <;> simp
          rw [start]
          intro same
          exact whole (by rw [Option.some.inj same]; exact List.mem_cons_self)

/-- A name is pushed behind a slash. -/
theorem push_name {base name : List Char} (filled : base ≠ []) (opened : base.getLast? ≠ some '/')
    (clean : IsName name) : push base name = base ++ '/' :: name := by
  have relative := (components_of_isName clean).2.1
  rw [push, if_neg relative, if_neg (not_or.mpr ⟨filled, opened⟩)]

/-- Names pushed one after the other are joined by slashes. -/
theorem foldl_push {first : List Char} (filled : first ≠ []) (opened : first.getLast? ≠ some '/')
    {names : List (List Char)} (clean : ∀ name ∈ names, IsName name) :
    names.foldl push first = ['/'].intercalate (first :: names) := by
  induction names generalizing first with
  | nil => simp
  | cons name names ih =>
      have nameClean := clean name List.mem_cons_self
      have nameOpened : (first ++ '/' :: name).getLast? ≠ some '/' := by
        intro ends
        rw [List.getLast?_append_of_ne_nil _ (List.cons_ne_nil _ _),
          List.getLast?_cons_of_ne_nil nameClean.1] at ends
        exact nameClean.solid.2 (List.mem_of_getLast? ends)
      rw [List.foldl_cons, push_name filled opened nameClean, ih (by simp) nameOpened
        fun other member => clean other (List.mem_cons_of_mem _ member)]
      cases names <;> simp

/-- The components of joined clean names are the names. -/
theorem components_names {names : List (List Char)} (clean : ∀ name ∈ names, IsName name) :
    components (['/'].intercalate names) = names.map .normal := by
  have parts (name : List Char) (member : name ∈ names) := (clean name member).solid
  have notDot : names.head? ≠ some ['.'] := fun dot =>
    (clean ['.'] (List.mem_of_mem_head? dot)).2.1 rfl
  rw [components, origin, pieces_intercalate parts, if_neg (relative_intercalate parts),
    if_neg notDot, List.nil_append, ← List.filterMap_eq_map]
  exact List.filterMap_congr fun name member => component_of_isName (clean name member)

/-- Different relative paths lead to different places below one base. -/
theorem push_injective {base first second : List Char} (relative : first.head? ≠ some '/')
    (other : second.head? ≠ some '/')
    (same : push base first = push base second) : first = second := by
  rw [push, push, if_neg relative, if_neg other] at same
  split at same
  · exact List.append_cancel_left same
  · exact (List.cons.inj (List.append_cancel_left same)).2

end HighperfServer.Library.UnixPath
