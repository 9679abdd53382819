import HighperfServer.Proof.Http.Dispatch

namespace HighperfServer
open Library

/-- The name under which a segment captures. -/
def captureName : PathSegment → Option Str
  | .literal _ => none
  | .param name | .wildcard name => some name

/-- The capture names of a pattern from left to right. -/
def captureNames (pattern : List PathSegment) : List Str := pattern.filterMap captureName

/-- The path segments that the captured values give for one segment of the pattern. -/
def substituteSegment (params : PathParams) : PathSegment → List Str
  | .literal text => [text]
  | .param name => (params name).toList
  | .wildcard name => (params name).elim [] (List.splitOn '/')

/-- Substitution puts the captured values back into the pattern. -/
def substitute (params : PathParams) (pattern : List PathSegment) : List Str :=
  pattern.flatMap (substituteSegment params)

/-- The parameters hold a value for a name exactly when it was captured. -/
def PathParams.Agrees (params : PathParams) (captures : List (Str × Str)) : Prop :=
  ∀ name value, params name = some value ↔ (name, value) ∈ captures

theorem insertAll_cons (params : PathParams) (capture : Str × Str) (captures : List (Str × Str)) :
    params.insertAll (capture :: captures) = (params.insert capture.1 capture.2).insertAll captures :=
  rfl

/-- Distinct names keep all their captures. -/
theorem insertAll_eq_some_iff {captures : List (Str × Str)}
    (distinct : (captures.map Prod.fst).Nodup) (params : PathParams) (name value : Str) :
    params.insertAll captures name = some value ↔
      (name, value) ∈ captures ∨ name ∉ captures.map Prod.fst ∧ params name = some value := by
  induction captures generalizing params with
  | nil => simp [PathParams.insertAll]
  | cons capture captures ih =>
      obtain ⟨fresh, distinct⟩ := List.nodup_cons.mp distinct
      rw [insertAll_cons, ih distinct]
      by_cases same : name = capture.1
      · subst same
        have absent (value : Str) : (capture.1, value) ∉ captures := fun member =>
          fresh (List.mem_map.mpr ⟨_, member, rfl⟩)
        simp [PathParams.insert, fresh, absent, Prod.ext_iff, eq_comm]
      · simp [PathParams.insert, same, Prod.ext_iff]

/-- Captures with distinct names agree with the parameters made of them. -/
theorem ofCaptures_agrees {captures : List (Str × Str)} (distinct : (captures.map Prod.fst).Nodup) :
    (PathParams.ofCaptures captures).Agrees captures := by
  intro name value
  rw [PathParams.ofCaptures, insertAll_eq_some_iff distinct]
  simp

section Matches
variable {pattern : List PathSegment} {segments : List Str} {captures : List (Str × Str)}

/-- A match captures in the order of the pattern, and drops only the name of an empty wildcard. -/
theorem Matches.names_sublist (matched : Matches pattern segments captures) :
    (captures.map Prod.fst).Sublist (captureNames pattern) := by
  induction matched with
  | nil => exact .slnil
  | literal text rest ih => exact ih
  | param name value rest ih => exact ih.cons_cons name
  | wildcardEmpty name => exact List.nil_sublist _
  | wildcard name nonempty => exact .refl _

/-- The captured values give back the segments of the path. -/
theorem Matches.substitute_eq {params : PathParams} (matched : Matches pattern segments captures)
    (distinct : (captureNames pattern).Nodup) (clean : ∀ segment ∈ segments, '/' ∉ segment)
    (agrees : ∀ name ∈ captureNames pattern, ∀ value,
      params name = some value ↔ (name, value) ∈ captures) :
    substitute params pattern = segments := by
  induction matched with
  | nil => rfl
  | literal text rest ih =>
      have tail := ih distinct (fun segment member => clean segment (List.mem_cons_of_mem _ member))
        agrees
      exact congrArg (text :: ·) tail
  | param name value rest ih =>
      obtain ⟨fresh, distinctRest⟩ := List.nodup_cons.mp distinct
      have stored : params name = some value :=
        (agrees name List.mem_cons_self value).mpr List.mem_cons_self
      have tail := ih distinctRest (fun segment member => clean segment (List.mem_cons_of_mem _ member))
        (fun other member found => by
          have different : other ≠ name := fun same => fresh (same ▸ member)
          rw [agrees other (List.mem_cons_of_mem _ member) found]
          simp [different])
      rw [substitute, List.flatMap_cons, ← substitute, tail, substituteSegment, stored]
      rfl
  | wildcardEmpty name =>
      have missing : params name = none := Option.eq_none_iff_forall_ne_some.mpr fun value found =>
        absurd ((agrees name List.mem_cons_self value).mp found) List.not_mem_nil
      simp [substitute, substituteSegment, missing]
  | wildcard name nonempty =>
      have stored := (agrees name List.mem_cons_self _).mpr List.mem_cons_self
      rw [substitute, List.flatMap_singleton, substituteSegment, stored, Option.elim_some]
      exact List.splitOn_intercalate '/' clean nonempty

end Matches

/-- An assignment gives every parameter of the pattern one segment and the wildcard a list. -/
structure Assignment (pattern : List PathSegment) where
  values : Str → Str
  tail : List Str
  values_clean : ∀ name, .param name ∈ pattern → values name ≠ [] ∧ '/' ∉ values name
  tail_clean : ∀ segment ∈ tail, segment ≠ [] ∧ '/' ∉ segment

namespace Assignment

section Fill
variable {pattern : List PathSegment} (assignment : Assignment pattern)

/-- The text that takes the place of one segment of the pattern. -/
def fillSegment : PathSegment → Str
  | .literal text => text
  | .param name => assignment.values name
  | .wildcard _ => ['/'].intercalate assignment.tail

/-- The path segments that take the place of one segment of the pattern. -/
def expandSegment : PathSegment → List Str
  | .literal text => [text]
  | .param name => [assignment.values name]
  | .wildcard _ => assignment.tail

/-- The captures that the assignment asks of one segment of the pattern. -/
def captureSegment : PathSegment → List (Str × Str)
  | .literal _ => []
  | .param name => [(name, assignment.values name)]
  | .wildcard name =>
      if assignment.tail = [] then [] else [(name, ['/'].intercalate assignment.tail)]

/-- The assignment as the parameters of a request, without a wildcard of an empty list. -/
def params : PathParams := fun key =>
  if .param key ∈ pattern then some (assignment.values key)
  else if .wildcard key ∈ pattern ∧ assignment.tail ≠ [] then
    some (['/'].intercalate assignment.tail)
  else none

/-- The expanded pattern matches with the captures of the assignment. -/
theorem matches_expand {parts : List PathSegment} (last : WildcardLast parts) :
    Matches parts (parts.flatMap assignment.expandSegment)
      (parts.flatMap assignment.captureSegment) := by
  induction parts with
  | nil => exact .nil
  | cons part parts ih =>
      cases part with
      | literal text => exact .literal text (ih last.tail)
      | param name => exact .param name _ (ih last.tail)
      | wildcard name =>
          obtain rfl := last.of_wildcard
          rw [List.flatMap_singleton, List.flatMap_singleton]
          exact matches_wildcard_iff.mpr rfl

/-- Parameters that agree with the captures are those of the assignment. -/
theorem params_eq_of_agrees {params : PathParams}
    (agrees : params.Agrees (pattern.flatMap assignment.captureSegment)) :
    params = assignment.params := by
  funext key
  unfold Assignment.params
  split
  · rename_i named
    exact (agrees key _).mpr (List.mem_flatMap.mpr ⟨_, named, List.mem_cons_self⟩)
  · rename_i unnamed
    split
    · rename_i wild
      refine (agrees key _).mpr (List.mem_flatMap.mpr ⟨_, wild.1, ?_⟩)
      rw [captureSegment, if_neg wild.2]
      exact List.mem_cons_self
    · rename_i plain
      refine Option.eq_none_iff_forall_ne_some.mpr fun value found => ?_
      obtain ⟨part, member, captured⟩ := List.mem_flatMap.mp ((agrees key value).mp found)
      cases part with
      | literal text => exact List.not_mem_nil captured
      | param name =>
          obtain ⟨rfl, _⟩ := Prod.mk.inj (List.mem_singleton.mp captured)
          exact unnamed member
      | wildcard name =>
          rw [captureSegment] at captured
          split at captured
          · exact List.not_mem_nil captured
          · rename_i nonempty
            obtain ⟨rfl, _⟩ := Prod.mk.inj (List.mem_singleton.mp captured)
            exact plain ⟨member, nonempty⟩

end Fill

/-- The text between two slashes keeps its characters as a literal and loses its mark otherwise. -/
theorem pieces_fillSegment {pattern : List PathSegment} (assignment : Assignment pattern)
    {segment : Str} (filled : segment ≠ []) (clean : '/' ∉ segment)
    (member : parseSegment segment ∈ pattern) :
    pieces '/' (assignment.fillSegment (parseSegment segment)) =
      assignment.expandSegment (parseSegment segment) := by
  cases parsed : parseSegment segment with
  | literal text =>
      obtain rfl : text = segment := by
        unfold parseSegment at parsed
        split at parsed <;> simp_all
      exact pieces_of_not_mem clean filled
  | param name =>
      obtain ⟨nonempty, slashless⟩ := assignment.values_clean name (parsed ▸ member)
      exact pieces_of_not_mem slashless nonempty
  | wildcard name => exact pieces_intercalate assignment.tail_clean

/-- The filled pattern puts the values in the place of the marked segments of the pattern text. -/
def fill {pattern : Str} (assignment : Assignment (parsePattern pattern)) : Str :=
  ['/'].intercalate ((pattern.splitOn '/').map fun segment =>
    assignment.fillSegment (parseSegment segment))

/-- The segments of the filled pattern are the expanded segments of the pattern. -/
theorem pieces_fill {pattern : Str} (assignment : Assignment (parsePattern pattern)) :
    pieces '/' assignment.fill = (parsePattern pattern).flatMap assignment.expandSegment := by
  have general (parts : List Str) (within : ∀ part ∈ parts, part ∈ pattern.splitOn '/') :
      (parts.map fun segment => assignment.fillSegment (parseSegment segment)).flatMap (pieces '/') =
        ((parts.filter (· ≠ [])).map parseSegment).flatMap assignment.expandSegment := by
    induction parts with
    | nil => rfl
    | cons part parts ih =>
        have tail := ih fun other member => within other (List.mem_cons_of_mem _ member)
        have listed := within part List.mem_cons_self
        rw [List.map_cons, List.flatMap_cons, tail]
        by_cases empty : part = []
        · subst empty
          simp [parseSegment, fillSegment]
        · have kept : parseSegment part ∈ parsePattern pattern :=
            List.mem_map_of_mem (List.mem_filter.mpr ⟨listed, by simpa using empty⟩)
          rw [List.filter_cons_of_pos (by simpa using empty), List.map_cons, List.flatMap_cons,
            pieces_fillSegment assignment empty (not_mem_of_mem_splitOn listed) kept]
  rw [fill, pieces_intercalate_eq_flatMap]
  exact general _ fun part member => member

end Assignment

/-- Matching a pattern and filling it are inverse to each other. -/
theorem matchPath_inverse_fill (pattern : Str) (last : WildcardLast (parsePattern pattern))
    (distinct : (captureNames (parsePattern pattern)).Nodup) :
    (∀ path params, matchPath (parsePattern pattern) path = some params →
      substitute params (parsePattern pattern) = pieces '/' path ∧
        ∀ name value, params name = some value → name ∈ captureNames (parsePattern pattern)) ∧
    ∀ assignment : Assignment (parsePattern pattern),
      matchPath (parsePattern pattern) assignment.fill = some assignment.params := by
  constructor
  · intro path params found
    obtain ⟨captures, matched, rfl⟩ := (matchPath_eq_some_iff last).mp found
    have names := matched.names_sublist
    have agrees := ofCaptures_agrees (distinct.sublist names)
    refine ⟨matched.substitute_eq distinct (fun segment member => (mem_pieces member).2)
      (fun name _ => agrees name), fun name value stored => ?_⟩
    exact names.subset (List.mem_map.mpr ⟨_, (agrees name value).mp stored, rfl⟩)
  · intro assignment
    have matched := assignment.matches_expand last
    have agrees := ofCaptures_agrees (distinct.sublist matched.names_sublist)
    rw [← assignment.pieces_fill] at matched
    exact (matchPath_eq_some_iff last).mpr
      ⟨_, matched, (assignment.params_eq_of_agrees agrees).symm⟩

/-- A file path of a user matches with repeated slashes and comes back without them. -/
theorem matchPath_inverse_fill_files :
    let pattern := parsePattern "/users/:id/files/*rest".toList
    ∃ params, matchPath pattern "/users//7/files/a//b/".toList = some params ∧
      substitute params pattern = ["users".toList, "7".toList, "files".toList, "a".toList, "b".toList] := by
  have matched : (matchPath (parsePattern "/users/:id/files/*rest".toList)
      "/users//7/files/a//b/".toList).isSome = true := by decide
  obtain ⟨params, found⟩ := Option.isSome_iff_exists.mp matched
  refine ⟨params, found, ?_⟩
  have inverse := matchPath_inverse_fill "/users/:id/files/*rest".toList (by decide) (by decide)
  rw [(inverse.1 _ _ found).1]
  decide

end HighperfServer
