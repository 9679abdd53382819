import HighperfServer.Library.Template

namespace HighperfServer.Library

section Join
variable {E A : Type}

/-- A list of parts joins exactly when its first part and the rest do. -/
theorem joinParts_eq_ok_iff {part : Except E (List A)} {rest : List (Except E (List A))}
    {joined : List A} : joinParts (part :: rest) = .ok joined ↔
      ∃ first second, part = .ok first ∧ joinParts rest = .ok second ∧ joined = first ++ second := by
  rw [joinParts, bind_eq_ok_iff]
  constructor
  · rintro ⟨first, found, tail⟩
    obtain ⟨second, others, same⟩ := bind_eq_ok_iff.mp tail
    exact ⟨first, second, found, others, (Except.ok.inj same).symm⟩
  · rintro ⟨first, second, found, others, rfl⟩
    exact ⟨first, found, bind_eq_ok_iff.mpr ⟨second, others, rfl⟩⟩

end Join

namespace Template
variable {V : Type} {values : Values V}

/-- A sequence prints what its two parts print. -/
theorem pieces_seq_eq_ok_iff {first second : Template} {scope : Scope V} {printed : List Piece} :
    (seq first second).pieces values scope = .ok printed ↔
      ∃ before after, first.pieces values scope = .ok before ∧
        second.pieces values scope = .ok after ∧ printed = before ++ after := by
  rw [pieces, bind_eq_ok_iff]
  constructor
  · rintro ⟨before, found, tail⟩
    obtain ⟨after, others, same⟩ := bind_eq_ok_iff.mp tail
    exact ⟨before, after, found, others, (Except.ok.inj same).symm⟩
  · rintro ⟨before, after, found, others, rfl⟩
    exact ⟨before, found, bind_eq_ok_iff.mpr ⟨after, others, rfl⟩⟩

/-- A variable prints its value or its default. -/
theorem pieces_output_eq_ok_iff {path : VariablePath} {default : Option (List Char)}
    {scope : Scope V} {printed : List Piece} :
    (output path default).pieces values scope = .ok printed ↔
      (∃ value, resolve values scope path = some value ∧ printed = [display values value]) ∨
      (resolve values scope path = none ∧ ∃ content, default = some content ∧
        printed = [.string content]) := by
  cases resolved : resolve values scope path with
  | some value => simp [pieces, resolved, eq_comm]
  | none =>
      cases default with
      | some content => simp [pieces, resolved, eq_comm]
      | none => simp [pieces, resolved]

/-- A loop prints its body once for each element. -/
theorem pieces_each_eq_ok_iff {name : List Char} {path : VariablePath} {body : Template}
    {scope : Scope V} {printed : List Piece} :
    (each name path body).pieces values scope = .ok printed ↔
      ∃ elements, (resolve values scope path).bind values.elements = some elements ∧
        joinParts (elements.map fun value => body.pieces values (bindName scope name value)) =
          .ok printed := by
  rw [pieces]
  cases (resolve values scope path).bind values.elements with
  | none => simp
  | some elements => simp

section Rules
variable {E : Type} {print : Template → Scope V → Except E (List Char)}

/-- The conditions and the variables with a default are bare names. -/
def bare : Template → Bool
  | .empty | .text _ => true
  | .seq first second => first.bare && second.bare
  | .output path default => default.isNone || path.fields.isEmpty
  | .choose path yes no => path.fields.isEmpty && yes.bare && no.bare
  | .each _ _ body | .block _ body => body.bare

theorem writeAll_append (first second : List Piece) :
    writeAll (first ++ second) = writeAll first ++ writeAll second := List.flatMap_append

/-- The parts of a loop are written one after the other. -/
theorem pages_of_joinParts (page : V → List Char → Prop) {body : V → Except RenderError (List Piece)}
    (each : ∀ value printed, body value = .ok printed → page value (writeAll printed))
    {elements : List V} {printed : List Piece} (joined : joinParts (elements.map body) = .ok printed) :
    ∃ pages, List.Forall₂ page elements pages ∧ writeAll printed = pages.flatten := by
  induction elements generalizing printed with
  | nil =>
      obtain rfl := Except.ok.inj joined
      exact ⟨[], .nil, rfl⟩
  | cons value rest ih =>
      obtain ⟨first, second, found, others, rfl⟩ := joinParts_eq_ok_iff.mp joined
      obtain ⟨pages, related, same⟩ := ih others
      refine ⟨writeAll first :: pages, .cons (each value first found) related, ?_⟩
      rw [writeAll_append, same, List.flatten_cons]

/-- An undefined bare name is not in the scope. -/
theorem scope_of_unresolved {scope : Scope V} {path : VariablePath}
    (alone : path.fields.isEmpty = true) (resolved : resolve values scope path = none) :
    path = ⟨path.head, []⟩ ∧ scope path.head = none := by
  obtain ⟨head, fields⟩ := path
  obtain rfl : fields = [] := List.isEmpty_iff.mp alone
  exact ⟨rfl, resolved⟩

/-- An engine that follows the rules prints a variable as its pieces. -/
theorem Follows.output (follows : Follows values print) {path : VariablePath}
    {default : Option (List Char)} (checked : (output path default).bare = true) {scope : Scope V}
    {printed : List Piece} (rendered : (Template.output path default).pieces values scope = .ok printed) :
    print (.output path default) scope = .ok (writeAll printed) := by
  rcases pieces_output_eq_ok_iff.mp rendered with ⟨value, resolved, rfl⟩ | ⟨resolved, content, rfl, rfl⟩
  · unfold display
    cases shown : values.string value with
    | some content =>
        have printed := follows.string path default scope value content resolved shown
        simpa [writeAll, Piece.write] using printed
    | none =>
        have printed := follows.plain path default scope value resolved shown
        simpa [writeAll, Piece.write] using printed
  · obtain ⟨same, undefined⟩ := scope_of_unresolved (by simpa [bare] using checked) resolved
    have printed := follows.default path.head content scope undefined
    rw [← same] at printed
    simpa [writeAll, Piece.write] using printed

/-- An engine that follows the rules decides a branch by its variable. -/
theorem Follows.choose (follows : Follows values print) {path : VariablePath}
    (alone : path.fields.isEmpty = true) (yes no : Template) (scope : Scope V) :
    print (.choose path yes no) scope =
      if (resolve values scope path).any values.truthy then print yes scope else print no scope := by
  cases resolved : resolve values scope path with
  | some value =>
      cases truth : values.truthy value with
      | true => simpa [truth] using follows.yes path yes no scope value resolved truth
      | false => simpa [truth] using follows.no path yes no scope value resolved truth
  | none =>
      obtain ⟨same, undefined⟩ := scope_of_unresolved alone resolved
      rw [same]
      exact follows.undefined path.head yes no scope undefined

/-- An engine that follows the rules prints what the template says. -/
theorem Follows.print_of_pieces (follows : Follows values print) {template : Template}
    (checked : template.bare = true) {scope : Scope V} {printed : List Piece}
    (rendered : template.pieces values scope = .ok printed) :
    print template scope = .ok (writeAll printed) := by
  induction template generalizing scope printed with
  | empty =>
      obtain rfl := Except.ok.inj rendered
      exact follows.empty scope
  | text content =>
      obtain rfl := Except.ok.inj rendered
      simpa [writeAll, Piece.write] using follows.text content scope
  | seq first second ihFirst ihSecond =>
      obtain ⟨left, right⟩ := Bool.and_eq_true_iff.mp checked
      obtain ⟨before, after, found, others, rfl⟩ := pieces_seq_eq_ok_iff.mp rendered
      rw [writeAll_append]
      exact follows.seq first second scope _ _ (ihFirst left found) (ihSecond right others)
  | output path default => exact follows.output checked rendered
  | choose path yes no ihYes ihNo =>
      obtain ⟨both, right⟩ := Bool.and_eq_true_iff.mp checked
      obtain ⟨alone, left⟩ := Bool.and_eq_true_iff.mp both
      rw [follows.choose alone]
      rw [pieces] at rendered
      split at rendered
      · rename_i truth
        rw [if_pos truth]
        exact ihYes left rendered
      · rename_i falsity
        rw [if_neg falsity]
        exact ihNo right rendered
  | each name path body ih =>
      obtain ⟨elements, listed, joined⟩ := pieces_each_eq_ok_iff.mp rendered
      obtain ⟨pages, related, same⟩ := pages_of_joinParts
        (fun value page => print body (bindName scope name value) = .ok page)
        (fun _ _ found => ih checked found) joined
      rw [same]
      exact follows.each name path body scope elements pages listed related
  | block name body ih =>
      rw [follows.block]
      exact ih checked rendered

/-- The page of a template, with the reported error of its meaning. -/
def printed (values : Values V) (report : RenderError → E) (template : Template) (scope : Scope V) :
    Except E (List Char) :=
  match template.pieces values scope with
  | .ok pieces => .ok (writeAll pieces)
  | .error error => .error (report error)

/-- A printed page is the writing of its pieces. -/
theorem printed_eq_ok_iff {report : RenderError → E} {template : Template} {scope : Scope V}
    {page : List Char} : template.printed values report scope = .ok page ↔
      ∃ pieces, template.pieces values scope = .ok pieces ∧ page = writeAll pieces := by
  unfold printed
  cases template.pieces values scope with
  | ok pieces => simp [eq_comm]
  | error error => simp

/-- Pages that are written one after the other come from parts that are joined. -/
theorem joinParts_of_pages {body : V → Except RenderError (List Piece)} {elements : List V}
    {pages : List (List Char)}
    (related : List.Forall₂ (fun value page => ∃ pieces, body value = .ok pieces ∧
      page = writeAll pieces) elements pages) :
    ∃ pieces, joinParts (elements.map body) = .ok pieces ∧ pages.flatten = writeAll pieces := by
  induction related with
  | nil => exact ⟨[], rfl, rfl⟩
  | cons here _ ih =>
      obtain ⟨first, found, rfl⟩ := here
      obtain ⟨second, joined, same⟩ := ih
      refine ⟨first ++ second, joinParts_eq_ok_iff.mpr ⟨first, second, found, joined, rfl⟩, ?_⟩
      rw [List.flatten_cons, same, writeAll_append]

/-- The meaning of the templates follows the rules. -/
theorem follows_printed (values : Values V) (report : RenderError → E) :
    Follows values (printed values report) where
  empty := fun _ => rfl
  text := fun content _ => congrArg Except.ok (List.append_nil content)
  seq := by
    intro first second scope before after left right
    obtain ⟨one, found, rfl⟩ := printed_eq_ok_iff.mp left
    obtain ⟨two, others, rfl⟩ := printed_eq_ok_iff.mp right
    refine printed_eq_ok_iff.mpr ⟨one ++ two, pieces_seq_eq_ok_iff.mpr ⟨_, _, found, others, rfl⟩, ?_⟩
    rw [writeAll_append]
  string := by
    intro path default scope value content resolved shown
    refine printed_eq_ok_iff.mpr ⟨_, pieces_output_eq_ok_iff.mpr (.inl ⟨value, resolved, rfl⟩), ?_⟩
    simp [display, shown, writeAll, Piece.write]
  plain := by
    intro path default scope value resolved shown
    refine printed_eq_ok_iff.mpr ⟨_, pieces_output_eq_ok_iff.mpr (.inl ⟨value, resolved, rfl⟩), ?_⟩
    simp [display, shown, writeAll, Piece.write]
  default := by
    intro name content scope undefined
    refine printed_eq_ok_iff.mpr ⟨_, pieces_output_eq_ok_iff.mpr (.inr ⟨undefined, content, rfl, rfl⟩), ?_⟩
    simp [writeAll, Piece.write]
  yes := by
    intro path yes no scope value resolved truth
    simp [printed, pieces, resolved, truth]
  no := by
    intro path yes no scope value resolved falsity
    simp [printed, pieces, resolved, falsity]
  undefined := by
    intro name yes no scope undefined
    simp [printed, pieces, resolve, undefined]
  each := by
    intro name path body scope elements pages listed related
    have parts := related.imp fun _ _ found => printed_eq_ok_iff.mp found
    obtain ⟨pieces, joined, same⟩ := joinParts_of_pages parts
    exact printed_eq_ok_iff.mpr ⟨pieces, pieces_each_eq_ok_iff.mpr ⟨elements, listed, joined⟩, same⟩
  block := fun _ _ _ => rfl

end Rules

section Places

/-- The place after the template, when every value of it stands in text or in an attribute. -/
def placed : Template → Place → Option Place
  | .empty, place => some place
  | .text content, place => Markup.walk place content
  | .seq first second, place => (first.placed place).bind second.placed
  | .output _ _, place => if place = .tag then none else some place
  | .choose _ yes no, place =>
      if yes.placed place = no.placed place then yes.placed place else none
  | .each _ _ body, place => if body.placed place = some place then some place else none
  | .block _ body, place => body.placed place

theorem placed_cons {first : Template} {rest : List Template} {place middle after : Place}
    (here : first.placed place = some middle) (tail : (all rest).placed middle = some after) :
    (all (first :: rest)).placed place = some after :=
  Option.bind_eq_some_iff.mpr ⟨middle, here, tail⟩

/-- The characters of a line are given apart, because its text is slow to evaluate. -/
theorem placed_line (middle : Place) {line : String} {chars : List Char} {lines : List String}
    {place after : Place} (same : line.toList = chars)
    (walked : Markup.walk place chars = some middle)
    (tail : (literal lines).placed middle = some after) :
    (literal (line :: lines)).placed place = some after := by
  refine placed_cons ?_ tail
  rw [placed, same]
  exact walked

/-- A branch ends where both its sides do. -/
theorem placed_choose {path : VariablePath} {yes no : Template} {place after : Place}
    (left : yes.placed place = some after) (right : no.placed place = some after) :
    (choose path yes no).placed place = some after := by
  rw [placed, left, right, if_pos rfl]

/-- A loop stays where its body does. -/
theorem placed_each {name : List Char} {path : VariablePath} {body : Template} {place : Place}
    (stays : body.placed place = some place) : (each name path body).placed place = some place :=
  if_pos stays

theorem placed_block {name : List Char} {body : Template} {place after : Place}
    (here : body.placed place = some after) : (block name body).placed place = some after := here

/-- The printed values stand in text or in attributes. -/
inductive Settled : Place → List Piece → Place → Prop where
  | nil (place : Place) : Settled place [] place
  | literal {place middle after : Place} {content : List Char} {rest : List Piece}
      (walked : Markup.walk place content = some middle) (tail : Settled middle rest after) :
      Settled place (.literal content :: rest) after
  | string {place after : Place} {content : List Char} {rest : List Piece} (outside : place ≠ .tag)
      (tail : Settled place rest after) : Settled place (.string content :: rest) after
  | plain {place after : Place} {content : List Char} {rest : List Piece} (outside : place ≠ .tag)
      (tail : Settled place rest after) : Settled place (.plain content :: rest) after

/-- Settled pieces settle in sequence. -/
theorem Settled.append {place middle after : Place} {first second : List Piece}
    (before : Settled place first middle) (tail : Settled middle second after) :
    Settled place (first ++ second) after := by
  induction before with
  | nil place => exact tail
  | literal walked _ ih => exact .literal walked (ih tail)
  | string outside _ ih => exact .string outside (ih tail)
  | plain outside _ ih => exact .plain outside (ih tail)

/-- Parts that each return to their place return to it together. -/
theorem settled_joinParts {E : Type} {place : Place} {parts : List (Except E (List Piece))}
    {printed : List Piece} (each : ∀ part ∈ parts, ∀ pieces, part = .ok pieces → Settled place pieces place)
    (joined : joinParts parts = .ok printed) : Settled place printed place := by
  induction parts generalizing printed with
  | nil =>
      obtain rfl := Except.ok.inj joined
      exact .nil place
  | cons part rest ih =>
      obtain ⟨first, second, found, others, rfl⟩ := joinParts_eq_ok_iff.mp joined
      have here := each part List.mem_cons_self first found
      exact here.append (ih (fun other member => each other (List.mem_cons_of_mem _ member)) others)

/-- What a placed template prints is settled, whatever the scope. -/
theorem settled_of_placed {template : Template} {place after : Place} {scope : Scope V}
    {printed : List Piece} (checked : template.placed place = some after)
    (rendered : template.pieces values scope = .ok printed) : Settled place printed after := by
  induction template generalizing place after scope printed with
  | empty =>
      obtain rfl := Option.some.inj checked
      obtain rfl := Except.ok.inj rendered
      exact .nil place
  | text content =>
      obtain rfl := Except.ok.inj rendered
      exact .literal checked (.nil after)
  | seq first second ihFirst ihSecond =>
      obtain ⟨middle, left, right⟩ := Option.bind_eq_some_iff.mp checked
      obtain ⟨before, behind, found, others, rfl⟩ := pieces_seq_eq_ok_iff.mp rendered
      exact (ihFirst left found).append (ihSecond right others)
  | output path default =>
      obtain ⟨outside, same⟩ := Option.ite_none_left_eq_some.mp checked
      obtain rfl := Option.some.inj same
      rcases pieces_output_eq_ok_iff.mp rendered with ⟨value, _, rfl⟩ | ⟨_, content, _, rfl⟩
      · unfold display
        cases values.string value with
        | some content => exact .string outside (.nil place)
        | none => exact .plain outside (.nil place)
      · exact .string outside (.nil place)
  | choose path yes no ihYes ihNo =>
      obtain ⟨same, found⟩ := Option.ite_none_right_eq_some.mp checked
      rw [pieces] at rendered
      split at rendered
      · exact ihYes found rendered
      · exact ihNo (same.symm.trans found) rendered
  | each name path body ih =>
      obtain ⟨stays, same⟩ := Option.ite_none_right_eq_some.mp checked
      obtain rfl := Option.some.inj same
      obtain ⟨elements, _, joined⟩ := pieces_each_eq_ok_iff.mp rendered
      refine settled_joinParts ?_ joined
      intro part member pieces found
      obtain ⟨value, _, rfl⟩ := List.mem_map.mp member
      exact ih stays found
  | block name body ih => exact ih checked rendered

/-- The characters of the printed pieces with their places: a value keeps the place where it stands. -/
def labels : Place → List Piece → List (Place × Char)
  | _, [] => []
  | place, .literal content :: rest =>
      Markup.scan place content ++ labels ((Markup.walk place content).getD place) rest
  | place, .string content :: rest | place, .plain content :: rest =>
      content.map (place, ·) ++ labels place rest

/-- What is printed without being escaped has nothing to escape. -/
def Inert (printed : List Piece) : Prop :=
  ∀ content, Piece.plain content ∈ printed → Markup.escape content = content

/-- A browser reads the written page as the pieces with their places. -/
theorem Settled.scan {place after : Place} {printed : List Piece} (settled : Settled place printed after)
    (inert : Inert printed) (rest : List Char) :
    Markup.scan place (writeAll printed ++ rest) = labels place printed ++ Markup.scan after rest := by
  induction settled with
  | nil place => rfl
  | @literal place middle after content pieces walked tail ih =>
      have quiet : Inert pieces := fun other member => inert other (List.mem_cons_of_mem _ member)
      rw [labels, walked, Option.getD_some, List.append_assoc, ← ih quiet]
      rw [writeAll, List.flatMap_cons, List.append_assoc]
      exact Markup.scan_append walked _
  | @string place after content pieces outside tail ih =>
      have quiet : Inert pieces := fun other member => inert other (List.mem_cons_of_mem _ member)
      rw [labels, List.append_assoc, ← ih quiet, writeAll, List.flatMap_cons, List.append_assoc]
      exact Markup.scan_escape outside content _
  | @plain place after content pieces outside tail ih =>
      have quiet : Inert pieces := fun other member => inert other (List.mem_cons_of_mem _ member)
      rw [labels, List.append_assoc, ← ih quiet, writeAll, List.flatMap_cons, List.append_assoc]
      have same := inert content List.mem_cons_self
      have read := Markup.scan_escape outside content (writeAll pieces ++ rest)
      rw [same] at read
      exact read

end Places

section Alike

/-- Two pieces are the same text of the template or two values. -/
inductive PieceAlike : Piece → Piece → Prop where
  | literal (content : List Char) : PieceAlike (.literal content) (.literal content)
  | string (first second : List Char) : PieceAlike (.string first) (.string second)
  | plain (first second : List Char) : PieceAlike (.plain first) (.plain second)

/-- The tags of a page with their attribute names, without texts and attribute values. -/
def markup (marks : List (Place × Char)) : List Char :=
  (marks.filter (·.1 = .tag)).map Prod.snd

theorem markup_append (first second : List (Place × Char)) :
    markup (first ++ second) = markup first ++ markup second := by
  rw [markup, List.filter_append, List.map_append]
  rfl

/-- A value outside tags adds nothing to the markup. -/
theorem markup_value {place : Place} (outside : place ≠ .tag) (content : List Char) :
    markup (content.map (place, ·)) = [] := by
  simp [markup, List.filter_map, Function.comp_def, outside]

/-- Pages with the same texts and other values have the same markup. -/
theorem Settled.markup_eq {place after : Place} {first second : List Piece}
    (settled : Settled place first after) (alike : List.Forall₂ PieceAlike first second) :
    markup (labels place first) = markup (labels place second) := by
  induction settled generalizing second with
  | nil place =>
      obtain rfl := List.forall₂_nil_left_iff.mp alike
      rfl
  | @literal place middle after content rest walked tail ih =>
      obtain ⟨other, others, same, tails, rfl⟩ := List.forall₂_cons_left_iff.mp alike
      cases same
      rw [labels, labels, walked, Option.getD_some, markup_append, markup_append, ih tails]
  | @string place after content rest outside tail ih =>
      obtain ⟨other, others, same, tails, rfl⟩ := List.forall₂_cons_left_iff.mp alike
      cases same
      rw [labels, labels, markup_append, markup_append, markup_value outside, markup_value outside,
        ih tails]
  | @plain place after content rest outside tail ih =>
      obtain ⟨other, others, same, tails, rfl⟩ := List.forall₂_cons_left_iff.mp alike
      cases same
      rw [labels, labels, markup_append, markup_append, markup_value outside, markup_value outside,
        ih tails]

/-- A relation that templates cannot see through: related values are repeated and printed alike. -/
structure Congruence (values : Values V) (alike : V → V → Prop) : Prop where
  field : ∀ first second, alike first second → ∀ name,
    Option.Rel alike (values.field first name) (values.field second name)
  elements : ∀ first second, alike first second →
    Option.Rel (List.Forall₂ alike) (values.elements first) (values.elements second)
  display : ∀ first second, alike first second →
    PieceAlike (display values first) (display values second)

variable {alike : V → V → Prop}

/-- The scopes define the same names with related values. -/
def ScopesAlike (alike : V → V → Prop) (first second : Scope V) : Prop :=
  ∀ key, Option.Rel alike (first key) (second key)

theorem ScopesAlike.bindName {first second : Scope V} (scopes : ScopesAlike alike first second)
    (name : List Char) {one other : V} (related : alike one other) :
    ScopesAlike alike (bindName first name one) (bindName second name other) := by
  intro key
  unfold Template.bindName
  split
  · exact .some related
  · exact scopes key

/-- Alike scopes resolve a path to alike values. -/
theorem resolve_alike (congruence : Congruence values alike) {first second : Scope V}
    (scopes : ScopesAlike alike first second) (path : VariablePath) :
    Option.Rel alike (resolve values first path) (resolve values second path) := by
  have walked (fields : List (List Char)) (one other : Option V) (related : Option.Rel alike one other) :
      Option.Rel alike
        (fields.foldl (fun value name => value.bind fun value => values.field value name) one)
        (fields.foldl (fun value name => value.bind fun value => values.field value name) other) := by
    induction fields generalizing one other with
    | nil => exact related
    | cons name rest ih =>
        apply ih
        cases related with
        | none => exact .none
        | some same => exact congruence.field _ _ same name
  exact walked path.fields _ _ (scopes path.head)

/-- Parts that are alike one by one are alike together. -/
theorem joinParts_alike {body : V → Except RenderError (List Piece)}
    {otherBody : V → Except RenderError (List Piece)}
    (bodies : ∀ one other, alike one other → ∀ printed, body one = .ok printed →
      ∃ printed', otherBody other = .ok printed' ∧ List.Forall₂ PieceAlike printed printed')
    {elements others : List V} (related : List.Forall₂ alike elements others) {printed : List Piece}
    (joined : joinParts (elements.map body) = .ok printed) :
    ∃ printed', joinParts (others.map otherBody) = .ok printed' ∧
      List.Forall₂ PieceAlike printed printed' := by
  induction related generalizing printed with
  | nil =>
      obtain rfl := Except.ok.inj joined
      exact ⟨[], rfl, .nil⟩
  | cons same _ ih =>
      obtain ⟨first, second, found, rest, rfl⟩ := joinParts_eq_ok_iff.mp joined
      obtain ⟨first', found', alikeFirst⟩ := bodies _ _ same first found
      obtain ⟨second', rest', alikeSecond⟩ := ih rest
      refine ⟨first' ++ second', ?_, List.rel_append alikeFirst alikeSecond⟩
      exact joinParts_eq_ok_iff.mpr ⟨first', second', found', rest', rfl⟩

/-- Every condition of the template is among the tests, and no loop hides one. -/
def decided (tests : List VariablePath) : Template → Bool
  | .empty | .text _ | .output _ _ => true
  | .seq first second => first.decided tests && second.decided tests
  | .choose path yes no => tests.contains path && yes.decided tests && no.decided tests
  | .each name _ body => tests.all (·.head ≠ name) && body.decided tests
  | .block _ body => body.decided tests

/-- A fresh name leaves the other variables alone. -/
theorem resolve_bindName {scope : Scope V} {name : List Char} {path : VariablePath}
    (different : path.head ≠ name) (value : V) :
    resolve values (bindName scope name value) path = resolve values scope path := by
  rw [resolve, bindName, if_neg different]
  rfl

/-- The scopes agree on the tests. -/
def TestsAgree (values : Values V) (tests : List VariablePath) (first second : Scope V) : Prop :=
  ∀ path ∈ tests, (resolve values first path).any values.truthy =
    (resolve values second path).any values.truthy

/-- A loop variable that no test reads keeps the tests in agreement. -/
theorem TestsAgree.bindName {tests : List VariablePath} {first second : Scope V}
    (agree : TestsAgree values tests first second) {name : List Char}
    (fresh : tests.all (·.head ≠ name) = true) (one other : V) :
    TestsAgree values tests (bindName first name one) (bindName second name other) := by
  intro path member
  have different : path.head ≠ name := of_decide_eq_true (List.all_eq_true.mp fresh path member)
  rw [resolve_bindName different, resolve_bindName different]
  exact agree path member

/-- Scopes that are alike print the same texts with values in the same positions. -/
theorem pieces_alike (congruence : Congruence values alike) {tests : List VariablePath}
    {template : Template} (checked : template.decided tests = true) {first second : Scope V}
    (agree : TestsAgree values tests first second) (scopes : ScopesAlike alike first second)
    {printed : List Piece} (rendered : template.pieces values first = .ok printed) :
    ∃ printed', template.pieces values second = .ok printed' ∧
      List.Forall₂ PieceAlike printed printed' := by
  induction template generalizing first second printed with
  | empty =>
      obtain rfl := Except.ok.inj rendered
      exact ⟨[], rfl, .nil⟩
  | text content =>
      obtain rfl := Except.ok.inj rendered
      exact ⟨_, rfl, .cons (.literal content) .nil⟩
  | seq one two ihOne ihTwo =>
      obtain ⟨before, after, found, others, rfl⟩ := pieces_seq_eq_ok_iff.mp rendered
      obtain ⟨left, right⟩ := Bool.and_eq_true_iff.mp checked
      obtain ⟨before', found', alikeBefore⟩ := ihOne left agree scopes found
      obtain ⟨after', others', alikeAfter⟩ := ihTwo right agree scopes others
      refine ⟨before' ++ after', ?_, List.rel_append alikeBefore alikeAfter⟩
      exact pieces_seq_eq_ok_iff.mpr ⟨before', after', found', others', rfl⟩
  | output path default =>
      have related := resolve_alike congruence scopes path
      rcases pieces_output_eq_ok_iff.mp rendered with
        ⟨value, resolved, rfl⟩ | ⟨resolved, content, given, rfl⟩
      · rw [resolved] at related
        generalize seen : resolve values second path = other at related
        cases related with
        | some same =>
            refine ⟨_, pieces_output_eq_ok_iff.mpr (.inl ⟨_, seen, rfl⟩), ?_⟩
            exact .cons (congruence.display _ _ same) .nil
      · rw [resolved] at related
        generalize seen : resolve values second path = other at related
        cases related with
        | none =>
            refine ⟨_, pieces_output_eq_ok_iff.mpr (.inr ⟨seen, content, given, rfl⟩), ?_⟩
            exact .cons (.string content content) .nil
  | choose path yes no ihYes ihNo =>
      obtain ⟨tested, right⟩ := Bool.and_eq_true_iff.mp checked
      obtain ⟨listed, left⟩ := Bool.and_eq_true_iff.mp tested
      have same := agree path (List.contains_iff_mem.mp listed)
      rw [pieces] at rendered
      simp only [pieces, ← same]
      split at rendered
      · rename_i holds
        rw [if_pos holds]
        exact ihYes left agree scopes rendered
      · rename_i fails
        rw [if_neg fails]
        exact ihNo right agree scopes rendered
  | each name path body ih =>
      obtain ⟨fresh, inner⟩ := Bool.and_eq_true_iff.mp checked
      obtain ⟨elements, listed, joined⟩ := pieces_each_eq_ok_iff.mp rendered
      have related : Option.Rel (List.Forall₂ alike)
          ((resolve values first path).bind values.elements)
          ((resolve values second path).bind values.elements) := by
        have both := resolve_alike congruence scopes path
        generalize resolve values first path = one at both
        generalize resolve values second path = other at both
        cases both with
        | none => exact .none
        | some same => exact congruence.elements _ _ same
      rw [listed] at related
      generalize seen : (resolve values second path).bind values.elements = others at related
      cases related with
      | some each =>
          have bodies (one other : V) (same : alike one other) (printed : List Piece)
              (found : body.pieces values (bindName first name one) = .ok printed) :
              ∃ printed', body.pieces values (bindName second name other) = .ok printed' ∧
                List.Forall₂ PieceAlike printed printed' :=
            ih inner (agree.bindName fresh one other) (scopes.bindName name same) found
          obtain ⟨printed', joined', alikeAll⟩ := joinParts_alike bodies each joined
          exact ⟨printed', pieces_each_eq_ok_iff.mpr ⟨_, seen, joined'⟩, alikeAll⟩
  | block name body ih => exact ih checked agree scopes rendered

end Alike

section Quiet

/-- Quiet values and all their parts are printed without characters that need escaping. -/
structure Quiet (values : Values V) (quiet : V → Prop) : Prop where
  field : ∀ value, quiet value → ∀ name part, values.field value name = some part → quiet part
  elements : ∀ value, quiet value → ∀ parts, values.elements value = some parts →
    ∀ part ∈ parts, quiet part
  shown : ∀ value, quiet value → values.string value = none →
    Markup.escape (values.shown value) = values.shown value

/-- Every variable of the scope has a quiet value. -/
def ScopeQuiet (quiet : V → Prop) (scope : Scope V) : Prop :=
  ∀ key value, scope key = some value → quiet value

variable {quiet : V → Prop}

theorem ScopeQuiet.bindName {scope : Scope V} (scopeQuiet : ScopeQuiet quiet scope) (name : List Char)
    {value : V} (silent : quiet value) : ScopeQuiet quiet (bindName scope name value) := by
  intro key other found
  unfold Template.bindName at found
  split at found
  · obtain rfl := Option.some.inj found
    exact silent
  · exact scopeQuiet key other found

/-- A path in a quiet scope resolves to a quiet value. -/
theorem resolve_quiet (law : Quiet values quiet) {scope : Scope V} (scopeQuiet : ScopeQuiet quiet scope)
    {path : VariablePath} {value : V} (resolved : resolve values scope path = some value) :
    quiet value := by
  have walked (fields : List (List Char)) (start : Option V)
      (silent : ∀ value, start = some value → quiet value) (last : V)
      (reached : fields.foldl (fun value name => value.bind fun value => values.field value name) start =
        some last) : quiet last := by
    induction fields generalizing start with
    | nil => exact silent last reached
    | cons name rest ih =>
        refine ih _ ?_ reached
        intro part found
        obtain ⟨whole, given, inside⟩ := Option.bind_eq_some_iff.mp found
        exact law.field whole (silent whole given) name part inside
  exact walked path.fields _ (scopeQuiet path.head) value resolved

/-- Inert parts join to an inert page. -/
theorem joinParts_inert {E : Type} {parts : List (Except E (List Piece))} {printed : List Piece}
    (each : ∀ part ∈ parts, ∀ pieces, part = .ok pieces → Inert pieces)
    (joined : joinParts parts = .ok printed) : Inert printed := by
  induction parts generalizing printed with
  | nil =>
      obtain rfl := Except.ok.inj joined
      intro content member
      exact absurd member (by simp)
  | cons part rest ih =>
      obtain ⟨first, second, found, others, rfl⟩ := joinParts_eq_ok_iff.mp joined
      have here := each part List.mem_cons_self first found
      have there := ih (fun other member => each other (List.mem_cons_of_mem _ member)) others
      intro content member
      exact (List.mem_append.mp member).elim (here content) (there content)

/-- From quiet variables a template prints nothing unescaped that needs escaping. -/
theorem pieces_inert (law : Quiet values quiet) {template : Template} {scope : Scope V}
    (scopeQuiet : ScopeQuiet quiet scope) {printed : List Piece}
    (rendered : template.pieces values scope = .ok printed) : Inert printed := by
  induction template generalizing scope printed with
  | empty | text _ =>
      obtain rfl := Except.ok.inj rendered
      intro content member
      simp at member
  | seq first second ihFirst ihSecond =>
      obtain ⟨before, after, found, others, rfl⟩ := pieces_seq_eq_ok_iff.mp rendered
      intro content member
      exact (List.mem_append.mp member).elim (ihFirst scopeQuiet found content)
        (ihSecond scopeQuiet others content)
  | output path default =>
      rcases pieces_output_eq_ok_iff.mp rendered with ⟨value, resolved, rfl⟩ | ⟨_, given, _, rfl⟩
      · intro content member
        have same := List.mem_singleton.mp member
        unfold display at same
        split at same
        · exact absurd same (by simp)
        · rename_i plain
          obtain rfl := Piece.plain.inj same
          exact law.shown value (resolve_quiet law scopeQuiet resolved) plain
      · intro content member
        simp at member
  | choose path yes no ihYes ihNo =>
      rw [pieces] at rendered
      split at rendered
      · exact ihYes scopeQuiet rendered
      · exact ihNo scopeQuiet rendered
  | each name path body ih =>
      obtain ⟨elements, listed, joined⟩ := pieces_each_eq_ok_iff.mp rendered
      obtain ⟨whole, resolved, parts⟩ := Option.bind_eq_some_iff.mp listed
      have silent := law.elements whole (resolve_quiet law scopeQuiet resolved) elements parts
      refine joinParts_inert ?_ joined
      intro part member pieces found
      obtain ⟨value, element, rfl⟩ := List.mem_map.mp member
      exact ih (scopeQuiet.bindName name (silent value element)) found
  | block name body ih => exact ih scopeQuiet rendered

end Quiet

section Covers

/-- What a template may rely on: defined variables, lists whose elements have fields, and variables
that are defined whenever another one counts as true. -/
structure Known where
  defined : List VariablePath
  lists : List (VariablePath × List (List Char))
  implied : List (VariablePath × List VariablePath)
  deriving DecidableEq, Repr

namespace Known

/-- A branch relies on what its condition implies. -/
def assume (known : Known) (path : VariablePath) : Known :=
  { known with defined := (known.implied.lookup path).getD [] ++ known.defined }

/-- A loop relies on the fields of its variable. -/
def withElement (known : Known) (name : List Char) (fields : List (List Char)) : Known :=
  { known with defined := (fields.map fun field => ⟨name, [field]⟩) ++ known.defined }

/-- No known variable has the name. -/
def fresh (known : Known) (name : List Char) : Bool :=
  known.defined.all (·.head ≠ name) && known.lists.all (·.1.head ≠ name) &&
    known.implied.all fun entry => entry.1.head ≠ name && entry.2.all (·.head ≠ name)

/-- The scope has what is known. -/
structure Holds (values : Values V) (known : Known) (scope : Scope V) : Prop where
  defined : ∀ path ∈ known.defined, (resolve values scope path).isSome = true
  lists : ∀ entry ∈ known.lists, ∃ elements,
    (resolve values scope entry.1).bind values.elements = some elements ∧
      ∀ element ∈ elements, ∀ field ∈ entry.2, (values.field element field).isSome = true
  implied : ∀ entry ∈ known.implied, (resolve values scope entry.1).any values.truthy = true →
    ∀ path ∈ entry.2, (resolve values scope path).isSome = true

end Known

/-- Every variable that the template prints or repeats is known. -/
def covered : Template → Known → Bool
  | .empty, _ | .text _, _ => true
  | .seq first second, known => first.covered known && second.covered known
  | .output path default, known => default.isSome || known.defined.contains path
  | .choose path yes no, known => yes.covered (known.assume path) && no.covered known
  | .each name path body, known =>
      match known.lists.lookup path with
      | some fields => known.fresh name && body.covered (known.withElement name fields)
      | none => false
  | .block _ body, known => body.covered known

theorem mem_of_lookup {K A : Type} [BEq K] [LawfulBEq K] {list : List (K × A)} {key : K} {value : A}
    (found : list.lookup key = some value) : (key, value) ∈ list := by
  obtain ⟨before, after, rfl, _⟩ := List.lookup_eq_some_iff.mp found
  exact List.mem_append_right _ List.mem_cons_self

/-- A branch knows that its variable is there. -/
theorem Known.Holds.assume {known : Known} {scope : Scope V} (holds : known.Holds values scope)
    {path : VariablePath} (truth : (resolve values scope path).any values.truthy = true) :
    (known.assume path).Holds values scope where
  defined := by
    intro other member
    rcases List.mem_append.mp member with implied | earlier
    · cases found : known.implied.lookup path with
      | none =>
          rw [found] at implied
          exact absurd implied (by simp)
      | some paths =>
          rw [found] at implied
          exact holds.implied _ (mem_of_lookup found) truth other implied
    · exact holds.defined other earlier
  lists := holds.lists
  implied := holds.implied

/-- The body of a loop knows the fields of its element. -/
theorem Known.Holds.withElement {known : Known} {scope : Scope V} (holds : known.Holds values scope)
    {name : List Char} (fresh : known.fresh name = true) {fields : List (List Char)} {value : V}
    (present : ∀ field ∈ fields, (values.field value field).isSome = true) :
    (known.withElement name fields).Holds values (bindName scope name value) := by
  simp only [Known.fresh, Bool.and_eq_true, List.all_eq_true, decide_eq_true_eq] at fresh
  obtain ⟨⟨definedFresh, listsFresh⟩, impliedFresh⟩ := fresh
  refine ⟨?_, ?_, ?_⟩
  · intro path member
    rcases List.mem_append.mp member with own | earlier
    · obtain ⟨field, listed, rfl⟩ := List.mem_map.mp own
      have reached : resolve values (bindName scope name value) ⟨name, [field]⟩ =
          values.field value field := by
        simp [resolve, bindName]
      rw [reached]
      exact present field listed
    · rw [resolve_bindName (definedFresh path earlier)]
      exact holds.defined path earlier
  · intro entry member
    rw [resolve_bindName (listsFresh entry member)]
    exact holds.lists entry member
  · intro entry member truth path listed
    obtain ⟨headFresh, pathsFresh⟩ := impliedFresh entry member
    rw [resolve_bindName headFresh] at truth
    rw [resolve_bindName (pathsFresh path listed)]
    exact holds.implied entry member truth path listed

/-- Parts that are all computed are joined. -/
theorem joinParts_ok {E A : Type} {parts : List (Except E (List A))}
    (each : ∀ part ∈ parts, ∃ items, part = .ok items) : ∃ joined, joinParts parts = .ok joined := by
  induction parts with
  | nil => exact ⟨[], rfl⟩
  | cons part rest ih =>
      obtain ⟨first, found⟩ := each part List.mem_cons_self
      obtain ⟨second, others⟩ := ih fun other member => each other (List.mem_cons_of_mem _ member)
      exact ⟨first ++ second, joinParts_eq_ok_iff.mpr ⟨first, second, found, others, rfl⟩⟩

/-- A covered template renders in every scope that has what is known. -/
theorem pieces_of_covered {template : Template} {known : Known} {scope : Scope V}
    (checked : template.covered known = true) (holds : known.Holds values scope) :
    ∃ printed, template.pieces values scope = .ok printed := by
  induction template generalizing known scope with
  | empty => exact ⟨[], rfl⟩
  | text content => exact ⟨_, rfl⟩
  | seq first second ihFirst ihSecond =>
      obtain ⟨left, right⟩ := Bool.and_eq_true_iff.mp checked
      obtain ⟨before, found⟩ := ihFirst left holds
      obtain ⟨after, others⟩ := ihSecond right holds
      exact ⟨before ++ after, pieces_seq_eq_ok_iff.mpr ⟨before, after, found, others, rfl⟩⟩
  | output path default =>
      cases resolved : resolve values scope path with
      | some value => exact ⟨_, pieces_output_eq_ok_iff.mpr (.inl ⟨value, resolved, rfl⟩)⟩
      | none =>
          cases default with
          | some content => exact ⟨_, pieces_output_eq_ok_iff.mpr (.inr ⟨resolved, content, rfl, rfl⟩)⟩
          | none =>
              have member : path ∈ known.defined := by simpa [covered] using checked
              have present := holds.defined path member
              rw [resolved] at present
              exact absurd present (by simp)
  | choose path yes no ihYes ihNo =>
      obtain ⟨left, right⟩ := Bool.and_eq_true_iff.mp checked
      rw [pieces]
      split
      · rename_i truth
        exact ihYes left (holds.assume truth)
      · exact ihNo right holds
  | each name path body ih =>
      rw [covered] at checked
      split at checked
      · rename_i fields found
        obtain ⟨fresh, inner⟩ := Bool.and_eq_true_iff.mp checked
        obtain ⟨elements, listed, present⟩ := holds.lists _ (mem_of_lookup found)
        obtain ⟨printed, joined⟩ : ∃ printed, joinParts (elements.map fun value =>
            body.pieces values (bindName scope name value)) = .ok printed := by
          apply joinParts_ok
          intro part member
          obtain ⟨value, element, rfl⟩ := List.mem_map.mp member
          exact ih inner (holds.withElement fresh (present value element))
        exact ⟨printed, pieces_each_eq_ok_iff.mpr ⟨elements, listed, joined⟩⟩
      · exact absurd checked (by simp)
  | block name body ih => exact ih checked holds

end Covers

end Template

end HighperfServer.Library
