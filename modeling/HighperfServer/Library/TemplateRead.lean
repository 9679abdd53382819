import HighperfServer.Library.TemplateCheck

namespace HighperfServer.Library

namespace Template
open Markup
variable {V : Type} {values : Values V}

/-- A reader of a page stands at a place of it. -/
structure Point where
  place : Place
  reading : Reading
  deriving DecidableEq, Repr

/-- The template prints, in the scope, pieces that lead the reader of an element from one point to
another with these notes. -/
def Leads (values : Values V) (name : List Char) (scope : Scope V) (template : Template)
    (start stop : Point) (notes : List (Option Char)) : Prop :=
  ∃ printed, template.pieces values scope = .ok printed ∧ Settled start.place printed stop.place ∧
    readOn name start.reading (labels start.place printed) = stop.reading ∧
    noted name start.reading (labels start.place printed) = notes

theorem labels_append {place middle : Place} {first : List Piece}
    (settled : Settled place first middle) (second : List Piece) :
    labels place (first ++ second) = labels place first ++ labels middle second := by
  induction settled with
  | nil place => rfl
  | literal walked _ ih =>
      rw [List.cons_append, labels, labels, walked, Option.getD_some, ih, List.append_assoc]
  | string _ _ ih | plain _ _ ih =>
      rw [List.cons_append, labels, labels, ih, List.append_assoc]

/-- A defined variable, or one with a default, prints one value. -/
theorem pieces_output_printable {scope : Scope V} {path : VariablePath} {default : Option (List Char)}
    (printable : (resolve values scope path).isSome = true ∨ default.isSome = true) :
    ∃ content piece, (output path default).pieces values scope = .ok [piece] ∧
      (piece = .string content ∨ piece = .plain content) := by
  cases resolved : resolve values scope path with
  | some value =>
      have found : (output path default).pieces values scope = .ok [display values value] :=
        pieces_output_eq_ok_iff.mpr (.inl ⟨value, resolved, rfl⟩)
      cases shown : values.string value with
      | some content =>
          rw [display, shown] at found
          exact ⟨content, _, found, .inl rfl⟩
      | none =>
          rw [display, shown] at found
          exact ⟨_, _, found, .inr rfl⟩
  | none =>
      rw [resolved] at printable
      obtain ⟨content, given⟩ := Option.isSome_iff_exists.mp (printable.resolve_left (by simp))
      have found : (output path default).pieces values scope = .ok [.string content] :=
        pieces_output_eq_ok_iff.mpr (.inr ⟨resolved, content, given, rfl⟩)
      exact ⟨content, _, found, .inl rfl⟩

namespace Leads
variable {name : List Char} {scope : Scope V} {start middle stop : Point}
  {first second yes no body : Template} {notes others : List (Option Char)}

theorem empty (point : Point) : Leads values name scope .empty point point [] :=
  ⟨[], rfl, .nil _, rfl, rfl⟩

/-- Two templates in sequence lead through the point between them. -/
theorem seq (before : Leads values name scope first start middle notes)
    (after : Leads values name scope second middle stop others) :
    Leads values name scope (.seq first second) start stop (notes ++ others) := by
  obtain ⟨printed, found, settled, reached, heard⟩ := before
  obtain ⟨printed', found', settled', reached', heard'⟩ := after
  refine ⟨printed ++ printed', pieces_seq_eq_ok_iff.mpr ⟨_, _, found, found', rfl⟩,
    settled.append settled', ?_, ?_⟩
  · rw [labels_append settled, readOn_append, reached, reached']
  · rw [labels_append settled, noted_append, reached, heard, heard']

theorem cons {rest : List Template} (before : Leads values name scope first start middle notes)
    (after : Leads values name scope (all rest) middle stop others) :
    Leads values name scope (all (first :: rest)) start stop (notes ++ others) :=
  before.seq after

/-- A text leads where its characters do. -/
theorem text {content : List Char}
    (followed : follow name start.place start.reading content =
      some (stop.place, stop.reading, notes)) :
    Leads values name scope (.text content) start stop notes := by
  obtain ⟨walked, reached, heard⟩ := follow_spec followed
  refine ⟨_, rfl, .literal walked (.nil _), ?_, ?_⟩
  · rw [labels, labels, List.append_nil, reached]
  · rw [labels, labels, List.append_nil, heard]

/-- The characters of a line are given apart, because its text is slow to evaluate. -/
theorem line (middle : Point) (notes : List (Option Char)) {line : String} {chars : List Char}
    {lines : List String} (same : line.toList = chars)
    (followed : follow name start.place start.reading chars =
      some (middle.place, middle.reading, notes))
    (after : Leads values name scope (literal lines) middle stop others) :
    Leads values name scope (literal (line :: lines)) start stop (notes ++ others) := by
  rw [← same] at followed
  exact (text followed).seq after

/-- Parts without notes are passed over. -/
theorem skip {rest : List Template} (before : Leads values name scope first start middle [])
    (after : Leads values name scope (all rest) middle stop notes) :
    Leads values name scope (all (first :: rest)) start stop notes := before.seq after

/-- The parts after the last notes are passed over. -/
theorem last {rest : List Template} (before : Leads values name scope first start middle notes)
    (after : Leads values name scope (all rest) middle stop []) :
    Leads values name scope (all (first :: rest)) start stop notes := by
  have both := before.cons after
  rw [List.append_nil] at both
  exact both

theorem block {title : List Char} (inner : Leads values name scope body start stop notes) :
    Leads values name scope (.block title body) start stop notes := inner

/-- A branch is read when its condition holds. -/
theorem choose {path : VariablePath}
    (left : (resolve values scope path).any values.truthy = true →
      Leads values name scope yes start stop notes)
    (right : (resolve values scope path).any values.truthy = false →
      Leads values name scope no start stop notes) :
    Leads values name scope (.choose path yes no) start stop notes := by
  unfold Leads
  rw [pieces]
  cases holds : (resolve values scope path).any values.truthy with
  | true => exact left holds
  | false => exact right holds

/-- A printed string is noted inside an element. -/
theorem string {path : VariablePath} {default : Option (List Char)} {value : V} {content : List Char}
    (resolved : resolve values scope path = some value) (shown : values.string value = some content)
    (outside : start.place ≠ .tag) :
    Leads values name scope (.output path default) start start
      (if start.place = .text ∧ start.reading.inside = true then content.map some else []) := by
  obtain ⟨reached, heard⟩ := noted_value name outside start.reading content
  refine ⟨[.string content], ?_, .string outside (.nil _), ?_, ?_⟩
  · refine pieces_output_eq_ok_iff.mpr (.inl ⟨value, resolved, ?_⟩)
    rw [display, shown]
  · rw [labels, labels, List.append_nil, reached]
  · rw [labels, labels, List.append_nil, heard]

/-- A printed value is not noted outside the elements. -/
theorem silent {path : VariablePath} {default : Option (List Char)}
    (printable : (resolve values scope path).isSome = true ∨ default.isSome = true)
    (outside : start.place ≠ .tag) (elsewhere : start.place = .value ∨ start.reading.inside = false) :
    Leads values name scope (.output path default) start start [] := by
  have quiet : ¬(start.place = .text ∧ start.reading.inside = true) := by
    rintro ⟨text, inside⟩
    rcases elsewhere with value | apart
    · exact absurd (value.symm.trans text) (by decide)
    · exact absurd (apart.symm.trans inside) (by decide)
  obtain ⟨content, piece, printed, alone⟩ := pieces_output_printable printable
  obtain ⟨reached, heard⟩ := noted_value name outside start.reading content
  rw [if_neg quiet] at heard
  rcases alone with rfl | rfl
  · refine ⟨_, printed, .string outside (.nil _), ?_, ?_⟩
    · rw [labels, labels, List.append_nil, reached]
    · rw [labels, labels, List.append_nil, heard]
  · refine ⟨_, printed, .plain outside (.nil _), ?_, ?_⟩
    · rw [labels, labels, List.append_nil, reached]
    · rw [labels, labels, List.append_nil, heard]

/-- A loop whose body returns to its point notes its elements in turn. -/
theorem each {Item : Type} {key : List Char} {path : VariablePath} {items : List Item}
    {embed : Item → V} {note : Item → List (Option Char)}
    (listed : (resolve values scope path).bind values.elements = some (items.map embed))
    (round : ∀ item ∈ items,
      Leads values name (bindName scope key (embed item)) body start start (note item)) :
    Leads values name scope (.each key path body) start start (items.flatMap note) := by
  obtain ⟨printed, joined, settled, reached, heard⟩ : ∃ printed,
      joinParts ((items.map embed).map fun value => body.pieces values (bindName scope key value)) =
        .ok printed ∧ Settled start.place printed start.place ∧
      readOn name start.reading (labels start.place printed) = start.reading ∧
      noted name start.reading (labels start.place printed) = items.flatMap note := by
    clear listed
    induction items with
    | nil => exact ⟨[], rfl, .nil _, rfl, rfl⟩
    | cons item rest ih =>
        obtain ⟨printed, found, settled, reached, heard⟩ := round item List.mem_cons_self
        obtain ⟨printed', found', settled', reached', heard'⟩ :=
          ih fun other member => round other (List.mem_cons_of_mem _ member)
        refine ⟨printed ++ printed', joinParts_eq_ok_iff.mpr ⟨_, _, found, found', rfl⟩,
          settled.append settled', ?_, ?_⟩
        · rw [labels_append settled, readOn_append, reached, reached']
        · rw [labels_append settled, noted_append, reached, heard, heard', List.flatMap_cons]
  exact ⟨printed, pieces_each_eq_ok_iff.mpr ⟨_, listed, joined⟩, settled, reached, heard⟩

/-- The elements that a browser reads in the printed page. -/
theorem elements {template : Template} {stop : Point}
    (leads : Leads values name scope template ⟨.text, ⟨[], false⟩⟩ stop notes)
    (inert : ∀ printed, template.pieces values scope = .ok printed → Inert printed) :
    ∃ printed, template.pieces values scope = .ok printed ∧
      Markup.elements name (writeAll printed) = (gather notes).2 := by
  obtain ⟨printed, found, settled, _, heard⟩ := leads
  have read := settled.scan (inert printed found) []
  rw [List.append_nil, scan_nil, List.append_nil] at read
  refine ⟨printed, found, ?_⟩
  rw [Markup.elements, read, heard]

end Leads

end Template

end HighperfServer.Library
