import Mathlib.Data.List.Basic

namespace HighperfServer.Library

/-- A character of a page stands in its text, in a tag, or in a quoted attribute value. -/
inductive Place where
  | text
  | tag
  | value
  deriving DecidableEq, Repr

namespace Markup

/-- An angle bracket opens and closes a tag, and a double quote a value. -/
def next : Place → Char → Place
  | .text, '<' => .tag
  | .tag, '>' => .text
  | .tag, '"' => .value
  | .value, '"' => .tag
  | place, _ => place

/-- A delimiter belongs to its tag. -/
def label (place : Place) (char : Char) : Place :=
  if next place char = place then place else .tag

/-- The characters that mean something in a page become references. -/
def escapeChar (char : Char) : List Char :=
  if char = '&' then "&amp;".toList
  else if char = '<' then "&lt;".toList
  else if char = '>' then "&gt;".toList
  else if char = '"' then "&quot;".toList
  else if char = '\'' then "&#x27;".toList
  else if char = '/' then "&#x2F;".toList
  else [char]

def escape (text : List Char) : List Char := text.flatMap escapeChar

/-- The references that an escaped text contains. -/
def references : List (List Char × Char) :=
  [("&amp;".toList, '&'), ("&lt;".toList, '<'), ("&gt;".toList, '>'), ("&quot;".toList, '"'),
    ("&#x27;".toList, '\''), ("&#x2F;".toList, '/')]

/-- A text that starts with a reference stands for a character. -/
def reference (text : List Char) : Option (Char × List Char) :=
  references.findSome? fun entry =>
    if entry.1.isPrefixOf text then some (entry.2, text.drop entry.1.length) else none

/-- References are decoded outside tags. -/
def decoded (place : Place) (text : List Char) : Option (Char × List Char) :=
  if place = .tag then none else reference text

/-- A character reference consumes a part of the text. -/
theorem reference_shortens {text rest : List Char} {char : Char}
    (found : reference text = some (char, rest)) : rest.length < text.length := by
  obtain ⟨entry, member, matched⟩ := List.exists_of_findSome?_eq_some found
  obtain ⟨starts, same⟩ := Option.ite_none_right_eq_some.mp matched
  obtain ⟨_, rfl⟩ := Prod.mk.inj (Option.some.inj same)
  obtain ⟨tail, rfl⟩ := List.isPrefixOf_iff_prefix.mp starts
  have long : 0 < entry.1.length := by
    simp only [references, List.mem_cons, List.not_mem_nil, or_false] at member
    rcases member with rfl | rfl | rfl | rfl | rfl | rfl <;> decide
  rw [List.length_drop, List.length_append]
  omega

theorem decoded_shortens {place : Place} {text rest : List Char} {char : Char}
    (found : decoded place text = some (char, rest)) : rest.length < text.length :=
  reference_shortens (Option.ite_none_left_eq_some.mp found).2

/-- A browser reads a page as characters with their places. -/
def scan (place : Place) (text : List Char) : List (Place × Char) :=
  match text with
  | [] => []
  | char :: rest =>
      match _found : decoded place (char :: rest) with
      | some (meant, after) => (place, meant) :: scan place after
      | none => (label place char, char) :: scan (next place char) rest
  termination_by text.length
  decreasing_by
    · exact decoded_shortens _found
    · simp

/-- The place after a literal text, which may hold no reference. -/
def walk : Place → List Char → Option Place
  | place, [] => some place
  | place, char :: rest =>
      if char = '&' then none
      -- the match computes the place at once, so that a long text is evaluated step by step
      else match next place char with
        | .text => walk .text rest
        | .tag => walk .tag rest
        | .value => walk .value rest

/-- A walk goes on from the place after its first character. -/
theorem walk_cons_eq_some_iff {place after : Place} {char : Char} {rest : List Char} :
    walk place (char :: rest) = some after ↔ char ≠ '&' ∧ walk (next place char) rest = some after := by
  rw [walk, Option.ite_none_left_eq_some]
  cases next place char <;> rfl

theorem scan_nil (place : Place) : scan place [] = [] := by
  rw [scan]

/-- A decoded character is scanned as one. -/
theorem scan_of_decoded {place : Place} {text rest : List Char} {char : Char}
    (found : decoded place text = some (char, rest)) :
    scan place text = (place, char) :: scan place rest := by
  cases text with
  | nil => exact absurd (decoded_shortens found) (by simp)
  | cons first tail =>
      rw [scan]
      split
      · rename_i meant after same
        obtain ⟨rfl, rfl⟩ := Prod.mk.inj (Option.some.inj (found.symm.trans same))
        rfl
      · rename_i missing
        exact absurd (found.symm.trans missing) (by simp)

/-- Only an ampersand starts a reference. -/
theorem decoded_eq_none {char : Char} (plain : char ≠ '&') (place : Place) (rest : List Char) :
    decoded place (char :: rest) = none := by
  simp [decoded, reference, references, plain.symm]

/-- A plain character is scanned as itself. -/
theorem scan_cons {char : Char} (plain : char ≠ '&') (place : Place) (rest : List Char) :
    scan place (char :: rest) = (label place char, char) :: scan (next place char) rest := by
  rw [scan]
  split
  · rename_i found
    exact absurd (found.symm.trans (decoded_eq_none plain place rest)) (by simp)
  · rfl

/-- A literal text is read alone. -/
theorem scan_append {place after : Place} {text : List Char} (walked : walk place text = some after)
    (rest : List Char) : scan place (text ++ rest) = scan place text ++ scan after rest := by
  induction text generalizing place with
  | nil =>
      obtain rfl := Option.some.inj walked
      rw [scan_nil]
      rfl
  | cons char tail ih =>
      obtain ⟨plain, walked⟩ := walk_cons_eq_some_iff.mp walked
      rw [List.cons_append, scan_cons plain, scan_cons plain, ih walked]
      rfl

/-- A listed reference is decoded. -/
theorem decoded_reference {place : Place} (outside : place ≠ .tag) {entry : List Char × Char}
    (member : entry ∈ references) (rest : List Char) :
    decoded place (entry.1 ++ rest) = some (entry.2, rest) := by
  simp only [references, List.mem_cons, List.not_mem_nil, or_false] at member
  rw [decoded, if_neg outside]
  rcases member with rfl | rfl | rfl | rfl | rfl | rfl <;> rfl

/-- A character is kept, or a reference stands for it. -/
theorem escapeChar_cases (char : Char) :
    (escapeChar char, char) ∈ references ∨
      escapeChar char = [char] ∧ char ≠ '&' ∧ ∀ place, place ≠ .tag → next place char = place := by
  unfold escapeChar
  by_cases ampersand : char = '&'
  · exact .inl (by simp [ampersand, references])
  by_cases less : char = '<'
  · exact .inl (by simp [less, references])
  by_cases greater : char = '>'
  · exact .inl (by simp [greater, references])
  by_cases quote : char = '"'
  · exact .inl (by simp [quote, references])
  by_cases apostrophe : char = '\''
  · exact .inl (by simp [apostrophe, references])
  by_cases slash : char = '/'
  · exact .inl (by simp [slash, references])
  refine .inr ⟨by simp [ampersand, less, greater, quote, apostrophe, slash], ampersand, ?_⟩
  intro place outside
  cases place with
  | tag => exact absurd rfl outside
  | text | value => simp [next, less, quote]

/-- An escaped character is read as the character, and it leaves the place alone. -/
theorem scan_escapeChar {place : Place} (outside : place ≠ .tag) (char : Char) (rest : List Char) :
    scan place (escapeChar char ++ rest) = (place, char) :: scan place rest := by
  rcases escapeChar_cases char with listed | ⟨kept, plain, stays⟩
  · exact scan_of_decoded (decoded_reference outside listed rest)
  · rw [kept, List.singleton_append, scan_cons plain, label, if_pos (stays place outside),
      stays place outside]

/-- A text without special characters is its own escape. -/
theorem escape_eq_self {text : List Char}
    (plain : ∀ char ∈ text, char ∉ ['&', '<', '>', '"', '\'', '/']) : escape text = text := by
  have kept (char : Char) (member : char ∈ text) : escapeChar char = [char] := by
    have listed := plain char member
    simp only [List.mem_cons, List.not_mem_nil, or_false, not_or] at listed
    simp [escapeChar, listed]
  rw [escape, List.flatMap_congr kept, List.flatMap_singleton']

/-- An escaped text is read as the text. -/
theorem scan_escape {place : Place} (outside : place ≠ .tag) (text rest : List Char) :
    scan place (escape text ++ rest) = text.map (place, ·) ++ scan place rest := by
  induction text with
  | nil => rfl
  | cons char tail ih =>
      rw [escape, List.flatMap_cons, List.append_assoc, scan_escapeChar outside]
      rw [escape] at ih
      rw [ih]
      rfl

/-- The reader of the elements with one name knows the tag that it has seen so far and whether it is
inside such an element. -/
structure Reading where
  seen : List Char
  inside : Bool
  deriving DecidableEq, Repr

namespace Reading
variable (name : List Char)

/-- A tag with the name opens the element, and one with a slash before it closes it. -/
def next (reading : Reading) (mark : Place × Char) : Reading :=
  match mark.1 with
  | .text | .value => reading
  | .tag =>
      if mark.2 = '<' then { reading with seen := [] }
      else if mark.2 = '>' then
        ⟨[], if reading.seen = name then true
          else if reading.seen = '/' :: name then false else reading.inside⟩
      else { reading with seen := reading.seen ++ [mark.2] }

/-- The reader notes the start of an element and the characters in it. -/
def notes (reading : Reading) (mark : Place × Char) : List (Option Char) :=
  match mark.1 with
  | .text => if reading.inside then [some mark.2] else []
  | .value => []
  | .tag => if mark.2 = '>' ∧ reading.seen = name then [none] else []

end Reading

section Elements
variable (name : List Char)

def readOn (reading : Reading) (marks : List (Place × Char)) : Reading :=
  marks.foldl (Reading.next name) reading

def noted : Reading → List (Place × Char) → List (Option Char)
  | _, [] => []
  | reading, mark :: rest => reading.notes name mark ++ noted (reading.next name mark) rest

/-- The notes since the last start of an element, and the texts of the elements before. -/
def gather (notes : List (Option Char)) : List Char × List (List Char) :=
  notes.foldr (fun note rest =>
    match note with
    | some char => (char :: rest.1, rest.2)
    | none => ([], rest.1 :: rest.2)) ([], [])

/-- The texts of the elements with the name in a page. -/
def elements (page : List Char) : List (List Char) :=
  (gather (noted name ⟨[], false⟩ (scan .text page))).2

/-- The notes of a longer text continue those of its first part. -/
theorem noted_append (reading : Reading) (first second : List (Place × Char)) :
    noted name reading (first ++ second) =
      noted name reading first ++ noted name (readOn name reading first) second := by
  induction first generalizing reading with
  | nil => rfl
  | cons mark rest ih =>
      rw [List.cons_append, noted, noted, ih, List.append_assoc]
      rfl

theorem readOn_append (reading : Reading) (first second : List (Place × Char)) :
    readOn name reading (first ++ second) = readOn name (readOn name reading first) second :=
  List.foldl_append

/-- A reader ignores attribute values and notes the text inside an element. -/
theorem noted_value {place : Place} (outside : place ≠ .tag) (reading : Reading)
    (content : List Char) :
    readOn name reading (content.map (place, ·)) = reading ∧
      noted name reading (content.map (place, ·)) =
        if place = .text ∧ reading.inside = true then content.map some else [] := by
  have stays (char : Char) : reading.next name (place, char) = reading := by
    cases place with
    | tag => exact absurd rfl outside
    | text | value => rfl
  have heard (char : Char) : reading.notes name (place, char) =
      if place = .text ∧ reading.inside = true then [some char] else [] := by
    cases place with
    | tag => exact absurd rfl outside
    | text | value => simp [Reading.notes]
  induction content with
  | nil => exact ⟨rfl, by simp [noted]⟩
  | cons char rest ih =>
      constructor
      · rw [List.map_cons, readOn, List.foldl_cons, stays]
        exact ih.1
      · rw [List.map_cons, noted, stays, ih.2, heard]
        split <;> rfl

/-- The reader goes through a literal text, which may hold no reference. -/
def follow : Place → Reading → List Char → Option (Place × Reading × List (Option Char))
  | place, reading, [] => some (place, reading, [])
  | place, reading, char :: rest =>
      if char = '&' then none
      else (follow (next place char) (reading.next name (label place char, char)) rest).map
        fun (last, behind, notes) => (last, behind, reading.notes name (label place char, char) ++ notes)

/-- What the reader meets in a literal text is what a browser reads there. -/
theorem follow_spec {name : List Char} {place last : Place} {reading behind : Reading}
    {text : List Char} {notes : List (Option Char)}
    (followed : follow name place reading text = some (last, behind, notes)) :
    walk place text = some last ∧ readOn name reading (scan place text) = behind ∧
      noted name reading (scan place text) = notes := by
  induction text generalizing place reading last behind notes with
  | nil =>
      obtain ⟨rfl, rest⟩ := Prod.mk.inj (Option.some.inj followed)
      obtain ⟨rfl, rfl⟩ := Prod.mk.inj rest
      rw [scan_nil]
      exact ⟨rfl, rfl, rfl⟩
  | cons char tail ih =>
      obtain ⟨plain, found⟩ := Option.ite_none_left_eq_some.mp followed
      obtain ⟨⟨end_, after, others⟩, there, same⟩ := Option.map_eq_some_iff.mp found
      obtain ⟨rfl, rest⟩ := Prod.mk.inj same
      obtain ⟨rfl, rfl⟩ := Prod.mk.inj rest
      obtain ⟨walked, reached, heard⟩ := ih there
      rw [scan_cons plain]
      refine ⟨walk_cons_eq_some_iff.mpr ⟨plain, walked⟩, ?_, ?_⟩
      · exact reached
      · rw [noted, heard]

end Elements

end Markup

end HighperfServer.Library
