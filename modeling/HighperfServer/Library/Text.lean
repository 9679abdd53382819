import Mathlib.Algebra.Group.Nat.Defs
import Mathlib.Data.List.DropRight
import Mathlib.Data.List.TakeWhile

namespace HighperfServer.Library

section Join
variable {A B : Type}

/-- Mapping distributes over joined parts. -/
theorem map_intercalate (change : A → B) (separator : List A) (parts : List (List A)) :
    (separator.intercalate parts).map change =
      (separator.map change).intercalate (parts.map fun part => part.map change) := by
  induction parts with
  | nil => rfl
  | cons first rest ih =>
      cases rest with
      | nil => simp
      | cons second more =>
          rw [List.intercalate_cons_cons, List.map_append, List.map_append, ih, List.map_cons,
            List.map_cons, List.map_cons, List.intercalate_cons_cons]

/-- Joined parts pass a test when every part does. -/
theorem all_intercalate {accepted : A → Bool} {separator : List A}
    (separated : separator.all accepted = true) (parts : List (List A)) :
    (separator.intercalate parts).all accepted = parts.all fun part => part.all accepted := by
  induction parts with
  | nil => rfl
  | cons first rest ih =>
      cases rest with
      | nil => simp
      | cons second more =>
          rw [List.intercalate_cons_cons, List.all_append, List.all_append, ih, separated,
            Bool.and_true, List.all_cons, List.all_cons, List.all_cons]

/-- Joined parts are the first one and the others behind separators. -/
theorem intercalate_cons_eq_flatMap (separator : A) (first : List A) (others : List (List A)) :
    [separator].intercalate (first :: others) = first ++ others.flatMap (separator :: ·) := by
  induction others generalizing first with
  | nil => simp [List.intercalate]
  | cons second more ih =>
      have tail := ih second
      simp only [List.intercalate, List.intersperse_cons_cons, List.flatten_cons, List.flatMap_cons,
        List.cons_append, List.nil_append] at tail ⊢
      rw [tail]

end Join

section Pieces
variable {A : Type} [DecidableEq A]

/-- The non-empty pieces between the separators. -/
def pieces (separator : A) (text : List A) : List (List A) :=
  (text.splitOn separator).filter (fun piece => piece ≠ [])

/-- A text splits at its first separator. -/
def splitOnce (separator : A) : List A → Option (List A × List A)
  | [] => none
  | head :: rest =>
      if head = separator then some ([], rest)
      else (splitOnce separator rest).map fun (before, after) => (head :: before, after)

@[simp] theorem pieces_nil (separator : A) : pieces separator [] = [] := by
  simp [pieces]

/-- A separator splits the pieces of a text. -/
theorem pieces_append_cons (separator : A) (first second : List A) :
    pieces separator (first ++ separator :: second) =
      pieces separator first ++ pieces separator second := by
  rw [pieces, List.splitOn_append_cons_self, List.filter_append]
  rfl

@[simp] theorem pieces_cons_self (separator : A) (text : List A) :
    pieces separator (separator :: text) = pieces separator text := by
  have split := pieces_append_cons separator [] text
  rwa [pieces_nil, List.nil_append, List.nil_append] at split

/-- No part of a split text contains the separator. -/
theorem not_mem_of_mem_splitOn {separator : A} {text part : List A}
    (member : part ∈ text.splitOn separator) : separator ∉ part := by
  induction text generalizing part with
  | nil =>
      rw [List.splitOn_nil, List.mem_singleton] at member
      simp [member]
  | cons head text ih =>
      rw [List.splitOn_cons_eq_if_modifyHead] at member
      by_cases same : head = separator
      · rw [if_pos (beq_iff_eq.mpr same), List.mem_cons] at member
        rcases member with empty | later
        · simp [empty]
        · exact ih later
      · rw [if_neg (by simpa using same)] at member
        cases parts : text.splitOn separator with
        | nil => exact absurd parts (List.splitOn_ne_nil separator text)
        | cons first rest =>
            rw [parts, List.modifyHead_cons, List.mem_cons] at member
            rcases member with extended | later
            · have clean : separator ∉ first := ih (by rw [parts]; exact List.mem_cons_self)
              rw [extended, List.mem_cons, not_or]
              exact ⟨fun equal => same equal.symm, clean⟩
            · exact ih (by rw [parts]; exact List.mem_cons_of_mem _ later)

/-- A piece is not empty and contains no separator. -/
theorem mem_pieces {separator : A} {text piece : List A} (member : piece ∈ pieces separator text) :
    piece ≠ [] ∧ separator ∉ piece := by
  obtain ⟨part, filled⟩ := List.mem_filter.mp member
  exact ⟨by simpa using filled, not_mem_of_mem_splitOn part⟩

/-- The pieces of joined pieces are the pieces again. -/
theorem pieces_intercalate {separator : A} {parts : List (List A)}
    (clean : ∀ part ∈ parts, part ≠ [] ∧ separator ∉ part) :
    pieces separator ([separator].intercalate parts) = parts := by
  cases parts with
  | nil => simp
  | cons first rest =>
      rw [pieces, List.splitOn_intercalate separator (fun part member => (clean part member).2)
        (List.cons_ne_nil _ _)]
      apply List.filter_eq_self.mpr
      intro part member
      simpa using (clean part member).1

/-- The pieces of joined texts are the pieces of each. -/
theorem pieces_intercalate_eq_flatMap (separator : A) (texts : List (List A)) :
    pieces separator ([separator].intercalate texts) = texts.flatMap (pieces separator) := by
  induction texts with
  | nil => exact pieces_nil separator
  | cons first rest ih =>
      cases rest with
      | nil => rw [List.intercalate_singleton, List.flatMap_singleton]
      | cons second more =>
          rw [List.intercalate_cons_cons, List.append_assoc, List.singleton_append,
            pieces_append_cons, ih]
          rfl

/-- A text without the separator is its only part. -/
theorem splitOn_of_not_mem {separator : A} {text : List A} (clean : separator ∉ text) :
    text.splitOn separator = [text] := by
  have split : ([separator].intercalate [text]).splitOn separator = [text] :=
    List.splitOn_intercalate separator (by simpa using clean) (List.cons_ne_nil _ _)
  rwa [List.intercalate_singleton] at split

/-- Terminated lines are split into the lines and an empty rest. -/
theorem splitOn_terminated {separator : A} {lines : List (List A)}
    (clean : ∀ line ∈ lines, separator ∉ line) :
    (lines.flatMap fun line => line ++ [separator]).splitOn separator = lines ++ [[]] := by
  induction lines with
  | nil => simp
  | cons line lines ih =>
      obtain ⟨first, rest⟩ := List.forall_mem_cons.mp clean
      rw [List.flatMap_cons, List.append_assoc, List.singleton_append,
        List.splitOn_append_cons_self, splitOn_of_not_mem first, ih rest]
      rfl

/-- A text without the separator is one piece. -/
theorem pieces_of_not_mem {separator : A} {text : List A} (clean : separator ∉ text)
    (filled : text ≠ []) : pieces separator text = [text] := by
  rw [pieces, splitOn_of_not_mem clean, List.filter_singleton]
  simp [filled]

theorem splitOnce_of_not_mem {separator : A} {text : List A}
    (clean : separator ∉ text) : splitOnce separator text = none := by
  induction text with
  | nil => rfl
  | cons head text ih =>
      rw [List.mem_cons, not_or] at clean
      rw [splitOnce, if_neg (fun same => clean.1 same.symm), ih clean.2]
      rfl

/-- The text before its first separator is split off. -/
theorem splitOnce_append_cons {separator : A} {text : List A}
    (clean : separator ∉ text) (rest : List A) :
    splitOnce separator (text ++ separator :: rest) = some (text, rest) := by
  induction text with
  | nil => simp [splitOnce]
  | cons head text ih =>
      rw [List.mem_cons, not_or] at clean
      rw [List.cons_append, splitOnce, if_neg (fun same => clean.1 same.symm), ih clean.2]
      rfl

/-- A search over the parts of a text that was joined with a separator and a filler ignores the
filler when the search does. -/
theorem findSome_splitOn_joined {B : Type} {separator filler : A} (different : filler ≠ separator)
    {search : List A → Option B} (ignores : ∀ part, search (filler :: part) = search part)
    {parts : List (List A)} (clean : ∀ part ∈ parts, separator ∉ part) (filled : parts ≠ []) :
    (([separator, filler].intercalate parts).splitOn separator).findSome? search =
      parts.findSome? search := by
  induction parts with
  | nil => exact absurd rfl filled
  | cons first rest ih =>
      have firstClean := clean first List.mem_cons_self
      cases rest with
      | nil => rw [List.intercalate_singleton, splitOn_of_not_mem firstClean]
      | cons second more =>
          have tail := ih (fun part member => clean part (List.mem_cons_of_mem _ member))
            (List.cons_ne_nil _ _)
          rw [List.intercalate_cons_cons, List.append_assoc, List.cons_append, List.cons_append,
            List.nil_append, List.splitOn_append_cons_self, splitOn_of_not_mem firstClean,
            List.findSome?_append, List.splitOn_cons_eq_if_modifyHead,
            if_neg (by simpa using different)]
          cases parts : ([separator, filler].intercalate (second :: more)).splitOn separator with
          | nil => exact absurd parts (List.splitOn_ne_nil _ _)
          | cons head others =>
              have same : ((filler :: head) :: others).findSome? search =
                  (second :: more).findSome? search := by
                rw [← tail, parts, List.findSome?_cons, List.findSome?_cons, ignores]
              rw [List.modifyHead_cons, same, ← List.findSome?_append]
              rfl

theorem decide_ne_of_not_mem {stop : A} {text : List A} (clean : stop ∉ text) :
    ∀ char ∈ text, decide (char ≠ stop) = true := by
  intro char member
  apply decide_eq_true
  rintro rfl
  exact clean member

/-- Taking up to a separator stops at the first one. -/
theorem takeWhile_ne_append_cons {stop : A} {text : List A} (clean : stop ∉ text)
    (rest : List A) : (text ++ stop :: rest).takeWhile (fun char => char ≠ stop) = text := by
  rw [List.takeWhile_append_of_pos (decide_ne_of_not_mem clean),
    List.takeWhile_cons_of_neg (by simp), List.append_nil]

theorem takeWhile_ne_of_not_mem {stop : A} {text : List A} (clean : stop ∉ text) :
    text.takeWhile (fun char => char ≠ stop) = text :=
  List.takeWhile_eq_self_iff.mpr (decide_ne_of_not_mem clean)

/-- Dropping back to a separator stops at the last one. -/
theorem rdropWhile_append_cons {separator : A} {text : List A} (before : List A)
    (clean : separator ∉ text) :
    (before ++ separator :: text).rdropWhile (· ≠ separator) = before ++ [separator] := by
  induction text using List.reverseRecOn with
  | nil => exact List.rdropWhile_concat_neg _ _ _ (by simp)
  | append_singleton text last ih =>
      rw [List.mem_append, not_or, List.mem_singleton] at clean
      rw [← List.cons_append, ← List.append_assoc,
        List.rdropWhile_concat_pos _ _ _ (by simpa using Ne.symm clean.2)]
      exact ih clean.1

end Pieces

/-- The characters with the Unicode property `White_Space`. -/
def isWhitespace (char : Char) : Bool :=
  (9 ≤ char.toNat ∧ char.toNat ≤ 13) ∨ (0x2000 ≤ char.toNat ∧ char.toNat ≤ 0x200A) ∨
    char.toNat ∈ [0x20, 0x85, 0xA0, 0x1680, 0x2028, 0x2029, 0x202F, 0x205F, 0x3000]

/-- `str::trim` drops the white space at both ends. -/
def trim (text : List Char) : List Char :=
  (text.dropWhile isWhitespace).rdropWhile isWhitespace

/-- A leading blank does not survive trimming. -/
theorem trim_cons_blank (text : List Char) : trim (' ' :: text) = trim text := by
  rw [trim, List.dropWhile_cons_of_pos (by decide), ← trim]

/-- White space on both sides does not survive trimming. -/
theorem trim_padded {before after : List Char} (text : List Char)
    (front : ∀ char ∈ before, isWhitespace char = true)
    (back : ∀ char ∈ after, isWhitespace char = true) :
    trim (before ++ text ++ after) = trim text := by
  have cut (kept : List Char) :
      (kept ++ after).rdropWhile isWhitespace = kept.rdropWhile isWhitespace := by
    have reversed : ∀ char ∈ after.reverse, isWhitespace char = true := by
      simpa only [List.mem_reverse] using back
    rw [List.rdropWhile, List.reverse_append, List.dropWhile_append_of_pos reversed, List.rdropWhile]
  rw [trim, trim, List.append_assoc, List.dropWhile_append_of_pos front, List.dropWhile_append]
  split
  · rename_i empty
    rw [List.isEmpty_iff.mp empty, List.dropWhile_eq_nil_iff.mpr back]
  · exact cut _

/-- A text without white space at its ends loses none there. -/
theorem rdropWhile_of_trim {text : List Char} (trimmed : trim text = text) :
    text.rdropWhile isWhitespace = text := by
  have shorter := (List.rdropWhile_prefix isWhitespace
    (l := text.dropWhile isWhitespace)).length_le
  have suffix := List.dropWhile_suffix isWhitespace (l := text)
  rw [← trim, trimmed] at shorter
  have front : text.dropWhile isWhitespace = text := suffix.eq_of_length_le shorter
  rwa [trim, front] at trimmed

/-- Trimming a text that starts with solid characters only cuts its end. -/
theorem trim_append_cons {before : List Char} {stop : Char} (after : List Char)
    (clean : ∀ char ∈ before, isWhitespace char = false) (solid : isWhitespace stop = false) :
    trim (before ++ stop :: after) = before ++ stop :: after.rdropWhile isWhitespace := by
  have front : (before ++ stop :: after).dropWhile isWhitespace = before ++ stop :: after := by
    cases before with
    | nil => exact List.dropWhile_cons_of_neg (by simp [solid])
    | cons first rest =>
        exact List.dropWhile_cons_of_neg (by simp [clean first List.mem_cons_self])
  rw [trim, front, List.rdropWhile, List.rdropWhile, List.reverse_append, List.reverse_cons,
    List.append_assoc, List.dropWhile_append]
  have stops : ([stop] ++ before.reverse).dropWhile isWhitespace = [stop] ++ before.reverse :=
    List.dropWhile_cons_of_neg (by simp [solid])
  split
  · rename_i empty
    rw [stops, List.isEmpty_iff.mp empty]
    simp
  · simp

/-- A text has a delimited key in front exactly when that is what stands before its first
delimiter. -/
theorem isPrefixOf_delimited {A : Type} [DecidableEq A] {delimiter : A} {key before : List A}
    (keyClean : delimiter ∉ key) (clean : delimiter ∉ before) (after : List A) :
    (key ++ [delimiter]).isPrefixOf? (before ++ delimiter :: after) =
      if before = key then some after else none := by
  induction key generalizing before with
  | nil =>
      cases before with
      | nil => simp [List.isPrefixOf?]
      | cons first rest =>
          have different : delimiter ≠ first := fun same => clean (by simp [same])
          simp [List.isPrefixOf?, different]
  | cons head tail ih =>
      have headSolid : head ≠ delimiter := fun same => keyClean (by simp [same])
      have tailClean : delimiter ∉ tail := fun member => keyClean (List.mem_cons_of_mem _ member)
      cases before with
      | nil => simp [List.isPrefixOf?, headSolid]
      | cons first rest =>
          have restClean : delimiter ∉ rest := fun member => clean (List.mem_cons_of_mem _ member)
          rw [List.cons_append, List.cons_append, List.isPrefixOf?, ih tailClean restClean]
          by_cases same : head = first
          · simp [same]
          · simp [same, Ne.symm same]

/-- The value of a decimal digit. -/
def digitValue (digit : Char) : Option Nat :=
  if '0' ≤ digit ∧ digit ≤ '9' then some (digit.toNat - '0'.toNat) else none

/-- The value of decimal digits that follow a total. -/
def parseDigits (total : Nat) : List Char → Option Nat
  | [] => some total
  | digit :: rest => (digitValue digit).bind fun value => parseDigits (total * 10 + value) rest

/-- `str::parse` for an unsigned type accepts a leading plus and rejects an overflow. -/
def parseUnsigned (bits : Nat) (text : List Char) : Option Nat :=
  let digits := match text with
    | '+' :: digits => digits
    | digits => digits
  if digits = [] then none else (parseDigits 0 digits).filter (fun value => value < 2 ^ bits)

end HighperfServer.Library
