import HighperfServer.Library.Text

namespace HighperfServer.Library.Exposition

/-- The metric types of the Prometheus text format 0.0.4. -/
inductive MetricType where
  | counter
  | gauge
  | histogram
  | summary
  | untyped
  deriving DecidableEq, Repr

/-- The words that a TYPE line may name. -/
def MetricType.words : List (List Char × MetricType) :=
  [("counter".toList, .counter), ("gauge".toList, .gauge), ("histogram".toList, .histogram),
    ("summary".toList, .summary), ("untyped".toList, .untyped)]

/-- A sample has labels, a value and an optional timestamp. -/
structure Sample (Value : Type) where
  labels : List (List Char × List Char)
  value : Value
  timestamp : Option Int

/-- A line is a comment, a HELP line, a TYPE line or a sample of a metric. -/
inductive Line (Value : Type) where
  | comment
  | help (name : List Char)
  | kind (name : List Char) (kind : MetricType)
  | sample (name : List Char) (sample : Sample Value)

section Lexical

def isBlank (char : Char) : Bool := char = ' ' ∨ char = '\t'

def isNameChar (char : Char) : Bool := char.isAlphanum ∨ char = '_' ∨ char = ':'

def isMetricName (name : List Char) : Bool :=
  name.all isNameChar ∧ name ≠ [] ∧ ¬ (name.head?.any Char.isDigit = true)

def isLabelName (name : List Char) : Bool := isMetricName name ∧ ':' ∉ name

/-- Blanks and tabs separate the tokens of a line. -/
def tokens (text : List Char) : List (List Char) :=
  pieces ' ' (text.map fun char => if char = '\t' then ' ' else char)

def quote : Char := Char.ofNat 34

def backslash : Char := Char.ofNat 92

def openBrace : Char := Char.ofNat 123

def closeBrace : Char := Char.ofNat 125

/-- A label value ends at the first quote that is not escaped. -/
def readQuoted : List Char → Option (List Char × List Char)
  | [] => none
  | char :: rest =>
      if char = quote then some ([], rest)
      else if char = backslash then
        match rest with
        | [] => none
        | escaped :: rest =>
            if escaped = quote ∨ escaped = backslash then
              (readQuoted rest).map fun (value, after) => (escaped :: value, after)
            else if escaped = 'n' then
              (readQuoted rest).map fun (value, after) => ('\n' :: value, after)
            else none
      else (readQuoted rest).map fun (value, after) => (char :: value, after)

/-- The labels behind an open brace, with a comma between two labels and perhaps one at the end. -/
def readLabels : Nat → List Char → Option (List (List Char × List Char) × List Char)
  | 0, _ => none
  | fuel + 1, text =>
      let text := text.dropWhile isBlank
      let name := text.takeWhile isNameChar
      let equals := (text.dropWhile isNameChar).dropWhile isBlank
      let quoted := equals.tail.dropWhile isBlank
      if text.head? = some closeBrace then some ([], text.tail)
      else if isLabelName name ∧ equals.head? = some '=' ∧ quoted.head? = some quote then
        (readQuoted quoted.tail).bind fun (value, after) =>
          let after := after.dropWhile isBlank
          if after.head? = some ',' then
            (readLabels fuel after.tail).map fun (labels, after) => ((name, value) :: labels, after)
          else if after.head? = some closeBrace then some ([(name, value)], after.tail)
          else none
      else none

/-- A timestamp is an integer. -/
def readInteger (text : List Char) : Option Int :=
  let digits := if text.head? = some '-' then text.tail else text
  if digits ≠ [] ∧ digits.all Char.isDigit then
    let value : Int := Nat.ofDigitChars 10 digits 0
    some (if text.head? = some '-' then -value else value)
  else none

end Lexical

section Lines
variable {Value : Type} (read : List Char → Option Value)

/-- The value and the timestamp of a sample. -/
def readValue (name : List Char) (labels : List (List Char × List Char)) :
    List (List Char) → Option (Line Value)
  | [value] => (read value).map fun value => .sample name ⟨labels, value, none⟩
  | [value, timestamp] =>
      (read value).bind fun value =>
        (readInteger timestamp).map fun timestamp => .sample name ⟨labels, value, some timestamp⟩
  | _ => none

/-- A sample starts with its metric name, and a blank or the labels follow. -/
def readSample (text : List Char) : Option (Line Value) :=
  let name := text.takeWhile isNameChar
  let rest := text.dropWhile isNameChar
  let body := rest.dropWhile isBlank
  if isMetricName name = false then none
  else if body.head? = some openBrace then
    (readLabels body.length body.tail).bind fun (labels, after) =>
      readValue read name labels (tokens after)
  else if rest.head?.any isBlank then readValue read name [] (tokens body)
  else none

/-- A comment is ignored unless its first token is HELP or TYPE. -/
def readComment : List (List Char) → Option (Line Value)
  | [] => some .comment
  | word :: arguments =>
      if word = "HELP".toList then
        match arguments with
        | [] => none
        | name :: _ => if isMetricName name then some (.help name) else none
      else if word = "TYPE".toList then
        match arguments with
        | [name, kind] =>
            if isMetricName name then (MetricType.words.lookup kind).map (.kind name) else none
        | _ => none
      else some .comment

/-- Leading blanks do not matter, and a line of blanks is ignored. -/
def readLine (line : List Char) : Option (Line Value) :=
  match line.dropWhile isBlank with
  | [] => some .comment
  | first :: rest =>
      if first = '#' then readComment (tokens rest) else readSample read (first :: rest)

end Lines

/-- The lines of one metric name form one group. -/
structure Family (Value : Type) where
  name : List Char
  kind : Option MetricType
  helped : Bool
  samples : List (Sample Value)

/-- A metric as a scraper stores it. -/
structure Metric (Value : Type) where
  name : List Char
  kind : MetricType
  samples : List (Sample Value)

section Groups
variable {Value : Type}

/-- A name opens a new group or continues the last one, and a second group is an error. -/
def openGroup (families : List (Family Value)) (name : List Char) :
    Option (List (Family Value) × Family Value) :=
  match families.getLast? with
  | some family =>
      if family.name = name then some (families.dropLast, family)
      else if name ∈ families.map Family.name then none
      else some (families, ⟨name, none, false, []⟩)
  | none => some ([], ⟨name, none, false, []⟩)

/-- HELP and TYPE come at most once and before the samples, which differ in their labels. -/
def addLine (families : List (Family Value)) : Line Value → Option (List (Family Value))
  | .comment => some families
  | .help name => (openGroup families name).bind fun (earlier, family) =>
      if family.helped = false ∧ family.samples.isEmpty then
        some (earlier ++ [{ family with helped := true }])
      else none
  | .kind name kind => (openGroup families name).bind fun (earlier, family) =>
      if family.kind = none ∧ family.samples.isEmpty then
        some (earlier ++ [{ family with kind := some kind }])
      else none
  | .sample name sample => (openGroup families name).bind fun (earlier, family) =>
      if sample.labels ∉ family.samples.map Sample.labels then
        some (earlier ++ [{ family with samples := family.samples ++ [sample] }])
      else none

/-- The lines are read in order, each into the groups so far. -/
def readLines (read : List Char → Option Value) (families : List (Family Value))
    (lines : List (List Char)) : Option (List (Family Value)) :=
  lines.foldlM (fun families line => (readLine read line).bind (addLine families)) families

/-- A metric without a TYPE line is untyped. -/
def Family.metric (family : Family Value) : Metric Value :=
  ⟨family.name, family.kind.getD .untyped, family.samples⟩

/-- Every line ends with a line feed, and a group without samples is no metric. -/
def parse (read : List Char → Option Value) (text : List Char) : Option (List (Metric Value)) :=
  let lines := text.splitOn '\n'
  if lines.getLast? = some [] then
    (readLines read [] lines.dropLast).map fun families =>
      (families.filter fun family => !family.samples.isEmpty).map Family.metric
  else none

end Groups

section Tokens

/-- A word has no blank. -/
def isWord (word : List Char) : Bool := word ≠ [] ∧ word.any isBlank = false

variable {word : List Char}

/-- A word contains no blank. -/
theorem not_mem_of_isWord (clean : isWord word = true) {char : Char} (blank : isBlank char = true) :
    char ∉ word := by
  intro member
  have none := (of_decide_eq_true clean).2
  rw [List.any_eq_true.mpr ⟨char, member, blank⟩] at none
  exact absurd none (by decide)

theorem tokens_blank (rest : List Char) : tokens (' ' :: rest) = tokens rest :=
  pieces_cons_self ' ' _

theorem untab_word (clean : isWord word = true) :
    (word.map fun char => if char = '\t' then ' ' else char) = word := by
  have same (char : Char) (member : char ∈ word) :
      (if char = '\t' then ' ' else char) = id char := by
    apply if_neg
    rintro rfl
    exact not_mem_of_isWord clean (by decide) member
  rw [List.map_congr_left same, List.map_id]

/-- A word is one token. -/
theorem tokens_single (clean : isWord word = true) : tokens word = [word] := by
  rw [tokens, untab_word clean, pieces_of_not_mem (not_mem_of_isWord clean (by decide))
    (of_decide_eq_true clean).1]

/-- A word before a blank is the first token. -/
theorem tokens_word (clean : isWord word = true) (rest : List Char) :
    tokens (word ++ ' ' :: rest) = word :: tokens rest := by
  have first := tokens_single clean
  rw [tokens] at first
  rw [tokens, List.map_append, List.map_cons, if_neg (by decide), pieces_append_cons, first]
  rfl

theorem not_mem_of_isMetricName (named : isMetricName word = true) {char : Char}
    (other : isNameChar char = false) : char ∉ word := by
  intro member
  have inside := List.all_eq_true.mp (of_decide_eq_true named).1 char member
  rw [other] at inside
  exact absurd inside (by decide)

/-- A metric name is a word. -/
theorem isWord_of_isMetricName (named : isMetricName word = true) : isWord word = true := by
  apply decide_eq_true
  refine ⟨(of_decide_eq_true named).2.1, List.any_eq_false.mpr fun char member blank => ?_⟩
  rcases of_decide_eq_true blank with rfl | rfl
  · exact not_mem_of_isMetricName named (by decide) member
  · exact not_mem_of_isMetricName named (by decide) member

end Tokens

section Reading
variable {Value : Type} (read : List Char → Option Value) {name : List Char}

/-- A help line names its metric. -/
theorem readLine_help (named : isMetricName name = true) (help : List Char) :
    readLine read ("# HELP ".toList ++ name ++ ' ' :: help) = some (.help name) := by
  have split : tokens (' ' :: ("HELP".toList ++ ' ' :: (name ++ ' ' :: help))) =
      "HELP".toList :: name :: tokens help := by
    rw [tokens_blank, tokens_word (by decide), tokens_word (isWord_of_isMetricName named)]
  have line : "# HELP ".toList ++ name ++ ' ' :: help =
      '#' :: ' ' :: ("HELP".toList ++ ' ' :: (name ++ ' ' :: help)) := by simp
  rw [line, readLine, List.dropWhile_cons_of_neg (by decide)]
  dsimp only
  rw [if_pos rfl, split, readComment, if_pos rfl]
  exact if_pos named

/-- A type line names its metric and the kind. -/
theorem readLine_kind (named : isMetricName name = true) {word : List Char} {kind : MetricType}
    (clean : isWord word = true) (known : MetricType.words.lookup word = some kind) :
    readLine read ("# TYPE ".toList ++ name ++ ' ' :: word) = some (.kind name kind) := by
  have split : tokens (' ' :: ("TYPE".toList ++ ' ' :: (name ++ ' ' :: word))) =
      ["TYPE".toList, name, word] := by
    rw [tokens_blank, tokens_word (by decide), tokens_word (isWord_of_isMetricName named),
      tokens_single clean]
  have line : "# TYPE ".toList ++ name ++ ' ' :: word =
      '#' :: ' ' :: ("TYPE".toList ++ ' ' :: (name ++ ' ' :: word)) := by simp
  rw [line, readLine, List.dropWhile_cons_of_neg (by decide)]
  dsimp only
  rw [if_pos rfl, split, readComment, if_neg (by decide), if_pos rfl]
  dsimp only
  rw [if_pos named, known]
  rfl

/-- A word starts without a blank. -/
theorem dropWhile_word {word : List Char} (clean : isWord word = true) (rest : List Char) :
    (word ++ rest).dropWhile isBlank = word ++ rest := by
  cases word with
  | nil => exact absurd rfl (of_decide_eq_true clean).1
  | cons first word =>
      apply List.dropWhile_cons_of_neg
      intro blank
      exact not_mem_of_isWord clean blank List.mem_cons_self

/-- A sample line names its metric and the value. -/
theorem readLine_sample (named : isMetricName name = true) {word : List Char} {value : Value}
    (clean : isWord word = true) (plain : word.head? ≠ some openBrace)
    (known : read word = some value) :
    readLine read (name ++ ' ' :: word) = some (.sample name ⟨[], value, none⟩) := by
  have chars := List.all_eq_true.mp (of_decide_eq_true named).1
  have before : (name ++ ' ' :: word).takeWhile isNameChar = name := by
    rw [List.takeWhile_append_of_pos chars, List.takeWhile_cons_of_neg (by decide), List.append_nil]
  have behind : (name ++ ' ' :: word).dropWhile isNameChar = ' ' :: word := by
    rw [List.dropWhile_append_of_pos chars, List.dropWhile_cons_of_neg (by decide)]
  have body : (' ' :: word).dropWhile isBlank = word := by
    have solid := dropWhile_word clean []
    rw [List.append_nil] at solid
    rw [List.dropWhile_cons_of_pos (by decide), solid]
  have sampled : readSample read (name ++ ' ' :: word) = some (.sample name ⟨[], value, none⟩) := by
    unfold readSample
    simp only [before, behind, body, named, plain, if_false, tokens_single clean, readValue, known]
    rfl
  rw [readLine, dropWhile_word (isWord_of_isMetricName named)]
  cases name with
  | nil => exact absurd rfl (of_decide_eq_true named).2.1
  | cons first name =>
      have unmarked : first ≠ '#' := by
        rintro rfl
        exact absurd (chars '#' List.mem_cons_self) (by decide)
      exact (if_neg unmarked).trans sampled

end Reading

section Grouping
variable {Value : Type} {families : List (Family Value)}

/-- A new name opens a group. -/
theorem openGroup_new {name : List Char} (fresh : name ∉ families.map Family.name) :
    openGroup families name = some (families, ⟨name, none, false, []⟩) := by
  unfold openGroup
  cases last : families.getLast? with
  | none =>
      rw [List.getLast?_eq_none_iff.mp last]
  | some family =>
      have listed : family.name ∈ families.map Family.name :=
        List.mem_map_of_mem (List.mem_of_getLast? last)
      have different : family.name ≠ name := by
        rintro rfl
        exact fresh listed
      dsimp only
      rw [if_neg different, if_neg fresh]

/-- The last family goes on with its own name. -/
theorem openGroup_last (family : Family Value) :
    openGroup (families ++ [family]) family.name = some (families, family) := by
  rw [openGroup, List.getLast?_concat]
  dsimp only
  rw [if_pos rfl, List.dropLast_concat]

/-- A HELP line and a TYPE line of a new name open its group. -/
theorem readLines_declaration (read : List Char → Option Value) {name help word : List Char}
    {kind : MetricType} (fresh : name ∉ families.map Family.name)
    (named : isMetricName name = true) (clean : isWord word = true)
    (known : MetricType.words.lookup word = some kind) :
    readLines read families
        ["# HELP ".toList ++ name ++ ' ' :: help, "# TYPE ".toList ++ name ++ ' ' :: word] =
      some (families ++ [⟨name, some kind, true, []⟩]) := by
  have helped : addLine families (.help name) = some (families ++ [⟨name, none, true, []⟩]) := by
    rw [addLine, openGroup_new fresh]
    rfl
  have typed : addLine (families ++ [⟨name, none, true, []⟩]) (.kind name kind) =
      some (families ++ [⟨name, some kind, true, []⟩]) := by
    rw [addLine, openGroup_last ⟨name, none, true, []⟩]
    rfl
  simp only [readLines, List.foldlM_cons, List.foldlM_nil, readLine_help read named,
    readLine_kind read named clean known, Option.bind_some, helped, typed, Option.bind_eq_bind]
  rfl

/-- A sample of the last group without one is its first. -/
theorem addLine_sample_last (family : Family Value) (none : family.samples = [])
    (sample : Sample Value) :
    addLine (families ++ [family]) (.sample family.name sample) =
      some (families ++ [{ family with samples := [sample] }]) := by
  rw [addLine, openGroup_last]
  simp [none]

/-- A sample of a new name opens its group. -/
theorem addLine_sample_new {name : List Char} (fresh : name ∉ families.map Family.name)
    (sample : Sample Value) :
    addLine families (.sample name sample) =
      some (families ++ [⟨name, none, false, [sample]⟩]) := by
  rw [addLine, openGroup_new fresh]
  simp

/-- The lines are read one after the other. -/
theorem readLines_append (read : List Char → Option Value) (first second : List (List Char)) :
    readLines read families (first ++ second) =
      (readLines read families first).bind fun families => readLines read families second :=
  List.foldlM_append

theorem readLines_single (read : List Char → Option Value) (line : List Char) :
    readLines read families [line] = (readLine read line).bind (addLine families) := by
  simp [readLines]

/-- Terminated lines are read one after the other. -/
theorem parse_lines (read : List Char → Option Value) {lines : List (List Char)}
    (clean : ∀ line ∈ lines, '\n' ∉ line) :
    parse read (lines.flatMap fun line => line ++ ['\n']) =
      (readLines read [] lines).map fun families =>
        (families.filter fun family => !family.samples.isEmpty).map Family.metric := by
  unfold parse
  rw [splitOn_terminated clean]
  dsimp only
  rw [List.getLast?_concat, if_pos rfl, List.dropLast_concat]

end Grouping

end HighperfServer.Library.Exposition
