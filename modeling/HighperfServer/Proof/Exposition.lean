import HighperfServer.Construction.Metrics
import HighperfServer.Library.Exposition

namespace HighperfServer
open Library Exposition

namespace Metrics

/-- The three lines that `gauge` or `counter` writes. -/
structure Block where
  name : Str
  help : Str
  isGauge : Bool
  value : Nat

namespace Block

/-- The block as the local function of its kind writes it. -/
def text (block : Block) : Str :=
  if block.isGauge then gauge block.name block.help block.value
  else counter block.name block.help block.value

theorem text_gauge (name help : Str) (value : Nat) :
    (Block.mk name help true value).text = gauge name help value := rfl

theorem text_counter (name help : Str) (value : Nat) :
    (Block.mk name help false value).text = counter name help value := rfl

/-- Only a counter's sample carries a suffix. -/
def sampleName (block : Block) : Str :=
  block.name ++ if block.isGauge then [] else "_total".toList

def word (block : Block) : Str := if block.isGauge then "gauge".toList else "counter".toList

def kind (block : Block) : MetricType := if block.isGauge then .gauge else .counter

def lines (block : Block) : List Str :=
  ["# HELP ".toList ++ block.name ++ ' ' :: block.help,
    "# TYPE ".toList ++ block.name ++ ' ' :: block.word,
    block.sampleName ++ ' ' :: decimal block.value]

/-- The pushed texts are three terminated lines. -/
theorem pushed_eq_lines (helpMark typeMark name help word suffix number : Str) :
    helpMark ++ name ++ [' '] ++ help ++ ['\n'] ++ typeMark ++ name ++ ' ' :: (word ++ ['\n']) ++
        name ++ (suffix ++ [' ']) ++ number ++ ['\n'] =
      [helpMark ++ name ++ ' ' :: help, typeMark ++ name ++ ' ' :: word,
        name ++ suffix ++ ' ' :: number].flatMap fun line => line ++ ['\n'] := by
  simp

/-- A block is the concatenation of its lines. -/
theorem text_eq_lines (block : Block) :
    block.text = block.lines.flatMap fun line => line ++ ['\n'] := by
  obtain ⟨name, help, isGauge, value⟩ := block
  cases isGauge with
  | true =>
      exact pushed_eq_lines "# HELP ".toList "# TYPE ".toList name help "gauge".toList []
        (decimal value)
  | false =>
      exact pushed_eq_lines "# HELP ".toList "# TYPE ".toList name help "counter".toList
        "_total".toList (decimal value)

/-- The names are metric names, and the help text is one line. -/
def WellFormed (block : Block) : Bool :=
  isMetricName block.name && isMetricName block.sampleName && !block.help.contains '\n'

/-- The type word of a block is a word that names its kind. -/
theorem word_known (block : Block) :
    isWord block.word = true ∧ MetricType.words.lookup block.word = some block.kind := by
  unfold word kind
  cases block.isGauge <;> decide

theorem digit_of_mem_decimal {number : Nat} {char : Char} (member : char ∈ decimal number) :
    char.isDigit = true := Nat.isDigit_of_mem_toDigits (by decide) (by decide) member

/-- A decimal number is a word. -/
theorem isWord_decimal (number : Nat) : isWord (decimal number) = true := by
  apply decide_eq_true
  refine ⟨Nat.toDigits_ne_nil, List.any_eq_false.mpr fun char member blank => ?_⟩
  have digit := digit_of_mem_decimal member
  rcases of_decide_eq_true blank with rfl | rfl <;> exact absurd digit (by decide)

/-- A decimal number does not open a label set. -/
theorem decimal_plain (number : Nat) : (decimal number).head? ≠ some openBrace := by
  intro brace
  exact absurd (digit_of_mem_decimal (List.mem_of_mem_head? brace)) (by decide)

/-- Every line ends at its own line feed. -/
theorem lines_clean {block : Block} (formed : block.WellFormed = true) :
    ∀ line ∈ block.lines, '\n' ∉ line := by
  simp only [WellFormed, Bool.and_eq_true, Bool.not_eq_true', List.contains_eq_mem,
    decide_eq_false_iff_not] at formed
  obtain ⟨⟨named, sampled⟩, helped⟩ := formed
  have nameClean : '\n' ∉ block.name := not_mem_of_isMetricName named (by decide)
  have sampleClean : '\n' ∉ block.sampleName := not_mem_of_isMetricName sampled (by decide)
  have wordClean : '\n' ∉ block.word := by
    unfold word
    cases block.isGauge <;> decide
  have numberClean : '\n' ∉ decimal block.value := by
    intro member
    exact absurd (digit_of_mem_decimal member) (by decide)
  have helpMark : '\n' ∉ "# HELP ".toList := by decide
  have typeMark : '\n' ∉ "# TYPE ".toList := by decide
  intro line member
  simp only [lines, List.mem_cons, List.not_mem_nil, or_false] at member
  rcases member with rfl | rfl | rfl
  · simp only [List.mem_append, List.mem_cons, helpMark, nameClean, helped, or_false]
    decide
  · simp only [List.mem_append, List.mem_cons, typeMark, nameClean, wordClean, or_false]
    decide
  · simp only [List.mem_append, List.mem_cons, sampleClean, numberClean, or_false]
    decide

/-- A decimal number reads back as an integer. -/
theorem readInteger_decimal (number : Nat) :
    readInteger (decimal number) = some (number : Int) := by
  have positive : (decimal number).head? ≠ some '-' := by
    intro minus
    exact absurd (digit_of_mem_decimal (List.mem_of_mem_head? minus)) (by decide)
  have digits : decimal number ≠ [] ∧ (decimal number).all Char.isDigit = true :=
    ⟨Nat.toDigits_ne_nil, List.all_eq_true.mpr fun _ => digit_of_mem_decimal⟩
  unfold readInteger
  simp only [if_neg positive, if_pos digits]
  rw [decimal, Nat.ofDigitChars_toDigits (by decide) (by decide)]

section Read
variable {Value : Type} (value : Nat → Value)

def sample (block : Block) : Sample Value := ⟨[], value block.value, none⟩

/-- The groups of a block: the suffix sets a counter's sample apart from its TYPE line. -/
def families (block : Block) : List (Family Value) :=
  if block.isGauge then [⟨block.name, some block.kind, true, [block.sample value]⟩]
  else [⟨block.name, some block.kind, true, []⟩,
    ⟨block.sampleName, none, false, [block.sample value]⟩]

/-- The metric that a scraper stores: a counter loses its type with its TYPE line. -/
def metric (block : Block) : Metric Value :=
  ⟨block.sampleName, if block.isGauge then .gauge else .untyped, [block.sample value]⟩

/-- One block yields one family with samples. -/
theorem metric_families (block : Block) :
    ((block.families value).filter fun family => !family.samples.isEmpty).map Family.metric =
      [block.metric value] := by
  unfold families metric sampleName kind
  cases block.isGauge with
  | true => simp [Family.metric]
  | false => simp [Family.metric]

/-- Each block yields its own metric. -/
theorem metrics_families (blocks : List Block) :
    ((blocks.flatMap (families value)).filter fun family => !family.samples.isEmpty).map
      Family.metric = blocks.map (metric value) := by
  induction blocks with
  | nil => rfl
  | cons block blocks ih =>
      rw [List.flatMap_cons, List.filter_append, List.map_append, metric_families, ih]
      rfl

/-- The sample joins the group of its TYPE line if it has that name, and opens its own otherwise. -/
theorem addLine_sample (block : Block) {earlier : List (Family Value)}
    (fresh : ((earlier ++ block.families value).map Family.name).Nodup) :
    addLine (earlier ++ [⟨block.name, some block.kind, true, []⟩])
        (.sample block.sampleName (block.sample value)) =
      some (earlier ++ block.families value) := by
  by_cases gauged : block.isGauge = true
  · have same : block.sampleName = block.name := by
      rw [sampleName, if_pos gauged, List.append_nil]
    rw [families, if_pos gauged, same]
    exact addLine_sample_last ⟨block.name, some block.kind, true, []⟩ rfl _
  · rw [families, if_neg gauged] at fresh ⊢
    rw [List.map_append, List.nodup_append] at fresh
    obtain ⟨_, distinct, apart⟩ := fresh
    have opened : block.sampleName ∉ (earlier ++
        [(⟨block.name, some block.kind, true, []⟩ : Family Value)]).map Family.name := by
      rw [List.map_append, List.mem_append]
      rintro (member | last)
      · exact apart _ member _ (List.mem_cons_of_mem _ List.mem_cons_self) rfl
      · rw [List.map_singleton, List.mem_singleton] at last
        exact (List.nodup_cons.mp distinct).1 (List.mem_singleton.mpr last.symm)
    rw [addLine_sample_new opened, List.append_assoc]
    rfl

variable (read : Str → Option Value) (reads : ∀ number, read (decimal number) = some (value number))
include reads

/-- A block whose names are new adds its groups. -/
theorem readLines_lines {block : Block} (formed : block.WellFormed = true)
    {earlier : List (Family Value)}
    (fresh : ((earlier ++ block.families value).map Family.name).Nodup) :
    readLines read earlier block.lines = some (earlier ++ block.families value) := by
  have added := block.addLine_sample value fresh
  simp only [WellFormed, Bool.and_eq_true] at formed
  obtain ⟨⟨named, sampled⟩, _⟩ := formed
  have sampleLine := readLine_sample read sampled (isWord_decimal block.value)
    (decimal_plain block.value) (reads block.value)
  have split : block.lines = ["# HELP ".toList ++ block.name ++ ' ' :: block.help,
      "# TYPE ".toList ++ block.name ++ ' ' :: block.word] ++
      [block.sampleName ++ ' ' :: decimal block.value] := rfl
  have new : block.name ∉ earlier.map Family.name := by
    rw [List.map_append, List.nodup_append] at fresh
    intro member
    apply fresh.2.2 _ member block.name _ rfl
    unfold families
    split <;> exact List.mem_cons_self
  rw [split, readLines_append,
    readLines_declaration read new named block.word_known.1 block.word_known.2,
    Option.bind_some, readLines_single, sampleLine, Option.bind_some]
  exact added

/-- Blocks whose names are all different add their groups in order. -/
theorem readLines_blocks {blocks : List Block}
    (formed : ∀ block ∈ blocks, block.WellFormed = true) {earlier : List (Family Value)}
    (fresh : ((earlier ++ blocks.flatMap (families value)).map Family.name).Nodup) :
    readLines read earlier (blocks.flatMap lines) =
      some (earlier ++ blocks.flatMap (families value)) := by
  induction blocks generalizing earlier with
  | nil => simp [readLines]
  | cons block blocks ih =>
      rw [List.flatMap_cons, ← List.append_assoc] at fresh
      have first : ((earlier ++ block.families value).map Family.name).Nodup := by
        rw [List.map_append] at fresh
        exact (List.nodup_append.mp fresh).1
      rw [List.flatMap_cons, readLines_append,
        readLines_lines value read reads (formed block List.mem_cons_self) first, Option.bind_some,
        ih (fun other member => formed other (List.mem_cons_of_mem _ member)) fresh,
        List.flatMap_cons, List.append_assoc]

/-- A scraper reads a page of blocks into one metric for each of them. -/
theorem parse_blocks {blocks : List Block} (formed : ∀ block ∈ blocks, block.WellFormed = true)
    (fresh : ((blocks.flatMap (families value)).map Family.name).Nodup) :
    parse read (blocks.flatMap text) = some (blocks.map (metric value)) := by
  have clean : ∀ line ∈ blocks.flatMap lines, '\n' ∉ line := by
    intro line member
    obtain ⟨block, listed, inside⟩ := List.mem_flatMap.mp member
    exact lines_clean (formed block listed) line inside
  have joined : blocks.flatMap text =
      (blocks.flatMap lines).flatMap fun line => line ++ ['\n'] := by
    rw [List.flatMap_assoc]
    exact congrArg (blocks.flatMap ·) (funext text_eq_lines)
  have grouped : readLines read [] (blocks.flatMap lines) =
      some (blocks.flatMap (families value)) :=
    readLines_blocks value read reads formed fresh
  rw [joined, parse_lines read clean, grouped, Option.map_some, metrics_families]

end Read

end Block

/-- The blocks of the page, in order. -/
def blocks (metrics : Metrics) : List Block :=
  [⟨"requests".toList, "Total HTTP requests received.".toList, false, metrics.requestsTotal⟩,
    ⟨"requests_active".toList, "HTTP requests currently in-flight.".toList, true,
      metrics.requestsActive⟩,
    ⟨"responses_2xx".toList, "Responses with a 2xx status code.".toList, false,
      metrics.responses2xx⟩,
    ⟨"responses_4xx".toList, "Responses with a 4xx status code.".toList, false,
      metrics.responses4xx⟩,
    ⟨"responses_5xx".toList, "Responses with a 5xx status code.".toList, false,
      metrics.responses5xx⟩,
    ⟨"rate_limited".toList, "Requests rejected by the rate limiter (429).".toList, false,
      metrics.rateLimited⟩,
    ⟨"concurrency_limited".toList, "Requests rejected by the concurrency limiter (503).".toList,
      false, metrics.concurrencyLimited⟩,
    ⟨"timed_out".toList, "Requests that exceeded the per-request processing timeout.".toList, false,
      metrics.timedOut⟩,
    ⟨"connections_accepted".toList, "Total TCP connections accepted.".toList, false,
      metrics.connectionsAccepted⟩,
    ⟨"connections_rejected_ip".toList, "Connections dropped by the IP filter.".toList, false,
      metrics.connectionsRejectedIp⟩]

/-- The page is the concatenation of its blocks. -/
theorem render_eq_blocks (metrics : Metrics) :
    metrics.render = metrics.blocks.flatMap Block.text := by
  simp only [render, blocks, List.flatMap_cons, List.flatMap_nil, Block.text_counter,
    Block.text_gauge, List.append_assoc, List.append_nil]

/-- The metrics of the module documentation with the current values. -/
def documented {Value : Type} (value : Nat → Value) (metrics : Metrics) : List (Metric Value) :=
  [("requests_total", .counter, metrics.requestsTotal),
    ("requests_active", .gauge, metrics.requestsActive),
    ("responses_2xx_total", .counter, metrics.responses2xx),
    ("responses_4xx_total", .counter, metrics.responses4xx),
    ("responses_5xx_total", .counter, metrics.responses5xx),
    ("rate_limited_total", .counter, metrics.rateLimited),
    ("concurrency_limited_total", .counter, metrics.concurrencyLimited),
    ("timed_out_total", .counter, metrics.timedOut),
    ("connections_accepted_total", .counter, metrics.connectionsAccepted),
    ("connections_rejected_ip_total", .counter, metrics.connectionsRejectedIp)].map
      fun (name, kind, number) => ⟨name.toList, kind, [⟨[], value number, none⟩]⟩

/-- A scraper's view of a documented metric: the TYPE line of a counter misses its sample. -/
def scraped {Value : Type} (metric : Metric Value) : Metric Value :=
  { metric with kind := if metric.kind = .gauge then .gauge else .untyped }

theorem scraped_of_gauge {Value : Type} {metric : Metric Value} (gauged : metric.kind = .gauge) :
    scraped metric = metric := by
  rw [scraped, if_pos gauged, ← gauged]

/-- A scrape keeps no counter as such. -/
theorem scraped_ne_counter {Value : Type} (metric : Metric Value) :
    (scraped metric).kind ≠ .counter := by
  show (if metric.kind = .gauge then MetricType.gauge else .untyped) ≠ .counter
  split
  · decide
  · decide

/-- Every block of the page is well formed. -/
theorem wellFormed_of_mem_blocks {metrics : Metrics} {block : Block}
    (member : block ∈ metrics.blocks) : block.WellFormed = true := by
  have same : metrics.blocks.all Block.WellFormed = new.blocks.all Block.WellFormed := rfl
  have formed : new.blocks.all Block.WellFormed = true := by decide +kernel
  exact List.all_eq_true.mp (same.trans formed) block member

section Scrape
variable {Value : Type} (metrics : Metrics) (value : Nat → Value)

/-- The families of the page have distinct names. -/
theorem names_nodup : ((metrics.blocks.flatMap (Block.families value)).map Family.name).Nodup := by
  have names : (metrics.blocks.flatMap (Block.families value)).map Family.name =
      (new.blocks.flatMap (Block.families id)).map Family.name := rfl
  rw [names]
  decide

/-- The page parses to the documented metrics as a scrape sees them. -/
theorem parse_render (read : Str → Option Value)
    (reads : ∀ number, read (decimal number) = some (value number)) :
    parse read metrics.render = some ((documented value metrics).map scraped) := by
  rw [render_eq_blocks, Block.parse_blocks value read reads
    (fun _ member => wellFormed_of_mem_blocks member) (names_nodup metrics value)]
  rfl

/-- The documented metrics are gauges and counters. -/
theorem documented_kinds :
    ∀ metric ∈ documented value metrics, metric.kind = .gauge ∨ metric.kind = .counter := by
  have kinds : ((documented value metrics).map Metric.kind).all
      (fun kind => kind = .gauge ∨ kind = .counter) = true := rfl
  intro metric member
  exact of_decide_eq_true (List.all_eq_true.mp kinds _ (List.mem_map_of_mem member))

/-- Only the gauge keeps its documented type. -/
theorem mem_scraped_iff {metric : Metric Value} (member : metric ∈ documented value metrics) :
    metric ∈ (documented value metrics).map scraped ↔ metric.kind = .gauge := by
  constructor
  · intro found
    obtain ⟨other, _, same⟩ := List.mem_map.mp found
    apply (documented_kinds metrics value metric member).resolve_right
    rw [← same]
    exact scraped_ne_counter other
  · intro gauged
    exact List.mem_map.mpr ⟨metric, member, scraped_of_gauge gauged⟩

/-- The names and the values are the documented ones, and only the gauge has its type. -/
theorem render_parses_untyped (read : Str → Option Value)
    (reads : ∀ number, read (decimal number) = some (value number)) :
    ∃ parsed, parse read metrics.render = some parsed ∧
      parsed.map (fun metric => (metric.name, metric.samples)) =
        (documented value metrics).map (fun metric => (metric.name, metric.samples)) ∧
      (∀ metric ∈ documented value metrics, metric ∈ parsed ↔ metric.kind = .gauge) ∧
      ¬ parsed.Perm (documented value metrics) := by
  refine ⟨_, parse_render metrics value read reads, ?_, fun _ => mem_scraped_iff metrics value, ?_⟩
  · rw [List.map_map]
    rfl
  · intro same
    have first : ⟨"requests_total".toList, .counter, [⟨[], value metrics.requestsTotal, none⟩]⟩ ∈
        documented value metrics := List.mem_cons_self
    have gauged : MetricType.counter = .gauge :=
      (mem_scraped_iff metrics value first).mp (same.mem_iff.mpr first)
    exact absurd gauged (by decide)

end Scrape

/-- Integers are read back from their decimals. -/
theorem render_parses_untyped_integer :
    ∃ parsed, parse readInteger new.render = some parsed ∧
      parsed.map (fun metric => (metric.name, metric.samples)) =
        (documented Int.ofNat new).map (fun metric => (metric.name, metric.samples)) ∧
      (∀ metric ∈ documented Int.ofNat new, metric ∈ parsed ↔ metric.kind = .gauge) ∧
      ¬ parsed.Perm (documented Int.ofNat new) :=
  render_parses_untyped new Int.ofNat readInteger Block.readInteger_decimal

/-- The request total of a new server is documented as a counter and read without a type. -/
theorem new_total_untyped :
    (∃ rest, parse readInteger new.render =
      some (⟨"requests_total".toList, .untyped, [⟨[], 0, none⟩]⟩ :: rest)) ∧
    ∃ rest, documented Int.ofNat new =
      ⟨"requests_total".toList, .counter, [⟨[], 0, none⟩]⟩ :: rest := by
  constructor
  · exact ⟨_, parse_render new Int.ofNat readInteger Block.readInteger_decimal⟩
  · exact ⟨_, rfl⟩

end Metrics

end HighperfServer
