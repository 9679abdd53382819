import HighperfServer.Proof.Server.Authorisation
import HighperfServer.Proof.Tera

namespace HighperfServer
open Library

namespace Pages
open Template Routes

section Places

/-- The styles leave the markup between two tags. -/
theorem stylesheet_placed : stylesheet.placed .text = some .text := by
  unfold stylesheet
  repeat first
    | apply placed_line .text String.toList_ofList rfl
    | exact rfl

/-- The navigation places its values in text and quoted attributes. -/
theorem navigation_placed : navigation.placed .text = some .text := by
  unfold navigation
  repeat first
    | with_reducible apply placed_choose
    | with_reducible apply placed_cons
    | apply placed_line .text String.toList_ofList rfl
    | apply placed_line .value String.toList_ofList rfl
    | exact rfl

/-- The message is placed in text and its kind in a quoted attribute. -/
theorem flashMessage_placed : flashMessage.placed .text = some .text := by
  unfold flashMessage
  repeat first
    | with_reducible apply placed_choose
    | with_reducible apply placed_cons
    | apply placed_line .text String.toList_ofList rfl
    | apply placed_line .value String.toList_ofList rfl
    | exact rfl

/-- The layout prints its values in texts and attribute values when its blocks do. -/
theorem layout_placed {title content : Template} (titled : title.placed .text = some .text)
    (filled : content.placed .text = some .text) :
    (layout title content).placed .text = some .text := by
  have styled := stylesheet_placed
  have navigable := navigation_placed
  have flashing := flashMessage_placed
  unfold layout
  repeat first
    | with_reducible apply placed_cons
    | with_reducible apply placed_block
    | with_reducible assumption
    | apply placed_line .text String.toList_ofList rfl
    | apply placed_line .value String.toList_ofList rfl
    | exact rfl

/-- The overview is plain markup. -/
theorem indexContent_placed : indexContent.placed .text = some .text := by
  unfold indexContent
  repeat first
    | apply placed_line .text String.toList_ofList rfl
    | apply placed_line .value String.toList_ofList rfl
    | exact rfl

/-- The login form is plain markup. -/
theorem loginContent_placed : loginContent.placed .text = some .text := by
  unfold loginContent
  repeat first
    | apply placed_line .text String.toList_ofList rfl
    | exact rfl

/-- The creation form places its values in quoted attributes. -/
theorem createForm_placed : createForm.placed .text = some .text := by
  unfold createForm
  repeat first
    | with_reducible apply placed_choose
    | with_reducible apply placed_cons
    | apply placed_line .text String.toList_ofList rfl
    | apply placed_line .value String.toList_ofList rfl
    | exact rfl

/-- The deletion form places its values in quoted attributes. -/
theorem itemActions_placed : itemActions.placed .text = some .text := by
  unfold itemActions
  repeat first
    | with_reducible apply placed_choose
    | with_reducible apply placed_cons
    | apply placed_line .text String.toList_ofList rfl
    | apply placed_line .value String.toList_ofList rfl
    | exact rfl

/-- A row of the table places all its values. -/
theorem itemRow_placed : itemRow.placed .text = some .text := by
  have acting := itemActions_placed
  unfold itemRow
  repeat first
    | with_reducible apply placed_cons
    | with_reducible assumption
    | apply placed_line .text String.toList_ofList rfl
    | exact rfl

/-- The table places the values of all its rows. -/
theorem itemTable_placed : itemTable.placed .text = some .text := by
  have listing := itemRow_placed
  unfold itemTable
  repeat first
    | with_reducible apply placed_choose
    | with_reducible apply placed_cons
    | with_reducible apply placed_each
    | with_reducible assumption
    | apply placed_line .text String.toList_ofList rfl
    | exact rfl

/-- The items page places all its values. -/
theorem itemsContent_placed : itemsContent.placed .text = some .text := by
  have creating := createForm_placed
  have listing := itemTable_placed
  unfold itemsContent
  repeat first
    | with_reducible apply placed_cons
    | with_reducible assumption
    | apply placed_line .text String.toList_ofList rfl
    | exact rfl

/-- The counters are placed in text. -/
theorem metricsContent_placed : metricsContent.placed .text = some .text := by
  unfold metricsContent
  repeat first
    | with_reducible apply placed_cons
    | apply placed_line .text String.toList_ofList rfl
    | exact rfl

theorem title_placed (line : String) (chars : List Char) (same : line.toList = chars)
    (walked : Markup.walk .text chars = some .text) :
    (literal [line]).placed .text = some .text :=
  placed_line .text same walked rfl

end Places

/-- The conditions of the templates. -/
def tests : List VariablePath := [.named "session_user", .named "flash", .named "items"]

/-- The counters of the metrics page. -/
def counters : List String :=
  ["requests_total", "requests_active", "responses_2xx", "responses_4xx", "responses_5xx",
    "rate_limited", "concurrency_limited", "timed_out", "connections_accepted",
    "connections_rejected_ip"]

/-- What the template of a page relies on. -/
def known (page : String) : Known where
  defined := if page = "metrics.html" then counters.map VariablePath.named else []
  lists := if page = "items.html" then
    [(.named "items", ["name".toList, "description".toList, "id".toList])] else []
  implied := [(.named "session_user", [.named "session_user", .named "csrf_token"]),
    (.named "flash", [.named "flash"])]

/-- The template of the page passes the checks of names, places, variables and conditions. -/
structure Checked (page : String) (template : Template) : Prop where
  listed : (page.toList, template) ∈ templates
  bare : template.bare = true
  placed : template.placed .text = some .text
  covered : template.covered (known page) = true
  decided : template.decided tests = true

/-- The overview is a checked page. -/
theorem index_checked : Checked "index.html" (extending indexTitle indexContent) where
  listed := .tail _ (.head _)
  bare := by decide +kernel
  placed := layout_placed (title_placed _ _ String.toList_ofList rfl) indexContent_placed
  covered := by decide +kernel
  decided := by decide +kernel

/-- The login form is a checked page. -/
theorem login_checked : Checked "login.html" (extending loginTitle loginContent) where
  listed := .tail _ (.tail _ (.head _))
  bare := by decide +kernel
  placed := layout_placed (title_placed _ _ String.toList_ofList rfl) loginContent_placed
  covered := by decide +kernel
  decided := by decide +kernel

/-- The table of items is a checked page. -/
theorem items_checked : Checked "items.html" (extending itemsTitle itemsContent) where
  listed := .tail _ (.tail _ (.tail _ (.head _)))
  bare := by decide +kernel
  placed := layout_placed (title_placed _ _ String.toList_ofList rfl) itemsContent_placed
  covered := by decide +kernel
  decided := by decide +kernel

/-- The table of counters is a checked page. -/
theorem metrics_checked : Checked "metrics.html" (extending metricsTitle metricsContent) where
  listed := .tail _ (.tail _ (.tail _ (.tail _ (.head _))))
  bare := by decide +kernel
  placed := layout_placed (title_placed _ _ String.toList_ofList rfl) metricsContent_placed
  covered := by decide +kernel
  decided := by decide +kernel

/-- The template and the context of every page that a handler renders. -/
inductive Shown : String → Context → Prop where
  | index (session : Option Session) : Shown "index.html" (sessionContext session)
  | login : Shown "login.html" Context.new
  | refused : Shown "login.html" ((Context.new.insert "flash".toList
      (.string "Invalid username or password.".toList)).insert "flash_type".toList
        (.string "error".toList))
  | items (session : Option Session) (items : List Item) :
      Shown "items.html" ((sessionContext session).insert "items".toList (.array (items.map itemJson)))
  | flashed (session : Option Session) (items : List Item) (message : Str) :
      Shown "items.html" (((sessionContext session).insert "items".toList
        (.array (items.map itemJson))).insert "flash".toList (.string message))
  | failed (items : List Item) :
      Shown "items.html" (((Context.new.insert "items".toList (.array (items.map itemJson))).insert
        "flash".toList (.string "Failed to create item.".toList)).insert "flash_type".toList
          (.string "error".toList))
  | metrics (session : Option Session) (metrics : Metrics) :
      Shown "metrics.html" (metricsContext metrics (sessionContext session))

section Values

/-- The values that handlers put into a context, with the variables in an item. -/
inductive Offered : Json → Prop where
  | text (content : Str) : Offered (.string content)
  | count (number : Nat) : Offered (.number number)
  | item (item : Item) : Offered (itemJson item)
  | items (items : List Item) : Offered (.array (items.map itemJson))

/-- An array of items is printed with the characters of its brackets and commas. -/
theorem shown_items (items : List Item) {char : Char}
    (member : char ∈ (Json.array (items.map itemJson)).shown) : char ∈ "[object], ".toList := by
  have inner (rest : List Item) (inside : char ∈ Json.shownAll (rest.map itemJson)) :
      char ∈ "[object], ".toList := by
    induction rest with
    | nil => exact absurd inside (by simp [Json.shownAll])
    | cons item rest ih =>
        have own (object : char ∈ "[object]".toList) : char ∈ "[object], ".toList :=
          List.mem_append_left ", ".toList object
        cases rest with
        | nil => exact own inside
        | cons other others =>
            rcases List.mem_append.mp inside with front | tail
            · rcases List.mem_append.mp front with object | comma
              · exact own object
              · exact List.mem_append_right "[object]".toList comma
            · exact ih tail
  rcases List.mem_append.mp member with front | close
  · rcases List.mem_cons.mp front with rfl | inside
    · decide
    · exact inner items inside
  · obtain rfl := List.mem_singleton.mp close
    decide

/-- Of the offered values only texts need escaping. -/
theorem offered_quiet : Quiet Json.values Offered where
  field := by
    intro value offered name part found
    cases offered with
    | item item =>
        obtain ⟨_, _, same, _⟩ := List.lookup_eq_some_iff.mp found
        have member : (name, part) ∈ [("id".toList, Json.string item.id),
            ("name".toList, .string item.name), ("description".toList, .string item.description)] := by
          rw [same]
          exact List.mem_append_right _ List.mem_cons_self
        simp only [List.mem_cons, Prod.mk.injEq, List.not_mem_nil, or_false] at member
        rcases member with ⟨_, rfl⟩ | ⟨_, rfl⟩ | ⟨_, rfl⟩
        · exact .text item.id
        · exact .text item.name
        · exact .text item.description
    | text | count | items => exact absurd found (by simp [Json.values, Json.field])
  elements := by
    intro value offered parts found part member
    cases offered with
    | items items =>
        obtain rfl := Option.some.inj found
        obtain ⟨item, _, rfl⟩ := List.mem_map.mp member
        exact .item item
    | text | count => exact absurd found (by simp [Json.values, Json.elements])
    | item item => exact absurd found (by simp [Json.values, Json.elements, itemJson])
  shown := by
    intro value offered plain
    cases offered with
    | text content => exact absurd plain (by simp [Json.values, Json.text])
    | count number =>
        apply Markup.escape_eq_self
        intro char member special
        have printed : char ∈ Nat.toDigits 10 number := member
        have digit := Nat.isDigit_of_mem_toDigits (by decide) (by decide) printed
        simp only [List.mem_cons, List.not_mem_nil, or_false] at special
        rcases special with rfl | rfl | rfl | rfl | rfl | rfl <;> exact absurd digit (by decide)
    | item item => exact rfl
    | items items =>
        apply Markup.escape_eq_self
        intro char member
        have safe : ("[object], ".toList.all fun char =>
            char ∉ ['&', '<', '>', '"', '\'', '/']) = true := by decide
        exact of_decide_eq_true (List.all_eq_true.mp safe char (shown_items items member))

/-- Two offered values of one shape. -/
inductive Alike : Json → Json → Prop where
  | text (first second : Str) : Alike (.string first) (.string second)
  | count (first second : Nat) : Alike (.number first) (.number second)
  | item (first second : Item) : Alike (itemJson first) (itemJson second)
  | items {first second : List Item} (same : first.length = second.length) :
      Alike (.array (first.map itemJson)) (.array (second.map itemJson))

/-- The fields of any two items are alike. -/
theorem itemJson_field_alike (first second : Item) (name : Str) :
    Option.Rel Alike ((itemJson first).field name) ((itemJson second).field name) := by
  simp only [itemJson, Json.field, List.lookup_cons, List.lookup_nil]
  cases name == "id".toList with
  | true => exact .some (.text _ _)
  | false =>
      cases name == "name".toList with
      | true => exact .some (.text _ _)
      | false =>
          cases name == "description".toList with
          | true => exact .some (.text _ _)
          | false => exact .none

/-- Templates cannot tell values of one shape apart, except by their conditions. -/
theorem alike_congruence : Congruence Json.values Alike where
  field := by
    intro first second alike name
    cases alike with
    | item one other => exact itemJson_field_alike one other name
    | text | count | items => exact .none
  elements := by
    intro first second alike
    cases alike with
    | items same =>
        apply Option.Rel.some
        rw [List.forall₂_map_left_iff, List.forall₂_map_right_iff, List.forall₂_iff_zip]
        exact ⟨same, fun _ => .item _ _⟩
    | text | count | item => exact .none
  display := by
    intro first second alike
    cases alike with
    | text one other => exact .string one other
    | count | item | items => exact .plain _ _

end Values

section Contexts

/-- The variables that hold texts. -/
def texts : List String := ["session_user", "csrf_token", "flash", "flash_type"]

/-- The value has the shape that its variable always has. -/
inductive Fits : Str → Json → Prop where
  | text {name : String} (listed : name ∈ texts) (content : Str) : Fits name.toList (.string content)
  | count {name : String} (listed : name ∈ counters) (number : Nat) :
      Fits name.toList (.number number)
  | items (items : List Item) : Fits "items".toList (.array (items.map itemJson))

/-- Every variable of the context has its shape. -/
def Fitting (context : Context) : Prop := ∀ key value, context key = some value → Fits key value

theorem Fitting.new : Fitting Context.new := by
  intro key value found
  exact absurd found (by simp [Context.new])

/-- A fitting value keeps the context fitting. -/
theorem Fitting.insert {context : Context} (fitting : Fitting context) {name : Str} {value : Json}
    (fits : Fits name value) : Fitting (context.insert name value) := by
  intro key other found
  unfold Context.insert at found
  split at found
  · rename_i same
    obtain rfl := Option.some.inj found
    rw [same]
    exact fits
  · exact fitting key other found

/-- The values of a session fit. -/
theorem sessionContext_fitting (session : Option Session) : Fitting (sessionContext session) := by
  cases session with
  | none => exact .new
  | some session =>
      have user : Fitting (Context.new.insert "session_user".toList (.string session.username)) :=
        Fitting.new.insert (.text (by decide) session.username)
      exact user.insert (.text (by decide) session.csrfToken)

/-- The counters fit. -/
theorem metricsContext_fitting {context : Context} (fitting : Fitting context) (metrics : Metrics) :
    Fitting (metricsContext metrics context) := by
  have inserted (entries : List (Str × Nat))
      (listed : ∀ entry ∈ entries, ∃ name ∈ counters, entry.1 = name.toList) (start : Context)
      (fits : Fitting start) :
      Fitting (entries.foldl (fun context entry => context.insert entry.1 (.number entry.2)) start) := by
    induction entries generalizing start with
    | nil => exact fits
    | cons entry rest ih =>
        obtain ⟨name, known, same⟩ := listed entry List.mem_cons_self
        refine ih (fun other member => listed other (List.mem_cons_of_mem _ member)) _ (fits.insert ?_)
        rw [same]
        exact .count known entry.2
  apply inserted _ ?_ context fitting
  intro entry member
  simp only [List.mem_cons, List.not_mem_nil, or_false] at member
  rcases member with rfl | rfl | rfl | rfl | rfl | rfl | rfl | rfl | rfl | rfl <;>
    exact ⟨_, by decide, rfl⟩

/-- What every context of a page has. -/
structure Typed (page : String) (context : Context) : Prop where
  fitting : Fitting context
  session : (context "session_user".toList).isSome = true → (context "csrf_token".toList).isSome = true
  items : (context "items".toList).isSome = decide (page = "items.html")
  counters : ∀ name ∈ counters, (context name.toList).isSome = decide (page = "metrics.html")

/-- An insertion of another variable leaves this one alone. -/
theorem insert_apart {context : Context} {name key : Str} (different : key ≠ name) (value : Json) :
    (context.insert name value) key = context key := if_neg different

/-- A session defines no other variable. -/
theorem sessionContext_apart (session : Option Session) {key : Str}
    (user : key ≠ "session_user".toList) (csrf : key ≠ "csrf_token".toList) :
    sessionContext session key = none := by
  cases session with
  | none => rfl
  | some session => exact (insert_apart csrf _).trans (insert_apart user _)

/-- A session defines its user and its CSRF token together. -/
theorem sessionContext_csrf (session : Option Session) :
    (sessionContext session "csrf_token".toList).isSome =
      (sessionContext session "session_user".toList).isSome := by
  cases session with
  | none => rfl
  | some session => rfl

/-- No counter is the other variable. -/
theorem counter_apart {name other : String} (listed : name ∈ counters)
    (apart : (counters.all fun name => name.toList ≠ other.toList) = true) :
    name.toList ≠ other.toList :=
  of_decide_eq_true (List.all_eq_true.mp apart name listed)

theorem typed_index (session : Option Session) : Typed "index.html" (sessionContext session) where
  fitting := sessionContext_fitting session
  session := fun user => (sessionContext_csrf session).trans user
  items := congrArg Option.isSome (sessionContext_apart session (by decide) (by decide))
  counters := fun _ listed => congrArg Option.isSome (sessionContext_apart session
    (counter_apart listed (by decide)) (counter_apart listed (by decide)))

/-- A login page has the variables of a page without a session. -/
theorem typed_login : Typed "login.html" Context.new := by
  obtain ⟨fitting, session, items, counters⟩ := typed_index none
  exact ⟨fitting, session, items, counters⟩

/-- A flash text leaves the other variables alone. -/
theorem Typed.flash {page : String} {context : Context} (typed : Typed page context) (name : String)
    (text : name ∈ texts)
    (apart : ((["session_user", "csrf_token", "items"] ++ Pages.counters).all fun other =>
      other.toList ≠ name.toList) = true) (content : Str) :
    Typed page (context.insert name.toList (.string content)) := by
  have same (other : String) (listed : other ∈ ["session_user", "csrf_token", "items"] ++ Pages.counters) :
      (context.insert name.toList (.string content)) other.toList = context other.toList :=
    insert_apart (of_decide_eq_true (List.all_eq_true.mp apart other listed)) _
  refine ⟨typed.fitting.insert (.text text content), ?_, ?_, ?_⟩
  · rw [same "session_user" (by decide), same "csrf_token" (by decide)]
    exact typed.session
  · rw [same "items" (by decide)]
    exact typed.items
  · intro counter listed
    rw [same counter (List.mem_append_right _ listed)]
    exact typed.counters counter listed

/-- The items page adds its items to the variables of a session. -/
theorem typed_items (session : Option Session) (items : List Item) :
    Typed "items.html"
      ((sessionContext session).insert "items".toList (.array (items.map itemJson))) := by
  have typed := typed_index session
  refine ⟨typed.fitting.insert (.items items), ?_, rfl, ?_⟩
  · rw [insert_apart (by decide), insert_apart (by decide)]
    exact typed.session
  · intro counter listed
    rw [insert_apart (counter_apart listed (by decide))]
    exact typed.counters counter listed

/-- The metrics page adds its counters to the variables of a session. -/
theorem typed_metrics (session : Option Session) (metrics : Metrics) :
    Typed "metrics.html" (metricsContext metrics (sessionContext session)) := by
  have typed := typed_index session
  refine ⟨metricsContext_fitting typed.fitting metrics, typed.session, typed.items, ?_⟩
  intro counter listed
  simp only [Pages.counters, List.mem_cons, List.not_mem_nil, or_false] at listed
  rcases listed with rfl | rfl | rfl | rfl | rfl | rfl | rfl | rfl | rfl | rfl <;> rfl

/-- Every context that a handler shows has the types of its page. -/
theorem typed_of_shown {page : String} {context : Context} (shown : Shown page context) :
    Typed page context := by
  cases shown with
  | index session => exact typed_index session
  | login => exact typed_login
  | refused =>
      have flash := typed_login.flash "flash" (by decide) (by decide) "Invalid username or password.".toList
      exact flash.flash "flash_type" (by decide) (by decide) "error".toList
  | items session items => exact typed_items session items
  | flashed session items message =>
      exact (typed_items session items).flash "flash" (by decide) (by decide) message
  | failed items =>
      have flash := (typed_items none items).flash "flash" (by decide) (by decide)
        "Failed to create item.".toList
      exact flash.flash "flash_type" (by decide) (by decide) "error".toList
  | metrics session metrics => exact typed_metrics session metrics

/-- The variable of a text holds one. -/
theorem Fitting.text {context : Context} (fitting : Fitting context) {name : String} {value : Json}
    (listed : name ∈ texts) (found : context name.toList = some value) :
    ∃ content, value = .string content := by
  generalize same : name.toList = key at found
  simp only [texts, List.mem_cons, List.not_mem_nil, or_false] at listed
  cases fitting key value found with
  | text _ content => exact ⟨content, rfl⟩
  | count counter =>
      rcases listed with rfl | rfl | rfl | rfl <;>
        exact absurd same.symm (counter_apart counter (by decide))
  | items => rcases listed with rfl | rfl | rfl | rfl <;> exact absurd same (by decide)

/-- The variable of a counter holds a number. -/
theorem Fitting.count {context : Context} (fitting : Fitting context) {name : String} {value : Json}
    (listed : name ∈ counters) (found : context name.toList = some value) :
    ∃ number, value = .number number := by
  generalize same : name.toList = key at found
  cases fitting key value found with
  | count _ number => exact ⟨number, rfl⟩
  | text text =>
      simp only [texts, List.mem_cons, List.not_mem_nil, or_false] at text
      rcases text with rfl | rfl | rfl | rfl <;>
        exact absurd same (counter_apart listed (by decide))
  | items => exact absurd same (counter_apart listed (by decide))

/-- The variable of the items holds them. -/
theorem Fitting.items {context : Context} (fitting : Fitting context) {value : Json}
    (found : context "items".toList = some value) :
    ∃ items : List Item, value = .array (items.map itemJson) := by
  generalize named : "items".toList = key at found
  cases fitting key value found with
  | text listed =>
      simp only [texts, List.mem_cons, List.not_mem_nil, or_false] at listed
      rcases listed with rfl | rfl | rfl | rfl <;> exact absurd named (by decide)
  | count listed => exact absurd named (counter_apart listed (by decide)).symm
  | items items => exact ⟨items, rfl⟩

/-- The contexts of a page have what its template relies on. -/
theorem Typed.holds {page : String} {context : Context} (typed : Typed page context) :
    (known page).Holds Json.values context where
  defined := by
    intro path member
    unfold known at member
    dsimp only at member
    split at member
    · rename_i metrics
      obtain ⟨name, listed, rfl⟩ := List.mem_map.mp member
      exact (typed.counters name listed).trans (decide_eq_true metrics)
    · exact absurd member List.not_mem_nil
  lists := by
    intro entry member
    unfold known at member
    dsimp only at member
    split at member
    · rename_i page
      obtain rfl := List.mem_singleton.mp member
      obtain ⟨value, found⟩ := Option.isSome_iff_exists.mp (typed.items.trans (decide_eq_true page))
      obtain ⟨items, rfl⟩ := typed.fitting.items found
      refine ⟨items.map itemJson, ?_, ?_⟩
      · exact Option.bind_eq_some_iff.mpr ⟨_, found, rfl⟩
      · intro element listed field named
        obtain ⟨item, _, rfl⟩ := List.mem_map.mp listed
        simp only [List.mem_cons, List.not_mem_nil, or_false] at named
        rcases named with rfl | rfl | rfl <;> rfl
    · exact absurd member List.not_mem_nil
  implied := by
    intro entry member truth path listed
    have itself (name : String) (true_ : (resolve Json.values context (.named name)).any
        Json.values.truthy = true) :
        (resolve Json.values context (.named name)).isSome = true := by
      obtain ⟨value, found, _⟩ := (Option.any_eq_true _ _).mp true_
      rw [found]
      rfl
    simp only [known, List.mem_cons, List.not_mem_nil, or_false] at member
    rcases member with rfl | rfl
    · simp only [List.mem_cons, List.not_mem_nil, or_false] at listed
      rcases listed with rfl | rfl
      · exact itself "session_user" truth
      · exact typed.session (itself "session_user" truth)
    · obtain rfl := List.mem_singleton.mp listed
      exact itself "flash" truth

end Contexts

section Rendering

/-- Every page of a handler has a checked template. -/
theorem checked_of_shown {page : String} {context : Context} (shown : Shown page context) :
    ∃ template, Checked page template := by
  cases shown with
  | index => exact ⟨_, index_checked⟩
  | login | refused => exact ⟨_, login_checked⟩
  | items | flashed | failed => exact ⟨_, items_checked⟩
  | metrics => exact ⟨_, metrics_checked⟩

variable {print : Template → Context → Except Str Str} {engine : TemplateEngine}

/-- The engine prints a checked template as its meaning says. -/
theorem Checked.tera (rules : TeraRules print engine) {page : String} {template : Template}
    (checked : Checked page template) {context : Context} {pieces : List Piece}
    (rendered : template.pieces Json.values context = .ok pieces) :
    engine.tera page.toList context = .ok (writeAll pieces) :=
  (rules.pages _ checked.listed context).trans
    (rules.constructs.print_of_pieces checked.bare rendered)

/-- Every page of a handler is rendered. -/
theorem tera_of_shown (rules : TeraRules print engine) {page : String} {context : Context}
    (shown : Shown page context) : ∃ html, engine.tera page.toList context = .ok html := by
  obtain ⟨template, checked⟩ := checked_of_shown shown
  obtain ⟨printed, rendered⟩ := pieces_of_covered checked.covered (typed_of_shown shown).holds
  exact ⟨_, checked.tera rules rendered⟩

/-- The engine with other answers for the templates that fail. -/
def withFallback (engine : TemplateEngine) (fallback : Str → Context → Str → Except Str Str) :
    TemplateEngine :=
  ⟨fun name context =>
    match engine.tera name context with
    | .ok html => .ok html
    | .error error => fallback name context error⟩

variable (rules : TeraRules print engine) (fallback : Str → Context → Str → Except Str Str)

include rules

/-- A shown page is rendered alike with and without the fallback. -/
theorem render_withFallback {page : String} {context : Context} (shown : Shown page context) :
    (withFallback engine fallback).render page.toList context = engine.render page.toList context := by
  obtain ⟨html, rendered⟩ := tera_of_shown rules shown
  have same : (withFallback engine fallback).tera page.toList context =
      engine.tera page.toList context := by
    rw [withFallback]
    dsimp only
    rw [rendered]
  unfold TemplateEngine.render
  rw [same]

/-- The overview does not reach the fallback. -/
theorem uiIndex_withFallback : uiIndex (withFallback engine fallback) = uiIndex engine := by
  funext request
  unfold uiIndex
  apply bind_congr
  intro session
  exact congrArg pure (render_withFallback rules fallback (.index session))

/-- The login page does not reach the fallback. -/
theorem uiLoginPage_withFallback :
    uiLoginPage (withFallback engine fallback) = uiLoginPage engine := by
  funext request
  exact congrArg pure (render_withFallback rules fallback .login)

/-- The login does not reach the fallback. -/
theorem uiLogin_withFallback (services : Services) (secure : Bool) :
    uiLogin services (withFallback engine fallback) secure = uiLogin services engine secure := by
  funext request
  unfold uiLogin
  dsimp only
  apply bind_congr
  intro verified
  rcases verified with error | _ | _
  · rfl
  · exact congrArg pure (render_withFallback rules fallback .refused)
  · rfl

/-- The items page does not reach the fallback. -/
theorem uiItems_withFallback : uiItems (withFallback engine fallback) = uiItems engine := by
  funext request
  unfold uiItems
  apply bind_congr
  intro session
  apply bind_congr
  intro listed
  cases request.queryParam "flash".toList with
  | none => exact congrArg pure (render_withFallback rules fallback (.items session _))
  | some message => exact congrArg pure (render_withFallback rules fallback (.flashed session _ message))

/-- The creation of an item does not reach the fallback. -/
theorem uiCreateItem_withFallback :
    uiCreateItem (withFallback engine fallback) = uiCreateItem engine := by
  funext request
  unfold uiCreateItem
  congr 1
  dsimp only
  apply bind_congr
  intro created
  cases created with
  | ok item => rfl
  | error error =>
      dsimp only
      apply bind_congr
      intro listed
      exact congrArg pure (render_withFallback rules fallback (.failed _))

/-- The counters page does not reach the fallback. -/
theorem uiMetrics_withFallback (services : Services) :
    uiMetrics services (withFallback engine fallback) = uiMetrics services engine := by
  funext request
  unfold uiMetrics
  apply bind_congr
  intro session
  exact congrArg pure (render_withFallback rules fallback (.metrics session services.metrics))

/-- The routes of the pages do not reach the fallback. -/
theorem uiRoutes_withFallback (config : ServerConfig) (services : Services)
    (router : Router DbAction) :
    uiRoutes config services (withFallback engine fallback) router =
      uiRoutes config services engine router := by
  unfold uiRoutes
  rw [uiIndex_withFallback rules, uiLoginPage_withFallback rules, uiLogin_withFallback rules,
    uiItems_withFallback rules, uiCreateItem_withFallback rules, uiMetrics_withFallback rules]

end Rendering

/-- No request reaches the error page of an engine that follows the rules. -/
theorem template_errors_unreachable {print : Template → Context → Except Str Str}
    {engine : TemplateEngine} (rules : TeraRules print engine)
    (fallback : Str → Context → Str → Except Str Str) (config : ServerConfig) (services : Services)
    (proxyClient : Option Proxy.Client) (request : HttpRequest) :
    (buildRouter config services (some (withFallback engine fallback)) proxyClient).dispatch request =
      (buildRouter config services (some engine) proxyClient).dispatch request := by
  unfold buildRouter
  dsimp only
  rw [uiRoutes_withFallback rules]

/-- A page that is asked for without a session. -/
def getIndex : HttpRequest :=
  HttpRequest.fromParts .get (.withoutQuery (.rooted "/ui/index".toList (.refl true))) [] []

/-- The reference engine answers the overview without its fallback. -/
theorem template_errors_unreachable_index :
    (buildRouter .defaults Services.refusing
      (some (withFallback reference fun _ _ _ => .ok "fallback".toList)) none).dispatch getIndex =
    (buildRouter .defaults Services.refusing (some reference) none).dispatch getIndex :=
  template_errors_unreachable reference_rules _ .defaults Services.refusing none getIndex

section Markup

/-- What of a context shows in the tags of its page: which texts are there, whether somebody is
signed in and a message is shown, and how many items there are. -/
def outline (context : Context) : List Bool × List Bool × Option Nat :=
  (texts.map fun name => (context name.toList).isSome,
    ["session_user", "flash"].map fun name => (context name.toList).any Json.truthy,
    ((context "items".toList).bind Json.elements).map List.length)

/-- Contexts of one page with one outline have values of the same shapes. -/
theorem typed_alike {page : String} {first second : Context} (one : Typed page first)
    (other : Typed page second) (same : outline first = outline second) :
    ScopesAlike Alike first second := by
  obtain ⟨sameTexts, rest⟩ := Prod.mk.inj same
  obtain ⟨_, sameItems⟩ := Prod.mk.inj rest
  have present {key : Str} {value : Json} (fits : Fits key value) :
      (first key).isSome = (second key).isSome := by
    cases fits with
    | text listed => exact List.map_inj_left.mp sameTexts _ listed
    | count listed => exact (one.counters _ listed).trans (other.counters _ listed).symm
    | items => exact one.items.trans other.items.symm
  intro key
  cases left : first key with
  | none =>
      cases right : second key with
      | none => exact .none
      | some value =>
          have both := present (other.fitting key value right)
          rw [left, right] at both
          exact absurd both Bool.false_ne_true
  | some value =>
      have fits := one.fitting key value left
      have both := present fits
      rw [left] at both
      obtain ⟨value', right⟩ := Option.isSome_iff_exists.mp both.symm
      rw [right]
      apply Option.Rel.some
      cases fits with
      | text listed content =>
          obtain ⟨content', rfl⟩ := other.fitting.text listed right
          exact .text content content'
      | count listed number =>
          obtain ⟨number', rfl⟩ := other.fitting.count listed right
          exact .count number number'
      | items items =>
          obtain ⟨items', rfl⟩ := other.fitting.items right
          rw [left, right] at sameItems
          have lengths : (items.map itemJson).length = (items'.map itemJson).length :=
            Option.some.inj sameItems
          rw [List.length_map, List.length_map] at lengths
          exact .items lengths

/-- Contexts with one outline agree on the conditions of the templates. -/
theorem typed_tests {page : String} {first second : Context} (one : Typed page first)
    (other : Typed page second) (same : outline first = outline second) :
    TestsAgree Json.values tests first second := by
  obtain ⟨_, rest⟩ := Prod.mk.inj same
  obtain ⟨sameTests, sameItems⟩ := Prod.mk.inj rest
  have tested (name : String) (listed : name ∈ ["session_user", "flash"]) :
      (first name.toList).any Json.truthy = (second name.toList).any Json.truthy :=
    List.map_inj_left.mp sameTests name listed
  intro path member
  simp only [tests, List.mem_cons, List.not_mem_nil, or_false] at member
  rcases member with rfl | rfl | rfl
  · exact tested "session_user" (by decide)
  · exact tested "flash" (by decide)
  · have counted {context : Context} (typed : Typed page context) :
        (context "items".toList).any Json.truthy =
          (((context "items".toList).bind Json.elements).map List.length).any (· ≠ 0) := by
      cases found : context "items".toList with
      | none => rfl
      | some value =>
          obtain ⟨items, rfl⟩ := typed.fitting.items found
          cases items <;> rfl
    exact (counted one).trans ((congrArg (Option.any (· ≠ 0)) sameItems).trans (counted other).symm)

/-- A typed context writes nothing but what the page may show. -/
theorem typed_quiet {page : String} {context : Context} (typed : Typed page context) :
    ScopeQuiet Offered context := by
  intro key value found
  cases typed.fitting key value found with
  | text _ content => exact .text content
  | count _ number => exact .count number
  | items items => exact .items items

/-- The tags of a page depend on the outline of its data alone. -/
theorem markup_fixed {print : Template → Context → Except Str Str} {engine : TemplateEngine}
    (rules : TeraRules print engine) {page : String} {first second : Context} (one : Shown page first)
    (other : Shown page second) (same : outline first = outline second) :
    ∃ html html', engine.tera page.toList first = .ok html ∧
      engine.tera page.toList second = .ok html' ∧
      markup (Markup.scan .text html) = markup (Markup.scan .text html') := by
  obtain ⟨template, checked⟩ := checked_of_shown one
  have typed := typed_of_shown one
  have typed' := typed_of_shown other
  obtain ⟨printed, rendered⟩ := pieces_of_covered checked.covered typed.holds
  obtain ⟨printed', rendered', alike⟩ := pieces_alike alike_congruence checked.decided
    (typed_tests typed typed' same) (typed_alike typed typed' same) rendered
  have settled := settled_of_placed checked.placed rendered
  have settled' := settled_of_placed checked.placed rendered'
  have read := settled.scan (pieces_inert offered_quiet (typed_quiet typed) rendered) []
  have read' := settled'.scan (pieces_inert offered_quiet (typed_quiet typed') rendered') []
  rw [List.append_nil, Markup.scan_nil, List.append_nil] at read read'
  refine ⟨_, _, checked.tera rules rendered, checked.tera rules rendered', ?_⟩
  rw [read, read']
  exact settled.markup_eq alike

/-- A script in the name of an item adds no tag. -/
theorem markup_fixed_script :
    ∃ html html',
      reference.tera "items.html".toList ((sessionContext (some ⟨"ann".toList, "t".toList⟩)).insert
        "items".toList (.array ([⟨"1".toList, "<script>".toList, "\"&".toList⟩].map itemJson))) =
          .ok html ∧
      reference.tera "items.html".toList ((sessionContext (some ⟨"<b>".toList, "u".toList⟩)).insert
        "items".toList (.array ([⟨"2".toList, "pen".toList, []⟩].map itemJson))) = .ok html' ∧
      markup (Markup.scan .text html) = markup (Markup.scan .text html') :=
  markup_fixed reference_rules (.items (some ⟨"ann".toList, "t".toList⟩) _) (.items (some ⟨"<b>".toList, "u".toList⟩) _)
    (by decide)

end Markup

end Pages

end HighperfServer
