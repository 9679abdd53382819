namespace HighperfServer.Library

/-- An action reads an environment and updates a world. -/
def Action (Env World A : Type) := Env → World → A × World

/-- A query is an action that may fail, and a failure ends the query. -/
def Query (Env World Error A : Type) := Action Env World (Except Error A)

namespace Action
variable {Env World A B : Type}

instance : Monad (Action Env World) where
  pure value := fun _ world => (value, world)
  bind action next := fun env world => next (action env world).1 env (action env world).2

/-- The environment is visible to every action. -/
def read : Action Env World Env := fun env world => (env, world)

@[simp] theorem pure_apply (value : A) (env : Env) (world : World) :
    (pure value : Action Env World A) env world = (value, world) := rfl

@[simp] theorem bind_apply (action : Action Env World A) (next : A → Action Env World B)
    (env : Env) (world : World) :
    (action >>= next) env world = next (action env world).1 env (action env world).2 := rfl

/-- From every world that meets the precondition the action ends in the postcondition. -/
def Triple (env : Env) (pre : World → Prop) (action : Action Env World A)
    (post : A → World → Prop) : Prop :=
  ∀ world, pre world → post (action env world).1 (action env world).2

section Triple
variable {env : Env} {pre : World → Prop} {action : Action Env World A} {post : A → World → Prop}

/-- A pure action needs the postcondition at once. -/
theorem Triple.pure {value : A} (implies : ∀ world, pre world → post value world) :
    Triple env pre (pure value) post := implies

/-- The postcondition of the first action is the precondition of the second. -/
theorem Triple.bind {middle : A → World → Prop} {next : A → Action Env World B}
    {last : B → World → Prop} (first : Triple env pre action middle)
    (second : ∀ value, Triple env (middle value) (next value) last) :
    Triple env pre (action >>= next) last :=
  fun world holds => second _ _ (first world holds)

/-- A computed answer after an action leaves the world alone. -/
theorem Triple.bind_pure {middle : A → World → Prop} {answer : A → B} {last : B → World → Prop}
    (first : Triple env pre action middle)
    (implies : ∀ value world, middle value world → last (answer value) world) :
    Triple env pre (action >>= fun value => Pure.pure (answer value)) last :=
  first.bind fun value => Triple.pure (implies value)

/-- A triple holds with a stronger precondition and a weaker postcondition. -/
theorem Triple.consequence {stronger : World → Prop} {weaker : A → World → Prop}
    (triple : Triple env pre action post) (before : ∀ world, stronger world → pre world)
    (after : ∀ value world, post value world → weaker value world) :
    Triple env stronger action weaker :=
  fun world holds => after _ _ (triple world (before world holds))

/-- A fact of the precondition that names no world is available throughout. -/
theorem Triple.assuming {fact : Prop} (triple : fact → Triple env pre action post) :
    Triple env (fun world => fact ∧ pre world) action post :=
  fun world holds => triple holds.1 world holds.2

end Triple

end Action

namespace Query
variable {Env World Error A B : Type}

instance : Monad (Query Env World Error) where
  pure value := fun _ world => (.ok value, world)
  bind query next := fun env world =>
    match query env world with
    | (.ok value, after) => next value env after
    | (.error error, after) => (.error error, after)

/-- The query fails without touching the world. -/
def fail (error : Error) : Query Env World Error A := fun _ world => (.error error, world)

/-- An action that cannot fail is a query. -/
def lift (action : Action Env World A) : Query Env World Error A := fun env world =>
  (.ok (action env world).1, (action env world).2)

/-- The caller of a query inspects its result. -/
def result (query : Query Env World Error A) : Action Env World (Except Error A) := query

@[simp] theorem pure_apply (value : A) (env : Env) (world : World) :
    (pure value : Query Env World Error A) env world = (.ok value, world) := rfl

theorem bind_apply (query : Query Env World Error A) (next : A → Query Env World Error B)
    (env : Env) (world : World) :
    (query >>= next) env world =
      match query env world with
      | (.ok value, after) => next value env after
      | (.error error, after) => (.error error, after) := rfl

@[simp] theorem lift_apply (action : Action Env World A) (env : Env) (world : World) :
    (lift action : Query Env World Error A) env world =
      (.ok (action env world).1, (action env world).2) := rfl

/-- A query that only computes its answer afterwards leaves the same world. -/
theorem bind_pure_world (query : Query Env World Error A) (answer : A → B) (env : Env)
    (world : World) : ((query >>= fun value => pure (answer value)) env world).2 =
      (query env world).2 := by
  rw [bind_apply]
  cases query env world with
  | mk result after => cases result <;> rfl

/-- A query ends in one postcondition when it answers and in another when it fails. -/
def Triple (env : Env) (pre : World → Prop) (query : Query Env World Error A)
    (post : A → World → Prop) (failed : World → Prop) : Prop :=
  Action.Triple env pre query fun result world =>
    match result with
    | .ok value => post value world
    | .error _ => failed world

section Triple
variable {env : Env} {pre : World → Prop} {query : Query Env World Error A}
  {post : A → World → Prop} {failed : World → Prop}

/-- A pure query has its value and changes nothing. -/
theorem Triple.pure {value : A} (implies : ∀ world, pre world → post value world) :
    Triple env pre (pure value : Query Env World Error A) post failed := implies

/-- A failing query ends in its failure. -/
theorem Triple.fail {error : Error} (implies : ∀ world, pre world → failed world) :
    Triple env pre (Query.fail error : Query Env World Error A) post failed := implies

/-- A failure of the first query ends the whole query. -/
theorem Triple.bind {next : A → Query Env World Error B} {last : B → World → Prop}
    (first : Triple env pre query post failed)
    (second : ∀ value, Triple env (post value) (next value) last failed) :
    Triple env pre (query >>= next) last failed := by
  intro world holds
  have start := first world holds
  rw [bind_apply]
  cases ran : query env world with
  | mk result after =>
      rw [ran] at start
      cases result with
      | ok value => exact second value after start
      | error error => exact start

/-- An action that cannot fail is a query with the same triple. -/
theorem Triple.lift {action : Action Env World A} (triple : Action.Triple env pre action post) :
    Triple env pre (Query.lift action : Query Env World Error A) post failed := triple

/-- The postcondition of a failure may be weakened alone. -/
theorem Triple.failing {gone : World → Prop} (triple : Triple env pre query post failed)
    (lost : ∀ world, failed world → gone world) : Triple env pre query post gone := by
  intro world holds
  have ended := triple world holds
  revert ended
  cases (query env world).1 with
  | ok value => exact id
  | error error => exact lost _

theorem Triple.assuming {fact : Prop} (triple : fact → Triple env pre query post failed) :
    Triple env (fun world => fact ∧ pre world) query post failed :=
  Action.Triple.assuming triple

/-- A triple holds from a stronger precondition and to weaker postconditions. -/
theorem Triple.consequence {stronger : World → Prop} {weaker : A → World → Prop}
    {gone : World → Prop} (triple : Triple env pre query post failed)
    (before : ∀ world, stronger world → pre world)
    (after : ∀ value world, post value world → weaker value world)
    (lost : ∀ world, failed world → gone world) :
    Triple env stronger query weaker gone := by
  refine Action.Triple.consequence triple before ?_
  intro result world holds
  cases result with
  | ok value => exact after value world holds
  | error error => exact lost world holds

/-- A caller that inspects the result relies on what holds however the query ends. -/
theorem Triple.settled {ensured : World → Prop}
    (triple : Triple env pre query (fun _ world => ensured world) ensured) :
    Action.Triple env pre query.result (fun _ world => ensured world) := by
  intro world holds
  have ended := triple world holds
  revert ended
  change _ → ensured (query env world).2
  cases (query env world).1 with
  | ok value => exact id
  | error error => exact id

end Triple

/-- From every world of the precondition the query answers with the value. -/
def Answers (env : Env) (pre : World → Prop) (query : Query Env World Error A) (value : A)
    (post : World → Prop) : Prop :=
  Triple env pre query (fun answer world => answer = value ∧ post world) fun _ => False

section Answers
variable {env : Env} {pre post : World → Prop} {query : Query Env World Error A} {value : A}

/-- A query goes on with the answer of its first part. -/
theorem Answers.bind {next : A → Query Env World Error B} {last : B → World → Prop}
    {failed : World → Prop} (first : Answers env pre query value post)
    (second : Triple env post (next value) last failed) :
    Triple env pre (query >>= next) last failed := by
  refine Triple.bind (first.failing fun _ => False.elim) fun answer => Triple.assuming fun same => ?_
  rw [same]
  exact second

/-- A caller that inspects the result finds the answer. -/
theorem Answers.result (answers : Answers env pre query value post) :
    Action.Triple env pre query.result (fun result world => result = .ok value ∧ post world) := by
  intro world holds
  have ended := answers world holds
  revert ended
  change _ → (query env world).1 = _ ∧ post (query env world).2
  cases (query env world).1 with
  | ok answer =>
      rintro ⟨rfl, after⟩
      exact ⟨rfl, after⟩
  | error error => exact False.elim

end Answers

end Query

end HighperfServer.Library
