import HighperfServer.Construction.Server.Routes
import HighperfServer.Proof.Http.Router
import HighperfServer.Proof.Storage

namespace HighperfServer
open Library Storage

namespace Routes

/-- The request has the method, and its path matches the pattern. -/
def Requests (request : HttpRequest) (method : Method) (pattern : String) (params : PathParams) :
    Prop :=
  request.method = method ∧ matchPath (parsePattern pattern.toList) request.path = some params

section Authority
variable (services : Services) (request : HttpRequest) (env : Env) (before after : Database)

/-- The `Authorization` value is a bearer token that verifies. -/
def BearerValid : Prop :=
  ∃ token claims, request.header "authorization".toList = some ("Bearer ".toList ++ token) ∧
    (services.jwt.verifyToken token env (World.start before)).1 = some claims

/-- The cookie names an unexpired session, and the form repeats its CSRF token. -/
def SessionValid (row : SessionRow) : Prop :=
  row ∈ before.sessions.rows ∧ env.now < row.expiresAt ∧
    sessionToken request = some row.token ∧
    request.formParam "_csrf".toList = some row.csrfToken

/-- An authorised request inserted exactly one item. -/
def ItemInserted : Prop :=
  (∃ row, before.items.insertRow row = some after.items) ∧ ∃ params,
    (Requests request .post "/api/admin/items" params ∧
      BearerValid services request env before) ∨
    (Requests request .post "/ui/items" params ∧ ∃ row, SessionValid request env before row)

/-- An authorised request deleted at most the item of its id. -/
def ItemErased : Prop :=
  ∃ params id, params "id".toList = some id ∧ after.items = before.items.erase id ∧
    ((Requests request .delete "/api/admin/items/:id" params ∧
      BearerValid services request env before) ∨
    (Requests request .post "/ui/items/:id/delete" params ∧
      ∃ row, SessionValid request env before row))

/-- A login verified the user of the session. -/
def LoggedIn (row : SessionRow) : Prop :=
  let (username, password) := formFields "username" "password" request.body
  (∃ params, Requests request .post "/ui/login" params) ∧ row.username = username ∧
    (verifyUser services.argon2 username password env (World.start before)).1 = .ok true

/-- A logout presented the token and the CSRF token of the session. -/
def LoggedOut (row : SessionRow) : Prop :=
  (∃ params, Requests request .post "/ui/logout" params) ∧
    sessionToken request = some row.token ∧
    request.formParam "_csrf".toList = some row.csrfToken

/-- A request changes the tables only as far as it is authorised to. -/
structure Authorised : Prop where
  items : after.items = before.items ∨ ItemInserted services request env before after ∨
    ItemErased services request env before after
  added : ∀ row ∈ after.sessions.rows,
    (∃ earlier ∈ before.sessions.rows, SameSession earlier row) ∨
      LoggedIn services request env before row
  removed : ∀ row ∈ before.sessions.rows, env.now < row.expiresAt →
    (∃ later ∈ after.sessions.rows, SameSession row later) ∨ LoggedOut request row
  users : after.users = before.users

/-- The change is authorised and consists of the server's own statements. -/
def Lawful : Prop :=
  Authorised services request env before after ∧ (UuidsFilled env → Runs before after)

end Authority

section Change
variable {services : Services} {request : HttpRequest} {env : Env} {before middle after : Database}

/-- A change of the items after a look at the session needs an authority. -/
theorem authorised_items (kept : Kept env before middle) (users : after.users = middle.users)
    (sessions : after.sessions = middle.sessions)
    (items : after.items = before.items ∨ ItemInserted services request env before after ∨
      ItemErased services request env before after) :
    Authorised services request env before after where
  items := items
  added := by
    intro row member
    rw [sessions] at member
    exact .inl (kept.old row member)
  removed := by
    intro row member unexpired
    obtain ⟨later, present, same, _⟩ := kept.live row member unexpired
    rw [sessions]
    exact .inl ⟨later, present, same⟩
  users := users.trans kept.users

/-- A handler that keeps the data is lawful. -/
theorem lawful_of_kept (kept : Kept env before after) :
    Lawful services request env before after :=
  ⟨authorised_items kept rfl rfl (.inl kept.items), fun _ => kept.runs⟩

/-- An authorised creation of an item is lawful. -/
theorem lawful_itemCreated (kept : Kept env before middle) (created : ItemCreated middle after)
    {params : PathParams}
    (authority : (Requests request .post "/api/admin/items" params ∧
        BearerValid services request env before) ∨
      (Requests request .post "/ui/items" params ∧ ∃ row, SessionValid request env before row)) :
    Lawful services request env before after := by
  rcases created with rfl | ⟨row, items, inserted, rfl⟩
  · exact lawful_of_kept kept
  · refine ⟨authorised_items kept rfl rfl (.inr (.inl ⟨⟨row, ?_⟩, params, authority⟩)), fun _ => ?_⟩
    · rw [← kept.items]
      exact inserted
    · refine kept.runs.trans (Runs.single (.insertItem row) ?_)
      rw [step, inserted]
      rfl

/-- An authorised deletion of an item is lawful. -/
theorem lawful_itemDeleted (kept : Kept env before middle) {id : Str}
    (deleted : ItemDeleted id middle after) {params : PathParams}
    (captured : params "id".toList = some id)
    (authority : (Requests request .delete "/api/admin/items/:id" params ∧
        BearerValid services request env before) ∨
      (Requests request .post "/ui/items/:id/delete" params ∧
        ∃ row, SessionValid request env before row)) :
    Lawful services request env before after := by
  rcases deleted with rfl | rfl
  · exact lawful_of_kept kept
  · refine ⟨authorised_items kept rfl rfl (.inr (.inr ⟨params, id, captured, ?_, authority⟩)),
      fun _ => kept.runs.trans (Runs.single (.deleteItem id) rfl)⟩
    rw [← kept.items]

/-- A verified login is lawful. -/
theorem lawful_sessionCreated {username password : Str}
    (fields : formFields "username" "password" request.body = (username, password))
    {params : PathParams} (requested : Requests request .post "/ui/login" params)
    (verified : (verifyUser services.argon2 username password env (World.start before)).1 =
      .ok true)
    (created : SessionCreated env username before after) :
    Lawful services request env before after := by
  rcases created with rfl | ⟨row, sessions, named, tokenDrawn, csrfDrawn, inserted, rfl⟩
  · exact lawful_of_kept (Kept.refl env _)
  · refine ⟨⟨.inl rfl, ?_, ?_, rfl⟩, fun filled => Runs.single (.insertSession row) ?_⟩
    · intro other member
      rcases (Sessions.mem_insertRow inserted).mp member with old | new
      · exact .inl ⟨other, old, SameSession.refl other⟩
      · rw [new]
        refine .inr ?_
        unfold LoggedIn
        rw [fields]
        exact ⟨⟨params, requested⟩, named, verified⟩
    · intro other member _
      exact .inl ⟨other, (Sessions.mem_insertRow inserted).mpr (.inl member), SameSession.refl other⟩
    · obtain ⟨tokenIndex, token⟩ := tokenDrawn
      obtain ⟨csrfIndex, csrfToken⟩ := csrfDrawn
      rw [step, if_pos ⟨token ▸ filled tokenIndex, csrfToken ▸ filled csrfIndex⟩, inserted]
      rfl

/-- A logout that presents a session removes no other one. -/
theorem lawful_sessionRemoved (kept : Kept env before middle) {row : SessionRow}
    (valid : SessionValid request env before row) {params : PathParams}
    (requested : Requests request .post "/ui/logout" params)
    (removed : SessionRemoved row.token middle after) :
    Lawful services request env before after := by
  rcases removed with rfl | rfl
  · exact lawful_of_kept kept
  · obtain ⟨present, _, cookie, csrf⟩ := valid
    refine ⟨⟨.inl kept.items, ?_, ?_, kept.users⟩,
      fun _ => kept.runs.trans (Runs.single (.deleteSession row.token) rfl)⟩
    · intro other member
      exact .inl (kept.old other (Sessions.mem_deleteToken.mp member).1)
    · intro other member unexpired
      by_cases same : other.token = row.token
      · have equal : other = row :=
          List.inj_on_of_nodup_map before.sessions.distinct member present same
        rw [equal]
        exact .inr ⟨⟨params, requested⟩, cookie, csrf⟩
      · obtain ⟨later, found, twin, _⟩ := kept.live other member unexpired
        refine .inl ⟨later, Sessions.mem_deleteToken.mpr ⟨found, ?_⟩, twin⟩
        rw [← twin.1]
        exact same

end Change

section Guards
variable {services : Services} {request : HttpRequest} {env : Env} {before : Database}
  {ensured : Database → Prop} {next : DbAction HttpResponse}

/-- Behind the bearer check the token is valid. -/
theorem requireBearer_triple (rejected : ensured before)
    (continues : BearerValid services request env before →
      Action.Triple env (fun world => world.db = before) next (fun _ world => ensured world.db)) :
    Action.Triple env (fun world => world.db = before) (requireBearer services request next)
      (fun _ world => ensured world.db) := by
  have refused (world : World) (same : world.db = before) : ensured world.db := by
    rw [same]
    exact rejected
  unfold requireBearer
  cases extracted : extractBearer (request.header "authorization".toList) with
  | none => exact Action.Triple.pure refused
  | some token =>
      obtain ⟨header, present, stripped⟩ := Option.bind_eq_some_iff.mp extracted
      have value : header = "Bearer ".toList ++ token :=
        (List.isPrefixOf?_eq_some_iff_append_eq.mp stripped).symm
      have verify : Action.Triple env (fun world => world.db = before)
          (services.jwt.verifyToken token)
          (fun claims world => claims = services.jwt.decode token env.now ∧ world.db = before) :=
        fun _ same => ⟨rfl, same⟩
      refine Action.Triple.bind verify fun claims => ?_
      refine Action.Triple.assuming fun decoded => ?_
      cases claims with
      | none => exact Action.Triple.pure refused
      | some claims => exact continues ⟨token, claims, by rw [present, value], decoded.symm⟩

/-- The session that a request works with is a live row of its cookie's token. -/
theorem currentSession_triple (token : Option Str) :
    Action.Triple env (fun world => world.db = before) (currentSession token)
      (fun session world => (∀ found, session = some found → ∃ row ∈ before.sessions.rows,
        env.now < row.expiresAt ∧ token = some row.token ∧ found.csrfToken = row.csrfToken) ∧
        Kept env before world.db) := by
  cases token with
  | none =>
      refine Action.Triple.pure fun world same => ⟨fun found none => absurd none (by simp), ?_⟩
      rw [same]
      exact Kept.refl env before
  | some token =>
      refine Action.Triple.bind_pure (get_triple token) ?_
      intro result world ended
      cases result with
      | error error => exact ⟨fun found none => absurd none (by simp [Except.toOption]), ended⟩
      | ok session =>
          obtain ⟨answer, kept⟩ := ended
          refine ⟨?_, kept⟩
          intro found same
          have selected : before.sessions.selectLive token env.now = some found := by
            rw [← answer]
            simpa [Except.toOption] using same
          obtain ⟨row, looked, unexpired, rfl⟩ := Sessions.selectLive_eq_some_iff.mp selected
          obtain ⟨member, keyed⟩ := Table.lookup_eq_some_iff.mp looked
          exact ⟨row, member, unexpired, congrArg some keyed.symm, rfl⟩

/-- A missing form field reads as the empty text, which no stored CSRF token equals. -/
theorem sessionValid_of_csrf (filled : TokensFilled before) {row : SessionRow}
    (member : row ∈ before.sessions.rows) (unexpired : env.now < row.expiresAt)
    (cookie : sessionToken request = some row.token) (csrf : row.csrfToken = csrfParam request) :
    SessionValid request env before row := by
  refine ⟨member, unexpired, cookie, ?_⟩
  unfold csrfParam at csrf
  cases submitted : request.formParam "_csrf".toList with
  | none =>
      rw [submitted] at csrf
      exact absurd csrf (filled row member)
  | some value =>
      rw [submitted] at csrf
      exact congrArg some csrf.symm

/-- Behind the session check the request holds a valid session. -/
theorem requireSession_triple (filled : TokensFilled before)
    (rejected : ∀ middle, Kept env before middle → ensured middle)
    (continues : ∀ row, SessionValid request env before row →
      ∀ middle, Kept env before middle →
        Action.Triple env (fun world => world.db = middle) next
          (fun _ world => ensured world.db)) :
    Action.Triple env (fun world => world.db = before) (requireSession request next)
      (fun _ world => ensured world.db) := by
  have refused (world : World) (kept : Kept env before world.db) : ensured world.db :=
    rejected world.db kept
  refine Action.Triple.bind (currentSession_triple (sessionToken request)) fun session => ?_
  refine Action.Triple.assuming fun known => ?_
  cases session with
  | none => exact Action.Triple.pure refused
  | some session =>
      obtain ⟨row, member, unexpired, cookie, csrf⟩ := known session rfl
      dsimp only
      split
      · exact Action.Triple.pure refused
      · rename_i repeated
        have valid : SessionValid request env before row :=
          sessionValid_of_csrf filled member unexpired cookie
            (csrf.symm.trans (Decidable.not_not.mp repeated))
        exact fun world kept => continues row valid world.db kept world rfl

end Guards

section Handlers
variable {services : Services} {request : HttpRequest} {env : Env} {before : Database}
  {params : PathParams}

/-- A passive handler only looks at the session of its request. -/
def Passive (handler : Handler) : Prop :=
  ∀ request env before, Action.Triple env (fun world => world.db = before) (handler request)
    (fun _ world => Kept env before world.db)

/-- An unchanged database keeps its data. -/
theorem kept_of_same {world : World} (same : world.db = before) : Kept env before world.db := by
  rw [same]
  exact Kept.refl env before

/-- A handler without an action is passive. -/
theorem passive_of_pure {handler : Handler}
    (answers : ∀ request, ∃ response, handler request = pure response) : Passive handler := by
  intro request env before
  obtain ⟨response, same⟩ := answers request
  rw [same]
  exact Action.Triple.pure fun _ => kept_of_same

/-- A page that shows the session is passive. -/
theorem passive_page (page : HttpRequest → Option Session → HttpResponse) :
    Passive fun request => do
      let session ← currentSession (sessionToken request)
      return page request session :=
  fun request _ _ => Action.Triple.bind_pure (currentSession_triple (sessionToken request))
    fun _ _ looked => looked.2

/-- The list of items writes nothing. -/
theorem passive_apiListItems (services : Services) : Passive (apiListItems services) :=
  fun _ _ before => Action.Triple.bind_pure (listItems_keeps (· = before)) fun _ _ => kept_of_same

/-- The view of an item writes nothing. -/
theorem passive_apiGetItem (services : Services) : Passive (apiGetItem services) :=
  fun _ _ before => Action.Triple.bind_pure (getItem_keeps _ (· = before)) fun _ _ => kept_of_same

/-- The token route writes nothing. -/
theorem passive_authToken (services : Services) : Passive (authToken services) := by
  intro request env before
  unfold authToken
  cases services.parseLogin request.body with
  | none => exact Action.Triple.pure fun _ => kept_of_same
  | some payload =>
      refine Action.Triple.bind (verifyUser_triple _ _ _).settled fun verified => ?_
      have issue : Action.Triple env (fun world => world.db = before)
          (services.jwt.createToken payload.username) (fun _ world => world.db = before) :=
        fun _ same => same
      rcases verified with error | _ | _
      · exact Action.Triple.pure fun _ => kept_of_same
      · exact Action.Triple.pure fun _ => kept_of_same
      · exact Action.Triple.bind_pure issue fun _ _ => kept_of_same

/-- The items page writes no more than its session. -/
theorem passive_uiItems (engine : TemplateEngine) : Passive (uiItems engine) := by
  intro request env before
  refine Action.Triple.bind (currentSession_triple (sessionToken request)) fun session => ?_
  refine Action.Triple.assuming fun _ => ?_
  exact Action.Triple.bind_pure (listItems_keeps (Kept env before)) fun _ _ kept => kept

/-- What is lawful without a change is lawful when the database is unchanged. -/
theorem lawful_of_same {world : World} (same : world.db = before) :
    Lawful services request env before world.db := lawful_of_kept (kept_of_same same)

/-- A passive handler is lawful for every request. -/
theorem Passive.lawful {handler : Handler} (passive : Passive handler) :
    Action.Triple env (fun world => world.db = before)
      (handler { request with pathParams := params })
      (fun _ world => Lawful services request env before world.db) :=
  (passive _ env before).consequence (fun _ same => same) fun _ _ => lawful_of_kept

/-- An administrator's creation is lawful. -/
theorem adminCreateItem_lawful (requested : Requests request .post "/api/admin/items" params) :
    Action.Triple env (fun world => world.db = before)
      (adminCreateItem services { request with pathParams := params })
      (fun _ world => Lawful services request env before world.db) := by
  refine requireBearer_triple (lawful_of_kept (Kept.refl env before)) fun valid => ?_
  dsimp only
  cases services.parseItem request.body with
  | none => exact Action.Triple.pure fun _ => lawful_of_same
  | some payload =>
      refine Action.Triple.bind_pure (createItem_triple _ _).settled ?_
      intro result world created
      exact lawful_itemCreated (Kept.refl env before) created (.inl ⟨requested, valid⟩)

/-- An administrator's deletion is lawful. -/
theorem adminDeleteItem_lawful
    (requested : Requests request .delete "/api/admin/items/:id" params) :
    Action.Triple env (fun world => world.db = before)
      (adminDeleteItem services { request with pathParams := params })
      (fun _ world => Lawful services request env before world.db) := by
  obtain ⟨id, captured⟩ : ∃ id, params "id".toList = some id :=
    matchPath_captures (by decide) (by decide) requested.2
  refine requireBearer_triple (lawful_of_kept (Kept.refl env before)) fun valid => ?_
  simp only [HttpRequest.pathParam, captured, Option.getD_some]
  refine Action.Triple.bind_pure (deleteItem_triple id).settled ?_
  intro result world deleted
  exact lawful_itemDeleted (Kept.refl env before) deleted captured (.inl ⟨requested, valid⟩)

/-- A creation by form is lawful. -/
theorem uiCreateItem_lawful (engine : TemplateEngine) (filled : TokensFilled before)
    (requested : Requests request .post "/ui/items" params) :
    Action.Triple env (fun world => world.db = before)
      (uiCreateItem engine { request with pathParams := params })
      (fun _ world => Lawful services request env before world.db) := by
  refine requireSession_triple filled (fun _ => lawful_of_kept) fun row valid middle kept => ?_
  have lawful (after : Database) (created : ItemCreated middle after) :
      Lawful services request env before after :=
    lawful_itemCreated kept created (.inr ⟨requested, row, valid⟩)
  dsimp only
  refine Action.Triple.bind (createItem_triple _ _).settled fun created => ?_
  cases created with
  | ok item => exact Action.Triple.pure fun world => lawful world.db
  | error error =>
      exact Action.Triple.bind_pure (listItems_keeps (ItemCreated middle))
        fun _ world => lawful world.db

/-- A deletion by form is lawful. -/
theorem uiDeleteItem_lawful (filled : TokensFilled before)
    (requested : Requests request .post "/ui/items/:id/delete" params) :
    Action.Triple env (fun world => world.db = before)
      (uiDeleteItem { request with pathParams := params })
      (fun _ world => Lawful services request env before world.db) := by
  obtain ⟨id, captured⟩ : ∃ id, params "id".toList = some id :=
    matchPath_captures (by decide) (by decide) requested.2
  refine requireSession_triple filled (fun _ => lawful_of_kept) fun row valid middle kept => ?_
  simp only [HttpRequest.pathParam, captured, Option.getD_some]
  refine Action.Triple.bind_pure (deleteItem_triple id).settled ?_
  intro result world deleted
  exact lawful_itemDeleted kept deleted captured (.inr ⟨requested, row, valid⟩)

/-- A login creates a session only after the user is verified. -/
theorem uiLogin_lawful (engine : TemplateEngine) (secure : Bool)
    (requested : Requests request .post "/ui/login" params) :
    Action.Triple env (fun world => world = World.start before)
      (uiLogin services engine secure { request with pathParams := params })
      (fun _ world => Lawful services request env before world.db) := by
  unfold uiLogin
  dsimp only
  cases fields : formFields "username" "password" request.body with
  | mk username password =>
      have verify : Action.Triple env (fun world => world = World.start before)
          (verifyUser services.argon2 username password).result
          (fun verified world => verified =
            (verifyUser services.argon2 username password env (World.start before)).1 ∧
            world.db = before) := by
        intro world start
        subst start
        exact ⟨rfl, (verifyUser_triple services.argon2 username password).settled _ rfl⟩
      refine Action.Triple.bind verify fun verified => ?_
      refine Action.Triple.assuming fun answer => ?_
      rcases verified with error | _ | _
      · exact Action.Triple.pure fun _ => lawful_of_same
      · exact Action.Triple.pure fun _ => lawful_of_same
      · refine Action.Triple.bind_pure (create_triple username).settled ?_
        intro result world created
        exact lawful_sessionCreated fields requested answer.symm created

/-- A logout removes the session that the request presents. -/
theorem uiLogout_lawful (filled : TokensFilled before)
    (requested : Requests request .post "/ui/logout" params) :
    Action.Triple env (fun world => world.db = before)
      (uiLogout { request with pathParams := params })
      (fun _ world => Lawful services request env before world.db) := by
  refine Action.Triple.bind (currentSession_triple (sessionToken request)) fun session => ?_
  refine Action.Triple.assuming fun known => ?_
  have same : csrfParam { request with pathParams := params } = csrfParam request := rfl
  dsimp only
  rw [same]
  by_cases refused : (session.all fun session => session.csrfToken ≠ csrfParam request) = true
  · rw [if_pos refused]
    exact Action.Triple.pure fun _ => lawful_of_kept
  · rw [if_neg refused]
    cases session with
    | none => exact absurd rfl refused
    | some session =>
        obtain ⟨row, member, unexpired, cookie, csrf⟩ := known session rfl
        have repeated : session.csrfToken = csrfParam request := by
          simpa using refused
        have valid : SessionValid request env before row :=
          sessionValid_of_csrf filled member unexpired cookie (csrf.symm.trans repeated)
        have presented : sessionToken { request with pathParams := params } = some row.token :=
          cookie
        rw [presented]
        intro world kept
        have remove : Action.Triple env (fun other => other.db = world.db)
            (SessionStore.remove row.token).result
            (fun _ other => SessionRemoved row.token world.db other.db) :=
          (remove_triple row.token).settled
        exact lawful_sessionRemoved kept valid requested (remove world rfl)

end Handlers

section Table
variable {services : Services}

/-- Every request that the route accepts is handled lawfully. -/
def RouteLawful (services : Services) (route : RouteEntry DbAction) : Prop :=
  ∀ request params env before, Router.methodOk route request.method = true →
    matchPath route.segments request.path = some params → TokensFilled before →
    Lawful services request env before
      (route.handler { request with pathParams := params } env (World.start before)).2.db

/-- A route of an ordinary method is lawful when its handler is. -/
theorem routeLawful_of_triple {method : Method} {pattern : String} {handler : Handler}
    (ordinary : method.asStr ≠ ['*'])
    (lawful : ∀ request params env before, Requests request method pattern params →
      TokensFilled before → Action.Triple env (fun world => world = World.start before)
        (handler { request with pathParams := params })
        (fun _ world => Lawful services request env before world.db)) :
    RouteLawful services ⟨method, parsePattern pattern.toList, handler⟩ := by
  intro request params env before accepted matched filled
  have same : method = request.method := by
    simpa [Router.methodOk, ordinary] using accepted
  exact lawful request params env before ⟨same.symm, matched⟩ filled _ rfl

/-- A handler that is lawful on a database is lawful at the start of a request. -/
theorem lawful_from_start {request : HttpRequest} {env : Env} {before : Database}
    {action : DbAction HttpResponse}
    (lawful : Action.Triple env (fun world => world.db = before) action
      (fun _ world => Lawful services request env before world.db)) :
    Action.Triple env (fun world => world = World.start before) action
      (fun _ world => Lawful services request env before world.db) :=
  lawful.consequence (fun _ start => congrArg World.db start) fun _ _ => id

/-- A route with a passive handler is lawful. -/
theorem routeLawful_of_passive {method : Method} {pattern : String} {handler : Handler}
    (ordinary : method.asStr ≠ ['*']) (passive : Passive handler) :
    RouteLawful services ⟨method, parsePattern pattern.toList, handler⟩ :=
  routeLawful_of_triple ordinary fun _ _ _ _ _ _ => lawful_from_start passive.lawful

/-- A read-only route of the method `GET`. -/
theorem routeLawful_get {pattern : String} {handler : Handler} (passive : Passive handler) :
    RouteLawful services ⟨.get, parsePattern pattern.toList, handler⟩ :=
  routeLawful_of_passive (by decide) passive

/-- The routes of the API are lawful. -/
theorem apiRoutes_lawful (config : ServerConfig) {router : Router DbAction}
    (earlier : ∀ route ∈ router.routes, RouteLawful services route) :
    ∀ route ∈ (apiRoutes config services router).routes, RouteLawful services route := by
  refine Router.forall_add ?_ (routeLawful_of_triple (by decide)
    fun _ _ _ _ requested _ => lawful_from_start (adminDeleteItem_lawful requested))
  refine Router.forall_add ?_ (routeLawful_of_triple (by decide)
    fun _ _ _ _ requested _ => lawful_from_start (adminCreateItem_lawful requested))
  refine Router.forall_add ?_ (routeLawful_get (passive_apiGetItem services))
  refine Router.forall_add ?_ (routeLawful_get (passive_apiListItems services))
  refine Router.forall_add ?_ (routeLawful_of_passive (by decide) (passive_authToken services))
  refine Router.forall_add ?_ (routeLawful_get (passive_of_pure fun _ => ⟨_, rfl⟩))
  refine Router.forall_add ?_ (routeLawful_get (passive_of_pure fun _ => ⟨_, rfl⟩))
  refine Router.forall_add ?_ (routeLawful_get (passive_of_pure fun _ => ⟨_, rfl⟩))
  refine Router.forall_add ?_ (routeLawful_get (passive_of_pure fun _ => ⟨_, rfl⟩))
  exact Router.forall_add earlier (routeLawful_get (passive_of_pure fun _ => ⟨_, rfl⟩))

/-- The routes of the pages are lawful. -/
theorem uiRoutes_lawful (config : ServerConfig) (engine : TemplateEngine) {router : Router DbAction}
    (earlier : ∀ route ∈ router.routes, RouteLawful services route) :
    ∀ route ∈ (uiRoutes config services engine router).routes, RouteLawful services route := by
  refine Router.forall_add ?_ (routeLawful_get (passive_page _))
  refine Router.forall_add ?_ (routeLawful_of_triple (by decide)
    fun _ _ _ _ requested filled => lawful_from_start (uiDeleteItem_lawful filled requested))
  refine Router.forall_add ?_ (routeLawful_of_triple (by decide)
    fun _ _ _ _ requested filled =>
      lawful_from_start (uiCreateItem_lawful engine filled requested))
  refine Router.forall_add ?_ (routeLawful_get (passive_uiItems engine))
  refine Router.forall_add ?_ (routeLawful_of_triple (by decide)
    fun _ _ _ _ requested filled => lawful_from_start (uiLogout_lawful filled requested))
  refine Router.forall_add ?_ (routeLawful_of_triple (by decide)
    fun _ _ _ _ requested _ => uiLogin_lawful engine (cookieSecure config) requested)
  refine Router.forall_add ?_ (routeLawful_get (passive_of_pure fun _ => ⟨_, rfl⟩))
  refine Router.forall_add ?_ (routeLawful_get (passive_page _))
  exact Router.forall_add earlier (routeLawful_get (passive_of_pure fun _ => ⟨_, rfl⟩))

/-- Every route of a server without a proxy is lawful. -/
theorem buildRouter_lawful (config : ServerConfig) (services : Services)
    (templates : Option TemplateEngine) :
    ∀ route ∈ (buildRouter config services templates none).routes,
      RouteLawful services route := by
  have api : ∀ route ∈ (apiRoutes config services Router.new).routes,
      RouteLawful services route :=
    apiRoutes_lawful config fun _ member => absurd member List.not_mem_nil
  unfold buildRouter
  cases templates with
  | none => exact Router.forall_add api (routeLawful_get (passive_of_pure fun _ => ⟨_, rfl⟩))
  | some engine =>
      exact Router.forall_add (uiRoutes_lawful config engine api)
        (routeLawful_get (passive_of_pure fun _ => ⟨_, rfl⟩))

/-- Every request that is dispatched to completion changes the database lawfully. -/
theorem dispatch_lawful (config : ServerConfig) (services : Services)
    (templates : Option TemplateEngine) (request : HttpRequest) (env : Env) {db : Database}
    (filled : TokensFilled db) :
    Lawful services request env db
      ((buildRouter config services templates none).dispatch request env (World.start db)).2.db := by
  have routes := buildRouter_lawful config services templates
  rcases Router.dispatch_cases request (buildRouter config services templates none) with
    ⟨route, member, params, accepted, matched, taken⟩ | ⟨response, answered⟩
  · rw [taken]
    exact routes route member request params env db accepted matched filled
  · rw [answered]
    exact lawful_of_same rfl

/-- Requests lead from reachable databases to reachable ones. -/
theorem dispatch_reachable (config : ServerConfig) (services : Services)
    (templates : Option TemplateEngine) (request : HttpRequest) {env : Env} {db : Database}
    (drawn : UuidsFilled env) (reachable : Storage.machine.Reachable db) :
    Storage.machine.Reachable
      ((buildRouter config services templates none).dispatch request env (World.start db)).2.db := by
  have lawful := dispatch_lawful config services templates request env
    (reachable_tokensFilled reachable)
  obtain ⟨statements, ran⟩ := lawful.2 drawn
  exact reachable.run ran

end Table

/-- In every reachable database every request changes the items, the sessions and the users only as
far as its bearer token, its session or its credentials authorise it. -/
theorem dispatch_authorised (config : ServerConfig) (services : Services)
    (templates : Option TemplateEngine) (request : HttpRequest) (env : Env) (db : Database)
    (reachable : Storage.machine.Reachable db) :
    Authorised services request env db
      ((buildRouter config services templates none).dispatch request env (World.start db)).2.db :=
  (dispatch_lawful config services templates request env (reachable_tokensFilled reachable)).1

/-- Libraries that refuse every input. -/
def Services.refusing : Services where
  argon2 := ⟨fun _ _ => .error [], fun _ => .error [], fun _ _ => false⟩
  jwt := ⟨fun _ => none, fun _ _ => none⟩
  parseLogin := fun _ => none
  parseItem := fun _ => none
  serialise := fun _ => none
  metrics := Metrics.new
  fileSystem := ⟨fun _ => .error .notFound, fun _ => .error .notFound⟩
  joinError := none

/-- A form post of the session `t` without a CSRF token. -/
def csrfMissing : HttpRequest :=
  HttpRequest.fromParts .post (.withoutQuery (.rooted "/ui/items".toList (.refl true)))
    [("cookie".toList, Utf8.encode "session=t".toList)] []

/-- A form without its CSRF token leaves the items alone. -/
theorem dispatch_authorised_csrf_missing :
    let row : SessionRow := ⟨['t'], ['u'], ['c'], 3600⟩
    let env : Env := ⟨0, 0, fun _ => ['d'], fun _ => .none⟩
    ∃ db, Storage.machine.Reachable db ∧ db.sessions.rows = [row] ∧
      ((buildRouter .defaults Services.refusing (some ⟨fun _ _ => .error []⟩) none).dispatch
        csrfMissing env (World.start db)).2.db.items = db.items := by
  intro row env
  have reachable : Storage.machine.Reachable
      { Database.migrated with sessions := ⟨[row], List.nodup_singleton _⟩ } :=
    ⟨[.insertSession row], by decide⟩
  refine ⟨_, reachable, rfl, ?_⟩
  have authorised := dispatch_authorised .defaults Services.refusing
    (some ⟨fun _ _ => .error []⟩) csrfMissing env _ reachable
  have noForm : csrfMissing.formParam "_csrf".toList = none := by decide
  rcases authorised.items with same | inserted | erased
  · exact same
  · obtain ⟨_, params, ⟨requested, _⟩ | ⟨_, other, valid⟩⟩ := inserted
    · have unmatched : matchPath (parsePattern "/api/admin/items".toList) csrfMissing.path = none :=
        Option.isNone_iff_eq_none.mp (by decide)
      exact absurd (unmatched.symm.trans requested.2) (by simp)
    · exact absurd (noForm.symm.trans valid.2.2.2) (by simp)
  · obtain ⟨params, id, _, _, ⟨requested, _⟩ | ⟨_, other, valid⟩⟩ := erased
    · exact absurd requested.1 (by decide)
    · exact absurd (noForm.symm.trans valid.2.2.2) (by simp)

end Routes

end HighperfServer
