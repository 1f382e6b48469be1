import NetSurvey.Datum.Json
import NetSurvey.Service.Answer
import NetSurvey.Service.Request
import NetSurvey.Service.Task
import NetSurvey.Text.Encoding

/-!
# The service

The service answers requests. A request is first routed by its path and method; then its body is
read, its key is checked, its fields are read, and the task is carried out. The first of these that
goes wrong decides the answer.

The settings are read from the environment when the first request needs them, and kept.

Routing, redirects between paths with and without a slash at the end, the pages of the manual and
the answers to bodies that cannot be read follow FastAPI and Starlette, on which it stands. The
tasks and the check of the key are the service's own.
-/

namespace NetSurvey.Service

open Schedule Text

/-! ### Routes -/

/-- Where requests go. -/
inductive Route where
  | root
  | health
  /-- The health of the survey part, behind the key. -/
  | surveyHealth
  /-- A page that describes the service, of which only its being there is told. -/
  | manual
  | task (kind : TaskKind)
deriving DecidableEq, Repr

/-- All routes, by their paths. -/
def routes : List (Text × Route) :=
  [("/openapi.json", .manual), ("/docs", .manual), ("/docs/oauth2-redirect", .manual),
    ("/redoc", .manual), ("/recon/health", .surveyHealth), ("/recon/subnet", .task .subnet),
    ("/recon/ports", .task .ports), ("/recon/dirs", .task .directories),
    ("/recon/subdomains", .task .subdomains), ("/recon/resolve", .task .resolve),
    ("/recon/ping", .task .ping), ("/recon/sweep", .task .sweep), ("/", .root),
    ("/health", .health)]

/-- The methods that a route allows. -/
def Route.methods : Route → List Text
  | manual => ["GET", "HEAD"]
  | task _ => ["POST"]
  | _ => ["GET"]

/-- The route with a path. One line feed at the very end of the path is overlooked. -/
def findRoute? (path : Text) : Option Route :=
  (routes.find? fun r => path = r.1 ∨ path = r.1 ++ "\n").map (·.2)

/-- A path with a slash at its end, or without the slashes there. -/
def otherForm (path : Text) : Text :=
  if path.getLast? = some (.char '/') then withoutTrailing '/' path else path ++ "/"

/-- Routes a request. A path that has a route only in its other form is redirected. -/
def route (method path : Text) : Except Answer Route :=
  match findRoute? path with
  | some r =>
    if method ∈ r.methods then .ok r else .error (.detail 405 "Method Not Allowed")
  | none =>
    if path ≠ "/" ∧ (findRoute? (otherForm path)).isSome then .error ⟨307, .text ""⟩
    else .error (.detail 404 "Not Found")

/-! ### Bodies -/

/-- How deep lists and records may be nested in a body. The reader calls itself once for each level,
and this is what is left for it of 1000 calls within each other after those that FastAPI has made
before it reads a body. The number depends on how the service is run. -/
def nestingLimit : Nat := 966

/-- The answer to a body that cannot be taken for a text of JSON at all. -/
def unreadableBody : Answer :=
  .detail 400 "There was an error parsing the body"

/-- The data of a body in JSON. -/
def readJson (bytes : List UInt8) : Except Answer Datum :=
  match Encoding.read? bytes with
  | none => .error unreadableBody
  | some text =>
    match Json.read nestingLimit text with
    | .ok d => .ok d
    | .error .malformed => .error (.complaints [{ fault := .jsonInvalid }])
    | .error _ => .error unreadableBody

/-- The data of a body, which is null where there is no body. A body that is not JSON is taken as
a text. -/
def readBody (r : Request) (bytes : List UInt8) : Except Answer Datum :=
  if bytes.isEmpty then .ok .null
  else if r.hasJson then readJson bytes
  else .ok (.text r.body)

/-- Reads a task from the data of a body. Null is no body. -/
def readTask (kind : TaskKind) : Datum → Form Task
  | .null => .error [{ fault := .missing }]
  | .record fields => kind.form fields
  | d => .error [{ fault := .noRecord, found := d }]

/-! ### The application -/

/-- The state of the service. -/
structure App where
  environment : Environment
  /-- The settings that were read from the environment. -/
  cached : Option Settings := none
  /-- Settings that take the place of those of the environment. -/
  replaced : Option Settings := none
  watch : Stopwatch := []

/-- Why a request has no answer: it cannot be sent, or the task was interrupted. -/
inductive NoAnswer where
  | unsent (cause : SendError)
  | interrupted (kind : Interrupt) (said : Particulars)

/-- What answering a request comes to. -/
structure Reply where
  answer : Except NoAnswer Answer
  calls : List Call
  log : List Entry
  app : App

namespace App

/-- The settings, which are read from the environment and kept if they have not been before. -/
def settings (app : App) : Settings × List Entry × App :=
  match app.replaced, app.cached with
  | some s, _ => (s, [], app)
  | none, some s => (s, [], app)
  | none, none =>
    let (s, entries) := Settings.ofEnvironment app.environment
    let unguarded : List Entry :=
      if s.apiKey.isNone then
        [⟨.warning, .security,
          "RECONLAB_API_KEY is not set. API endpoints are unauthenticated."⟩]
      else []
    (s, entries ++ unguarded, { app with cached := some s })

/-- Whether a request may pass: there is no key, or the request carries it. -/
def admits (s : Settings) (r : Request) : Bool :=
  match s.apiKey with
  | none => true
  | some key => key.isEmpty || r.header? "X-API-Key" == some key

/-- The answer to a task that failed, and what is logged about it. -/
def failureAnswer : Failure → Except NoAnswer Answer × List Entry
  | .specification cause => (.ok (.detail 400 cause.message), [])
  | .exhaustion cause => (.ok (.detail 413 cause.message), [])
  | .interrupt kind said => (.error (.interrupted kind said), [])
  | e =>
    (.ok (.detail 500 ("An unexpected error occurred: " ++ e.message)),
      [⟨.error, .routes, "Scan failed: " ++ e.message⟩])

/-- Carries a task out and answers. -/
def perform (order : Order) (w : World) (s : Settings) (app : App) (task : Task) : Reply :=
  let attempt := (task.perform order w s).run app.watch
  let (answer, entries) :=
    match attempt.result with
    | .ok body => (.ok (.data 200 body), [])
    | .error e => failureAnswer e
  ⟨answer, attempt.calls, attempt.log ++ entries, { app with watch := attempt.state }⟩

/-- An answer that needs no call. -/
def plainly (app : App) (answer : Answer) (log : List Entry) : Reply :=
  ⟨.ok answer, [], log, app⟩

/-- What the service says about itself. -/
def about : Datum :=
  .record [("name", .text "reconlab API"), ("version", .text "1.0.0"),
    ("endpoints", .list [.text "/recon/* - Reconnaissance tools",
      .text "/docs - API documentation", .text "/health - Health check"])]

/-- Answers a request that has been routed behind the key. -/
def guarded (app : App) (r : Request) (answer : App → Settings → List Entry → Reply) : Reply :=
  let (s, entries, app) := app.settings
  if admits s r then answer app s entries
  else app.plainly (.detail 403 "Invalid or missing API Key") entries

/-- Answers a request that has been sent for a path, with the bytes of its body. -/
def answer (order : Order) (w : World) (app : App) (r : Request) (method path : Text)
    (bytes : List UInt8) : Reply :=
  match route method path with
  | .error answer => app.plainly answer []
  | .ok .root => app.plainly ⟨200, about⟩ []
  | .ok .manual => app.plainly ⟨200, .text []⟩ []
  | .ok .health =>
    app.plainly ⟨200, .record [("status", .text "healthy"), ("service", .text "reconlab")]⟩ []
  | .ok .surveyHealth =>
    app.guarded r fun app _ entries => app.plainly
      ⟨200, .record [("status", .text "healthy"), ("module", .text "reconnaissance")]⟩ entries
  | .ok (.task kind) =>
    match readBody r bytes with
    | .error answer => app.plainly answer []
    | .ok body =>
      app.guarded r fun app s entries =>
        match readTask kind body with
        | .error cs => app.plainly (.complaints cs) entries
        | .ok task =>
          let reply := app.perform order w s task
          { reply with log := entries ++ reply.log }

/-- Answers a request. The letters of its method may be of any case, and where only the head is
asked for, the body of the answer is left out. -/
def handle (order : Order) (w : World) (app : App) (r : Request) : Reply :=
  match r.send with
  | .error cause => ⟨.error (.unsent cause), [], [], app⟩
  | .ok (path, bytes) =>
    let method := raised r.method
    let reply := app.answer order w r method path bytes
    if method = "HEAD" then { reply with answer := reply.answer.map Answer.withoutBody } else reply

end App

end NetSurvey.Service
