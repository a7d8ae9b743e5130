import FormRouting.Config
import FormRouting.Http.Target

/-!
# Routes

The paths that the service knows, and the methods that each of them takes. A line feed at the end of
a path does not count. A path that would be known without the slashes at its end is sent there.
-/

namespace FormRouting

/-- What a path leads to. -/
inductive Route where
  | root
  | health
  | metrics
  /-- A page about the service, for developers or for programs. -/
  | page
  | form (slug : String)
  | submit (slug : String)
  | integrity (slug : String)
deriving DecidableEq, Repr

namespace Route

/-- The pages for developers. -/
def pages : List String := ["/docs", "/docs/oauth2-redirect", "/redoc"]

/-- The page that describes the service to programs. -/
def schemaPage : String := "/openapi.json"

/-- The path without a line feed at its end. -/
def trimmed (path : String) : String :=
  match path.toList.reverse with
  | '\n' :: rest => String.ofList rest.reverse
  | _ => path

/-- The route below a form, by the last part of the path. -/
def belowForm (slug : String) (last : String) : Option Route :=
  if last = "submit" then some (.submit slug)
  else if last = "integrity" then some (.integrity slug)
  else none

/-- The route of a path. -/
def ofPath? (isLocal : Bool) (path : String) : Option Route :=
  let known := trimmed path
  if known = "/" then some .root
  else if known = "/health" then some .health
  else if known = "/metrics" then some .metrics
  else if known = schemaPage then some .page
  else if isLocal ∧ pages.contains known then some .page
  else
    match Target.segments path.toList with
    | [[], forms, slug] =>
      if forms = "forms".toList ∧ !slug.isEmpty then some (.form (String.ofList slug)) else none
    | [[], forms, slug, last] =>
      if forms = "forms".toList ∧ !slug.isEmpty then
        belowForm (String.ofList slug) (trimmed (String.ofList last))
      else none
    | _ => none

/-- The methods that a route takes. -/
def methods : Route → List String
  | .submit _ => ["POST"]
  | .page => ["GET", "HEAD"]
  | _ => ["GET"]

end Route

/-- What becomes of a request by its method and path. -/
inductive Routing where
  | found (route : Route)
  | notAllowed
  | redirect (path : String)
  | unknown
deriving DecidableEq, Repr

/-- Finds the route of a request. -/
def Routing.ofRequest (isLocal : Bool) (verb path : String) : Routing :=
  match Route.ofPath? isLocal path with
  | some route => if route.methods.contains verb then .found route else .notAllowed
  | none =>
    let shorter := Target.dropSlashes path
    if shorter ≠ path ∧ (Route.ofPath? isLocal shorter).isSome then .redirect shorter else .unknown

end FormRouting
