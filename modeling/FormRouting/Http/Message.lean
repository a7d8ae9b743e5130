import FormRouting.Metrics.Sample

/-!
# Requests and replies

What the service is asked and what it answers.
-/

namespace FormRouting

/-- A request. -/
structure Request where
  method : String
  target : String
  headers : List (String × String)
  /-- The text that is sent along; none is like the empty one. -/
  body : String
  /-- The id that a request gets that sends none. -/
  freshId : String

namespace Request

/-- The header with the given name, in which case does not count. -/
def header? (r : Request) (name : String) : Option String :=
  (r.headers.find? fun h => h.1.toLower == name).map (·.2)

/-- The kind of content that a body is sent as when no header names it. -/
def defaultContentType : String := "application/json"

def contentType (r : Request) : String :=
  (r.header? "content-type").getD defaultContentType

/-- The characters without the spaces at both ends. -/
def trimmed (cs : List Char) : List Char :=
  ((cs.dropWhile (· == ' ')).reverse.dropWhile (· == ' ')).reverse

/-- Whether the body is sent as JSON, by the kind of content before its parameters. -/
def isJson (r : Request) : Bool :=
  let kind := (trimmed (r.contentType.toList.takeWhile (· != ';'))).map Char.toLower
  let main := String.ofList (kind.takeWhile (· != '/'))
  let sub := (kind.dropWhile (· != '/')).drop 1
  main == "application" && !sub.contains '/' &&
    (sub == "json".toList || "+json".toList.isSuffixOf sub)

/-- The method, whose case does not count. -/
def verb (r : Request) : String :=
  r.method.toUpper

/-- The id of the request. -/
def id (r : Request) : String :=
  (r.header? "x-request-id").getD r.freshId

end Request

/-- The content of a reply. -/
inductive Content where
  | json (v : Value)
  /-- The paths of the parts of a body that do not fit the schema. -/
  | refused (paths : List (List String))
  | metrics (samples : List Sample)
  /-- Text for people, which is not modelled. -/
  | page
  | empty

/-- A reply. -/
structure Reply where
  status : Nat
  content : Content
  /-- The id of the request that is answered. -/
  requestId : Option String
  /-- The origin that may read the reply. -/
  allowOrigin : Option String

end FormRouting
