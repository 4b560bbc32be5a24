/-!
# Routes

What a request reaches is decided by its method and its path without leading
slashes. A request goes to the first route that covers the path and takes the
method. If none does it is refused, and it matters for the refusal whether a
route covers the path at all.
-/

namespace StageZero.Web

/-- What a request can reach. -/
inductive Route where
  | page
  | keywords
  | compile
  /-- A static file. -/
  | file
  deriving DecidableEq

namespace Route

/-- The routes, in the order in which they are tried. -/
def all : List Route :=
  [.page, .keywords, .compile, .file]

def methods : Route → List String
  | .compile => ["OPTIONS", "POST"]
  | _ => ["GET", "HEAD", "OPTIONS"]

def takes (r : Route) (method : String) : Bool :=
  r.methods.contains method

/-- Whether a route covers a path. The name of a file may begin with a line
break but holds no other. -/
def covers : Route → List Char → Bool
  | .page, path => path.isEmpty
  | .keywords, path => path == "keywords".toList
  | .compile, path => path == "translate".toList
  | .file, [] => false
  | .file, _ :: rest => !rest.contains '\n'

end Route

/-- Where a request goes. -/
inductive Routing where
  | found (route : Route)
  /-- There is no path at all, and the page can be asked for instead. -/
  | redirected
  /-- The path is covered, but not for this method. -/
  | methodRefused
  /-- The path is covered, but not for a lasting connection. -/
  | connectionRefused
  | nowhere
  deriving DecidableEq

/-- The schemes that ask for a lasting connection, which no route gives. -/
def lastingSchemes : List String :=
  ["ws", "wss"]

/-- Where a request with a path goes. -/
def routePath (lasting : Bool) (method : String) (path : List Char) : Routing :=
  let covering := Route.all.filter fun r => r.covers (path.dropWhile (· = '/'))
  if covering.isEmpty then .nowhere
  else if lasting then
    if covering.all fun r => r.takes method then .connectionRefused else .methodRefused
  else
    match covering.find? fun r => r.takes method with
    | some r => .found r
    | none => .methodRefused

def route (scheme method : String) (path : List Char) : Routing :=
  let lasting := lastingSchemes.contains scheme
  if path.isEmpty then
    if Route.page.takes method && !lasting then .redirected else .nowhere
  else routePath lasting method path

end StageZero.Web
