import StageZero.Path
import StageZero.Text.Case
import StageZero.Web.Endpoint
import StageZero.Web.Framework.Address
import StageZero.Web.Framework.Route
import StageZero.Web.Json.Reader
import StageZero.Web.Page

/-!
# The playground

The web service around the compiler, as a function from requests to responses: a
page, the keyword table, and the endpoint. What is here and in the modules of
the framework stands around the endpoint and is not the service's own. It is how
a request is taken apart, and which part of the service is called with it.
Nothing that is proved depends on it.
-/

namespace StageZero.Web

/-- A request, as far as the service looks at it. -/
structure Request where
  method : String
  address : String
  contentType : Option String := none
  body : ByteArray := ByteArray.empty

/-- Why a request cannot be made. -/
inductive RequestFault where
  | address (fault : Authority.Fault)
  /-- A line break stands in a header. -/
  | brokenHeader
  deriving DecidableEq

def RequestFault.message : RequestFault → String
  | .address fault => fault.message
  | .brokenHeader => "Header values must not contain newline characters."

/-- A text without the spaces and tabs at its ends. -/
def trimHeader (text : List Char) : List Char :=
  let isBlank := fun c => c == ' ' || c == '\t'
  ((text.dropWhile isBlank).reverse.dropWhile isBlank).reverse

/-- Whether a content type announces JSON. Parameters and case do not matter. -/
def announcesJson (contentType : String) : Bool :=
  let media := Text.lower
    (String.ofList (trimHeader (contentType.toList.takeWhile (· ≠ ';'))))
  media == "application/json" ||
    (media.startsWith "application/" && media.endsWith "+json")

/-- The value in the body of a request; none if it is nested too deeply. A body
that is not announced as JSON or is none counts as an empty object. -/
def bodyOf? (r : Request) : Option Json :=
  if (r.contentType.map announcesJson).getD false then
    match Json.read r.body with
    | .ok value => some value
    | .error .malformed => some (.object [])
    | .error .tooDeep => none
  else some (.object [])

/-- What a route holds for reading. The page is also a file among the static
ones, of which it is the only one. -/
def resource? (route : Route) (path : List Char) : Option Body :=
  match route with
  | .page => some (.page page)
  | .keywords => some (.json keywordsJson)
  | .compile => none
  | .file =>
    if Path.normalize (String.ofList (path.dropWhile (· = '/'))) = "index.html" then
      some (.page page)
    else none

/-- The method of a request. Case does not matter. -/
def Request.verb (r : Request) : String :=
  Text.upper r.method

/-- The body that is sent. A request for the head alone, written in capitals, gets
none. -/
def Request.sent (r : Request) (body : Body) : Body :=
  if r.method = "HEAD" then .nothing else body

/-- The response of a route that takes the method. -/
def serve (use : Compiler) (r : Request) (route : Route) (path : List Char) : Response :=
  if r.verb = "OPTIONS" then { status := 200 }
  else if r.verb = "POST" then
    match bodyOf? r with
    | some body => compileRequest use body
    | none => { status := 500 }
  else
    match resource? route path with
    | some body => { status := 200, body := r.sent body }
    | none => { status := 404 }

/-- The response to a request at an address. -/
def answer (use : Compiler) (r : Request) (a : Address) : Response :=
  let path := Percent.resolvePath a.path
  if !a.hasLabels then { status := 400 }
  else
    match route (String.ofList a.scheme) r.verb path with
    | .found route => serve use r route path
    | .redirected => { status := 308 }
    | .connectionRefused => { status := 400 }
    | .nowhere => { status := 404 }
    | .methodRefused => { status := 405 }

/-- Whether a line break stands in a header of a request. -/
def Request.hasBrokenHeader (r : Request) : Bool :=
  r.contentType.any fun header => header.toList.any fun c => c == '\r' || c == '\n'

/-- The address of a request, if it can be made. -/
def Request.target (r : Request) : Except RequestFault Address := do
  let a ← (Address.requested r.address.toList).mapError .address
  if r.hasBrokenHeader then throw .brokenHeader
  a.checkShown.mapError .address
  return a

/-- The response to a request, if it can be made. -/
def handle (use : Compiler) (r : Request) : Except RequestFault Response :=
  (answer use r) <$> r.target

/-- How the service is started: where it listens, and whether it runs for
developers. -/
structure Service where
  address : String := "0.0.0.0"
  socket : Nat := 5000
  debug : Bool := true

/-- What is printed when the service starts. -/
def greeting : String :=
  let rule := Text.ruler '=' ++ "\n"
  rule ++ "WeaR Lang Playground - Web Server\n" ++ rule ++
    "\nStarting server on http://localhost:5000\n" ++
    "Open your browser and navigate to: http://localhost:5000\n" ++
    "\nPress Ctrl+C to stop the server\n" ++ rule ++ "\n"

end StageZero.Web
