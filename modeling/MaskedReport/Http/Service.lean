import MaskedReport.Endpoint
import MaskedReport.Http.Target
import MaskedReport.Journal
import MaskedReport.Json

/-!
# The service

Answers to requests for reports. There are three routes: `/health`, `/env` for the full report and
`/env/` with the name of a source; the last two exist only while the endpoint is enabled. A header
may tell who asks. A failure of the endpoint is an answer of its own; a target whose host is
malformed has none. An answer is sent part by part once all of it is made.
-/

set_option autoImplicit false

namespace MaskedReport.Http

/-- A request as it comes: its first line and headers, as bytes. -/
structure Request where
  line : List UInt8
  headers : List (List UInt8 × List UInt8) := []

/-- An answer with a body. -/
structure Response where
  status : Nat
  contentType : String
  body : String
  deriving DecidableEq

/-- The number of bytes of the body. -/
def Response.contentLength (r : Response) : Nat := (Utf8.encode r.body.toList).length

/-- The name and the value of a header in a line of bytes: what stands before the first colon and
what stands after it. -/
def headerOfLine (line : List UInt8) : List UInt8 × List UInt8 :=
  let name := line.takeWhile (· != 58)
  (name, line.drop (name.length + 1))

/-- An answer in JSON. -/
def Response.json (status : Nat) (v : Value) : Except Failure Response := do
  return { status, contentType := "application/json", body := ← Json.text Json.oneLine v }

/-- The header that tells who asks. -/
def principalHeader : String := "x-principal"

/-- The small letters of ASCII. -/
def lowered (s : List Char) : String := String.ofList (s.map Char.toLower)

/-- Whether bytes can be the name of a header: visible characters of ASCII but the colon. -/
def isHeaderName (name : List UInt8) : Bool :=
  name.all fun b => 33 ≤ b && b ≤ 126 && b != 58

/-- Who asks: the value of the first header of that name, without blanks before it. A header without
a proper name ends the headers. -/
def principalOf (headers : List (List UInt8 × List UInt8)) : Value :=
  match (headers.takeWhile fun h => isHeaderName h.1).find? fun h =>
      lowered (byteChars h.1) == principalHeader with
  | none => .null
  | some h =>
    .text (String.ofList ((byteChars h.2).dropWhile fun c => c == ' ' || c == '\t'))

/-- What is answered for what does not exist. -/
def notFound : Value := .map [(.text "error", .text "not found")]

/-- The path below which reports are. -/
def reportPath : List Char := "/env".toList

/-- The answer for a path, or the failure of the endpoint. -/
def routed (e : Endpoint) (path : List Char) (principal : Value) : Except Failure Response :=
  if path = "/health".toList then
    Response.json 200 (.map [(.text "status", .text "ok"), (.text "enabled", .bool e.enabled)])
  else if !e.enabled then Response.json 404 notFound
  else if path = reportPath then do
    Response.json 200 (← e.report principal).toValue
  else if (reportPath ++ ['/']).isPrefixOf path then do
    let name := String.ofList (unquote (path.drop (reportPath.length + 1)))
    match ← e.properties? (.text name) principal with
    | some entry => Response.json 200 entry.toValue
    | none =>
      Response.json 404
        (.map [(.text "error", .text "not found"), (.text "property_source", .text name)])
  else Response.json 404 notFound

/-- The answer that tells of a failure. The message is a text of characters, so that there always is
one; a hook or source that fails does so with such a message. -/
def failed (f : Failure) : Response where
  status := 500
  contentType := "application/json"
  body := "\x7b\"error\": " ++ (Json.quoted f.message).string ++ "\x7d"

/-- The answer to a request for a target. -/
def answer (e : Endpoint) (target : List Char) (principal : Value) : Except Failure Response :=
  match pathOf target with
  | .error why => .error (.target why)
  | .ok path =>
    match routed e (trimmed path) principal with
    | .ok r => .ok r
    | .error f => .ok (failed f)

/-- A text with the characters that mark up a page replaced. -/
def markupSafe (s : List Char) : List Char :=
  s.flatMap fun c =>
    if c = '&' then "&amp;".toList
    else if c = '<' then "&lt;".toList
    else if c = '>' then "&gt;".toList
    else [c]

/-- The page that refuses a request that is malformed. -/
def badRequest (message : String) : Response where
  status := 400
  contentType := "text/html;charset=utf-8"
  body :=
    "<!DOCTYPE HTML>\n<html lang=\"en\">\n    <head>\n        <meta charset=\"utf-8\">\n" ++
      "        <title>Error response</title>\n    </head>\n    <body>\n" ++
      "        <h1>Error response</h1>\n        <p>Error code: 400</p>\n" ++
      "        <p>Message: " ++ String.ofList (markupSafe message.toList) ++ ".</p>\n" ++
      "        <p>Error code explanation: 400 - Bad request syntax or unsupported method.</p>\n" ++
      "    </body>\n</html>\n"

/-- The words of a text between white space. -/
def words (s : List Char) (word : List Char) : List (List Char) :=
  match s with
  | [] => if word.isEmpty then [] else [word.reverse]
  | c :: rest =>
    if CharClass.isBlank c.toNat then
      if word.isEmpty then words rest [] else word.reverse :: words rest []
    else words rest (c :: word)

/-- A target with one slash in place of several at its start. -/
def singleSlash (target : List Char) : List Char :=
  match target with
  | '/' :: '/' :: rest => '/' :: rest.dropWhile (· == '/')
  | _ => target

/-- The target of a request: its line holds a method, a target and perhaps a version. -/
def Request.target? (r : Request) : Option (List Char) :=
  match words (byteChars r.line) [] with
  | _ :: target :: rest => if rest.length ≤ 1 then some target else none
  | _ => none

/-- The answer to a request whose line is malformed. -/
def Request.refusal (r : Request) : Response :=
  badRequest ("Bad request syntax (" ++ Quoted.text (String.ofList (byteChars r.line)) ++ ")")

/-- The answer to a request. -/
def respond (e : Endpoint) (r : Request) : Except Failure Response :=
  match r.target? with
  | some target => answer e (singleSlash target) (principalOf r.headers)
  | none => .ok r.refusal

/-! ## Sending answers -/

/-- A part of an answer, as it is sent. -/
inductive Part where
  | status (code : Nat)
  | header (name value : String)
  | headersEnd
  | body (text : String)
  deriving DecidableEq

/-- The phrase that goes with a status. -/
def phrase : Nat → String
  | 200 => "OK"
  | 400 => "Bad Request"
  | 404 => "Not Found"
  | _ => "Internal Server Error"

/-- The text of a part. -/
def Part.text : Part → String
  | status code => "HTTP/1.0 " ++ toString code ++ " " ++ phrase code ++ "\r\n"
  | header name value => name ++ ": " ++ value ++ "\r\n"
  | headersEnd => "\r\n"
  | body text => text

/-- The parts of an answer in order. -/
def Response.parts (r : Response) : List Part :=
  [.status r.status, .header "Content-Type" r.contentType,
    .header "Content-Length" (toString r.contentLength), .headersEnd, .body r.body]

/-- Handling a request. What has been sent stays sent when a later step fails. -/
abbrev Handling := ExceptT Failure (StateM (List Part))

/-- Sends parts one after the other. -/
def sendAll : List Part → Handling Unit
  | [] => pure ()
  | p :: rest => do
    modify fun sent => sent ++ [p]
    sendAll rest

/-- Handles a request for a path. A failure of the endpoint is answered like anything else, for its
message can be encoded. -/
def handlePath (e : Endpoint) (path : List Char) (principal : Value) : Handling Unit :=
  try
    let r ← liftExcept (routed e path principal)
    sendAll r.parts
  catch f => sendAll (failed f).parts

/-- Handles a request for a target. What is wrong with the target itself is not caught. -/
def handleTarget (e : Endpoint) (target : List Char) (principal : Value) : Handling Unit := do
  let path ← liftExcept ((pathOf target).mapError Failure.target)
  handlePath e (trimmed path) principal

/-- Handles a request. -/
def Request.handle (e : Endpoint) (r : Request) : Handling Unit :=
  match r.target? with
  | some target => handleTarget e (singleSlash target) (principalOf r.headers)
  | none => sendAll r.refusal.parts

/-! ## Running the service -/

/-- What happens while the service runs. -/
inductive Event where
  | told (l : Line)
  | serving (enabled : Bool)
  | closed
  deriving DecidableEq

/-- The port of the service unless another is given. -/
def defaultPort : Int := 18792

/-- The host of the service unless another is given. -/
def defaultHost : String := "127.0.0.1"

/-- What happens when the service runs until it is interrupted. -/
def serve (e : Endpoint) (port : Int) (host : String) : List Event :=
  let note (severity : Severity) (message : String) : Event :=
    .told { origin := .service, severity, message }
  [note .info ("env-endpoint sidecar listening on http://" ++ host ++ ":" ++ toString port)] ++
    (if e.enabled then []
     else [note .warning "env endpoint is disabled; /env routes will answer 404"]) ++
    [.serving e.enabled, note .info "Shutting down...", .closed]

end MaskedReport.Http
