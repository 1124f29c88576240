import SchoolCatalog.Http.Server
import SchoolCatalog.Json.Printer

/-!
# Sessions

A session answers requests one after the other, each given by a line of text: a method, an address,
the token of the caller or a dash, and after that the body, if there is one. Every line gets one line
of reply: the status and the body.
-/

namespace SchoolCatalog.Http

/-- A session: what surrounds it and what it has reached so far. -/
structure Session where
  around : Surroundings
  state : State := .fresh

/-- The request that a line holds. -/
def Request.ofLine? (line : String) : Option Request :=
  match Text.cut ' ' line with
  | (method, some rest) => match Text.cut ' ' rest with
    | (address, some rest) =>
      let (token, body) := Text.cut ' ' rest
      let (path, query) := Text.cut '?' address
      some {
        method := Text.upper method
        path := path
        query := query.getD ""
        authorization := if token = "-" then none else some (Bytes.ofText ("Bearer " ++ token))
        contentType := body.map fun _ => Bytes.ofText "application/json"
        body := Bytes.ofText (body.getD "") }
    | _ => none
  | _ => none

/-- The body of a reply as one line. -/
def Body.line : Body → String
  | .empty => ""
  | .json value => (Json.render? value).getD ""
  | .text value => value

/-- A reply as one line. -/
def Reply.line (reply : Reply) : String := toString reply.status ++ " " ++ reply.body.line

/-- The reply to a line, and the session after it. -/
def Session.step (session : Session) (line : String) : String × Session :=
  match Request.ofLine? line with
  | none => ((Reply.error 400 "Malformed request").line, session)
  | some request =>
    let (result, state) := Service.run (answer request) session.around session.state
    let reply := match result with
      | .ok reply => reply
      | .error failure => .broken (.failure failure)
    (reply.line, { session with state })

end SchoolCatalog.Http
