/-
  HomeAutomation.Service.Answer

  Answers to requests. Most are a status with a JSON body, some have no such body; a request whose
  body is not what is asked for is answered by the places of what is wrong with it. A request can
  also fail without an answer.
-/
import HomeAutomation.Engine.Dispatch
import HomeAutomation.Service.Body
import HomeAutomation.Service.TimeZone
import HomeAutomation.Storage.Database

namespace HomeAutomation

/-- The parts of the service that requests need. -/
inductive ServicePart
  | rules
  | storage
  | poller
  | simulatedSensors
  deriving DecidableEq, Repr

/-- Why a request is not answered. -/
inductive ServiceFailure
  /-- The service runs without a part that the request needs. -/
  | missing (part : ServicePart)
  /-- The sensors of the service are not simulated. -/
  | sensorsNotSimulated
  | storage (error : StorageError)
  | dispatch (error : DispatchError)
  /-- The local time is asked for and its zone is not known. -/
  | timeZone (error : TimeZoneError)
  /-- The answer holds a number that JSON proper cannot write. -/
  | unwritable
  deriving DecidableEq, Repr

/-- The message of a failure that is about sensors which are not simulated. -/
def ServiceFailure.sensorsMessage : String :=
  "Sim sensors not available (sensor_mode is not 'sim')."

/-- An answer to a request. -/
inductive Answer
  | respond (status : Nat) (body : Json)
  /-- An answer whose body, if there is one, is no JSON. -/
  | bare (status : Nat)
  | invalid (places : List (List String))
  | fail (failure : ServiceFailure)
  deriving Repr

namespace Answer

/-- Whether a key is kept out of answers. -/
def isInternal (key : String) : Bool := key.startsWith "_sa"

mutual

/-- A value without the fields that are kept out of answers. -/
def published : Json → Json
  | .list items => .list (publishedItems items)
  | .object fields => .object (publishedFields fields)
  | value => value

/-- Items without the fields that are kept out of answers. -/
def publishedItems : List Json → List Json
  | [] => []
  | item :: items => published item :: publishedItems items

/-- The fields that are not kept out of answers. -/
def publishedFields : List (String × Json) → List (String × Json)
  | [] => []
  | (key, value) :: fields =>
    if isInternal key then publishedFields fields
    else (key, published value) :: publishedFields fields

end

/-- Answers with a body that JSON proper can write. -/
def write (status : Nat) (body : Json) : Answer :=
  if body.isFinite then .respond status body else .fail .unwritable

/-- The answer of a request that succeeded. -/
def success (body : Table Json) : Answer := write 200 (published (.object body))

/-- The answer of a request that was refused. -/
def refusal (status : Nat) (detail : Json) : Answer := write status (.object [("detail", detail)])

/-- Nothing is found under the path. -/
def notFound : Answer := refusal 404 (.text "Not Found")

/-- A page for readers. -/
def page : Answer := .bare 200

/-- What is asked for is found under the path without the slashes at its end. -/
def moved : Answer := .bare 307

/-- The path does not offer the method. -/
def notOffered : Answer := refusal 405 (.text "Method Not Allowed")

/-- The body cannot be read as text. -/
def unreadable : Answer := refusal 400 (.text "There was an error parsing the body")

/-- The answer about what is wrong with a body. Along with the places it tells the values. -/
def ofIssues (issues : List BodyIssue) : Answer :=
  if issues.all fun issue => (published issue.given).isFinite then
    .invalid (issues.map fun issue => "body" :: issue.place)
  else .fail .unwritable

/-- An answer without its body. -/
def withoutBody : Answer → Answer
  | .respond status _ => .bare status
  | .bare status => .bare status
  | .invalid _ => .bare 422
  | .fail failure => .fail failure

end Answer

end HomeAutomation
