/-
  HomeAutomation.Device.Http

  Control of devices through the hosts of their rooms. Posting a state to a device commands it,
  getting it reads the device. Whatever the host answers to a command is a response; a device whose
  state cannot be read from the answer is in an unknown state.
-/
import HomeAutomation.Device.Backend
import HomeAutomation.Http.Message

namespace HomeAutomation.HttpControl

/-! ## Requests -/

/-- The address of a device at a host. -/
def address (host : Json) (deviceId : String) : Except HttpError Url :=
  match host with
  | .text host => Http.readUrl (Http.deviceUrl host deviceId)
  | other => .error (.hostNotText other.kind)

/-- The request that reads a device. -/
def readRequest (key : Option String) (host : Json) (deviceId : String) :
    Except HttpError HttpRequest := do
  let key ← Http.checkKey key
  return { method := "GET", url := ← address host deviceId, key }

/-- The request that commands a device. -/
def commandRequest (key : Option String) (host : Json) (deviceId : String) (state : DeviceState) :
    Except HttpError HttpRequest := do
  let key ← Http.checkKey key
  let url ← address host deviceId
  if state.payload.isFinite && state.payload.integersFit then
    return { method := "POST", url, key, body := some state.payload }
  else throw .unsendable

/-! ## Answers -/

/-- The state that the body of an answer holds: the object itself or its field `state`. -/
def stateOfBody (body : Json) : Except Json.ConversionError (Option DeviceState) :=
  match body with
  | .object fields =>
    match (Table.get? fields "state").getD body with
    | .object state => (DeviceState.ofPayload state).map some
    | _ => .ok none
  | _ => .ok none

/-- What an answer says about the state of a device. A state whose parts cannot be converted is an
    error, and so is an answer that goes too deep. -/
def stateOf : HttpReply → Except HttpError (Option DeviceState)
  | .unreachable _ => .ok none
  | .response status body =>
    if Http.isSuccess status then
      match Json.readBody body with
      | .ok value => (stateOfBody value).mapError .badValue
      | .error ⟨.tooDeep, _⟩ => .error .tooDeep
      | .error _ => .ok none
    else .ok none

/-- The first of two fields that counts as true. -/
def messageOf (body : Json) : Json :=
  if (body.field "message").isTrue then body.field "message" else body.field "error"

/-- The response that an answer to a command is, `body` being what was read of it. -/
def responseTo (status : Int) (body : Json) : ControlResponse :=
  if Http.isSuccess status then
    { success := true, status
      data := match body with
        | .object _ => body
        | _ => .null }
  else
    let message := messageOf body
    { success := false, status
      message := if message.isTrue then message else .text ("HTTP " ++ toString status) }

/-- The response that comes of a command. An answer that is no JSON counts as one without body, but
    one that goes too deep is an error. -/
def responseOf : HttpReply → Except HttpError ControlResponse
  | .unreachable reason => .ok { success := false, status := 0, message := .text reason }
  | .response status source =>
    match Json.readBody source with
    | .ok body => .ok (responseTo status body)
    | .error ⟨.tooDeep, _⟩ => .error .tooDeep
    | .error _ => .ok (responseTo status .null)

/-! ## Control -/

/-- Whether a device that cannot be read for a reason is in an unknown state; the other reasons are
    failures. -/
def leavesUnknown : HttpError → Bool
  | .badKey _ | .noHost _ => true
  | _ => false

variable {σ : Type}

/-- Reads a device. `fetch` answers the requests to hosts. -/
def read (fetch : HttpRequest → σ → σ × HttpReply) (key : Option String) (host : Json)
    (deviceId : String) (s : σ) : σ × Except HttpError (Option DeviceState) :=
  let (s, reply) := Http.exchange fetch (readRequest key host deviceId) s
  match reply.bind stateOf with
  | .ok state => (s, .ok state)
  | .error e => (s, if leavesUnknown e then .ok none else .error e)

/-- Commands a device. `fetch` answers the requests to hosts. -/
def command (fetch : HttpRequest → σ → σ × HttpReply) (key : Option String) (host : Json)
    (deviceId : String) (state : DeviceState) (s : σ) : σ × Except HttpError ControlResponse :=
  let (s, reply) := Http.exchange fetch (commandRequest key host deviceId state) s
  (s, reply.bind responseOf)

end HomeAutomation.HttpControl
