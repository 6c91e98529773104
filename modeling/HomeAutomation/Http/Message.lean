/-
  HomeAutomation.Http.Message

  Requests to the hosts of rooms, and what comes back.
-/
import HomeAutomation.Http.Url
import HomeAutomation.Json.Reader
import HomeAutomation.Json.Writer

namespace HomeAutomation

/-- A request to a host. -/
structure HttpRequest where
  method : String
  url : Url
  /-- The key that the request is authorised by. -/
  key : Option String := none
  body : Option Json := none
  deriving Repr, Inhabited

/-- The text that a request sends. -/
def HttpRequest.content (request : HttpRequest) : String :=
  (request.body.map (Json.write Json.wire)).getD ""

/-- What a request gets. -/
inductive HttpReply
  | response (status : Int) (body : String)
  /-- There is no connection to the host. -/
  | unreachable (reason : String)
  deriving Repr, Inhabited

/-- Why a request cannot be made, or why what it gets is of no use. -/
inductive HttpError
  /-- The key is not ASCII. -/
  | badKey (key : String)
  /-- The host is no text but a value of another kind. -/
  | hostNotText (kind : String)
  | badUrl (fault : UrlFault)
  /-- The body has a number that cannot be written: JSON proper has no numeral for it, or an integer
      has too many digits. -/
  | unsendable
  /-- The request names no host, so that no response belongs to it. -/
  | noHost (url : Url)
  /-- Too many values stand within each other in the response. -/
  | tooDeep
  /-- A value in the response does not stand for a number. -/
  | badValue (error : Json.ConversionError)
  deriving DecidableEq, Repr

namespace Http

/-- The part of a message that shows a character beyond ASCII. -/
def characterText (c : Char) : String :=
  let n := c.toNat
  String.ofList (['\'', '\\'] ++ (if n < 0x100 then 'x' :: Text.hex 2 n
    else if n < 0x10000 then 'u' :: Text.hex 4 n
    else 'U' :: Text.hex 8 n) ++ ['\''])

/-- The message about a key that is not ASCII. It shows the first run of other characters. -/
def badKeyMessage (key : String) : String :=
  let isAscii (c : Char) : Bool := c.toNat < 0x80
  let start := (key.toList.takeWhile isAscii).length
  let place :=
    match (key.toList.drop start).takeWhile (!isAscii ·) with
    | [] => ""
    | [c] => "character " ++ characterText c ++ " in position " ++ toString start
    | run => "characters in position " ++ toString start ++ "-"
        ++ toString (start + run.length - 1)
  "'ascii' codec can't encode " ++ place ++ ": ordinal not in range(128)"

/-- The message about a failed exchange. -/
def errorMessage : HttpError → String
  | .badKey key => badKeyMessage key
  | .hostNotText kind => "'" ++ kind ++ "' object has no attribute 'startswith'"
  | .badUrl fault => fault.message
  | .unsendable => "Out of range float values are not JSON compliant"
  | .noHost url => "unknown url type: " ++ Text.quote url.text
  | .tooDeep => "maximum recursion depth exceeded while decoding a JSON array from a unicode string"
  | .badValue _ => "a value is no number"

/-- Whether a status reports success. -/
def isSuccess (status : Int) : Bool := 200 ≤ status && status < 300

/-! ## Addresses -/

/-- The address of a host without the slashes at its end; a host that names no scheme is reached by
    `http`. -/
def base (host : String) : String :=
  let address :=
    if host.startsWith "http://" || host.startsWith "https://" then host else "http://" ++ host
  String.ofList (address.toList.reverse.dropWhile (· == '/')).reverse

/-- The address of the state of a device. -/
def deviceUrl (host deviceId : String) : String :=
  base host ++ "/api/devices/" ++ deviceId ++ "/state"

/-- The address of the sensors of a room. -/
def sensorUrl (host : String) : String := base host ++ "/api/sensors"

/-- Reads the address of a request. -/
def readUrl (address : String) : Except HttpError Url :=
  ((Url.parse address).map Url.forRequest).mapError .badUrl

/-- The key of a request. -/
def checkKey (key : Option String) : Except HttpError (Option String) :=
  match key with
  | some text => if text.toList.all (·.toNat < 0x80) then .ok key else .error (.badKey text)
  | none => .ok none

/-! ## Exchanges -/

/-- What a request gets, unless it is a response that belongs to no host. -/
def accept (request : HttpRequest) : HttpReply → Except HttpError HttpReply
  | .response status body =>
    if request.url.host.isEmpty then .error (.noHost request.url) else .ok (.response status body)
  | reply => .ok reply

/-- Makes a request. `fetch` answers the requests to hosts. -/
def exchange {σ : Type} (fetch : HttpRequest → σ → σ × HttpReply)
    (request : Except HttpError HttpRequest) (s : σ) : σ × Except HttpError HttpReply :=
  match request with
  | .error e => (s, .error e)
  | .ok request =>
    let (s, reply) := fetch request s
    (s, accept request reply)

end Http

end HomeAutomation
