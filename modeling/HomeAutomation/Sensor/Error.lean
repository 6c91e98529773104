/-
  HomeAutomation.Sensor.Error

  Failures of reading a sensor.
-/
import HomeAutomation.Http.Message

namespace HomeAutomation

/-- Why a sensor could not be read. -/
inductive SensorError
  /-- A simulated sensor is switched off. -/
  | disabled (room : String)
  /-- The sensor could not be reached. -/
  | unreachable (reason : String)
  /-- The sensor answered with a status that is no success. -/
  | badStatus (status : Int)
  /-- The answer is no JSON. -/
  | notJson (error : Json.ReadError)
  /-- The answer is JSON and no object. -/
  | notAnObject
  /-- A value is no number. -/
  | badValue (error : Json.ConversionError)
  /-- The host could not be asked. -/
  | notAsked (error : HttpError)
  deriving DecidableEq, Repr

/-- The message of a failed reading. -/
def SensorError.message : SensorError → String
  | disabled room => "Simulated sensor for " ++ room ++ " disabled"
  | unreachable reason => reason
  | badStatus status => "unexpected status " ++ toString status
  | notJson error => "no JSON value at character " ++ toString error.offset
  | notAnObject => "the answer is no object"
  | badValue _ => "a value is no number"
  | notAsked error => Http.errorMessage error

end HomeAutomation
