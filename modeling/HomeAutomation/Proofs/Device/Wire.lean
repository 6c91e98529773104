/-
  HomeAutomation.Proofs.Device.Wire

  States on their way to devices and back.  The object by which a state is
  commanded is read as the state, bare or as the field `state` of another, and
  so is the text that is sent for it.  What has been read of a device can be
  commanded and read again as it was.
-/

import HomeAutomation.Device.Http
import HomeAutomation.Proofs.Json.RoundTrip
import HomeAutomation.Proofs.Rule.Parser

namespace HomeAutomation

open Json

-- ============================================================================
-- Objects
-- ============================================================================

namespace DeviceState

variable {s : DeviceState}

theorem field_payloadFields (s : DeviceState) :
    Table.get? s.payloadFields "power" = some (.bool s.power) ∧
    Table.get? s.payloadFields "temperature" = s.temperature.map .double ∧
    Table.get? s.payloadFields "mode" = s.mode ∧
    Table.get? s.payloadFields "brightness" = s.brightness.map .integer ∧
    Table.get? s.payloadFields "state" = none := by
  obtain ⟨power, temperature, mode, brightness⟩ := s
  cases temperature <;> cases mode <;> cases brightness <;>
    simp [payloadFields, Table.get?]

theorem convertField_double (t : Option Double) :
    convertField toDouble ((t.map .double).getD .null) = .ok t := by
  cases t <;> rfl

theorem convertField_integer (level : Option Int) :
    convertField toInteger ((level.map .integer).getD .null) = .ok level := by
  cases level <;> rfl

theorem nonNull?_eq_some_iff {value given : Json} :
    value.nonNull? = some given ↔ value = given ∧ given ≠ .null := by
  cases value <;> simp [nonNull?] <;> rintro rfl <;> simp

theorem nonNull?_getD {mode : Option Json} (moded : mode ≠ some .null) :
    (mode.getD .null).nonNull? = mode := by
  cases mode with
  | none => rfl
  | some value => exact nonNull?_eq_some_iff.2 ⟨rfl, fun null => moded (null ▸ rfl)⟩

/-- A state is read from its own object, if its mode is none or a value. -/
theorem ofPayload_payloadFields (moded : s.mode ≠ some .null) :
    ofPayload s.payloadFields = .ok s := by
  obtain ⟨power, temperature, mode, brightness, -⟩ := s.field_payloadFields
  unfold ofPayload
  dsimp only
  rw [power, temperature, mode, brightness, convertField_double, convertField_integer,
    nonNull?_getD moded]
  rfl

/-- A state that was read has no null for its mode. -/
theorem mode_ne_null_of_ofPayload {fields : Table Json} (h : ofPayload fields = .ok s) :
    s.mode ≠ some .null := by
  unfold ofPayload at h
  obtain ⟨temperature, -, h⟩ := bind_eq_ok_iff.1 h
  obtain ⟨brightness, -, h⟩ := bind_eq_ok_iff.1 h
  cases h
  exact fun null => (nonNull?_eq_some_iff.1 null).2 rfl

theorem isFinite_of_mem {fields : Table Json} (finite : fieldsFinite fields = true)
    {field : String × Json} (h : field ∈ fields) : field.2.isFinite = true := by
  induction fields with
  | nil => cases h
  | cons first rest ih =>
    rw [fieldsFinite, Bool.and_eq_true] at finite
    rcases List.mem_cons.1 h with rfl | h
    · exact finite.1
    · exact ih finite.2 h

theorem integersFit_of_mem {fields : Table Json} (fits : fieldsFit fields = true)
    {field : String × Json} (h : field ∈ fields) : field.2.integersFit = true := by
  induction fields with
  | nil => cases h
  | cons first rest ih =>
    rw [fieldsFit, Bool.and_eq_true] at fits
    rcases List.mem_cons.1 h with rfl | h
    · exact fits.1
    · exact ih fits.2 h

/-- The fields of a state are a truth value, numbers and its mode. -/
theorem mem_payloadFields {field : String × Json} (h : field ∈ s.payloadFields) :
    field.2 = .bool s.power ∨ (∃ t, field.2 = .double t) ∨ some field.2 = s.mode ∨
      ∃ level, field.2 = .integer level := by
  simp only [payloadFields, List.mem_append, List.mem_singleton, Option.mem_toList,
    Option.map_eq_some_iff] at h
  rcases h with ((rfl | ⟨t, -, rfl⟩) | ⟨mode, given, rfl⟩) | ⟨level, -, rfl⟩
  · exact .inl rfl
  · exact .inr (.inl ⟨t, rfl⟩)
  · exact .inr (.inr (.inl given.symm))
  · exact .inr (.inr (.inr ⟨level, rfl⟩))

/-- The object of a state can be written if its numbers can and its mode is a text. -/
theorem writable_payload (depth : Nat) (finite : s.payload.isFinite = true)
    (fits : s.payload.integersFit = true)
    (worded : ∀ mode, s.mode = some mode → ∃ word, mode = .text word) :
    Writable (depth + 1) s.payload := by
  refine .object ?_ fun field hf => ?_
  · obtain ⟨power, temperature, mode, brightness⟩ := s
    cases temperature <;> cases mode <;> cases brightness <;> simp [payloadFields]
  · have finite' := isFinite_of_mem finite hf
    have fits' := integersFit_of_mem fits hf
    rcases mem_payloadFields hf with same | ⟨t, same⟩ | mode | ⟨level, same⟩
    · exact same ▸ .bool depth _
    · rw [same] at finite' ⊢
      exact .double depth finite'
    · obtain ⟨word, same⟩ := worded field.2 mode.symm
      exact same ▸ .text depth word
    · rw [same] at fits' ⊢
      exact .integer depth fits'

end DeviceState

namespace HttpControl

variable {s : DeviceState}

/-- The state is found in its own object and in one that holds it as the field `state`. -/
theorem stateOfBody_payload (moded : s.mode ≠ some .null) :
    stateOfBody s.payload = .ok (some s) ∧
      stateOfBody (.object [("state", s.payload)]) = .ok (some s) := by
  have read := DeviceState.ofPayload_payloadFields moded
  obtain ⟨-, -, -, -, bare⟩ := s.field_payloadFields
  constructor
  · unfold stateOfBody DeviceState.payload
    dsimp only
    rw [bare, Option.getD_none]
    dsimp only
    rw [read]
    rfl
  · simp [stateOfBody, Table.get?, DeviceState.payload, read, Except.map]

/-- A command is sent where a reading would be, unless a number in it cannot be written. -/
theorem commandRequest_eq_ok_iff {key : Option String} {host : Json} {deviceId : String}
    {request : HttpRequest} :
    commandRequest key host deviceId s = .ok request ↔
      s.payload.isFinite = true ∧ s.payload.integersFit = true ∧
        ∃ asked, readRequest key host deviceId = .ok asked ∧
          request = { asked with method := "POST", body := some s.payload } := by
  unfold commandRequest readRequest
  simp only [bind_eq_ok_iff]
  constructor
  · rintro ⟨key', checked, url, located, h⟩
    split at h
    · rename_i numbers
      cases h
      rw [Bool.and_eq_true] at numbers
      exact ⟨numbers.1, numbers.2, _, ⟨key', checked, url, located, rfl⟩, rfl⟩
    · cases h
  · rintro ⟨finite, fits, asked, ⟨key', checked, url, located, h⟩, rfl⟩
    cases h
    refine ⟨key', checked, url, located, ?_⟩
    rw [finite, fits]
    rfl

variable {σ : Type}

/-- What an answer with a success says is what is read. -/
theorem read_of_response {fetch : HttpRequest → σ → σ × HttpReply} {key : Option String}
    {host : Json} {deviceId : String} {before : σ} {status : Int} {body : String} {value : Json}
    (answer : (Http.exchange fetch (readRequest key host deviceId) before).2
      = .ok (.response status body))
    (success : Http.isSuccess status = true) (json : readBody body = .ok value)
    (state : stateOfBody value = .ok (some s)) :
    (read fetch key host deviceId before).2 = .ok (some s) := by
  unfold read
  generalize Http.exchange fetch (readRequest key host deviceId) before = exchanged at answer
  obtain ⟨after, reply⟩ := exchanged
  dsimp only at answer ⊢
  rw [answer]
  simp [Except.bind, stateOf, success, json, state, Except.mapError]

/-- The numbers of a state can be written if its temperature is finite and its brightness is short
    enough. -/
theorem writable_numbers (heat : ∀ t, s.temperature = some t → t.isFinite = true)
    (worded : ∀ mode, s.mode = some mode → ∃ word, mode = .text word)
    (short : ∀ level, s.brightness = some level →
      (Nat.toDigits 10 level.natAbs).length ≤ Number.integerDigitLimit) :
    s.payload.isFinite = true ∧ s.payload.integersFit = true := by
  obtain ⟨power, temperature, mode, brightness⟩ := s
  have plain (mode' : Json) (same : mode = some mode') :
      mode'.isFinite = true ∧ mode'.integersFit = true := by
    obtain ⟨word, rfl⟩ := worded mode' same
    exact ⟨rfl, rfl⟩
  cases temperature <;> cases mode <;> cases brightness <;>
    simp_all [DeviceState.payload, DeviceState.payloadFields, isFinite, fieldsFinite, integersFit,
      fieldsFit]

/-- The text that is sent for a state is read as its object, also inside another. -/
theorem readBody_content {key : Option String} {host : Json} {deviceId : String}
    {request : HttpRequest} (posted : commandRequest key host deviceId s = .ok request)
    (worded : ∀ mode, s.mode = some mode → ∃ word, mode = .text word) :
    readBody request.content = .ok s.payload ∧
      readBody ("\x7b\"state\":" ++ request.content ++ "\x7d")
        = .ok (.object [("state", s.payload)]) := by
  obtain ⟨finite, fits, asked, -, rfl⟩ := commandRequest_eq_ok_iff.1 posted
  have bare (depth : Nat) : Writable (depth + 1) s.payload :=
    DeviceState.writable_payload depth finite fits worded
  have nested : Writable nestingLimit (.object [("state", s.payload)]) :=
    .object (by simp) (by simpa using bare 968)
  have wrapped : "\x7b\"state\":" ++ write wire s.payload ++ "\x7d"
      = write wire (.object [("state", s.payload)]) := by
    apply String.toList_injective
    simp [write, writeFields, writeText, wire, escapeChar]
  refine ⟨readBody_write (bare 969) ?_, ?_⟩
  · simp [DeviceState.payloadFields]
  · change readBody ("\x7b\"state\":" ++ write wire s.payload ++ "\x7d") = _
    rw [wrapped]
    exact readBody_write nested (List.cons_ne_nil _ _)

/-- States survive the way to a device and back.  A state with a finite temperature and a text for
    its mode, as far as it has them, is sent wherever it could be asked for, unless its brightness
    is too long to be written.  The text that is sent is read as the object of the state, also
    inside another, and every answer with such a body is read as the state.  A state that was read
    from any object is read from its own as well. -/
theorem states_survive_the_wire :
    (∀ state : DeviceState, (∀ t, state.temperature = some t → t.isFinite = true) →
      (∀ mode, state.mode = some mode → ∃ word, mode = .text word) →
      (∀ key host deviceId asked, readRequest key host deviceId = .ok asked →
        (∀ level, state.brightness = some level →
          (Nat.toDigits 10 level.natAbs).length ≤ Number.integerDigitLimit) →
        commandRequest key host deviceId state
          = .ok { asked with method := "POST", body := some state.payload }) ∧
      ∀ key host deviceId request, commandRequest key host deviceId state = .ok request →
        readBody request.content = .ok state.payload ∧
        readBody ("\x7b\"state\":" ++ request.content ++ "\x7d")
          = .ok (.object [("state", state.payload)]) ∧
        ∀ body, readBody body = .ok state.payload ∨
            readBody body = .ok (.object [("state", state.payload)]) →
          ∀ {σ : Type} (fetch : HttpRequest → σ → σ × HttpReply) key host deviceId before status,
            Http.isSuccess status = true →
            (Http.exchange fetch (readRequest key host deviceId) before).2
              = .ok (.response status body) →
            (read fetch key host deviceId before).2 = .ok (some state)) ∧
    ∀ fields state, DeviceState.ofPayload fields = .ok state →
      DeviceState.ofPayload state.payloadFields = .ok state := by
  refine ⟨fun state heat worded => ⟨fun key host deviceId asked readable short => ?_,
    fun key host deviceId request posted => ?_⟩, fun fields state h =>
    DeviceState.ofPayload_payloadFields (DeviceState.mode_ne_null_of_ofPayload h)⟩
  · obtain ⟨finite, fits⟩ := writable_numbers heat worded short
    exact commandRequest_eq_ok_iff.2 ⟨finite, fits, asked, readable, rfl⟩
  · have moded : state.mode ≠ some .null := by
      intro null
      obtain ⟨word, same⟩ := worded _ null
      cases same
    obtain ⟨bare, wrapped⟩ := stateOfBody_payload moded
    obtain ⟨content, enclosed⟩ := readBody_content posted worded
    refine ⟨content, enclosed, fun body holds σ fetch key host deviceId before status success
      answer => ?_⟩
    rcases holds with json | json
    · exact read_of_response answer success json bare
    · exact read_of_response answer success json wrapped

/-- The state of an air conditioner, its mode a text with characters that are escaped. -/
def mildState : DeviceState where
  power := true
  temperature := some (Decimal.toDouble false ⟨215, -1⟩)
  mode := some (.text "eco \"é\"\n")
  brightness := some (-7)

/-- A device that answers with what was sent, inside another object, has the state that was sent. -/
theorem states_survive_the_wire_mild :
    ∃ request, commandRequest none (.text "10.0.0.2") "ac1" mildState = .ok request ∧
      (read (fun _ house =>
          (house, .response 200 ("\x7b\"state\":" ++ request.content ++ "\x7d")))
        none (.text "10.0.0.2") "ac1" ()).2 = .ok (some mildState) := by
  have located : address (.text "10.0.0.2") "ac1"
      = .ok { scheme := "http", host := "10.0.0.2", path := "/api/devices/ac1/state" } := by
    decide +kernel
  have asked : readRequest none (.text "10.0.0.2") "ac1"
      = .ok
        { method := "GET", key := none,
          url := { scheme := "http", host := "10.0.0.2", path := "/api/devices/ac1/state" } } := by
    rw [readRequest, located]
    rfl
  obtain ⟨sent, back⟩ := states_survive_the_wire.1 mildState
    (fun t heat => by
      obtain rfl := Option.some.inj heat
      decide +kernel)
    (fun mode given => ⟨_, (Option.some.inj given).symm⟩)
  have posted := sent none (.text "10.0.0.2") "ac1" _ asked fun level given => by
    obtain rfl := Option.some.inj given
    decide
  obtain ⟨-, enclosed, read⟩ := back _ _ _ _ posted
  refine ⟨_, posted, read _ (.inr enclosed) _ _ _ _ _ 200 rfl ?_⟩
  rw [asked]
  rfl

end HttpControl

end HomeAutomation
