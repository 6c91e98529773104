/-
  HomeAutomation.Proofs.Device.Failure

  Failures of the control of devices.  A device whose answer cannot be read is
  in an unknown state, unless the answer is an object with a temperature or a
  brightness that is no number: then reading fails.  A command has a response
  for every status, but it fails before it is sent if its request cannot be
  made.  Both fail on answers that go too deep.
-/

import HomeAutomation.Device.Http
import HomeAutomation.Proofs.Json.RoundTrip
import HomeAutomation.Proofs.Rule.Parser

namespace HomeAutomation

open Json

-- ============================================================================
-- Values that are no numbers
-- ============================================================================

namespace Json

variable {value : Json} {e : ConversionError}

/-- Why a value stands for no double. -/
inductive NoDouble : Json → ConversionError → Prop
  | list (items : List Json) : NoDouble (.list items) .wrongKind
  | object (fields : List (String × Json)) : NoDouble (.object fields) .wrongKind
  | text {numeral : String} (unread : Number.readDouble? numeral = none) :
      NoDouble (.text numeral) .malformed
  | integer {n : Int} (large : Double.ofInt? n = none) : NoDouble (.integer n) .outOfRange

/-- Why a value stands for no integer. -/
inductive NoInteger : Json → ConversionError → Prop
  | list (items : List Json) : NoInteger (.list items) .wrongKind
  | object (fields : List (String × Json)) : NoInteger (.object fields) .wrongKind
  | text {numeral : String} (unread : Number.readInteger? numeral = none) :
      NoInteger (.text numeral) .malformed
  | nan : NoInteger (.double .nan) .malformed
  | infinite (negative : Bool) : NoInteger (.double (.infinite negative)) .outOfRange

theorem toDouble_eq_error_iff (given : value ≠ .null) :
    toDouble value = .error e ↔ NoDouble value e := by
  -- The conversion of integers has a name of its own here, so that nothing evaluates it.
  obtain ⟨ofInt, same⟩ : ∃ ofInt, ofInt = Double.ofInt? := ⟨_, rfl⟩
  unfold toDouble
  rw [← same]
  constructor
  · intro h
    split at h
    case h_1 => cases h
    case h_2 n =>
      split at h
      · cases h
      · cases h
        exact .integer (same ▸ ‹ofInt n = none›)
    case h_3 => cases h
    case h_4 numeral =>
      split at h
      · cases h
      · cases h
        exact .text ‹_›
    case h_5 =>
      cases value with
      | list items => cases h; exact .list items
      | object fields => cases h; exact .object fields
      | _ => simp_all
  · intro no
    cases no with
    | list => rfl
    | object => rfl
    | text unread => simp only [unread]
    | integer large =>
      rw [← same] at large
      simp only [large]

theorem toInteger_eq_error_iff (given : value ≠ .null) :
    toInteger value = .error e ↔ NoInteger value e := by
  constructor
  · intro h
    cases value with
    | null => exact absurd rfl given
    | bool truth => cases h
    | integer n => cases h
    | double d =>
      cases d with
      | finite negative rank => cases h
      | infinite negative => cases h; exact .infinite negative
      | nan => cases h; exact .nan
    | text numeral =>
      unfold toInteger at h
      dsimp only at h
      split at h
      · cases h
      · cases h
        exact .text ‹_›
    | list items => cases h; exact .list items
    | object fields => cases h; exact .object fields
  · intro no
    cases no with
    | list => rfl
    | object => rfl
    | text unread => simp only [toInteger, unread]
    | nan => rfl
    | infinite => rfl

theorem NoDouble.ne_null (no : NoDouble value e) : value ≠ .null := by
  cases no <;> exact Json.noConfusion

theorem NoInteger.ne_null (no : NoInteger value e) : value ≠ .null := by
  cases no <;> exact Json.noConfusion

end Json

-- ============================================================================
-- Objects that are no states
-- ============================================================================

namespace DeviceState

variable {fields : Table Json} {e : ConversionError}

/-- Why the fields of an object are those of no state: the temperature stands for no double or, the
    temperature being absent, null or a number, the brightness for no integer. -/
inductive Unreadable (fields : Table Json) : ConversionError → Prop
  | temperature {value : Json} {e : ConversionError}
      (found : fields.get? "temperature" = some value) (no : NoDouble value e) :
      Unreadable fields e
  | brightness {value : Json} {e : ConversionError}
      (mild : ∀ heat fault, fields.get? "temperature" = some heat → ¬ NoDouble heat fault)
      (found : fields.get? "brightness" = some value) (no : NoInteger value e) :
      Unreadable fields e

theorem convertField_eq_error_iff {α : Type} {convert : Json → Except ConversionError α}
    {value : Json} :
    convertField convert value = .error e ↔ value ≠ .null ∧ convert value = .error e := by
  cases value <;> simp [convertField, nonNull?, Except.map] <;> split <;> simp_all

/-- A field makes trouble only if it is there. -/
theorem getD_eq_iff_of_ne_null {value : Json} {key : String} (given : value ≠ .null) :
    (fields.get? key).getD .null = value ↔ fields.get? key = some value := by
  cases fields.get? key with
  | none => simpa using given.symm
  | some found => simp

/-- A field is unreadable exactly if it is there with a value its conversion refuses. -/
theorem convertField_getD_eq_error_iff {α : Type} {convert : Json → Except ConversionError α}
    {Refused : Json → ConversionError → Prop} (key : String)
    (given : ∀ {value}, Refused value e → value ≠ .null)
    (refused : ∀ {value}, value ≠ .null → (convert value = .error e ↔ Refused value e)) :
    convertField convert ((fields.get? key).getD .null) = .error e ↔
      ∃ value, fields.get? key = some value ∧ Refused value e := by
  rw [convertField_eq_error_iff]
  constructor
  · rintro ⟨there, h⟩
    exact ⟨_, (getD_eq_iff_of_ne_null there).1 rfl, (refused there).1 h⟩
  · rintro ⟨value, found, no⟩
    rw [found, Option.getD_some]
    exact ⟨given no, (refused (given no)).2 no⟩

/-- An object is a state unless its temperature or its brightness is in the way. -/
theorem ofPayload_eq_error_iff : ofPayload fields = .error e ↔ Unreadable fields e := by
  have heat (fault : ConversionError) :
      convertField toDouble ((fields.get? "temperature").getD .null) = .error fault ↔
        ∃ value, fields.get? "temperature" = some value ∧ NoDouble value fault :=
    convertField_getD_eq_error_iff _ NoDouble.ne_null toDouble_eq_error_iff
  have light :
      convertField toInteger ((fields.get? "brightness").getD .null) = .error e ↔
        ∃ value, fields.get? "brightness" = some value ∧ NoInteger value e :=
    convertField_getD_eq_error_iff _ NoInteger.ne_null toInteger_eq_error_iff
  have failed : ofPayload fields = .error e ↔
      convertField toDouble ((fields.get? "temperature").getD .null) = .error e ∨
        (∃ t, convertField toDouble ((fields.get? "temperature").getD .null) = .ok t) ∧
          convertField toInteger ((fields.get? "brightness").getD .null) = .error e := by
    unfold ofPayload
    simp only [bind_eq_error_iff, Pure.pure, Except.pure, reduceCtorEq, and_false, exists_false,
      or_false, exists_and_right]
  rw [failed, heat, light]
  constructor
  · rintro (⟨value, found, no⟩ | ⟨⟨t, warm⟩, value, found, no⟩)
    · exact .temperature found no
    · refine .brightness (fun heated fault given refused => ?_) found no
      rw [(heat fault).2 ⟨heated, given, refused⟩] at warm
      cases warm
  · intro unreadable
    cases unreadable with
    | temperature found no => exact .inl ⟨_, found, no⟩
    | brightness mild found no =>
      refine .inr ⟨?_, _, found, no⟩
      cases warm : convertField toDouble ((fields.get? "temperature").getD .null) with
      | error fault =>
        obtain ⟨heated, given, refused⟩ := (heat fault).1 warm
        exact absurd refused (mild heated fault given)
      | ok t => exact ⟨t, rfl⟩

end DeviceState

-- ============================================================================
-- Exchanges
-- ============================================================================

namespace Http

variable {σ : Type} {fetch : HttpRequest → σ → σ × HttpReply} {before : σ}

/-- Nothing comes of a request that cannot be made, and no response belongs to one that names no
    host. -/
theorem exchange_eq_error_iff {request : Except HttpError HttpRequest} {e : HttpError} :
    (exchange fetch request before).2 = .error e ↔
      request = .error e ∨ ∃ made status body, request = .ok made ∧
        (fetch made before).2 = .response status body ∧ made.url.host = "" ∧
        e = .noHost made.url := by
  cases request with
  | error fault => simp [exchange]
  | ok made =>
    cases answer : (fetch made before).2 with
    | unreachable reason => simp [exchange, answer, accept]
    | response status body =>
      by_cases nameless : made.url.host = ""
      · have nothing : made.url.host.isEmpty = true := by simp [nameless]
        simp only [exchange, answer, accept, nothing, if_true]
        exact ⟨fun h => .inr ⟨made, status, body, rfl, answer, nameless, (Except.error.inj h).symm⟩,
          fun h => by
            rcases h with h | ⟨_, _, _, same, -, -, rfl⟩
            · cases h
            · cases same
              rfl⟩
      · simp [exchange, answer, accept, nameless]

end Http

-- ============================================================================
-- Reading and commanding
-- ============================================================================

namespace HttpControl

variable {key : Option String} {host : Json} {deviceId : String} {state : DeviceState}
  {status : Int} {body : String} {e : HttpError}

/-- A value carries the fields of a state: it is an object, and they are its own or those of the
    object in its field `state`. -/
def Carries (value : Json) (fields : Table Json) : Prop :=
  ∃ outer, value = .object outer ∧
    (Table.get? outer "state").getD (.object outer) = .object fields

/-- The body of an answer goes too deep. -/
def TooDeep (body : String) : Prop := ∃ offset, readBody body = .error ⟨.tooDeep, offset⟩

/-- Why the request of a command cannot be made: the key is not ASCII, the device has no address, or
    a number of the state cannot be written. -/
inductive Unmade (key : Option String) (host : Json) (deviceId : String) (state : DeviceState) :
    HttpError → Prop
  | key {e : HttpError} (foreign : Http.checkKey key = .error e) : Unmade key host deviceId state e
  | address {e : HttpError} (plain : Http.checkKey key = .ok key)
      (lost : address host deviceId = .error e) : Unmade key host deviceId state e
  | number {url : Url} (plain : Http.checkKey key = .ok key)
      (found : address host deviceId = .ok url)
      (unwritten : ¬ (state.payload.isFinite = true ∧ state.payload.integersFit = true)) :
      Unmade key host deviceId state .unsendable

theorem checkKey_cases (key : Option String) :
    Http.checkKey key = .ok key ∨ ∃ text, Http.checkKey key = .error (.badKey text) := by
  cases key with
  | none => exact .inl rfl
  | some text =>
    unfold Http.checkKey
    dsimp only
    split
    · exact .inl rfl
    · exact .inr ⟨text, rfl⟩

theorem commandRequest_eq_error_iff :
    commandRequest key host deviceId state = .error e ↔ Unmade key host deviceId state e := by
  constructor
  · intro h
    unfold commandRequest at h
    rcases checkKey_cases key with plain | ⟨text, foreign⟩
    · rw [plain] at h
      cases found : address host deviceId with
      | error fault =>
        rw [found] at h
        cases h
        exact .address plain found
      | ok url =>
        rw [found] at h
        simp only [Bind.bind, Except.bind] at h
        split at h
        · cases h
        · cases h
          exact .number plain found fun numbers => ‹¬ _› (by simp [numbers])
    · rw [foreign] at h
      cases h
      exact .key foreign
  · intro unmade
    unfold commandRequest
    cases unmade with
    | key foreign =>
      rw [foreign]
      rfl
    | address plain lost =>
      rw [plain, lost]
      rfl
    | number plain found unwritten =>
      rw [plain, found]
      simp only [Bind.bind, Except.bind]
      rw [if_neg (by simpa using unwritten)]
      rfl

/-- A request to read cannot be made for the reasons for which none can, the numbers apart. -/
theorem readRequest_eq_error_iff :
    readRequest key host deviceId = .error e ↔
      Http.checkKey key = .error e ∨
        Http.checkKey key = .ok key ∧ address host deviceId = .error e := by
  unfold readRequest
  rcases checkKey_cases key with plain | ⟨text, foreign⟩
  · rw [plain]
    cases found : address host deviceId with
    | error fault => simp [Bind.bind, Except.bind]
    | ok url => simp [Bind.bind, Except.bind, Pure.pure, Except.pure]
  · rw [foreign]
    simp [Bind.bind, Except.bind]

theorem stateOfBody_of_carries {value : Json} {fields : Table Json} (h : Carries value fields) :
    stateOfBody value = (DeviceState.ofPayload fields).map some := by
  obtain ⟨outer, rfl, held⟩ := h
  unfold stateOfBody
  dsimp only
  rw [held]

theorem stateOfBody_of_not_carries {value : Json} (h : ∀ fields, ¬ Carries value fields) :
    stateOfBody value = .ok none := by
  unfold stateOfBody
  split
  · split
    · exact absurd ⟨_, rfl, ‹_›⟩ (h _)
    · rfl
  · rfl

theorem stateOf_of_carries {value : Json} {fields : Table Json}
    (success : Http.isSuccess status = true) (json : readBody body = .ok value)
    (carried : Carries value fields) :
    stateOf (.response status body)
      = ((DeviceState.ofPayload fields).map some).mapError .badValue := by
  simp [stateOf, success, json, stateOfBody_of_carries carried]

theorem stateOf_of_tooDeep (success : Http.isSuccess status = true) (deep : TooDeep body) :
    stateOf (.response status body) = .error .tooDeep := by
  obtain ⟨offset, deep⟩ := deep
  simp [stateOf, success, deep]

/-- What an answer says about the state of a device.  Only successes say anything: those that go too
    deep and those that carry fields. -/
theorem stateOf_cases (reply : HttpReply) :
    (∃ status body, reply = .response status body ∧ Http.isSuccess status = true ∧ TooDeep body) ∨
    (∃ status body value fields, reply = .response status body ∧ Http.isSuccess status = true ∧
      readBody body = .ok value ∧ Carries value fields) ∨
    stateOf reply = .ok none := by
  cases reply with
  | unreachable reason => exact .inr (.inr rfl)
  | response status body =>
    unfold stateOf
    dsimp only
    by_cases success : Http.isSuccess status = true
    · rw [if_pos success]
      cases json : readBody body with
      | ok value =>
        by_cases carried : ∃ fields, Carries value fields
        · obtain ⟨fields, carried⟩ := carried
          exact .inr (.inl ⟨status, body, value, fields, rfl, success, json, carried⟩)
        · refine .inr (.inr ?_)
          dsimp only
          rw [stateOfBody_of_not_carries (not_exists.1 carried)]
          rfl
      | error fault =>
        obtain ⟨fault, offset⟩ := fault
        by_cases deep : fault = .tooDeep
        · exact .inl ⟨status, body, rfl, success, offset, deep ▸ json⟩
        · exact .inr (.inr (by cases fault <;> simp_all))
    · rw [if_neg success]
      exact .inr (.inr rfl)

/-- An answer is read as a state if it is a success whose body carries one. -/
theorem stateOf_eq_ok_some_iff {reply : HttpReply} :
    stateOf reply = .ok (some state) ↔
      ∃ status body value fields, reply = .response status body ∧
        Http.isSuccess status = true ∧ readBody body = .ok value ∧ Carries value fields ∧
        DeviceState.ofPayload fields = .ok state := by
  constructor
  · intro h
    rcases stateOf_cases reply with ⟨status, body, rfl, success, deep⟩ |
      ⟨status, body, value, fields, rfl, success, json, carried⟩ | unknown
    · rw [stateOf_of_tooDeep success deep] at h
      cases h
    · rw [stateOf_of_carries success json carried] at h
      refine ⟨status, body, value, fields, rfl, success, json, carried, ?_⟩
      cases built : DeviceState.ofPayload fields with
      | error fault => rw [built] at h; cases h
      | ok state' => rw [built] at h; cases h; rfl
    · rw [unknown] at h
      cases h
  · rintro ⟨status, body, value, fields, rfl, success, json, carried, built⟩
    rw [stateOf_of_carries success json carried, built]
    rfl

/-- An answer makes reading fail if it is a success whose body goes too deep or carries the fields
    of no state. -/
theorem stateOf_eq_error_iff {reply : HttpReply} :
    stateOf reply = .error e ↔
      ∃ status body, reply = .response status body ∧ Http.isSuccess status = true ∧
        (TooDeep body ∧ e = .tooDeep ∨ ∃ value fields fault, readBody body = .ok value ∧
          Carries value fields ∧ DeviceState.Unreadable fields fault ∧ e = .badValue fault) := by
  constructor
  · intro h
    rcases stateOf_cases reply with ⟨status, body, rfl, success, deep⟩ |
      ⟨status, body, value, fields, rfl, success, json, carried⟩ | unknown
    · rw [stateOf_of_tooDeep success deep] at h
      cases h
      exact ⟨status, body, rfl, success, .inl ⟨deep, rfl⟩⟩
    · rw [stateOf_of_carries success json carried] at h
      cases built : DeviceState.ofPayload fields with
      | ok state' => rw [built] at h; cases h
      | error fault =>
        rw [built] at h
        cases h
        exact ⟨status, body, rfl, success, .inr ⟨value, fields, fault, json, carried,
          DeviceState.ofPayload_eq_error_iff.1 built, rfl⟩⟩
    · rw [unknown] at h
      cases h
  · rintro ⟨status, body, rfl, success, ⟨deep, rfl⟩ |
      ⟨value, fields, fault, json, carried, unreadable, rfl⟩⟩
    · exact stateOf_of_tooDeep success deep
    · rw [stateOf_of_carries success json carried,
        DeviceState.ofPayload_eq_error_iff.2 unreadable]
      rfl

theorem success_responseTo (status : Int) (value : Json) :
    (responseTo status value).success = Http.isSuccess status := by
  unfold responseTo
  cases Http.isSuccess status <;> rfl

/-- A command has a response to every answer that does not go too deep. -/
theorem responseOf_eq_error_iff {reply : HttpReply} :
    responseOf reply = .error e ↔
      ∃ status body, reply = .response status body ∧ TooDeep body ∧ e = .tooDeep := by
  cases reply with
  | unreachable reason => simp [responseOf]
  | response status body =>
    unfold responseOf TooDeep
    dsimp only
    cases json : readBody body with
    | ok value => simp [json]
    | error fault =>
      obtain ⟨fault, offset⟩ := fault
      cases fault <;> simp [json, eq_comm]

/-- A command succeeded if the status of the answer says so. -/
theorem success_of_responseOf {reply : HttpReply} {response : ControlResponse}
    (h : responseOf reply = .ok response) :
    (response.success = true ↔
      ∃ status body, reply = .response status body ∧ Http.isSuccess status = true) := by
  cases reply with
  | unreachable reason =>
    cases h
    simp
  | response status body =>
    obtain ⟨value, rfl⟩ : ∃ value, response = responseTo status value := by
      unfold responseOf at h
      dsimp only at h
      split at h
      · cases h; exact ⟨_, rfl⟩
      · cases h
      · cases h; exact ⟨_, rfl⟩
    rw [success_responseTo]
    simp

variable {σ : Type} {fetch : HttpRequest → σ → σ × HttpReply} {before : σ}

theorem read_snd :
    (read fetch key host deviceId before).2 =
      match (Http.exchange fetch (readRequest key host deviceId) before).2.bind stateOf with
      | .ok state => .ok state
      | .error e => if leavesUnknown e then .ok none else .error e := by
  unfold read
  generalize Http.exchange fetch (readRequest key host deviceId) before = exchanged
  obtain ⟨after, reply⟩ := exchanged
  dsimp only
  cases reply.bind stateOf <;> rfl

theorem read_eq_ok_some_iff :
    (read fetch key host deviceId before).2 = .ok (some state) ↔
      ∃ reply, (Http.exchange fetch (readRequest key host deviceId) before).2 = .ok reply ∧
        stateOf reply = .ok (some state) := by
  rw [read_snd, ← bind_eq_ok_iff]
  change _ ↔ (Http.exchange fetch (readRequest key host deviceId) before).2.bind stateOf = _
  cases (Http.exchange fetch (readRequest key host deviceId) before).2.bind stateOf with
  | ok state' => simp
  | error fault =>
    dsimp only
    split <;> simp

theorem read_eq_error_iff :
    (read fetch key host deviceId before).2 = .error e ↔ leavesUnknown e = false ∧
      ((Http.exchange fetch (readRequest key host deviceId) before).2 = .error e ∨
        ∃ reply, (Http.exchange fetch (readRequest key host deviceId) before).2 = .ok reply ∧
          stateOf reply = .error e) := by
  rw [read_snd, ← bind_eq_error_iff]
  change _ ↔ _ ∧ (Http.exchange fetch (readRequest key host deviceId) before).2.bind stateOf = _
  cases (Http.exchange fetch (readRequest key host deviceId) before).2.bind stateOf with
  | ok state' => simp
  | error fault =>
    dsimp only
    split
    · refine ⟨fun h => (nomatch h), fun ⟨known, h⟩ => ?_⟩
      cases h
      simp_all
    · refine ⟨fun h => ?_, fun ⟨known, h⟩ => h⟩
      cases h
      simp_all

/-- The faults of addresses leave no state unknown. -/
theorem leavesUnknown_of_address (lost : address host deviceId = .error e) :
    leavesUnknown e = false := by
  unfold address Http.readUrl at lost
  split at lost
  · cases parsed : Url.parse (Http.deviceUrl ‹String› deviceId) with
    | ok url => rw [parsed] at lost; cases lost
    | error fault => rw [parsed] at lost; cases lost; rfl
  · cases lost
    rfl

/-- Reading fails before it comes to an answer if only the address is at fault. -/
theorem exchange_readRequest_eq_error_iff :
    leavesUnknown e = false ∧
        (Http.exchange fetch (readRequest key host deviceId) before).2 = .error e ↔
      Http.checkKey key = .ok key ∧ address host deviceId = .error e := by
  rw [Http.exchange_eq_error_iff, readRequest_eq_error_iff]
  constructor
  · rintro ⟨known, (foreign | lost) | ⟨made, status, body, -, -, -, rfl⟩⟩
    · rcases checkKey_cases key with plain | ⟨text, foreign'⟩
      · cases plain.symm.trans foreign
      · cases foreign.symm.trans foreign'
        cases known
    · exact lost
    · cases known
  · intro lost
    exact ⟨leavesUnknown_of_address lost.2, .inl (.inr lost)⟩

theorem command_eq_ok_iff {response : ControlResponse} :
    (command fetch key host deviceId state before).2 = .ok response ↔
      ∃ reply, (Http.exchange fetch (commandRequest key host deviceId state) before).2 = .ok reply ∧
        responseOf reply = .ok response :=
  bind_eq_ok_iff

theorem command_eq_error_iff :
    (command fetch key host deviceId state before).2 = .error e ↔
      (Http.exchange fetch (commandRequest key host deviceId state) before).2 = .error e ∨
        ∃ reply, (Http.exchange fetch (commandRequest key host deviceId state) before).2
            = .ok reply ∧ responseOf reply = .error e :=
  bind_eq_error_iff

theorem address_lamp : address (.text "10.0.0.2") "lamp"
    = .ok { scheme := "http", host := "10.0.0.2", path := "/api/devices/lamp/state" } := by
  decide +kernel

/-- When the control of devices fails.  Reading fails if the key is ASCII and the device has no
    address, or if the answer is a success that goes too deep or carries the fields of no state; it
    gives a state if the answer is a success that carries one, and else leaves the state unknown.  A
    command fails if its request cannot be made, if it is answered though it names no host, or if
    the answer goes too deep; else it has a response, which is a success if the answer is. -/
theorem control_failures (fetch : HttpRequest → σ → σ × HttpReply) (key : Option String)
    (host : Json) (deviceId : String) (before : σ) :
    (∀ e, (read fetch key host deviceId before).2 = .error e ↔
      Http.checkKey key = .ok key ∧ address host deviceId = .error e ∨
      ∃ status body, (Http.exchange fetch (readRequest key host deviceId) before).2
          = .ok (.response status body) ∧ Http.isSuccess status = true ∧
        (TooDeep body ∧ e = .tooDeep ∨ ∃ value fields fault, readBody body = .ok value ∧
          Carries value fields ∧ DeviceState.Unreadable fields fault ∧ e = .badValue fault)) ∧
    (∀ state, (read fetch key host deviceId before).2 = .ok (some state) ↔
      ∃ status body value fields, (Http.exchange fetch (readRequest key host deviceId) before).2
          = .ok (.response status body) ∧ Http.isSuccess status = true ∧
        readBody body = .ok value ∧ Carries value fields ∧
        DeviceState.ofPayload fields = .ok state) ∧
    ∀ state,
      (∀ e, (command fetch key host deviceId state before).2 = .error e ↔
        Unmade key host deviceId state e ∨
        (∃ request status body, commandRequest key host deviceId state = .ok request ∧
          (fetch request before).2 = .response status body ∧ request.url.host = "" ∧
          e = .noHost request.url) ∨
        ∃ status body, (Http.exchange fetch (commandRequest key host deviceId state) before).2
            = .ok (.response status body) ∧ TooDeep body ∧ e = .tooDeep) ∧
      ∀ response, (command fetch key host deviceId state before).2 = .ok response →
        (response.success = true ↔
          ∃ status body, (Http.exchange fetch (commandRequest key host deviceId state) before).2
            = .ok (.response status body) ∧ Http.isSuccess status = true) := by
  refine ⟨fun e => ?_, fun state => ?_, fun state => ⟨fun e => ?_, fun response h => ?_⟩⟩
  · rw [read_eq_error_iff, and_or_left, exchange_readRequest_eq_error_iff]
    refine or_congr_right ⟨?_, ?_⟩
    · rintro ⟨-, reply, answered, h⟩
      obtain ⟨status, body, rfl, unread⟩ := stateOf_eq_error_iff.1 h
      exact ⟨status, body, answered, unread⟩
    · rintro ⟨status, body, answered, unread⟩
      refine ⟨?_, _, answered, stateOf_eq_error_iff.2 ⟨status, body, rfl, unread⟩⟩
      obtain ⟨-, ⟨-, rfl⟩ | ⟨-, -, -, -, -, -, rfl⟩⟩ := unread <;> rfl
  · rw [read_eq_ok_some_iff]
    constructor
    · rintro ⟨reply, answered, h⟩
      obtain ⟨status, body, value, fields, rfl, carried⟩ := stateOf_eq_ok_some_iff.1 h
      exact ⟨status, body, value, fields, answered, carried⟩
    · rintro ⟨status, body, value, fields, answered, carried⟩
      exact ⟨_, answered, stateOf_eq_ok_some_iff.2 ⟨status, body, value, fields, rfl, carried⟩⟩
  · rw [command_eq_error_iff, Http.exchange_eq_error_iff, commandRequest_eq_error_iff, or_assoc]
    refine or_congr_right (or_congr_right ⟨?_, ?_⟩)
    · rintro ⟨reply, answered, h⟩
      obtain ⟨status, body, rfl, deep⟩ := responseOf_eq_error_iff.1 h
      exact ⟨status, body, answered, deep⟩
    · rintro ⟨status, body, answered, deep⟩
      exact ⟨_, answered, responseOf_eq_error_iff.2 ⟨status, body, rfl, deep⟩⟩
  · obtain ⟨reply, answered, h⟩ := command_eq_ok_iff.1 h
    rw [success_of_responseOf h, answered]
    simp only [Except.ok.injEq]

/-- A device that cannot be reached has a response that is no success. -/
theorem control_failures_unreachable :
    ∃ response, (command (fun _ house => (house, .unreachable "no route")) none (.text "10.0.0.2")
        "lamp" { power := true } ()).2 = .ok response ∧ response.success = false := by
  obtain ⟨request, asked⟩ : ∃ request,
      commandRequest none (.text "10.0.0.2") "lamp" { power := true } = .ok request := by
    rw [commandRequest, address_lamp]
    exact ⟨_, rfl⟩
  have given : (command (fun _ house => (house, .unreachable "no route")) none (.text "10.0.0.2")
      "lamp" { power := true } ()).2
        = .ok { success := false, status := 0, message := .text "no route" } := by
    rw [command, asked]
    rfl
  refine ⟨_, given, Bool.eq_false_iff.2 fun success => ?_⟩
  obtain ⟨status, body, answered, -⟩ :=
    (((control_failures (fun _ house => (house, .unreachable "no route")) none
      (.text "10.0.0.2") "lamp" ()).2.2 { power := true }).2 _ given).1 success
  rw [asked] at answered
  exact nomatch answered

/-- Reading fails on a device that answers with a word for its temperature. -/
theorem read_fails_warm :
    (read (fun _ house => (house, .response 200 "\x7b\"power\":true,\"temperature\":\"warm\"\x7d"))
      none (.text "10.0.0.2") "lamp" ()).2 = .error (.badValue .malformed) := by
  have written : "\x7b\"power\":true,\"temperature\":\"warm\"\x7d"
      = write wire (.object [("power", .bool true), ("temperature", .text "warm")]) := by
    decide +kernel
  have writable : Writable nestingLimit
      (.object [("power", .bool true), ("temperature", .text "warm")]) :=
    .object (by decide) fun field hf => by
      simp only [List.mem_cons, List.not_mem_nil, or_false] at hf
      rcases hf with rfl | rfl
      · exact .bool _ _
      · exact .text _ _
  have json := readBody_write writable (List.cons_ne_nil _ _)
  rw [← written] at json
  have unread : Number.readDouble? "warm" = none := by decide +kernel
  rw [read_eq_error_iff, readRequest, address_lamp]
  exact ⟨rfl, .inr ⟨_, rfl, stateOf_eq_error_iff.2 ⟨200, _, rfl, rfl, .inr ⟨_, _, _, json,
    ⟨_, rfl, rfl⟩, .temperature rfl (.text unread), rfl⟩⟩⟩⟩

end HttpControl

end HomeAutomation
