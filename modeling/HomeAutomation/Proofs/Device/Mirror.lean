/-
  HomeAutomation.Proofs.Device.Mirror

  Stores of device states, as the engine relies on them.  A mirror holds for
  every device what it keeps of the state that was saved last, and nothing but a
  save changes it.  The store of a house keeps states as they are.  The columns
  of a database keep a plain state up to the sign of a zero, which no comparison
  sees; a temperature that is no number is lost, and a mode that is no text
  becomes one.
-/

import HomeAutomation.Device.House
import HomeAutomation.Service.Installation

namespace HomeAutomation

variable {σ : Type}

-- ============================================================================
-- Plain states
-- ============================================================================

namespace DeviceState

/-- A state whose temperature is a number and whose mode is a text, as far as it has them. -/
def IsPlain (s : DeviceState) : Prop :=
  s.temperature ≠ some .nan ∧ (s.mode = none ∨ ∃ text, s.mode = some (.text text))

/-- No comparison with a state to be reached tells two states apart. -/
def Alike (s t : DeviceState) : Prop := ∀ desired, s.same desired = t.same desired

theorem IsPlain.same_self {s : DeviceState} (plain : s.IsPlain) : s.same s = true := by
  obtain ⟨number, text⟩ := plain
  have temperature : sameOption Double.eq s.temperature s.temperature = true := by
    cases given : s.temperature with
    | none => rfl
    | some d =>
      cases d with
      | nan => exact absurd given number
      | infinite | finite => simp [sameOption, Double.eq, Double.compareBy, Double.place?]
  have mode : sameOption Json.same s.mode s.mode = true := by
    rcases text with absent | ⟨text, given⟩
    · rw [absent]
      rfl
    · rw [given]
      simp [sameOption, Json.same]
  simp [same, temperature, mode]

end DeviceState

-- ============================================================================
-- Mirrors
-- ============================================================================

/-- The store of a backend: the states that it holds, and what it keeps of a state.  A save that
    succeeds enters what is kept of the state; one that fails is lost on the device itself only. -/
structure Backend.Mirror (backend : Backend σ) where
  states : σ → Table DeviceState
  kept : DeviceState → DeviceState
  startCall (call : DeviceCall) (s : σ) : states (backend.startCall call s).1 = states s
  read (target : DeviceTarget) (s : σ) : states (backend.read target s).1 = states s
  command (target : DeviceTarget) (state : DeviceState) (s : σ) :
    states (backend.command target state s).1 = states s
  startSave (s : σ) : states (backend.startSave s).1 = states s
  save_self {deviceId : String} {state : DeviceState} {s : σ}
    (stored : (backend.save deviceId state s).2 = true) :
    (states (backend.save deviceId state s).1).get? deviceId = some (kept state)
  save_ne {deviceId other : String} (state : DeviceState) (s : σ) (h : other ≠ deviceId) :
    (states (backend.save deviceId state s).1).get? other = (states s).get? other
  alike {state : DeviceState} (plain : state.IsPlain) : (kept state).Alike state

/-- The store of a house, which holds nothing if there is none. -/
def House.mirror : House.backend.Mirror where
  states house := house.stored.getD []
  kept state := state
  startCall _ _ := rfl
  read target house := by
    change (house.read target).1.stored.getD [] = _
    unfold House.read
    dsimp only
    split <;> rfl
  command target state house := by
    change (house.command target state).1.stored.getD [] = _
    unfold House.command
    dsimp only
    split <;> rfl
  startSave _ := rfl
  save_self {deviceId state house} stored := by
    change (house.save deviceId state).2 = true at stored
    change ((house.save deviceId state).1.stored.getD []).get? deviceId = _
    unfold House.save at stored ⊢
    split at stored
    · split at stored
      · cases stored
      · simp_all [Table.get?_set_self]
    · cases stored
  save_ne {deviceId other} state house h := by
    change ((house.save deviceId state).1.stored.getD []).get? other = _
    unfold House.save
    split
    · split
      · rfl
      · simp_all [Table.get?_set_ne]
    · rfl
  alike _ _ := rfl

-- ============================================================================
-- Columns
-- ============================================================================

namespace Database

theorem place?_zero : (0 : Double).place? = some 0 := by decide +kernel

theorem place?_of_isZero {d : Double} (h : d.isZero = true) : d.place? = some 0 := by
  cases d with
  | nan | infinite => cases h
  | finite negative rank =>
    have hr : rank.val = 0 := by simpa [Double.isZero] using h
    cases negative <;> simp [Double.place?, hr]

/-- A column of numbers keeps a number in its place among all numbers. -/
theorem exists_numberColumn {d : Double} (h : d ≠ .nan) :
    ∃ stored, numberColumn d = some stored ∧ stored.place? = d.place? := by
  have held : numberColumn d = some (if d.isZero then 0 else d) := by
    cases d with
    | nan => exact absurd rfl h
    | infinite | finite => rfl
  refine ⟨_, held, ?_⟩
  split
  · rename_i zero
    rw [place?_zero, place?_of_isZero zero]
  · rfl

theorem eq_of_mapM_integerColumn {level stored : Option Int}
    (h : level.mapM integerColumn = .ok stored) : stored = level := by
  cases level with
  | none =>
    cases h
    rfl
  | some n =>
    rw [Option.mapM_some] at h
    unfold integerColumn at h
    split at h
    · cases h
      rfl
    · cases h

/-- A row holds a plain state up to the sign of a zero. -/
theorem alike_storedState {s stored : DeviceState} (plain : s.IsPlain)
    (h : storedState s = .ok stored) : stored.Alike s := by
  obtain ⟨number, text⟩ := plain
  have mode : textColumn (s.mode.getD .null) = .ok s.mode := by
    rcases text with absent | ⟨text, given⟩
    · rw [absent]
      rfl
    · rw [given]
      rfl
  have temperature (desired : Option Double) :
      DeviceState.sameOption Double.eq (s.temperature.bind numberColumn) desired
        = DeviceState.sameOption Double.eq s.temperature desired := by
    cases given : s.temperature with
    | none => rfl
    | some d =>
      obtain ⟨column, held, place⟩ := exists_numberColumn (d := d) (fun nan => number (nan ▸ given))
      rw [Option.bind_some, held]
      cases desired with
      | none => rfl
      | some x =>
        change column.eq x = d.eq x
        rw [Double.eq, Double.eq, Double.compareBy, Double.compareBy, place]
  unfold storedState at h
  rw [mode] at h
  cases held : s.brightness.mapM integerColumn with
  | error e =>
    rw [held] at h
    cases h
  | ok level =>
    rw [held] at h
    cases h
    obtain rfl := eq_of_mapM_integerColumn held
    intro desired
    simp only [DeviceState.same, temperature]

/-- What a row keeps of a state; a state that cannot be stored is not kept at all. -/
def kept (s : DeviceState) : DeviceState := (storedState s).toOption.getD s

theorem alike_kept {s : DeviceState} (plain : s.IsPlain) : (kept s).Alike s := by
  unfold kept
  cases h : storedState s with
  | error e => exact fun _ => rfl
  | ok stored => exact alike_storedState plain h

/-- The states in the tables, if there are tables. -/
def held (db : Database) : Table DeviceState := (db.tables?.map (·.states)).getD []

theorem saveState_eq {db db' : Database} {deviceId : String} {s : DeviceState}
    (h : db.saveState deviceId s = .ok db') : db'.held = db.held.set deviceId (kept s) := by
  unfold saveState tables at h
  cases tables : db.tables? with
  | none =>
    rw [tables] at h
    cases h
  | some t =>
    rw [tables] at h
    cases stored : storedState s with
    | error e =>
      rw [stored] at h
      cases h
    | ok row =>
      rw [stored] at h
      cases h
      simp [held, kept, tables, stored, Except.toOption]

end Database

namespace Site

theorem database_exchange (site : Site) (request : Except HttpError HttpRequest) :
    (Http.exchange (fun request site => Site.fetch site request) request site).1.database
      = site.database := by
  cases request <;> rfl

/-- Reading a device leaves the database alone. -/
theorem database_read (site : Site) (target : DeviceTarget) :
    (site.read target).1.database = site.database := by
  unfold Site.read
  split
  · rfl
  · rename_i key _
    have same : (HttpControl.read (fun request site => Site.fetch site request) key target.host
        target.deviceId site).1.database = site.database := by
      unfold HttpControl.read
      dsimp only
      split <;> exact site.database_exchange _
    split <;> rename_i read <;> rw [read] at same <;> exact same

/-- Commanding a device leaves the database alone. -/
theorem database_command (site : Site) (target : DeviceTarget) (state : DeviceState) :
    (site.command target state).1.database = site.database := by
  unfold Site.command
  split
  · rfl
  · rename_i key _
    have same : (HttpControl.command (fun request site => Site.fetch site request) key target.host
        target.deviceId state site).1.database = site.database := site.database_exchange _
    split <;> rename_i command <;> rw [command] at same <;> exact same

/-- The database of an installation. -/
def mirror : Site.backend.Mirror where
  states site := site.database.held
  kept := Database.kept
  startCall _ _ := rfl
  read target site := congrArg Database.held (site.database_read target)
  command target state site := congrArg Database.held (site.database_command target state)
  startSave _ := rfl
  save_self {deviceId state site} stored := by
    change (site.save deviceId state).2 = true at stored
    change (site.save deviceId state).1.database.held.get? deviceId = _
    unfold Site.save at stored ⊢
    split at stored
    · rename_i database saved
      simp only [Database.saveState_eq saved, Table.get?_set_self]
    · cases stored
  save_ne {deviceId other} state site h := by
    change (site.save deviceId state).1.database.held.get? other = _
    unfold Site.save
    split
    · rename_i database saved
      simp only [Database.saveState_eq saved, Table.get?_set_ne _ _ h]
    · rfl
  alike := Database.alike_kept

end Site

-- ============================================================================
-- Starting from a database
-- ============================================================================

namespace Installation

theorem held_init (database : Database) : database.init.held = database.held := by
  unfold Database.init Database.held
  cases database.tables? <;> rfl

theorem states_init (database : Database) : database.init.states = .ok database.held := by
  unfold Database.init Database.states Database.tables Database.held
  cases database.tables? <;> rfl

/-- An installation starts with the records that its database holds, hence in agreement with it. -/
theorem records_start {settings : Settings} {rooms : List Room} {database : Database}
    {network : HttpRequest → HttpReply} {service : Service Site}
    (started : start settings rooms database network = .ok service) :
    service.engine.records = database.held ∧
      Site.mirror.states service.engine.outside = database.held := by
  simp only [start, states_init] at started
  cases sensors : sensorsOf settings rooms with
  | error e =>
    rw [sensors] at started
    cases started
  | ok sensors =>
    rw [sensors] at started
    dsimp only [bind, Except.bind] at started
    split at started
    · cases started
    · split at started
      · cases started
      · cases rules : database.init.rules with
        | error e =>
          rw [rules] at started
          cases started
        | ok rules =>
          rw [rules] at started
          cases started
          exact ⟨rfl, held_init database⟩

end Installation

end HomeAutomation
