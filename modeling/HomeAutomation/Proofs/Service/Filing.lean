/-
  HomeAutomation.Proofs.Service.Filing

  Installations and what they keep on file.  An installation starts with the rules
  on file, and files every change that requests make to its rules.  So both the
  registered rules and those on file can be told from the order in which ids were
  filed: `Service.Kept` says how, and every request about rules keeps it.
-/

import HomeAutomation.Proofs.Service.RuleRequest
import HomeAutomation.Proofs.Storage.Rules
import HomeAutomation.Service.Installation

namespace HomeAutomation

/-- The rules on file; there are none before the tables exist. -/
def Database.rows (db : Database) : RuleRows := (db.tables?.getD {}).rules

-- ============================================================================
-- Starting
-- ============================================================================

namespace Installation

variable {settings : Settings} {rooms : List Room} {database : Database}
  {network : HttpRequest → HttpReply}

/-- The service of an installation with its sensors. -/
def opened (settings : Settings) (rooms : List Room) (sensors : List RoomSensor)
    (database : Database) (network : HttpRequest → HttpReply) : Service Site :=
  let engine : Engine Site :=
    { directory := .ofRooms rooms, range := settings.setPointRange
      records := (database.tables?.getD {}).states
      outside := { control := controlOf settings, database := database.init, network } }
  { engine := (engine.load database.rows.activeTexts).1
    live := .ofRooms (sensors.map (·.room))
    sensors }

/-- The rules of an installation that starts are those on file. -/
theorem book_opened (sensors : List RoomSensor) :
    (opened settings rooms sensors database network).engine.book
      = (RuleBook.load {} settings.setPointRange database.rows.activeTexts).1 := by
  unfold opened Engine.load
  rfl

/-- Whether an installation starts is up to its settings and rooms. -/
theorem start_eq_opened {first : Service Site}
    (started : start settings rooms database network = .ok first) :
    ∃ sensors, ∀ database network,
      start settings rooms database network = .ok (opened settings rooms sensors database network) := by
  unfold start at started
  cases found : sensorsOf settings rooms with
  | error e =>
    rw [found] at started
    cases started
  | ok sensors =>
    refine ⟨sensors, fun database network => ?_⟩
    unfold start
    rw [found] at started ⊢
    by_cases unnamed : settings.appName.isEmpty = true
    · simp [unnamed, bind, Except.bind, throw, throwThe, MonadExceptOf.throw] at started
    · by_cases level : Settings.namesLogLevel settings.logLevel = true
      · simp [unnamed, level, bind, Except.bind]
        rfl
      · simp [unnamed, level, bind, Except.bind, throw, throwThe, MonadExceptOf.throw] at started

theorem keepsRules_setup (settings : Settings) (time : String) :
    (setup settings time).KeepsRules := ⟨List.not_mem_nil, List.not_mem_nil⟩

end Installation

-- ============================================================================
-- Filing
-- ============================================================================

/-- Where there are tables, filing does not fail. -/
theorem Site.fileRule_eq {site : Site} {tables : StorageTables}
    (known : site.database.tables? = some tables) (write : RuleWrite) :
    Site.fileRule write site = .ok { site with
      database := ⟨some { tables with rules := tables.rules.upsert write }⟩ } := by
  unfold Site.fileRule Database.fileRule Database.tables
  rw [known]
  rfl

/-- The ids that have been filed once a change is filed: a registration adds its id. -/
def RuleWrite.filedAfter (write : RuleWrite) (filed : List String) : List String :=
  if write.active then filed ++ [write.id] else filed

/-- A listing by last filing stays one when a rule is filed. -/
theorem RuleWrite.applied_filterMap_dedup (write : RuleWrite) (filed : List String)
    {f : String → Option (String × String)} (named : ∀ id entry, f id = some entry → entry.1 = id) :
    write.applied (filed.dedup.filterMap f)
      = (write.filedAfter filed).dedup.filterMap fun id =>
          if id = write.id then if write.active then some (write.id, write.text) else none
          else f id := by
  have others : (filed.dedup.filter fun id => decide (id ≠ write.id)).filterMap f
      = (filed.dedup.filter fun id => decide (id ≠ write.id)).filterMap fun id =>
          if id = write.id then if write.active then some (write.id, write.text) else none
          else f id := by
    refine List.filterMap_congr fun id h => ?_
    rw [if_neg (of_decide_eq_true (List.mem_filter.1 h).2)]
  unfold applied filedAfter
  rw [Table.erase_filterMap named, others]
  cases active : write.active with
  | true =>
    simp only [↓reduceIte]
    rw [dedup_concat, List.filterMap_append]
    simp
  | false =>
    simp only [Bool.false_eq_true, ↓reduceIte, List.append_nil]
    refine filterMap_filter_ne ?_ _
    exact if_pos rfl

/-- Rows by first filing stay so when a rule is filed, which has to be on file if it is to be
    inactive. -/
theorem RuleRows.names_upsert {rows : RuleRows} {filed : List String} {write : RuleWrite}
    (names : Table.names rows = filed.eraseDups) (known : write.active = false → write.id ∈ filed) :
    Table.names (rows.upsert write) = (write.filedAfter filed).eraseDups := by
  have has : Table.has rows write.id = true ↔ write.id ∈ filed := by
    rw [Table.has_iff_mem_names, names, List.mem_eraseDups]
  unfold upsert RuleWrite.filedAfter
  rw [Table.names_set, names]
  cases active : write.active with
  | true =>
    rw [if_pos rfl, eraseDups_concat]
    simp only [has]
  | false =>
    rw [if_neg Bool.false_ne_true, if_pos (has.2 (known active))]

namespace Service

/-- The rules on file in an installation. -/
def rows (service : Service Site) : RuleRows := service.engine.outside.database.rows

/-- The rules of an installation, registered and on file, are those that were filed under ids in
    an order.  On file they stand as they were filed first, registered as they were filed last. -/
structure Kept (range : SetPointRange) (filed : List String) (service : Service Site) : Prop where
  range_eq : service.engine.range = range
  sound : service.engine.book.Sound
  linked : RuleBook.Linked range service.engine.book
  named : "" ∉ filed
  tables : service.engine.outside.database.tables?.isSome = true
  rows : Table.names service.rows = filed.eraseDups
  listing : service.engine.book.listing = filed.dedup.filterMap (service.rows.current? range)

variable {range : SetPointRange} {filed : List String} {service : Service Site}

/-- An installation starts with the rules on file. -/
theorem Kept.opened {settings : Settings} {rooms : List Room} {sensors : List RoomSensor}
    {database : Database} {network : HttpRequest → HttpReply}
    (nodup : (Table.names database.rows).Nodup) (named : "" ∉ Table.names database.rows) :
    Kept settings.setPointRange (Table.names database.rows)
      (Installation.opened settings rooms sensors database network) where
  range_eq := rfl
  sound := by
    rw [Installation.book_opened]
    exact RuleBook.Sound.empty.load _ _
  linked := by
    rw [Installation.book_opened]
    exact RuleBook.Linked.empty.load .empty _
  named := named
  tables := rfl
  rows := (eraseDups_eq_self nodup).symm
  listing := by
    have texts : Table.names database.rows.activeTexts = Table.names database.rows.active := by
      unfold Table.names RuleRows.activeTexts
      rw [List.map_map]
      rfl
    have fewer : (Table.names database.rows.active).Sublist (Table.names database.rows) :=
      List.filter_sublist.map Prod.fst
    have on_file : (Installation.opened settings rooms sensors database network).rows
        = database.rows := rfl
    rw [nodup.dedup, Installation.book_opened, on_file, ← RuleRows.filter_activeTexts _ nodup]
    exact RuleBook.listing_load (texts ▸ fun h => named (fewer.subset h)) (texts ▸ fewer.nodup nodup)

theorem Kept.nodup_rows (kept : Kept range filed service) : (Table.names service.rows).Nodup :=
  kept.rows ▸ nodup_eraseDups filed

theorem Kept.not_mem_rows (kept : Kept range filed service) : "" ∉ Table.names service.rows := by
  rw [kept.rows, List.mem_eraseDups]
  exact kept.named

theorem Kept.of_start {settings : Settings} {rooms : List Room} {database : Database}
    {network : HttpRequest → HttpReply}
    (started : Installation.start settings rooms database network = .ok service)
    (nodup : (Table.names database.rows).Nodup) (named : "" ∉ Table.names database.rows) :
    Kept settings.setPointRange (Table.names database.rows) service := by
  obtain ⟨sensors, opens⟩ := Installation.start_eq_opened started
  rw [Except.ok.inj (started.symm.trans (opens database network))]
  exact Kept.opened nodup named

/-- What a request changes about a rule is filed, and shows in the order of filing. -/
theorem Kept.change (kept : Kept range filed service) {call : RuleCall} {book : RuleBook}
    {write : RuleWrite} (changes : call.Changes service.engine book write) :
    ∃ outside, Site.fileRule write service.engine.outside = .ok outside ∧
      Kept range (write.filedAfter filed)
        { service with engine := { service.engine with book, outside } } ∧
      outside.database.rows = service.rows.upsert write := by
  obtain ⟨tables, known⟩ := Option.isSome_iff_exists.1 kept.tables
  have on_file : service.rows = tables.rules := by
    rw [Service.rows, Database.rows, known]
    rfl
  have listed : write.active = false → write.id ∈ filed := by
    intro inactive
    obtain ⟨entry, mem, name⟩ := List.mem_map.1 (changes.mem_names inactive)
    rw [kept.listing] at mem
    obtain ⟨id, known, shown⟩ := List.mem_filterMap.1 mem
    rw [← name, RuleRows.fst_of_current? shown]
    exact List.mem_dedup.1 known
  have current : (tables.rules.upsert write).current? range = fun id =>
      if id = write.id then if write.active then some (write.id, write.text) else none
      else tables.rules.current? range id := by
    funext id
    rw [RuleRows.current?_upsert]
    cases active : write.active with
    | true =>
      have readable := changes.isReadable active
      rw [kept.range_eq] at readable
      simp [readable]
    | false => simp
  refine ⟨_, Site.fileRule_eq known write, ?_, congrArg (RuleRows.upsert · write) on_file.symm⟩
  refine ⟨kept.range_eq, changes.sound kept.sound, ?linked, ?named, rfl, ?ordered, ?listing⟩
  case linked =>
    have linked := kept.linked
    rw [← kept.range_eq] at linked ⊢
    exact changes.linked kept.sound linked
  case named =>
    unfold RuleWrite.filedAfter
    split
    · rename_i active
      intro h
      rcases List.mem_append.1 h with h | h
      · exact kept.named h
      · exact changes.id_ne_empty active (List.mem_singleton.1 h).symm
    · exact kept.named
  case ordered => exact RuleRows.names_upsert (on_file ▸ kept.rows) listed
  case listing =>
    have before := kept.listing
    rw [on_file] at before
    have after := write.applied_filterMap_dedup filed
      fun id entry (h : tables.rules.current? range id = some entry) => RuleRows.fst_of_current? h
    rw [← before, ← current] at after
    exact changes.listing_eq.trans after

theorem eq_ok_of_toOption {ε α : Type} {result : Except ε α} {value : α}
    (h : result.toOption = some value) : result = .ok value := by
  cases result with
  | error e => cases h
  | ok found => exact congrArg _ (Option.some.inj h)

/-- A new installation of a home without rooms. -/
def newHome : Except Installation.StartError (Service Site) :=
  Installation.start {} [] {} fun _ => .unreachable "no route to host"

theorem exists_newHome : ∃ service, newHome = .ok service := by
  have starts : newHome.toOption.isSome = true := by decide +kernel
  obtain ⟨service, started⟩ := Option.isSome_iff_exists.1 starts
  exact ⟨service, eq_ok_of_toOption started⟩

end Service

end HomeAutomation
