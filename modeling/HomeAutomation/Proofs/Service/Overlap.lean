/-
  HomeAutomation.Proofs.Service.Overlap

  Requests about rules that overlap.  A request changes the rules at once and
  files the change afterwards; in between any other request may do either, and
  nothing is held meanwhile.  So the rules that are registered and those on file
  follow two orders of the same changes.

  `RuleDesk.agrees_iff` is the result: once all requests are served, rules and
  rows agree exactly if for each id the change that was made last is also the one
  that was filed last, which is so if the requests about one id are served one
  after the other, whatever requests about other ids do meanwhile.
-/

import Mathlib.Data.List.Perm.Basic
import HomeAutomation.Proofs.Service.Unfiled

namespace HomeAutomation

-- ============================================================================
-- Texts under ids
-- ============================================================================

/-- The text that a write leaves under its id. -/
def RuleWrite.text? (write : RuleWrite) : Option String :=
  if write.active then some write.text else none

theorem RuleWrite.get?_applied (write : RuleWrite) (listing : Table String) (id : String) :
    (write.applied listing).get? id
      = if id = write.id then write.text? else listing.get? id := by
  unfold applied text?
  rw [Table.get?_append, Table.get?_erase]
  by_cases same : id = write.id
  · cases write.active <;> simp [same, Table.get?]
  · cases write.active <;> simp [same, Table.get?, Ne.symm same]

theorem RuleWrite.nodup_applied (write : RuleWrite) {listing : Table String}
    (nodup : listing.names.Nodup) : (write.applied listing).names.Nodup := by
  unfold applied
  split
  · have absent := Table.not_mem_names (Table.has_erase listing write.id)
    have rest := Table.nodup_names_erase nodup write.id
    rw [Table.names, List.map_append]
    refine List.nodup_append.2 ⟨rest, List.nodup_singleton _, fun name h other mem => ?_⟩
    obtain rfl := List.mem_singleton.1 mem
    rintro rfl
    exact absent h
  · rw [List.append_nil]
    exact Table.nodup_names_erase nodup write.id

namespace RuleRows

/-- The text of the active rule under an id. -/
def text? (rows : RuleRows) (id : String) : Option String :=
  (Table.get? rows id).bind fun row => if row.active then some row.text else none

theorem text?_upsert (rows : RuleRows) (write : RuleWrite) (id : String) :
    (rows.upsert write).text? id = if id = write.id then write.text? else rows.text? id := by
  unfold text? upsert
  by_cases same : id = write.id
  · rw [same, Table.get?_set_self, if_pos rfl]
    rfl
  · rw [Table.get?_set_ne _ _ same, if_neg same]

theorem nodup_upsert {rows : RuleRows} (nodup : (Table.names rows).Nodup) (write : RuleWrite) :
    (Table.names (rows.upsert write)).Nodup := by
  unfold upsert
  rw [Table.names_set]
  split
  · exact nodup
  · rename_i absent
    have fresh := Table.not_mem_names (Bool.eq_false_iff.2 absent)
    simpa [List.nodup_append] using ⟨nodup, fun a h same => fresh (same ▸ h)⟩

theorem names_activeTexts_sublist (rows : RuleRows) :
    (Table.names rows.activeTexts).Sublist (Table.names rows) := by
  have same : Table.names rows.activeTexts = Table.names rows.active := by
    unfold Table.names activeTexts
    rw [List.map_map]
    rfl
  rw [same]
  exact List.filter_sublist.map Prod.fst

theorem get?_activeTexts {rows : RuleRows} (nodup : (Table.names rows).Nodup) (id : String) :
    Table.get? rows.activeTexts id = rows.text? id := by
  have shorter := (rows.names_activeTexts_sublist).nodup nodup
  refine Option.ext fun text => ?_
  have listed : Table.get? rows.activeTexts id = some text ↔ (id, text) ∈ rows.activeTexts :=
    ⟨Table.mem_of_get?, Table.get?_of_mem shorter⟩
  rw [listed]
  constructor
  · intro h
    obtain ⟨row, kept, same⟩ := List.mem_map.1 h
    obtain ⟨held, active⟩ := List.mem_filter.1 kept
    cases same
    simp [text?, Table.get?_of_mem nodup held, active]
  · intro h
    obtain ⟨row, found, shown⟩ := Option.bind_eq_some_iff.1 h
    split at shown
    · rename_i active
      cases shown
      exact List.mem_map.2 ⟨(id, row), List.mem_filter.2 ⟨Table.mem_of_get? found, active⟩, rfl⟩
    · cases shown

end RuleRows

-- ============================================================================
-- The last word about an id
-- ============================================================================

/-- The last write about an id. -/
def lastAbout (id : String) (writes : List RuleWrite) : Option RuleWrite :=
  (writes.filter (·.id = id)).getLast?

/-- What is left under an id by writes one after the other. -/
def leftBy (before : Option String) (id : String) (writes : List RuleWrite) : Option String :=
  (lastAbout id writes).elim before RuleWrite.text?

theorem leftBy_concat (before : Option String) (id : String) (writes : List RuleWrite)
    (write : RuleWrite) :
    leftBy before id (writes ++ [write])
      = if id = write.id then write.text? else leftBy before id writes := by
  unfold leftBy lastAbout
  rw [List.filter_append]
  by_cases same : id = write.id
  · simp [same]
  · simp [same, Ne.symm same]

theorem lastAbout_eq_none_iff {id : String} {writes : List RuleWrite} :
    lastAbout id writes = none ↔ ∀ write ∈ writes, write.id ≠ id := by
  simp [lastAbout]

namespace RuleMoment

def changed? : RuleMoment → Option RuleWrite
  | changed write => some write
  | filed _ => none

def filed? : RuleMoment → Option RuleWrite
  | changed _ => none
  | filed write => some write

/-- Every change is filed before there is another. -/
inductive InTurn : List RuleMoment → Prop
  | nil : InTurn []
  | cons (write : RuleWrite) {rest : List RuleMoment} (inTurn : InTurn rest) :
      InTurn (changed write :: filed write :: rest)

/-- Changes that are filed in turn are filed in their order. -/
theorem InTurn.filterMap_eq {moments : List RuleMoment} (inTurn : InTurn moments) :
    moments.filterMap changed? = moments.filterMap filed? := by
  induction inTurn with
  | nil => rfl
  | cons write inTurn ih => exact congrArg (write :: ·) ih

/-- The changes that were made. -/
def changes (moments : List RuleMoment) : List RuleWrite := moments.filterMap changed?

/-- The changes that were filed. -/
def filings (moments : List RuleMoment) : List RuleWrite := moments.filterMap filed?

theorem changes_changed (moments : List RuleMoment) (write : RuleWrite) :
    changes (moments ++ [changed write]) = changes moments ++ [write] := List.filterMap_append ..

theorem changes_filed (moments : List RuleMoment) (write : RuleWrite) :
    changes (moments ++ [filed write]) = changes moments :=
  (List.filterMap_append ..).trans (List.append_nil _)

theorem filings_changed (moments : List RuleMoment) (write : RuleWrite) :
    filings (moments ++ [changed write]) = filings moments :=
  (List.filterMap_append ..).trans (List.append_nil _)

theorem filings_filed (moments : List RuleMoment) (write : RuleWrite) :
    filings (moments ++ [filed write]) = filings moments ++ [write] := List.filterMap_append ..

/-- What is noted about an id comes from the moments that are about it. -/
theorem filter_filterMap {part : RuleMoment → Option RuleWrite}
    (about : ∀ {moment write}, part moment = some write → write.id = moment.id) (id : String)
    (moments : List RuleMoment) :
    (moments.filterMap part).filter (·.id = id) = (moments.filter (·.id = id)).filterMap part := by
  rw [List.filter_filterMap, List.filterMap_filter]
  refine List.filterMap_congr fun moment _ => ?_
  cases found : part moment with
  | none => simp
  | some write =>
    have same := about found
    by_cases h : write.id = id <;> simp [Option.filter, h, ← same]

theorem filter_changes (id : String) (moments : List RuleMoment) :
    (changes moments).filter (·.id = id) = changes (moments.filter (·.id = id)) := by
  refine filter_filterMap (fun {moment write} found => ?_) id moments
  cases moment <;> cases found
  rfl

theorem filter_filings (id : String) (moments : List RuleMoment) :
    (filings moments).filter (·.id = id) = filings (moments.filter (·.id = id)) := by
  refine filter_filterMap (fun {moment write} found => ?_) id moments
  cases moment <;> cases found
  rfl

end RuleMoment

/-- What about an id was changed last is also what was filed last. -/
def RuleMoment.SameLast (id : String) (moments : List RuleMoment) : Prop :=
  (lastAbout id (changes moments)).map RuleWrite.text?
    = (lastAbout id (filings moments)).map RuleWrite.text?

theorem RuleMoment.InTurn.sameLast {id : String} {moments : List RuleMoment}
    (inTurn : InTurn (moments.filter (·.id = id))) : SameLast id moments := by
  unfold SameLast lastAbout
  rw [filter_changes, filter_filings]
  exact congrArg (fun writes => (List.getLast? writes).map RuleWrite.text?) inTurn.filterMap_eq

-- ============================================================================
-- Requests that overlap
-- ============================================================================

namespace RuleDesk

/-- The rules as they are registered. -/
def listing (desk : RuleDesk) : Table String := desk.service.engine.book.listing

/-- Rules and rows after moves follow the changes in the order in which they were made and in the
    order in which they were filed. -/
structure Follows (first : Service Site) (desk : RuleDesk) : Prop where
  tables : desk.service.engine.outside.database.tables?.isSome = true
  nodup : desk.listing.names.Nodup
  nodup_rows : (Table.names desk.service.rows).Nodup
  listing : ∀ id, desk.listing.get? id
    = leftBy (first.engine.book.listing.get? id) id (RuleMoment.changes desk.trace)
  rows : ∀ id, desk.service.rows.text? id
    = leftBy (first.rows.text? id) id (RuleMoment.filings desk.trace)
  balance : (RuleMoment.changes desk.trace).Perm
    (RuleMoment.filings desk.trace ++ desk.pending.filterMap RuleChange.write?)

namespace Follows

variable {first : Service Site} {desk : RuleDesk} {setup : Setup Site}

/-- A change is made, and is yet to be filed. -/
theorem change (follows : Follows first desk) {call : RuleCall} {book : RuleBook}
    {write : RuleWrite} (changes : call.Changes desk.service.engine book write) (answer : Answer) :
    Follows first
      { service := { desk.service with engine := { desk.service.engine with book } }
        pending := desk.pending ++ [.writing write answer]
        trace := desk.trace ++ [.changed write] } where
  tables := follows.tables
  nodup := by
    rw [RuleDesk.listing, changes.listing_eq]
    exact write.nodup_applied follows.nodup
  nodup_rows := follows.nodup_rows
  listing id := by
    rw [RuleDesk.listing, changes.listing_eq, write.get?_applied, RuleMoment.changes_changed,
      leftBy_concat, ← follows.listing id]
    rfl
  rows id := by
    rw [RuleMoment.filings_changed]
    exact follows.rows id
  balance := by
    rw [RuleMoment.changes_changed, RuleMoment.filings_changed, List.filterMap_append,
      ← List.append_assoc]
    exact follows.balance.append (.refl _)

/-- A request is refused. -/
theorem refuse (follows : Follows first desk) (answer : Answer) :
    Follows first { desk with pending := desk.pending ++ [.refused answer] } where
  tables := follows.tables
  nodup := follows.nodup
  nodup_rows := follows.nodup_rows
  listing := follows.listing
  rows := follows.rows
  balance := by
    rw [List.filterMap_append]
    exact follows.balance.trans (.of_eq (congrArg _ (List.append_nil _).symm))

theorem begin (follows : Follows first desk) (request : ServiceRequest) :
    Follows first (desk.begin setup request) := by
  unfold RuleDesk.begin
  cases Service.ruleCall? request with
  | none => exact follows
  | some call =>
    rcases call.change_cases desk.service.engine setup.time with
      ⟨book, write, changes⟩ | ⟨refusal, change, -⟩
    · obtain ⟨success, change, -⟩ := changes.change_eq setup.time
      simp only [change]
      exact follows.change changes success
    · simp only [change]
      have refused := follows.refuse refusal
      rw [← List.append_nil desk.trace] at refused
      exact refused

theorem perm_filterMap_eraseIdx {α β : Type} {f : α → Option β} {xs : List α} {place : Nat} {a : α}
    (found : xs[place]? = some a) :
    (xs.filterMap f).Perm ((f a).toList ++ (xs.eraseIdx place).filterMap f) := by
  obtain ⟨inside, rfl⟩ := List.getElem?_eq_some_iff.1 found
  refine ((List.getElem_cons_eraseIdx_perm inside).symm.filterMap f).trans (.of_eq ?_)
  rw [List.filterMap_cons]
  cases f xs[place] <;> rfl

/-- A change is filed. -/
theorem file (follows : Follows first desk) {place : Nat} {write : RuleWrite} {answer : Answer}
    (found : desk.pending[place]? = some (.writing write answer)) {tables : StorageTables}
    (known : desk.service.engine.outside.database.tables? = some tables) :
    Follows first
      { service := { desk.service with engine := { desk.service.engine with outside :=
          { desk.service.engine.outside with
            database := ⟨some { tables with rules := tables.rules.upsert write }⟩ } } }
        pending := desk.pending.eraseIdx place
        trace := desk.trace ++ [.filed write] } := by
  have on_file : desk.service.rows = tables.rules := by
    rw [Service.rows, Database.rows, known]
    rfl
  refine ⟨rfl, follows.nodup, ?nodup_rows, fun id => ?listing, fun id => ?rows, ?balance⟩
  case nodup_rows => exact RuleRows.nodup_upsert (on_file ▸ follows.nodup_rows) write
  case listing =>
    rw [RuleMoment.changes_filed]
    exact follows.listing id
  case rows =>
    rw [RuleMoment.filings_filed, leftBy_concat, ← follows.rows id, on_file]
    exact RuleRows.text?_upsert tables.rules write id
  case balance =>
    rw [RuleMoment.changes_filed, RuleMoment.filings_filed, List.append_assoc]
    exact follows.balance.trans ((perm_filterMap_eraseIdx found).append_left _)

/-- A request that was refused is over. -/
theorem dismiss (follows : Follows first desk) {place : Nat} {answer : Answer}
    (found : desk.pending[place]? = some (.refused answer)) :
    Follows first { desk with pending := desk.pending.eraseIdx place } where
  tables := follows.tables
  nodup := follows.nodup
  nodup_rows := follows.nodup_rows
  listing := follows.listing
  rows := follows.rows
  balance := follows.balance.trans ((perm_filterMap_eraseIdx found).append_left _)

theorem finish (files : setup.saveRule = Site.fileRule) (follows : Follows first desk)
    (place : Nat) : Follows first (desk.finish setup place) := by
  unfold RuleDesk.finish
  cases found : desk.pending[place]? with
  | none => exact follows
  | some change =>
    cases change with
    | refused answer =>
      have dismissed := follows.dismiss found
      rw [← List.append_nil desk.trace] at dismissed
      exact dismissed
    | writing write answer =>
      obtain ⟨tables, known⟩ := Option.isSome_iff_exists.1 follows.tables
      simp only [RuleChange.file, files, Site.fileRule_eq known write]
      exact follows.file found known

theorem move (files : setup.saveRule = Site.fileRule) (follows : Follows first desk)
    (move : RuleMove) : Follows first (desk.move setup move) := by
  cases move with
  | begin request =>
    change Follows first (desk.begin setup request)
    exact follows.begin request
  | finish place =>
    change Follows first (desk.finish setup place)
    exact follows.finish files place

theorem moves (files : setup.saveRule = Site.fileRule) (follows : Follows first desk)
    (moves : List RuleMove) : Follows first (moves.foldl (RuleDesk.move setup) desk) := by
  induction moves generalizing desk with
  | nil => exact follows
  | cons move rest ih => exact ih (follows.move files move)

end Follows

/-- A request that is served without another coming between is answered. -/
theorem serve_alone {setup : Setup Site} (keeps : setup.KeepsRules) {request : ServiceRequest}
    (about : request.isAboutRules = true) (service : Service Site) :
    (serve setup service [.begin request, .finish 0]).service
      = (service.answer setup request).1 := by
  have steps : serve setup service [.begin request, .finish 0]
      = (begin setup { service } request).finish setup 0 := by
    simp only [serve, List.foldl_cons, List.foldl_nil, move]
  rw [steps]
  cases made : Service.ruleCall? request with
  | none =>
    have refused : ∃ refusal, service.answer setup request = (service, refusal) ∧
        refusal.isError = true :=
      Service.answer_of_unchanged about fun call _ _ _ made' => by
        rw [made] at made'
        cases made'
    obtain ⟨refusal, answered, -⟩ := refused
    rw [answered]
    simp only [begin, made, finish, List.getElem?_nil]
  | some call =>
    have served := Service.respond_of_ruleCall keeps made service
    simp only [Service.serveCall] at served
    obtain ⟨answer, answered, -⟩ := Service.exists_answer served
    rw [answered]
    simp only [begin, made, finish, List.nil_append, List.getElem?_cons_zero]

end RuleDesk

-- ============================================================================
-- Agreement
-- ============================================================================

namespace Service

/-- The active rules on file are the registered rules, by their ids and texts. -/
def RulesAgree (service : Service Site) : Prop :=
  service.rows.activeTexts.Perm service.engine.book.listing

/-- An installation starts in agreement if the active rules on file can be read. -/
theorem rulesAgree_of_start {settings : Settings} {rooms : List Room} {database : Database}
    {network : HttpRequest → HttpReply} {service : Service Site}
    (started : Installation.start settings rooms database network = .ok service)
    (nodup : (Table.names database.rows).Nodup) (named : "" ∉ Table.names database.rows)
    (readable : ∀ entry ∈ database.rows.activeTexts,
      Rule.isReadable settings.setPointRange entry.2 = true) : service.RulesAgree := by
  have kept := Kept.of_start started nodup named
  have rows : service.rows = database.rows := by
    obtain ⟨sensors, opens⟩ := Installation.start_eq_opened started
    rw [Except.ok.inj (started.symm.trans (opens database network))]
    rfl
  have all : database.rows.activeTexts.filter
      (fun entry => Rule.isReadable settings.setPointRange entry.2) = database.rows.activeTexts :=
    List.filter_eq_self.2 readable
  rw [RulesAgree, kept.listing, rows, nodup.dedup, ← RuleRows.filter_activeTexts _ nodup, all]

end Service

namespace RuleDesk

theorem Follows.of_start {settings : Settings} {rooms : List Room} {database : Database}
    {network : HttpRequest → HttpReply} {service : Service Site}
    (started : Installation.start settings rooms database network = .ok service)
    (nodup : (Table.names database.rows).Nodup) (named : "" ∉ Table.names database.rows) :
    Follows service { service } := by
  have kept := Service.Kept.of_start started nodup named
  refine ⟨kept.tables, ?_, kept.nodup_rows, fun _ => rfl, fun _ => rfl, .refl _⟩
  have same : service.engine.book.listing.names = service.engine.book.rules.names := by
    rw [RuleBook.listing, Table.names, Table.names, List.map_map]
    rfl
  rw [RuleDesk.listing, same]
  exact kept.linked.names

/-- Agreement id by id. -/
theorem Follows.rulesAgree_iff {first : Service Site} {desk : RuleDesk}
    (follows : Follows first desk) :
    desk.service.RulesAgree ↔ ∀ id, desk.service.rows.text? id = desk.listing.get? id := by
  have nodup : desk.service.engine.book.listing.names.Nodup := follows.nodup
  have shorter := (desk.service.rows.names_activeTexts_sublist).nodup follows.nodup_rows
  rw [Service.RulesAgree, Table.perm_iff_get?_eq shorter nodup]
  simp only [RuleRows.get?_activeTexts follows.nodup_rows]
  rfl

/-- Once all is filed, an id is spoken about last in both orders or in none. -/
theorem Follows.agree_at_iff {first : Service Site} {desk : RuleDesk}
    (follows : Follows first desk) (served : desk.pending = []) {id : String}
    (before : first.rows.text? id = first.engine.book.listing.get? id) :
    desk.service.rows.text? id = desk.listing.get? id ↔ RuleMoment.SameLast id desk.trace := by
  have balance := follows.balance
  rw [served, List.filterMap_nil, List.append_nil] at balance
  rw [follows.rows, follows.listing, before, leftBy, leftBy, RuleMoment.SameLast]
  cases changed : lastAbout id (RuleMoment.changes desk.trace) with
  | none =>
    have filed : lastAbout id (RuleMoment.filings desk.trace) = none := by
      rw [lastAbout_eq_none_iff] at changed ⊢
      exact fun write h => changed write (balance.mem_iff.2 h)
    rw [filed]
    exact iff_of_true rfl rfl
  | some write =>
    cases filed : lastAbout id (RuleMoment.filings desk.trace) with
    | none =>
      rw [lastAbout_eq_none_iff] at filed
      have unknown : lastAbout id (RuleMoment.changes desk.trace) = none :=
        lastAbout_eq_none_iff.2 fun write h => filed write (balance.mem_iff.1 h)
      rw [unknown] at changed
      cases changed
    | some other =>
      exact ⟨fun same => congrArg some same.symm, fun same => (Option.some.inj same).symm⟩

/-- Requests about rules, whichever way they overlap, on an installation whose active rules on file
    can be read.  The rules follow the changes in the order in which they were made, the rows in
    the order in which they were filed.  So once all requests are served the active rows are the
    registered rules, by ids and texts, exactly if for every id the change made last and the change
    filed last leave the same.  This is so if the requests about each id come one after the other,
    while those about different ids may overlap in any way. -/
theorem agrees_iff {settings : Settings} {rooms : List Room} {database : Database}
    {network : HttpRequest → HttpReply} {first : Service Site}
    (started : Installation.start settings rooms database network = .ok first)
    (nodup : (Table.names database.rows).Nodup) (named : "" ∉ Table.names database.rows)
    (readable : ∀ entry ∈ database.rows.activeTexts,
      Rule.isReadable settings.setPointRange entry.2 = true)
    (time : String) (moves : List RuleMove) {desk : RuleDesk}
    (serves : serve (Installation.setup settings time) first moves = desk)
    (served : desk.pending = []) :
    (∀ id, desk.listing.get? id
      = leftBy (first.engine.book.listing.get? id) id (RuleMoment.changes desk.trace)) ∧
    (∀ id, desk.service.rows.text? id
      = leftBy (first.rows.text? id) id (RuleMoment.filings desk.trace)) ∧
    (desk.service.RulesAgree ↔ ∀ id, RuleMoment.SameLast id desk.trace) ∧
    ((∀ id, RuleMoment.InTurn (desk.trace.filter (·.id = id))) → desk.service.RulesAgree) := by
  have start := Follows.of_start started nodup named
  have follows : Follows first desk := serves ▸ start.moves rfl moves
  have before := start.rulesAgree_iff.1
    (Service.rulesAgree_of_start started nodup named readable)
  have agree : desk.service.RulesAgree ↔ ∀ id, RuleMoment.SameLast id desk.trace :=
    follows.rulesAgree_iff.trans
      (forall_congr' fun id => follows.agree_at_iff served (before id))
  exact ⟨follows.listing, follows.rows, agree, fun inTurn => agree.2 fun id => (inTurn id).sameLast⟩

/-- A request to register another rule. -/
def postHeat : ServiceRequest where
  method := "POST"
  target := "/api/rules"
  body := "\x7b\"id\": \"heat\", \"text\": \"if temp < 18 in hall then ac off\"\x7d"

/-- Two requests about different rules overlap, and the second is filed first. -/
theorem agrees_iff_heat : ∃ first desk, Service.newHome = .ok first ∧
    serve (Installation.setup {} "") first
      [.begin Service.postCool, .begin postHeat, .finish 1, .finish 0] = desk ∧
    desk.pending = [] ∧
    desk.listing.names = ["cool", "heat"] ∧ Table.names desk.service.rows = ["heat", "cool"] ∧
    (desk.service.RulesAgree ↔ ∀ id, RuleMoment.SameLast id desk.trace) ∧
    desk.service.RulesAgree := by
  have view : Service.newHome.toOption.map (fun first =>
      let desk := serve (Installation.setup {} "") first
        [.begin Service.postCool, .begin postHeat, .finish 1, .finish 0]
      (desk.pending.length, desk.listing.names, Table.names desk.service.rows, desk.trace))
      = some (0, ["cool", "heat"], ["heat", "cool"],
          [.changed ⟨"cool", "if temp > 25 in hall then ac on", true⟩,
           .changed ⟨"heat", "if temp < 18 in hall then ac off", true⟩,
           .filed ⟨"heat", "if temp < 18 in hall then ac off", true⟩,
           .filed ⟨"cool", "if temp > 25 in hall then ac on", true⟩]) := by decide +kernel
  obtain ⟨first, started, view⟩ := Option.map_eq_some_iff.1 view
  obtain ⟨served, view⟩ := Prod.mk.inj view
  obtain ⟨listed, view⟩ := Prod.mk.inj view
  obtain ⟨on_file, trace⟩ := Prod.mk.inj view
  have started := Service.eq_ok_of_toOption started
  have served := List.eq_nil_of_length_eq_zero served
  obtain ⟨-, -, agree, in_turn⟩ := agrees_iff started .nil List.not_mem_nil
    (fun _ h => nomatch h) "" _ rfl served
  refine ⟨first, _, started, rfl, served, listed, on_file, agree, in_turn fun id => ?_⟩
  rw [trace]
  by_cases cool : "cool" = id
  · subst cool
    exact .cons _ .nil
  · by_cases heat : "heat" = id
    · subst heat
      exact .cons _ .nil
    · simpa [RuleMoment.id, cool, heat] using RuleMoment.InTurn.nil

/-- Two requests about one rule overlap: it is removed and registered again, and its removal is
    filed last.  The rule is then registered, and not active on file. -/
theorem overlap_disagrees : ∃ first desk, Service.newHome = .ok first ∧
    serve (Installation.setup {} "") first [.begin Service.postCool, .finish 0,
      .begin Service.deleteCool, .begin Service.postCool, .finish 1, .finish 0] = desk ∧
    desk.pending = [] ∧
    desk.listing = [("cool", "if temp > 25 in hall then ac on")] ∧
    desk.service.rows.activeTexts = [] ∧ ¬ desk.service.RulesAgree := by
  have view : Service.newHome.toOption.map (fun first =>
      let desk := serve (Installation.setup {} "") first [.begin Service.postCool, .finish 0,
        .begin Service.deleteCool, .begin Service.postCool, .finish 1, .finish 0]
      (desk.pending.length, desk.listing, desk.service.rows.activeTexts))
      = some (0, [("cool", "if temp > 25 in hall then ac on")], []) := by decide +kernel
  obtain ⟨first, started, view⟩ := Option.map_eq_some_iff.1 view
  obtain ⟨served, view⟩ := Prod.mk.inj view
  obtain ⟨listed, on_file⟩ := Prod.mk.inj view
  refine ⟨first, _, Service.eq_ok_of_toOption started, rfl,
    List.eq_nil_of_length_eq_zero served, listed, on_file, fun agree => ?_⟩
  have same := agree.length_eq
  rw [on_file] at same
  exact absurd (same.trans (congrArg List.length listed)) (by decide)

end RuleDesk

end HomeAutomation
