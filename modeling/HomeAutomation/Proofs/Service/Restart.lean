/-
  HomeAutomation.Proofs.Service.Restart

  What a restart brings back.  After any requests that register and remove rules,
  an installation that is started anew on its database has the same rules again.
  They stand in the order in which their ids were filed first, though, and not in
  the order in which they were registered last; where a rule was filed under an id
  that had been filed before, the order may differ, and with it the order in which
  the actions on one condition are notified.
-/

import HomeAutomation.Proofs.Service.Filing

namespace HomeAutomation

namespace Service

variable {σ : Type}

-- ============================================================================
-- Requests one after the other
-- ============================================================================

/-- Answers requests one after the other. -/
def answerAll (setup : Setup σ) (service : Service σ) (requests : List ServiceRequest) :
    Service σ :=
  requests.foldl (fun service request => (service.answer setup request).1) service

theorem answerAll_cons (setup : Setup σ) (service : Service σ) (request : ServiceRequest)
    (rest : List ServiceRequest) : answerAll setup service (request :: rest)
      = answerAll setup (service.answer setup request).1 rest := List.foldl_cons ..

/-- The id under which a request registers a rule. -/
def posting? (service : Service σ) (request : ServiceRequest) : Option String :=
  match ruleCall? request with
  | some (.create asked) =>
    (service.engine.register asked.text asked.id).toOption.map fun registered => registered.2.ruleId
  | _ => none

/-- The ids under which requests register rules. -/
def postings (setup : Setup σ) : Service σ → List ServiceRequest → List String
  | _, [] => []
  | service, request :: rest =>
    (service.posting? request).toList ++ postings setup (service.answer setup request).1 rest

/-- A request adds the id under which it registers a rule to those that were filed. -/
theorem filedAfter_eq {service : Service σ} {request : ServiceRequest} {call : RuleCall}
    {book : RuleBook} {write : RuleWrite} (made : ruleCall? request = some call)
    (changes : call.Changes service.engine book write) (filed : List String) :
    write.filedAfter filed = filed ++ (service.posting? request).toList := by
  unfold posting?
  rw [made]
  cases changes with
  | @create asked book handle registered =>
    have entered : service.engine.register asked.text asked.id
        = .ok ({ service.engine with book }, handle) := by
      rw [Engine.register, registered]
      rfl
    simp only [entered]
    rfl
  | delete found => exact (List.append_nil filed).symm

/-- A request that changes nothing registers no rule. -/
theorem posting?_eq_none {service : Service σ} {request : ServiceRequest}
    (unchanged : ∀ call book write, ruleCall? request = some call →
      ¬ call.Changes service.engine book write) : service.posting? request = none := by
  unfold posting?
  cases made : ruleCall? request with
  | none => rfl
  | some call =>
    cases call with
    | delete ruleId => rfl
    | create asked =>
      cases h : service.engine.register asked.text asked.id with
      | error e => simp only [h]; rfl
      | ok registered =>
        obtain ⟨engine, handle⟩ := registered
        obtain ⟨book, registered, -⟩ := Engine.exists_of_register h
        exact absurd (.create registered) (unchanged _ book _ made)

variable {range : SetPointRange} {filed : List String} {service : Service Site}
  {request : ServiceRequest} {requests : List ServiceRequest} {setup : Setup Site}

/-- A request about rules adds to the order of filing. -/
theorem Kept.answer (keeps : setup.KeepsRules) (files : setup.saveRule = Site.fileRule)
    (kept : Kept range filed service) (about : request.isAboutRules = true) :
    Kept range (filed ++ (service.posting? request).toList) (service.answer setup request).1 := by
  by_cases change : ∃ call book write, ruleCall? request = some call ∧
      call.Changes service.engine book write
  · obtain ⟨call, book, write, made, changes⟩ := change
    obtain ⟨outside, done, kept', -⟩ := kept.change changes
    obtain ⟨success, answered, -⟩ := answer_of_filed keeps made changes (files ▸ done)
    rw [answered, ← filedAfter_eq made changes]
    exact kept'
  · have unchanged : ∀ call book write, ruleCall? request = some call →
        ¬ call.Changes service.engine book write :=
      fun call book write made changes => change ⟨call, book, write, made, changes⟩
    have refused : ∃ refusal, service.answer setup request = (service, refusal) ∧
        refusal.isError = true :=
      answer_of_unchanged about fun call book write _ => unchanged call book write
    obtain ⟨refusal, answered, -⟩ := refused
    rw [answered, posting?_eq_none unchanged]
    simpa using kept

/-- Requests about rules, one after the other, add to the order of filing. -/
theorem Kept.answerAll (keeps : setup.KeepsRules) (files : setup.saveRule = Site.fileRule)
    (kept : Kept range filed service) (about : ∀ request ∈ requests, request.isAboutRules = true) :
    Kept range (filed ++ postings setup service requests) (answerAll setup service requests) := by
  induction requests generalizing filed service with
  | nil => simpa [postings, Service.answerAll] using kept
  | cons request rest ih =>
    have first := kept.answer keeps files (about request List.mem_cons_self)
    have all := ih first fun other h => about other (List.mem_cons_of_mem _ h)
    rw [postings, answerAll_cons, ← List.append_assoc]
    exact all

/-- A registration under an id, of a text that can be read, is filed. -/
theorem Kept.post (keeps : setup.KeepsRules) (files : setup.saveRule = Site.fileRule)
    (kept : Kept range filed service) {text name : String}
    (made : ruleCall? request = some (.create ⟨text, some name⟩)) (filled : name ≠ "")
    (readable : Rule.isReadable range text = true) :
    Kept range (filed ++ [name]) (service.answer setup request).1 ∧
      (service.answer setup request).1.rows = service.rows.upsert ⟨name, text, true⟩ := by
  rw [← kept.range_eq] at readable
  obtain ⟨book, handle, registered⟩ :=
    RuleBook.exists_register_of_isReadable readable service.engine.book (some name)
  obtain ⟨given, written, -, -⟩ := RuleBook.register_spec registered
  rw [RuleBook.chooseId_named filled] at given
  have changes : RuleCall.Changes service.engine (.create ⟨text, some name⟩) book
      ⟨handle.ruleId, handle.text, true⟩ := .create registered
  rw [given, written] at changes
  obtain ⟨outside, done, kept', rows⟩ := kept.change changes
  obtain ⟨success, answered, -⟩ := answer_of_filed keeps made changes (files ▸ done)
  rw [answered]
  exact ⟨kept', rows⟩

-- ============================================================================
-- Restart
-- ============================================================================

/-- An installation that was started anew has the rules of the one before. -/
structure Restored (range : SetPointRange) (filed : List String) (last again : Service Site) :
    Prop where
  /-- The rules stood in the order in which they were registered last. -/
  before : last.engine.book.listing = filed.dedup.filterMap (last.rows.current? range)
  /-- They stand in the order in which their ids were filed first. -/
  after : again.engine.book.listing = filed.eraseDups.filterMap (last.rows.current? range)
  /-- They are the same rules, by ids and texts. -/
  perm : again.engine.book.listing.Perm last.engine.book.listing
  /-- They stand as before if each of them was filed once. -/
  unmoved : (∀ entry ∈ last.engine.book.listing, filed.count entry.1 = 1) →
    again.engine.book.listing = last.engine.book.listing
  /-- The actions that wait for a condition are those of the rules on it, in their order. -/
  waiting : ∀ c,
    last.engine.book.waiting c = last.engine.book.listing.filterMap (Rule.waiter? range c) ∧
    again.engine.book.waiting c = again.engine.book.listing.filterMap (Rule.waiter? range c)
  /-- They are the same actions, and in the same order where the rules stand as before. -/
  actions : ∀ c, (again.engine.book.waiting c).Perm (last.engine.book.waiting c)
  /-- The rules on file are as before. -/
  rows : again.rows = last.rows

/-- Rules that are told from one order of filing are restored. -/
theorem Kept.restored {last again : Service Site} (kept : Kept range filed last)
    (kept' : Kept range filed.eraseDups again) (rows : again.rows = last.rows) :
    Restored range filed last again := by
  have after : again.engine.book.listing = filed.eraseDups.filterMap (last.rows.current? range) := by
    rw [kept'.listing, rows, (nodup_eraseDups filed).dedup]
  have perm : again.engine.book.listing.Perm last.engine.book.listing := by
    rw [after, kept.listing]
    exact (eraseDups_perm_dedup filed).filterMap _
  have waiting (c : Condition) :
      last.engine.book.waiting c = last.engine.book.listing.filterMap (Rule.waiter? range c) ∧
      again.engine.book.waiting c = again.engine.book.listing.filterMap (Rule.waiter? range c) :=
    ⟨kept.linked.waiting_eq kept.sound c, kept'.linked.waiting_eq kept'.sound c⟩
  refine ⟨kept.listing, after, perm, fun once => ?unmoved, waiting, fun c => ?actions, rows⟩
  case unmoved =>
    rw [after, kept.listing]
    refine filterMap_eraseDups_eq_dedup fun id known shown => ?_
    obtain ⟨entry, current⟩ := Option.isSome_iff_exists.1 shown
    have listed : entry ∈ last.engine.book.listing := by
      rw [kept.listing]
      exact List.mem_filterMap.2 ⟨id, List.mem_dedup.2 known, current⟩
    exact RuleRows.fst_of_current? current ▸ once entry listed
  case actions =>
    rw [(waiting c).1, (waiting c).2]
    exact perm.filterMap _

/-- An installation is started anew on what it has on file. -/
theorem Kept.restart {settings : Settings} {rooms : List Room} {database : Database}
    {network : HttpRequest → HttpReply} {first last : Service Site}
    (kept : Kept settings.setPointRange filed last)
    (started : Installation.start settings rooms database network = .ok first)
    (network' : HttpRequest → HttpReply) :
    ∃ again, Installation.start settings rooms last.engine.outside.database network' = .ok again ∧
      Restored settings.setPointRange filed last again := by
  obtain ⟨sensors, opens⟩ := Installation.start_eq_opened started
  have kept' : Kept settings.setPointRange (Table.names last.rows)
      (Installation.opened settings rooms sensors last.engine.outside.database network') :=
    Kept.opened kept.nodup_rows kept.not_mem_rows
  rw [kept.rows] at kept'
  exact ⟨_, opens _ _, kept.restored kept' rfl⟩

/-- After requests about rules an installation starts anew, and has its rules again.  The rows
    that it started with have ids of their own, none of them empty, and so have those that it
    leaves. -/
theorem restart_restores {settings : Settings} {rooms : List Room} {database : Database}
    {network : HttpRequest → HttpReply} {first last : Service Site} {time : String}
    (started : Installation.start settings rooms database network = .ok first)
    (nodup : (Table.names database.rows).Nodup) (named : "" ∉ Table.names database.rows)
    (about : ∀ request ∈ requests, request.isAboutRules = true)
    (answered : first.answerAll (Installation.setup settings time) requests = last)
    (network' : HttpRequest → HttpReply) :
    ∃ again, Installation.start settings rooms last.engine.outside.database network' = .ok again ∧
      Restored settings.setPointRange (Table.names database.rows
        ++ first.postings (Installation.setup settings time) requests) last again ∧
      (Table.names last.rows).Nodup ∧ "" ∉ Table.names last.rows := by
  have begun := Kept.of_start started nodup named
  have kept := begun.answerAll (Installation.keepsRules_setup settings time) rfl about
  rw [answered] at kept
  obtain ⟨again, restarted, restored⟩ := kept.restart started network'
  exact ⟨again, restarted, restored, kept.nodup_rows, kept.not_mem_rows⟩

/-- A request to register a rule that switches a lamp on when there is motion. -/
def postOn : ServiceRequest where
  method := "POST"
  target := "/api/rules"
  body := "\x7b\"id\": \"on\", \"text\": \"if motion in hall then light on\"\x7d"

/-- A request to register a rule that switches it off then. -/
def postOff : ServiceRequest where
  method := "POST"
  target := "/api/rules"
  body := "\x7b\"id\": \"off\", \"text\": \"if motion in hall then light off\"\x7d"

/-- The rule that was registered first is registered once more before the restart. -/
theorem restart_restores_motion : ∃ first last again,
    newHome = .ok first ∧
      first.answerAll (Installation.setup {} "") [postOn, postOff, postOn] = last ∧
      Installation.start {} [] last.engine.outside.database (fun _ => .unreachable "")
        = .ok again ∧
      Restored (Settings.setPointRange {})
        (first.postings (Installation.setup {} "") [postOn, postOff, postOn]) last again := by
  have about : ∀ request ∈ [postOn, postOff, postOn], request.isAboutRules = true := by
    decide +kernel
  obtain ⟨first, started⟩ := exists_newHome
  obtain ⟨again, restarted, restored, -, -⟩ :=
    restart_restores started .nil List.not_mem_nil about rfl fun _ => .unreachable ""
  exact ⟨first, _, again, started, rfl, restarted, restored⟩

/-- The ids of the rules in their order, and those of the actions that wait for motion. -/
def orders (service : Service Site) : List String × List String :=
  (service.engine.book.listing.names,
    (service.engine.book.waiting ⟨"motion", "hall", none, none, true⟩).map (·.ruleId))

/-- When there is motion, the lamp is switched off and then on before the restart, and on and then
    off afterwards. -/
theorem restart_reorders_motion : ∃ first last again,
    newHome = .ok first ∧
      first.answerAll (Installation.setup {} "") [postOn, postOff, postOn] = last ∧
      Installation.start {} [] last.engine.outside.database (fun _ => .unreachable "")
        = .ok again ∧
      orders last = (["off", "on"], ["off", "on"]) ∧
      orders again = (["on", "off"], ["on", "off"]) := by
  have switchOn : ruleCall? postOn
      = some (.create ⟨"if motion in hall then light on", some "on"⟩) := by decide +kernel
  have switchOff : ruleCall? postOff
      = some (.create ⟨"if motion in hall then light off", some "off"⟩) := by decide +kernel
  have readable : ∀ text ∈ ["if motion in hall then light on", "if motion in hall then light off"],
      Rule.isReadable (Settings.setPointRange {}) text = true := by decide +kernel
  have keeps := Installation.keepsRules_setup {} ""
  obtain ⟨first, started⟩ := exists_newHome
  have begun : Kept (Settings.setPointRange {}) [] first :=
    Kept.of_start started .nil List.not_mem_nil
  obtain ⟨once, on_file⟩ := begun.post keeps rfl switchOn (by decide) (readable _ (by simp))
  obtain ⟨twice, on_file'⟩ := once.post keeps rfl switchOff (by decide) (readable _ (by simp))
  obtain ⟨thrice, on_file''⟩ := twice.post keeps rfl switchOn (by decide) (readable _ (by simp))
  obtain ⟨again, restarted, restored⟩ := thrice.restart started fun _ => .unreachable ""
  have empty : first.rows = [] := List.map_eq_nil_iff.1 begun.rows
  rw [on_file', on_file, empty] at on_file''
  refine ⟨first, (answer _ (answer _ (answer _ first postOn).1 postOff).1 postOn).1, again, started,
    rfl, restarted, ?_, ?_⟩
  · rw [orders, (restored.waiting _).1, restored.before, on_file'']
    decide +kernel
  · rw [orders, (restored.waiting _).2, restored.after, on_file'']
    decide +kernel

end Service

end HomeAutomation
