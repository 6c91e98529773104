/-
  HomeAutomation.Proofs.Service.Unfiled

  Requests about rules that fail.  One that is refused changes nothing.  The only
  other failure is that what a request has changed cannot be filed; nothing takes
  the change back then, so the rules are as after a success while the rules on
  file are those from before.

  `Service.unchanged_or_unfiled` is the result; the structure before it says what
  is left behind, and what becomes of a second attempt.
-/

import HomeAutomation.Proofs.Service.Filing

namespace HomeAutomation

variable {σ : Type}

namespace Service

variable {setup : Setup σ} {service after : Service σ} {request : ServiceRequest} {reply : Answer}
  {call : RuleCall} {book : RuleBook} {write : RuleWrite}

/-- A request about a rule has changed the rules and has failed, since the change cannot be
    filed. -/
structure Unfiled (setup : Setup σ) (service after : Service σ) (request : ServiceRequest)
    (reply : Answer) (write : RuleWrite) : Prop where
  failed : ∃ e, setup.saveRule write service.engine.outside = .error e ∧
    reply = .fail (.storage e)
  /-- Nothing but the rules has changed. -/
  frame : after = { service with engine := { service.engine with book := after.engine.book } }
  /-- A rule that was to be registered comes last, one that was to be removed is gone. -/
  listing : after.engine.book.listing = write.applied service.engine.book.listing
  undisturbed : RuleBook.Undisturbed write.id service.engine.book after.engine.book
  corresponding : service.engine.book.Sound →
    RuleBook.Linked service.engine.range service.engine.book →
    after.engine.book.Corresponding service.engine.range
  /-- The rules are those that the request leads to where the change can be filed. -/
  as_filed : ∀ saveRule outside, saveRule write service.engine.outside = .ok outside →
    ∃ success, service.answer { setup with saveRule } request
        = ({ after with engine := { after.engine with outside } }, success) ∧
      success.isError = false
  /-- Once more a removal is refused: the rule is not found any more. -/
  removed : write.active = false → ∀ setup' : Setup σ,
    ∃ refusal, after.answer setup' request = (after, refusal) ∧ refusal.isError = true
  /-- Once more a registration under an id is filed, if it can be, and the rules stay listed as
      they are. -/
  registered : ∀ asked name, ruleCall? request = some (.create asked) → asked.id = some name →
    name ≠ "" → ∀ (setup' : Setup σ) outside, setup'.KeepsRules →
    setup'.saveRule write service.engine.outside = .ok outside →
    ∃ again success, after.answer setup' request = (again, success) ∧ success.isError = false ∧
      again.engine.outside = outside ∧
      again.engine.book.listing = after.engine.book.listing

/-- A removal leaves nothing to be removed. -/
theorem answer_of_removed (about : request.isAboutRules = true)
    (made : ruleCall? request = some call)
    (changes : call.Changes service.engine book write) (removes : write.active = false)
    (setup : Setup σ) :
    ∃ refusal, answer setup { service with engine := { service.engine with book } } request
        = ({ service with engine := { service.engine with book } }, refusal) ∧
      refusal.isError = true := by
  refine answer_of_unchanged about fun call' book' write' keeps made' changes' => ?_
  obtain rfl : call = call' := Option.some.inj (made.symm.trans made')
  cases changes with
  | create registered => cases removes
  | @delete name handle found =>
    cases changes' with
    | delete found' =>
      have gone := Table.has_erase service.engine.book.rules name
      rw [RuleBook.rule?, RuleBook.rules_remove] at found'
      rw [Table.has, found'] at gone
      cases gone

/-- A registration under an id can be done over, and changes nothing more about the listing. -/
theorem changes_again {asked : RuleRequest} {name : String} (named : asked.id = some name)
    (filled : name ≠ "") {engine : Engine σ}
    (changes : (RuleCall.create asked).Changes engine book write) :
    ∃ book', (RuleCall.create asked).Changes { engine with book } book' write ∧
      book'.listing = book.listing := by
  have listed := changes.listing_eq
  cases changes with
  | @create _ _ handle registered =>
    have readable := RuleBook.isReadable_of_register registered
    obtain ⟨book', handle', registered'⟩ :=
      RuleBook.exists_register_of_isReadable readable book asked.id
    obtain ⟨given, written, -, -⟩ := RuleBook.register_spec registered
    obtain ⟨given', written', -, -⟩ := RuleBook.register_spec registered'
    rw [named, RuleBook.chooseId_named filled] at given given'
    have same : (⟨handle'.ruleId, handle'.text, true⟩ : RuleWrite)
        = ⟨handle.ruleId, handle.text, true⟩ := by
      rw [given, given', written, written']
    have changes' : (RuleCall.create asked).Changes { engine with book } book' _ :=
      .create registered'
    rw [same] at changes'
    refine ⟨book', changes', ?_⟩
    rw [changes'.listing_eq, listed, RuleWrite.applied_applied]

/-- What is left behind when a change cannot be filed. -/
theorem Unfiled.of_changes (keeps : setup.KeepsRules) (about : request.isAboutRules = true)
    (made : ruleCall? request = some call) (changes : call.Changes service.engine book write)
    {e : StorageError} (failed : setup.saveRule write service.engine.outside = .error e) :
    Unfiled setup service { service with engine := { service.engine with book } } request
      (.fail (.storage e)) write where
  failed := ⟨e, failed, rfl⟩
  frame := rfl
  listing := changes.listing_eq
  undisturbed := changes.undisturbed
  corresponding sound linked := (changes.linked sound linked).corresponding (changes.sound sound)
  as_filed := by
    intro saveRule outside filed
    have keeps' : Setup.KeepsRules { setup with saveRule } := keeps
    exact answer_of_filed keeps' made changes filed
  removed removes setup' := answer_of_removed about made changes removes setup'
  registered := by
    intro asked name made' named filled setup' outside keeps' filed
    obtain rfl : call = .create asked := Option.some.inj (made.symm.trans made')
    obtain ⟨book', changes', listed⟩ := changes_again named filled changes
    have again : ∃ success, answer setup' { service with engine := { service.engine with book } }
        request = ({ service with engine := { service.engine with book := book', outside } }, success)
        ∧ success.isError = false := answer_of_filed keeps' made changes' filed
    obtain ⟨success, given, fine⟩ := again
    exact ⟨_, success, given, fine, rfl, listed⟩

/-- A request about rules that ends in an error has changed nothing, or it has changed the rules as
    it should and the change cannot be filed. -/
theorem unchanged_or_unfiled (about : request.isAboutRules = true)
    (answered : service.answer setup request = (after, reply)) (error : reply.isError = true) :
    after = service ∨ ∃ write, Unfiled setup service after request reply write := by
  by_cases change : ∃ call book write, setup.KeepsRules ∧ ruleCall? request = some call ∧
      call.Changes service.engine book write
  · obtain ⟨call, book, write, keeps, made, changes⟩ := change
    cases filed : setup.saveRule write service.engine.outside with
    | ok outside =>
      obtain ⟨success, succeeded, fine⟩ := answer_of_filed keeps made changes filed
      obtain ⟨-, rfl⟩ := Prod.mk.inj (answered.symm.trans succeeded)
      rw [fine] at error
      cases error
    | error e =>
      have unfiled := answer_of_unfiled keeps made changes filed
      obtain ⟨rfl, rfl⟩ := Prod.mk.inj (answered.symm.trans unfiled)
      exact .inr ⟨write, .of_changes keeps about made changes filed⟩
  · have unchanged : ∃ refusal, service.answer setup request = (service, refusal) ∧
        refusal.isError = true :=
      answer_of_unchanged about fun call book write keeps made changes =>
        change ⟨call, book, write, keeps, made, changes⟩
    obtain ⟨refusal, refused, -⟩ := unchanged
    exact .inl (Prod.mk.inj (answered.symm.trans refused)).1

/-- A request to register a rule. -/
def postCool : ServiceRequest where
  method := "POST"
  target := "/api/rules"
  body := "\x7b\"id\": \"cool\", \"text\": \"if temp > 25 in hall then ac on\"\x7d"

/-- A request to remove it. -/
def deleteCool : ServiceRequest where
  method := "DELETE"
  target := "/api/rules/cool"

/-- What an installation runs with when its storage is gone. -/
def withoutStorage : Setup Site :=
  { Installation.setup {} "" with saveRule := fun _ _ => .error .noTables }

/-- The rules of an installation as they are registered and as they are on file. -/
structure RulesSeen where
  registered : List (String × String)
  filed : Option (List (String × String))
  deriving DecidableEq

/-- The rules of an installation. -/
def rulesSeen (service : Service Site) : RulesSeen where
  registered := service.engine.book.listing
  filed := service.engine.outside.database.rules.toOption.map RuleRows.activeTexts

/-- A rule is registered and filed; then its removal cannot be filed. -/
theorem unchanged_or_unfiled_cool : ∃ first service after reply,
    newHome = .ok first ∧ service = (first.answer (Installation.setup {} "") postCool).1 ∧
      deleteCool.isAboutRules = true ∧
      service.answer withoutStorage deleteCool = (after, reply) ∧ reply.isError = true ∧
      (after = service ∨ ∃ write, Unfiled withoutStorage service after deleteCool reply write) := by
  have about : deleteCool.isAboutRules = true := by decide +kernel
  have view : newHome.toOption.map (fun first =>
      ((first.answer (Installation.setup {} "") postCool).1.answer withoutStorage deleteCool).2.isError)
      = some true := by decide +kernel
  obtain ⟨first, started, error⟩ := Option.map_eq_some_iff.1 view
  exact ⟨first, _, _, _, eq_ok_of_toOption started, rfl, about, rfl, error,
    unchanged_or_unfiled about rfl error⟩

/-- After the failure the rule is gone from the engine and still on file. -/
theorem removed_unfiled_cool : ∃ first service after reply,
    newHome = .ok first ∧ service = (first.answer (Installation.setup {} "") postCool).1 ∧
      service.answer withoutStorage deleteCool = (after, reply) ∧ reply.isError = true ∧
      rulesSeen service = ⟨[("cool", "if temp > 25 in hall then ac on")],
        some [("cool", "if temp > 25 in hall then ac on")]⟩ ∧
      rulesSeen after = ⟨[], some [("cool", "if temp > 25 in hall then ac on")]⟩ := by
  have view : newHome.toOption.map (fun first =>
      let service := (first.answer (Installation.setup {} "") postCool).1
      let given := service.answer withoutStorage deleteCool
      (given.2.isError, rulesSeen service, rulesSeen given.1))
      = some (true, ⟨[("cool", "if temp > 25 in hall then ac on")],
          some [("cool", "if temp > 25 in hall then ac on")]⟩,
        ⟨[], some [("cool", "if temp > 25 in hall then ac on")]⟩) := by decide +kernel
  obtain ⟨first, started, view⟩ := Option.map_eq_some_iff.1 view
  obtain ⟨error, view⟩ := Prod.mk.inj view
  obtain ⟨listed, gone⟩ := Prod.mk.inj view
  exact ⟨first, _, _, _, eq_ok_of_toOption started, rfl, rfl, error, listed, gone⟩

end Service

end HomeAutomation
