/-
  HomeAutomation.Proofs.Engine.Listing

  The registered rules as they are listed: their ids and texts, in order.  The
  listing decides which actions wait for a condition and in which order they are
  notified, and registering, removing and loading rules act on it as on a table.
-/

import HomeAutomation.Engine.Dispatch
import HomeAutomation.Proofs.Engine.Registration
import HomeAutomation.Storage.Rules

namespace HomeAutomation

/-- Whether a text can be read as a rule. -/
def Rule.isReadable (range : SetPointRange) (text : String) : Bool :=
  (Rule.parse range text).toOption.isSome

/-- What a write about a rule makes of a listing: the rule comes last, or is gone. -/
def RuleWrite.applied (write : RuleWrite) (listing : Table String) : Table String :=
  listing.erase write.id ++ if write.active then [(write.id, write.text)] else []

/-- Applying a write once more changes nothing. -/
theorem RuleWrite.applied_applied (write : RuleWrite) (listing : Table String) :
    write.applied (write.applied listing) = write.applied listing := by
  have gone : Table.erase (if write.active then [(write.id, write.text)] else []) write.id = [] := by
    split <;> simp [Table.erase]
  unfold applied
  rw [Table.erase_append, Table.erase_erase, gone, List.append_nil]

namespace RuleBook

variable {range : SetPointRange} {book book' : RuleBook}

/-- The ids and texts of the registered rules, in their order. -/
def listing (book : RuleBook) : Table String := book.rules.map fun entry => (entry.1, entry.2.text)

/-- A rule whose name is found is listed with its text. -/
theorem mem_listing {name : String} {handle : Handle} (found : book.rule? name = some handle) :
    (name, handle.text) ∈ book.listing :=
  List.mem_map_of_mem (Table.mem_of_get? found)

-- ============================================================================
-- Changes
-- ============================================================================

theorem listing_remove (book : RuleBook) (name text : String) :
    (book.remove name).1.listing = RuleWrite.applied ⟨name, text, false⟩ book.listing := by
  rw [listing, rules_remove, Table.erase_map, RuleWrite.applied]
  exact (List.append_nil _).symm

theorem listing_register {text : String} {id : Option String} {handle : Handle}
    (h : book.register range text id = .ok (book', handle)) :
    book'.listing = RuleWrite.applied ⟨handle.ruleId, handle.text, true⟩ book.listing := by
  obtain ⟨-, -, rules, -⟩ := register_spec h
  rw [listing, rules, List.map_append, Table.erase_map]
  rfl

theorem chooseId_named {name : String} (filled : name ≠ "") (book : RuleBook) :
    book.chooseId (some name) = (book, name) := by
  rw [chooseId, if_neg (by simpa using filled)]

/-- No rule goes by the empty name. -/
theorem chooseId_ne_empty (book : RuleBook) (id : Option String) : (book.chooseId id).2 ≠ "" := by
  have generated (count : Nat) : generatedId count ≠ "" := by
    unfold generatedId
    intro empty
    have := congrArg String.length empty
    simp at this
  unfold chooseId
  split
  · rename_i name
    split
    · exact generated _
    · rename_i filled
      simpa using filled
  · exact generated _

/-- A text that can be read is registered. -/
theorem exists_register_of_isReadable {text : String} (readable : Rule.isReadable range text = true)
    (book : RuleBook) (id : Option String) :
    ∃ book' handle, book.register range text id = .ok (book', handle) := by
  unfold Rule.isReadable at readable
  unfold register
  cases h : Rule.parse range text with
  | error e =>
    rw [h] at readable
    cases readable
  | ok rule => exact ⟨_, _, rfl⟩

theorem isReadable_of_register {text : String} {id : Option String} {handle : Handle}
    (h : book.register range text id = .ok (book', handle)) :
    Rule.isReadable range text = true := by
  obtain ⟨rule, parsed, -⟩ := exists_of_register h
  rw [Rule.isReadable, parsed]
  rfl

/-- The rules after a stored one was registered, if it can be read. -/
def takeUp (range : SetPointRange) (book : RuleBook) (entry : String × String) : RuleBook :=
  match book.register range entry.2 (some entry.1) with
  | .ok (book, _) => book
  | .error _ => book

theorem load_eq_foldl (book : RuleBook) (range : SetPointRange) (stored : List (String × String)) :
    (book.load range stored).1 = stored.foldl (takeUp range) book := by
  unfold load
  refine (List.foldl_hom Prod.fst fun gathered entry => ?_).symm
  obtain ⟨book, loaded⟩ := gathered
  obtain ⟨name, text⟩ := entry
  dsimp only [takeUp]
  cases book.register range text (some name) <;> rfl

/-- Rules with names of their own are loaded in their order, as far as they can be read. -/
theorem listing_load {stored : List (String × String)} (named : "" ∉ Table.names stored)
    (nodup : (book.listing.names ++ Table.names stored).Nodup) :
    (book.load range stored).1.listing
      = book.listing ++ stored.filter fun entry => Rule.isReadable range entry.2 := by
  induction stored generalizing book with
  | nil => exact (List.append_nil _).symm
  | cons entry rest ih =>
    obtain ⟨name, text⟩ := entry
    obtain ⟨filled, named⟩ := not_or.1 (List.mem_cons.not.1 named)
    have fresh : name ∉ book.listing.names := fun h =>
      (List.nodup_append.1 nodup).2.2 name h name List.mem_cons_self rfl
    rw [load_eq_foldl, List.foldl_cons, ← load_eq_foldl]
    cases readable : Rule.isReadable range text with
    | true =>
      obtain ⟨book', handle, registered⟩ :=
        exists_register_of_isReadable readable book (some name)
      obtain ⟨given, written, -, -⟩ := register_spec registered
      rw [chooseId_named (Ne.symm filled)] at given
      have last : book'.listing = book.listing ++ [(name, text)] := by
        have absent : Table.erase book.listing name = book.listing := by
          refine List.filter_eq_self.2 fun entry listed => decide_eq_true ?_
          rintro rfl
          exact fresh (List.mem_map_of_mem listed)
        rw [listing_register registered, RuleWrite.applied, given, written, absent]
        rfl
      have nodup' : (book'.listing.names ++ Table.names rest).Nodup := by
        rw [last, Table.names, List.map_append, List.append_assoc]
        exact nodup
      have taken : takeUp range book (name, text) = book' := by rw [takeUp, registered]
      rw [taken, ih named nodup', last, List.filter_cons, if_pos readable, List.append_assoc]
      rfl
    | false =>
      have unread : ∃ e, book.register range text (some name) = .error e := by
        cases h : book.register range text (some name) with
        | error e => exact ⟨e, rfl⟩
        | ok registered =>
          have := isReadable_of_register h
          rw [readable] at this
          cases this
      obtain ⟨e, refused⟩ := unread
      have shorter : (book.listing.names ++ Table.names rest).Nodup :=
        nodup.sublist ((List.sublist_cons_self _ _).append_left _)
      have passed : takeUp range book (name, text) = book := by rw [takeUp, refused]
      rw [passed, ih named shorter, List.filter_cons, if_neg (by simp [readable])]

-- ============================================================================
-- Notification
-- ============================================================================

/-- The actions that wait for a condition, in the order in which they are notified, without what
    is noted on them. -/
def waiting (book : RuleBook) (c : Condition) : List Action :=
  match book.events.find? c with
  | none => []
  | some event => (book.notices event).filterMap fun notice => book.plan? notice.action

end RuleBook

/-- The action that a listed rule has waiting for a condition. -/
def Rule.waiter? (range : SetPointRange) (c : Condition) (entry : String × String) :
    Option Action :=
  match Rule.parse range entry.2 with
  | .ok rule =>
    if rule.condition.same c then some ⟨entry.1, rule.action, .ofSpec rule.action, none, false⟩
    else none
  | .error _ => none

namespace RuleBook

variable {range : SetPointRange} {book : RuleBook}

/-- The notifications of an event are about its actions. -/
theorem notices_plans {event : Nat} {e : Event Nat} (he : book.events.event? event = some e) :
    (book.notices event).filterMap (fun notice => book.plan? notice.action)
      = e.actions.filterMap book.plan? := by
  unfold notices
  rw [he]
  dsimp only
  rw [List.filterMap_filterMap]
  refine List.filterMap_congr fun id _ => ?_
  cases h : book.action? id with
  | none => rw [plan?, h]; rfl
  | some a => rfl

/-- Rules whose conditions are the same watch the same. -/
theorem watches_congr {c c' : Condition} (same : c.same c' = true) (handle : Handle) :
    handle.watches range c = handle.watches range c' := by
  rw [Bool.eq_iff_iff, Handle.watches_iff, Handle.watches_iff]
  constructor
  · rintro ⟨rule, parsed, same'⟩
    exact ⟨rule, parsed, Condition.same_trans same' same⟩
  · rintro ⟨rule, parsed, same'⟩
    exact ⟨rule, parsed, Condition.same_trans same' (Condition.same_symm same)⟩

/-- What the listed rules have waiting for a condition are the actions of the rules on it. -/
theorem Corresponding.listing_waiters (corresponding : book.Corresponding range) (c : Condition) :
    book.listing.filterMap (Rule.waiter? range c)
      = (book.rules.filter (·.2.watches range c)).filterMap fun entry =>
          book.plan? entry.2.action := by
  rw [listing, List.filterMap_map, ← List.filterMap_eq_filter, List.filterMap_filterMap]
  refine List.filterMap_congr fun entry h => ?_
  obtain ⟨-, rule, parsed, -, -, plan⟩ := corresponding.ruled entry h
  simp only [Function.comp_apply, Rule.waiter?, parsed]
  by_cases same : rule.condition.same c = true
  · have watches : entry.2.watches range c = true := Handle.watches_iff.2 ⟨rule, parsed, same⟩
    simp [same, watches, plan, Option.guard]
  · have blind : entry.2.watches range c ≠ true := fun watches => by
      obtain ⟨rule', parsed', same'⟩ := Handle.watches_iff.1 watches
      obtain rfl : rule = rule' := Except.ok.inj (parsed.symm.trans parsed')
      exact same same'
    simp [same, blind, Option.guard]

/-- The actions that wait for a condition are those of the listed rules that have it, in the order
    of the listing. -/
theorem Linked.waiting_eq (linked : Linked range book) (sound : book.Sound) (c : Condition) :
    book.waiting c = book.listing.filterMap (Rule.waiter? range c) := by
  have corresponding := linked.corresponding sound
  rw [corresponding.listing_waiters, waiting]
  cases found : book.events.find? c with
  | none =>
    have unknown : book.rules.any (·.2.watches range c) = false := by
      rw [← corresponding.conditions c, EventRegistry.contains, found]
      rfl
    have nobody : book.rules.filter (·.2.watches range c) = [] :=
      List.filter_eq_nil_iff.2 (List.any_eq_false.1 unknown)
    rw [nobody, List.filterMap_nil]
  | some event =>
    obtain ⟨registered, e, he, same⟩ := EventRegistry.find?_eq_some found
    obtain ⟨e', he', actions, -⟩ := corresponding.actions event registered
    obtain rfl : e = e' := Option.some.inj (he.symm.trans he')
    have watchers : book.rules.filter (·.2.watches range e.condition)
        = book.rules.filter (·.2.watches range c) :=
      List.filter_congr fun entry _ => watches_congr same entry.2
    dsimp only
    rw [notices_plans he, actions, watchers, List.filterMap_map, Function.comp_def]

end RuleBook

end HomeAutomation
