/-
  HomeAutomation.Proofs.Event.Registry

  The index of the registry.  Searching the index for what a reading is about
  gives the registered events that watch it, in the order of registration: the
  bucket of a key is the list of registered events filtered by the key.  Events
  come and go, and change their state, without disturbing that.

  What each change does to the events, one by one, stands at the end.
-/

import HomeAutomation.Event.Registry

namespace HomeAutomation

namespace EventRegistry

variable {α : Type}

-- ============================================================================
-- Buckets
-- ============================================================================

/-- The events in the bucket of a key. -/
def bucketOf (index : List EventBucket) (key : String × String) : List Nat :=
  ((index.find? fun bucket => bucket.key = key).map (·.events)).getD []

theorem bucketOf_cons (bucket : EventBucket) (rest : List EventBucket) (key : String × String) :
    bucketOf (bucket :: rest) key
      = if bucket.key = key then bucket.events else bucketOf rest key := by
  unfold bucketOf
  by_cases h : bucket.key = key <;> simp [h]

/-- A key without bucket has no events. -/
theorem bucketOf_eq_nil {index : List EventBucket} {key : String × String}
    (h : key ∉ index.map (·.key)) : bucketOf index key = [] := by
  induction index with
  | nil => rfl
  | cons bucket rest ih =>
    rw [List.map_cons, List.mem_cons, not_or] at h
    rw [bucketOf_cons, if_neg (Ne.symm h.1), ih h.2]

theorem bucketOf_enterIndex (key other : String × String) (id : Nat) (index : List EventBucket) :
    bucketOf (enterIndex key id index) other
      = if other = key then bucketOf index other ++ [id] else bucketOf index other := by
  induction index with
  | nil =>
    rw [enterIndex, bucketOf_cons]
    by_cases h : key = other
    · simp [h, bucketOf]
    · simp [h, Ne.symm h, bucketOf]
  | cons bucket rest ih =>
    unfold enterIndex
    by_cases hk : bucket.key = key
    · rw [if_pos hk, bucketOf_cons, bucketOf_cons]
      by_cases h : key = other
      · simp [hk, h]
      · simp [hk, h, Ne.symm h]
    · rw [if_neg hk, bucketOf_cons, bucketOf_cons, ih]
      by_cases h : bucket.key = other
      · simp [h, show other ≠ key from h ▸ hk]
      · simp [h]

theorem keys_enterIndex (key : String × String) (id : Nat) (index : List EventBucket) :
    (enterIndex key id index).map (·.key)
      = if key ∈ index.map (·.key) then index.map (·.key) else index.map (·.key) ++ [key] := by
  induction index with
  | nil => rfl
  | cons bucket rest ih =>
    unfold enterIndex
    by_cases hk : bucket.key = key
    · simp [hk]
    · rw [if_neg hk, List.map_cons, ih]
      by_cases h : key ∈ rest.map (·.key)
      · rw [if_pos h, if_pos (by rw [List.map_cons]; exact List.mem_cons_of_mem _ h)]
        rfl
      · rw [if_neg h, if_neg (by rw [List.map_cons, List.mem_cons, not_or]; exact ⟨Ne.symm hk, h⟩)]
        rfl

theorem bucketOf_leaveIndex {index : List EventBucket} (keys : (index.map (·.key)).Nodup)
    (key other : String × String) (id : Nat) :
    bucketOf (leaveIndex key id index) other
      = if other = key then (bucketOf index other).erase id else bucketOf index other := by
  induction index with
  | nil => simp [leaveIndex, bucketOf]
  | cons bucket rest ih =>
    rw [List.map_cons, List.nodup_cons] at keys
    unfold leaveIndex
    by_cases hk : bucket.key = key
    · subst hk
      rw [if_pos rfl, bucketOf_cons]
      by_cases h : other = bucket.key
      · subst h
        rw [if_pos rfl, if_pos rfl]
        split
        · -- the bucket is dropped, and no other has its key
          rename_i left
          rw [left, bucketOf_eq_nil keys.1]
        · rw [bucketOf_cons, if_pos rfl]
      · rw [if_neg (Ne.symm h), if_neg h]
        split
        · rfl
        · rw [bucketOf_cons, if_neg (Ne.symm h)]
    · rw [if_neg hk, bucketOf_cons, bucketOf_cons, ih keys.2]
      by_cases h : bucket.key = other
      · simp [h, show other ≠ key from h ▸ hk]
      · simp [h]

theorem keys_leaveIndex (key : String × String) (id : Nat) (index : List EventBucket) :
    ((leaveIndex key id index).map (·.key)).Sublist (index.map (·.key)) := by
  induction index with
  | nil => exact .slnil
  | cons bucket rest ih =>
    unfold leaveIndex
    split
    · split
      · exact List.sublist_cons_self _ _
      · exact .refl _
    · exact ih.cons_cons _

-- ============================================================================
-- The invariant
-- ============================================================================

/-- Whether an event watches a metric at a location. -/
def watches (r : EventRegistry α) (key : String × String) (id : Nat) : Bool :=
  (r.event? id).any fun e => e.condition.key = key

/-- The index is right about the registered events. -/
structure Indexed (r : EventRegistry α) : Prop where
  nodup : r.registered.Nodup
  bounded : ∀ id ∈ r.registered, id < r.made.length
  keys : (r.index.map (·.key)).Nodup
  bucket : ∀ key, bucketOf r.index key = r.registered.filter (r.watches key)

variable {r r' : EventRegistry α}

theorem indexed_empty : ({} : EventRegistry α).Indexed :=
  ⟨.nil, by simp, .nil, fun _ => rfl⟩

/-- The events that match a reading are the registered ones that watch it. -/
theorem Indexed.matching_eq (h : r.Indexed) (metric location : String) :
    r.matching metric location = r.registered.filter (r.watches (metric, location)) :=
  h.bucket (metric, location)

/-- Changes that keep the conditions of all events keep the index. -/
theorem Indexed.congr (h : r.Indexed) (registered : r'.registered = r.registered)
    (index : r'.index = r.index) (length : r'.made.length = r.made.length)
    (conditions : ∀ id, (r'.event? id).map (·.condition) = (r.event? id).map (·.condition)) :
    r'.Indexed where
  nodup := registered ▸ h.nodup
  bounded := by rw [registered, length]; exact h.bounded
  keys := index ▸ h.keys
  bucket key := by
    have same : r'.watches key = r.watches key := by
      funext id
      have := congrArg (Option.any fun c : Condition => decide (c.key = key)) (conditions id)
      simpa [watches, Option.any_map, Function.comp_def] using this
    rw [index, registered, same]
    exact h.bucket key

theorem event?_modify (r : EventRegistry α) (id other : Nat) (f : Event α → Event α) :
    (r.modify id f).event? other
      = if id = other then (r.event? other).map f else r.event? other := by
  unfold modify event?
  rw [List.getElem?_modify]
  split <;> simp

theorem Indexed.modify (h : r.Indexed) (id : Nat) {f : Event α → Event α}
    (hf : ∀ e, r.event? id = some e → (f e).condition = e.condition) : (r.modify id f).Indexed := by
  refine h.congr rfl rfl (List.length_modify ..) fun other => ?_
  rw [event?_modify]
  split
  · rename_i heq
    subst heq
    cases he : r.event? id with
    | none => rfl
    | some e => simp [hf e he]
  · rfl

theorem Indexed.attach [DecidableEq α] (h : r.Indexed) (id : Nat) (action : α) :
    (r.attach id action).Indexed :=
  h.modify id fun e _ => by unfold Event.attach; split <;> rfl

theorem Indexed.detach [DecidableEq α] (h : r.Indexed) (id : Nat) (action : α) :
    (r.detach id action).1.Indexed := by
  unfold EventRegistry.detach
  split
  · rename_i e he
    refine h.modify id fun e' he' => ?_
    obtain rfl : e = e' := Option.some.inj (he.symm.trans he')
    rfl
  · exact h

theorem Indexed.remove (h : r.Indexed) (id : Nat) : (r.remove id).1.Indexed := by
  unfold EventRegistry.remove
  split
  · rename_i e he
    split
    · refine ⟨h.nodup.erase id, fun other ho => h.bounded other (List.mem_of_mem_erase ho),
        (keys_leaveIndex _ id _).nodup h.keys, fun key => ?_⟩
      rw [bucketOf_leaveIndex h.keys, h.bucket]
      have erased : (r.registered.erase id).filter (r.watches key)
          = (r.registered.filter (r.watches key)).filter (· != id) := by
        rw [h.nodup.erase_eq_filter, List.filter_filter, List.filter_filter]
        exact List.filter_congr fun other _ => Bool.and_comm _ _
      refine Eq.trans ?_ erased.symm
      split
      · exact List.Nodup.erase_eq_filter (h.nodup.filter _) id
      · -- the event watches another key, so it is not in the bucket
        rename_i hkey
        refine (List.filter_eq_self.2 fun other ho => ?_).symm
        rw [List.mem_filter] at ho
        refine bne_iff_ne.2 ?_
        rintro rfl
        simp [watches, he, Ne.symm hkey] at ho
    · exact h
  · exact h

theorem Indexed.prune (h : r.Indexed) (id : Nat) : (r.prune id).1.Indexed := by
  unfold EventRegistry.prune
  split
  · split
    · exact h.remove id
    · exact h
  · exact h

/-- A new event comes last, in the list and in its bucket. -/
theorem Indexed.create (h : r.Indexed) (e : Event α) :
    Indexed { made := r.made ++ [e], registered := r.registered ++ [r.made.length]
              index := enterIndex e.condition.key r.made.length r.index } := by
  have fresh : r.made.length ∉ r.registered := fun hr => Nat.lt_irrefl _ (h.bounded _ hr)
  refine ⟨?_, fun id hid => ?_, ?_, fun key => ?_⟩
  · refine List.nodup_append.2 ⟨h.nodup, by simp, fun id hid other ho => ?_⟩
    obtain rfl : other = r.made.length := by simpa using ho
    exact fun heq => fresh (heq ▸ hid)
  · rw [List.length_append, List.length_singleton]
    rcases List.mem_append.1 hid with hid | hid
    · exact Nat.lt_succ_of_lt (h.bounded id hid)
    · obtain rfl : id = r.made.length := by simpa using hid
      exact Nat.lt_succ_self _
  · rw [keys_enterIndex]
    split
    · exact h.keys
    · rename_i hk
      exact List.nodup_append.2 ⟨h.keys, by simp, fun k hk' other ho => by
        obtain rfl : other = _ := by simpa using ho
        exact fun heq => hk (heq ▸ hk')⟩
  · have old : ∀ id ∈ r.registered, watches ⟨r.made ++ [e], r.registered ++ [r.made.length],
        enterIndex e.condition.key r.made.length r.index⟩ key id = r.watches key id := by
      intro id hid
      simp only [watches, event?]
      rw [List.getElem?_append_left (h.bounded id hid)]
    rw [bucketOf_enterIndex, h.bucket, List.filter_append, List.filter_congr old]
    by_cases hk : key = e.condition.key
    · simp [hk, watches, event?]
    · simp [hk, watches, event?, Ne.symm hk]

-- ============================================================================
-- Single changes
-- ============================================================================

variable {reg : EventRegistry α}

theorem event?_detach [DecidableEq α] (reg : EventRegistry α) (id other : Nat) (action : α) :
    (reg.detach id action).1.event? other
      = if id = other then (reg.event? other).map fun e => (e.detach action).1
        else reg.event? other := by
  unfold detach
  cases he : reg.event? id with
  | some e =>
    dsimp only
    rw [event?_modify]
    split
    · rename_i heq
      subst heq
      simp [he]
    · rfl
  | none =>
    dsimp only
    split
    · rename_i heq
      subst heq
      simp [he]
    · rfl

/-- After a removal an event waits with no other actions than before. -/
theorem exists_event_of_detach [DecidableEq α] {reg : EventRegistry α} {id other : Nat} {action : α}
    {e' : Event α} (h : (reg.detach id action).1.event? other = some e') :
    ∃ e, reg.event? other = some e ∧ e'.condition = e.condition ∧ e'.actions.Sublist e.actions := by
  unfold detach at h
  split at h
  · rename_i e he
    rw [event?_modify] at h
    split at h
    · rename_i heq
      subst heq
      rw [he] at h
      obtain rfl := Option.some.inj h
      exact ⟨e, he, rfl, List.erase_sublist⟩
    · exact ⟨e', h, rfl, .refl _⟩
  · exact ⟨e', h, rfl, .refl _⟩

theorem registered_detach [DecidableEq α] (reg : EventRegistry α) (id : Nat) (action : α) :
    (reg.detach id action).1.registered = reg.registered := by
  unfold detach
  split <;> rfl

theorem event?_remove (reg : EventRegistry α) (id other : Nat) :
    (reg.remove id).1.event? other = reg.event? other := by
  unfold remove
  split
  · split <;> rfl
  · rfl

theorem event?_prune (reg : EventRegistry α) (id other : Nat) :
    (reg.prune id).1.event? other = reg.event? other := by
  unfold prune
  split
  · split
    · exact event?_remove reg id other
    · rfl
  · rfl

/-- An event is dropped if no action waits for it; the others stay. -/
theorem mem_registered_prune (nodup : reg.registered.Nodup) {id other : Nat} {e : Event α}
    (he : reg.event? id = some e) :
    other ∈ (reg.prune id).1.registered
      ↔ other ∈ reg.registered ∧ (other = id → e.actions ≠ []) := by
  unfold prune remove
  simp only [he]
  by_cases idle : e.actions = []
  · rw [if_pos (by simp [idle])]
    by_cases known : id ∈ reg.registered
    · simp [known, nodup.mem_erase_iff, idle, and_comm]
    · simp only [if_neg known, idle, ne_eq, not_true_eq_false, imp_false]
      exact ⟨fun h => ⟨h, fun heq => known (heq ▸ h)⟩, And.left⟩
  · rw [if_neg (by simpa using idle)]
    simp [idle]

/-- The registry with a new event for a condition. -/
def created (reg : EventRegistry α) (c : Condition) : EventRegistry α where
  made := reg.made ++ [{ condition := c }]
  registered := reg.registered ++ [reg.made.length]
  index := enterIndex c.key reg.made.length reg.index

theorem event?_created (reg : EventRegistry α) (c : Condition) (id : Nat) :
    (reg.created c).event? id
      = if id = reg.made.length then some { condition := c } else reg.event? id := by
  unfold event? created
  rcases Nat.lt_trichotomy id reg.made.length with before | rfl | beyond
  · rw [List.getElem?_append_left before, if_neg (Nat.ne_of_lt before)]
  · simp
  · rw [if_neg (Nat.ne_of_gt beyond), List.getElem?_eq_none (by simp; omega),
      List.getElem?_eq_none (by omega)]

theorem find?_eq_some {c : Condition} {id : Nat} (h : reg.find? c = some id) :
    id ∈ reg.registered ∧ ∃ e, reg.event? id = some e ∧ e.condition.same c = true := by
  unfold find? at h
  have watches := List.find?_some h
  exact ⟨List.mem_of_find?_eq_some h, (Option.any_eq_true _ _).1 watches⟩

theorem contains_iff {c : Condition} :
    reg.contains c = true
      ↔ ∃ id ∈ reg.registered, ∃ e, reg.event? id = some e ∧ e.condition.same c = true := by
  unfold contains find?
  rw [List.find?_isSome]
  simp only [Option.any_eq_true]

end EventRegistry

end HomeAutomation
