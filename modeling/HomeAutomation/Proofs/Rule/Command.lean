/-
  HomeAutomation.Proofs.Rule.Command

  Reading of commands.  Parameters are put in their places one after the other;
  what becomes of all of them is said at once: which of them is the brightness,
  and where the others are in the end.  A command is read if and only if its
  words write it.
-/

import HomeAutomation.Proofs.Rule.Grammar

namespace HomeAutomation.ActionSpec

open Text

-- ============================================================================
-- The brightness
-- ============================================================================

theorem percentage?_eq_some_iff {word : String} (percent : isPercentage word = true)
    {level : Int} : percentage? word = some level ↔ Percentage word level := by
  constructor
  · intro h
    unfold percentage? at h
    obtain ⟨value, number, h⟩ := Option.bind_eq_some_iff.1 h
    split at h
    · rename_i within
      rw [Bool.and_eq_true] at within
      have last : word.toList.getLast? = some '%' := by simpa [isPercentage] using percent
      obtain ⟨numeral, chars⟩ := List.getLast?_eq_some_iff.1 last
      refine ⟨_, value, ?_, finiteNumber?_eq_some_iff.1 number, within.1, within.2, h⟩
      rw [← String.toList_inj, String.toList_append, String.toList_ofList, chars,
        List.dropLast_concat]
      rfl
    · cases h
  · rintro ⟨numeral, value, rfl, number, low, high, whole⟩
    have prior : String.ofList (numeral ++ "%").toList.dropLast = numeral := by simp
    unfold percentage?
    rw [prior, finiteNumber?_eq_some_iff.2 number]
    simp [low, high, whole]

-- ============================================================================
-- The other parameters
-- ============================================================================

/-- An action with a parameter that is not its brightness. -/
def place (a : ActionSpec) (word : String) : ActionSpec :=
  match finiteNumber? word with
  | some value =>
    if a.temperature.isNone then { a with temperature := some value }
    else { a with extras := a.extras ++ [word] }
  | none =>
    if a.mode.isNone then { a with mode := some word }
    else { a with extras := a.extras ++ [word] }

/-- The words that find no place, when there is a temperature or a mode already. -/
def leftOver (temperature mode : Bool) (ws : List String) : List String :=
  let others := if temperature then ws else ws.eraseP isNumeral
  if mode then others else others.eraseP (!isNumeral ·)

theorem isNumeral_eq_true_iff {word : String} :
    isNumeral word = true ↔ ∃ value, finiteNumber? word = some value :=
  Option.isSome_iff_exists

@[simp] theorem place_device (a : ActionSpec) (word : String) : (a.place word).device = a.device := by
  unfold place
  split <;> split <;> rfl

@[simp] theorem place_brightness (a : ActionSpec) (word : String) :
    (a.place word).brightness = a.brightness := by
  unfold place
  split <;> split <;> rfl

/-- Where parameters are in the end. -/
theorem foldl_place (a : ActionSpec) (ws : List String) :
    ws.foldl place a = { a with
      temperature := a.temperature.or (ws.findSome? finiteNumber?)
      mode := a.mode.or (ws.find? (!isNumeral ·))
      extras := a.extras ++ leftOver a.temperature.isSome a.mode.isSome ws } := by
  induction ws generalizing a with
  | nil =>
    obtain ⟨device, location, power, temperature, mode, brightness, extras⟩ := a
    cases temperature <;> cases mode <;> simp [leftOver]
  | cons word rest ih =>
    rw [List.foldl_cons, ih]
    cases number : finiteNumber? word with
    | some value =>
      have numeral : isNumeral word = true := isNumeral_eq_true_iff.2 ⟨value, number⟩
      cases ht : a.temperature <;> cases hm : a.mode <;>
        simp [place, leftOver, number, numeral, ht, hm]
    | none =>
      have other : isNumeral word = false := by rw [isNumeral, number]; rfl
      cases ht : a.temperature <;> cases hm : a.mode <;>
        simp [place, leftOver, number, other, ht, hm]

-- ============================================================================
-- All parameters
-- ============================================================================

theorem addParameter_percentage {a : ActionSpec} {word : String} (light : a.device = .light)
    (dark : a.brightness = none) (percent : isPercentage word = true) :
    addParameter a word = match percentage? word with
      | some level => .ok { a with brightness := some level }
      | none => .error (.badBrightness word) := by
  cases level : percentage? word <;> simp [addParameter, light, dark, percent, level]

theorem addParameter_place {a : ActionSpec} {word : String}
    (h : a.device = .light → a.brightness = none → isPercentage word = false) :
    addParameter a word = .ok (a.place word) := by
  have other : ¬ (a.device = .light && a.brightness.isNone && isPercentage word) = true := by
    simp only [Bool.and_eq_true, decide_eq_true_eq, Option.isNone_iff_eq_none]
    rintro ⟨⟨light, dark⟩, percent⟩
    rw [h light dark] at percent
    cases percent
  unfold addParameter place
  rw [if_neg other]
  cases finiteNumber? word <;> dsimp only <;> split <;> rfl

/-- Without a brightness to be found, every parameter is put in its place. -/
theorem foldlM_addParameter_place {a : ActionSpec} {ws : List String}
    (h : ∀ word ∈ ws, a.device = .light → a.brightness = none → isPercentage word = false) :
    ws.foldlM addParameter a = .ok (ws.foldl place a) := by
  induction ws generalizing a with
  | nil => rfl
  | cons word rest ih =>
    have tail : ∀ next ∈ rest, (a.place word).device = .light → (a.place word).brightness = none →
        isPercentage next = false := by
      intro next hn
      rw [place_device, place_brightness]
      exact h next (List.mem_cons_of_mem _ hn)
    rw [List.foldlM_cons, addParameter_place (h word List.mem_cons_self)]
    exact ih tail

/-- What becomes of all parameters. -/
theorem foldlM_addParameter {a : ActionSpec} (dark : a.brightness = none) (ws : List String) :
    ws.foldlM addParameter a = match levelWord? a.device ws with
      | none => .ok ((plainWords a.device ws).foldl place a)
      | some word =>
        match percentage? word with
        | some level =>
          .ok { (plainWords a.device ws).foldl place a with brightness := some level }
        | none => .error (.badBrightness word) := by
  by_cases light : a.device = .light
  · unfold levelWord? plainWords
    rw [if_pos light, if_pos light]
    induction ws generalizing a with
    | nil => rfl
    | cons word rest ih =>
      cases percent : isPercentage word with
      | true =>
        rw [List.foldlM_cons, addParameter_percentage light dark percent, List.find?_cons, percent,
          List.eraseP_cons_of_pos percent]
        dsimp only
        cases percentage? word with
        | none => rfl
        | some level =>
          -- further words with a percent sign are placed like any others
          have placed : rest.foldlM addParameter { a with brightness := some level }
              = .ok (rest.foldl place { a with brightness := some level }) := by
            apply foldlM_addParameter_place
            intro _ _ _ bright
            cases bright
          refine placed.trans ?_
          rw [foldl_place, foldl_place]
      | false =>
        rw [List.foldlM_cons, addParameter_place fun _ _ => percent, List.find?_cons, percent,
          List.eraseP_cons_of_neg (by simp [percent]), List.foldl_cons]
        exact ih (by rw [place_brightness]; exact dark) (by rw [place_device]; exact light)
  · unfold levelWord? plainWords
    rw [if_neg light, if_neg light]
    exact foldlM_addParameter_place fun _ _ device => absurd device light

/-- Parameters are read as those of an action if they are dealt with as the grammar says. -/
theorem foldlM_addParameter_eq_ok_iff {device : DeviceKind} {location : String} {power : Bool}
    {ws : List String} {a : ActionSpec} :
    ws.foldlM addParameter ({ device, location, power } : ActionSpec) = .ok a ↔
      a.device = device ∧ a.location = location ∧ a.power = power ∧ a.Dealt ws := by
  have percent {device : DeviceKind} {word : String} (level : levelWord? device ws = some word) :
      isPercentage word = true := by
    unfold levelWord? at level
    split at level
    · exact List.find?_some level
    · cases level
  have placed := foldl_place ({ device, location, power } : ActionSpec) (plainWords device ws)
  rw [foldlM_addParameter rfl, placed]
  dsimp only
  constructor
  · intro h
    cases level : levelWord? device ws with
    | none =>
      rw [level] at h
      cases h
      refine ⟨rfl, rfl, rfl, ?_, rfl, rfl, rfl⟩
      rw [level]
      exact .none
    | some word =>
      rw [level] at h
      dsimp only at h
      cases value : percentage? word with
      | none =>
        rw [value] at h
        cases h
      | some whole =>
        rw [value] at h
        cases h
        refine ⟨rfl, rfl, rfl, ?_, rfl, rfl, rfl⟩
        rw [level]
        exact .some ((percentage?_eq_some_iff (percent level)).1 value)
  · rintro ⟨rfl, rfl, rfl, dealt⟩
    obtain ⟨device, location, power, temperature, mode, brightness, extras⟩ := a
    obtain ⟨bright, heat, style, more⟩ := dealt
    dsimp only at bright heat style more ⊢
    rw [heat, style, more]
    cases level : levelWord? device ws with
    | none =>
      rw [level] at bright
      cases bright
      rfl
    | some word =>
      rw [level] at bright
      cases bright with
      | some whole =>
        dsimp only
        rw [(percentage?_eq_some_iff (percent level)).2 whole]
        rfl

-- ============================================================================
-- Commands
-- ============================================================================

/-- Words are split at the first that switches. -/
theorem splitPower?_eq_some_iff {ws before after : List String} {power : Bool} :
    splitPower? ws = some (before, power, after) ↔
      ∃ word, (word, power) ∈ powerWords ∧ ws = before ++ word :: after ∧
        ∀ w ∈ before, powerOfWord? w = none := by
  induction ws generalizing before with
  | nil => simp [splitPower?]
  | cons word rest ih =>
    cases switch : powerOfWord? word with
    | some on =>
      rw [splitPower?, switch]
      constructor
      · intro h
        cases h
        exact ⟨word, powerOfWord?_eq_some_iff.1 switch, rfl, by simp⟩
      · rintro ⟨other, known, split, unpowered⟩
        cases before with
        | nil =>
          obtain ⟨rfl, rfl⟩ := List.cons.inj split
          obtain rfl := Option.some.inj (switch.symm.trans (powerOfWord?_eq_some_iff.2 known))
          rfl
        | cons first more =>
          obtain ⟨rfl, -⟩ := List.cons.inj split
          rw [unpowered word List.mem_cons_self] at switch
          cases switch
    | none =>
      rw [splitPower?, switch]
      dsimp only
      rw [Option.map_eq_some_iff]
      constructor
      · rintro ⟨⟨more, on, others⟩, tail, same⟩
        cases same
        obtain ⟨other, known, rfl, unpowered⟩ := ih.1 tail
        exact ⟨other, known, rfl, List.forall_mem_cons.2 ⟨switch, unpowered⟩⟩
      · rintro ⟨other, known, split, unpowered⟩
        cases before with
        | nil =>
          obtain ⟨rfl, -⟩ := List.cons.inj split
          rw [powerOfWord?_eq_some_iff.2 known] at switch
          cases switch
        | cons first more =>
          obtain ⟨rfl, rfl⟩ := List.cons.inj split
          have tail := ih.2 ⟨other, known, rfl, fun w hw => unpowered w (List.mem_cons_of_mem _ hw)⟩
          exact ⟨_, tail, rfl⟩

theorem checkRange_eq_ok_iff {range : SetPointRange} {a b : ActionSpec} :
    checkRange range a = .ok b ↔
      a = b ∧ ∀ t, b.device = .ac → b.temperature = some t → range.contains t = true := by
  unfold checkRange
  split
  · rename_i t heat
    split
    · rename_i outside
      simp only [Bool.and_eq_true, decide_eq_true_eq, Bool.not_eq_true'] at outside
      refine iff_of_false (by simp) ?_
      rintro ⟨rfl, within⟩
      rw [within t outside.1 heat] at outside
      cases outside.2
    · rename_i inside
      constructor
      · intro h
        cases h
        refine ⟨rfl, fun t' device heat' => ?_⟩
        obtain rfl := Option.some.inj (heat.symm.trans heat')
        simpa [device] using inside
      · rintro ⟨rfl, -⟩
        rfl
  · rename_i cold
    constructor
    · intro h
      cases h
      refine ⟨rfl, fun t _ heat => ?_⟩
      rw [cold] at heat
      cases heat
    · rintro ⟨rfl, -⟩
      rfl

section Commands

variable {range : SetPointRange} {given : String}

/-- A command is taken apart at the word that switches; the word before it is for the device. -/
theorem ofWords_append {front parameters : List String} {device power : String}
    {kind : DeviceKind} {on : Bool} (isWord : ∀ w ∈ front, IsWord w.toList) (named : given ≠ "")
    (known : (device, kind) ∈ deviceWords) (switch : (power, on) ∈ powerWords)
    (unpowered : ∀ w ∈ front ++ [device], powerOfWord? w = none) :
    ofWords range given (front ++ device :: power :: parameters)
      = (parameters.foldlM addParameter
          { device := kind, location := if front = [] then given else unwords front, power := on })
        >>= checkRange range := by
  have split : splitPower? (front ++ device :: power :: parameters)
      = some (front ++ [device], on, parameters) :=
    splitPower?_eq_some_iff.2 ⟨power, switch, by simp, unpowered⟩
  have filled : (if (unwords front).isEmpty then given else unwords front)
      = if front = [] then given else unwords front := by
    by_cases h : front = []
    · rw [h]
      rfl
    · have : unwords front ≠ "" := fun empty => h ((unwords_eq_empty isWord).1 empty)
      rw [if_neg h, if_neg (by simpa using this)]
  have located : (if front = [] then given else unwords front) ≠ "" := by
    split
    · exact named
    · rename_i h
      exact fun empty => h ((unwords_eq_empty isWord).1 empty)
  unfold ofWords
  rw [split]
  dsimp only
  rw [List.getLast?_concat]
  dsimp only
  rw [deviceOfWord?_eq_some_iff.2 known]
  dsimp only
  rw [List.dropLast_concat, filled, if_neg (by simpa using located)]

/-- What is read as a command has a word that switches, with one for a device before it. -/
theorem exists_append_of_ofWords {ws : List String} {a : ActionSpec}
    (h : ofWords range given ws = .ok a) :
    ∃ front device power parameters kind on, ws = front ++ device :: power :: parameters ∧
      (device, kind) ∈ deviceWords ∧ (power, on) ∈ powerWords ∧
      ∀ w ∈ front ++ [device], powerOfWord? w = none := by
  unfold ofWords at h
  split at h
  · cases h
  · rename_i before on parameters split
    obtain ⟨power, switch, rfl, unpowered⟩ := splitPower?_eq_some_iff.1 split
    split at h
    · cases h
    · rename_i device last
      obtain ⟨front, rfl⟩ := List.getLast?_eq_some_iff.1 last
      split at h
      · cases h
      · rename_i kind known
        exact ⟨front, device, power, parameters, kind, on, by simp,
          deviceOfWord?_eq_some_iff.1 known, switch, unpowered⟩

/-- The words before the first that switches do not switch. -/
theorem isLeast_power_iff {before : List String} {power : String} {on : Bool}
    (switch : (power, on) ∈ powerWords) (after : List String) :
    IsLeast {k | ∃ word on, (before ++ power :: after)[k]? = some word ∧ (word, on) ∈ powerWords}
        before.length ↔ ∀ w ∈ before, powerOfWord? w = none := by
  constructor
  · rintro ⟨-, least⟩ w hw
    rw [Option.eq_none_iff_forall_ne_some]
    intro on' known
    obtain ⟨k, hk, rfl⟩ := List.getElem_of_mem hw
    have := least ⟨before[k], on', by rw [List.getElem?_append_left hk, List.getElem?_eq_getElem hk],
      powerOfWord?_eq_some_iff.1 known⟩
    omega
  · intro unpowered
    refine ⟨⟨power, on, by simp, switch⟩, ?_⟩
    rintro k ⟨word, on', at_k, known⟩
    by_contra earlier
    have hk : k < before.length := by omega
    rw [List.getElem?_append_left hk] at at_k
    have none := unpowered word (List.mem_of_getElem? at_k)
    rw [powerOfWord?_eq_some_iff.2 known] at none
    cases none

/-- What is read as a command is what its words write. -/
theorem ofWords_append_eq_ok_iff {front parameters : List String} {device power : String}
    {kind : DeviceKind} {on : Bool} (isWord : ∀ w ∈ front, IsWord w.toList) (named : given ≠ "")
    (known : (device, kind) ∈ deviceWords) (switch : (power, on) ∈ powerWords)
    (unpowered : ∀ w ∈ front ++ [device], powerOfWord? w = none) {a : ActionSpec} :
    ofWords range given (front ++ device :: power :: parameters) = .ok a ↔
      Written range given (front ++ device :: power :: parameters) (front.length + 1) a := by
  have at_power : (front ++ device :: power :: parameters)[front.length + 1]? = some power := by
    simp
  have at_device : (front ++ device :: power :: parameters)[front.length + 1 - 1]? = some device := by
    simp
  have behind : (front ++ device :: power :: parameters).drop (front.length + 1 + 1)
      = parameters := by
    rw [List.append_cons, List.append_cons]
    exact List.drop_left' (by simp)
  rw [ofWords_append isWord named known switch unpowered]
  constructor
  · intro h
    obtain ⟨b, placed, checked⟩ := bind_eq_ok_iff.1 h
    obtain ⟨rfl, within⟩ := checkRange_eq_ok_iff.1 checked
    obtain ⟨rfl, located, rfl, dealt⟩ := foldlM_addParameter_eq_ok_iff.1 placed
    refine ⟨?_, ⟨power, at_power, switch⟩, ⟨device, by omega, at_device, known⟩, ?_, ?_, within⟩
    · have least := (isLeast_power_iff switch parameters).2 unpowered
      simpa using least
    · simpa using located
    · rw [behind]
      exact dealt
  · intro h
    obtain ⟨word, at_power', switch'⟩ := h.power
    obtain rfl := Option.some.inj (at_power.symm.trans at_power')
    obtain ⟨word', -, at_device', known'⟩ := h.device
    obtain rfl := Option.some.inj (at_device.symm.trans at_device')
    obtain rfl : kind = a.device :=
      Option.some.inj ((deviceOfWord?_eq_some_iff.2 known).symm.trans
        (deviceOfWord?_eq_some_iff.2 known'))
    obtain rfl : on = a.power :=
      Option.some.inj ((powerOfWord?_eq_some_iff.2 switch).symm.trans
        (powerOfWord?_eq_some_iff.2 switch'))
    have dealt : parameters.foldlM addParameter
        ({ device := a.device, location := if front = [] then given else unwords front,
           power := a.power } : ActionSpec) = .ok a := by
      rw [foldlM_addParameter_eq_ok_iff]
      have dealt := h.dealt
      rw [behind] at dealt
      exact ⟨rfl, by simpa using h.location, rfl, dealt⟩
    rw [dealt]
    exact checkRange_eq_ok_iff.2 ⟨rfl, h.range⟩

/-- A command is read from words if they write it. -/
theorem ofWords_eq_ok_iff {ws : List String} (isWord : ∀ w ∈ ws, IsWord w.toList)
    (named : given ≠ "") {a : ActionSpec} :
    ofWords range given ws = .ok a ↔ ∃ p, Written range given ws p a := by
  constructor
  · intro h
    obtain ⟨front, device, power, parameters, kind, on, rfl, known, switch, unpowered⟩ :=
      exists_append_of_ofWords h
    have isWord' : ∀ w ∈ front, IsWord w.toList := fun w hw => isWord w (by simp [hw])
    exact ⟨_, (ofWords_append_eq_ok_iff isWord' named known switch unpowered).1 h⟩
  · rintro ⟨p, h⟩
    obtain ⟨power, at_power, switch⟩ := h.power
    obtain ⟨device, positive, at_device, known⟩ := h.device
    obtain ⟨k, rfl⟩ : ∃ k, p = k + 1 := ⟨p - 1, by omega⟩
    have short : k < ws.length := (List.getElem?_eq_some_iff.1 at_device).1
    have before : ws.take (k + 1) = ws.take k ++ [device] := by
      rw [List.take_add_one, show ws[k]? = some device from at_device]
      rfl
    have split : ws = ws.take k ++ device :: power :: ws.drop (k + 2) := by
      have := eq_take_append at_power
      rw [before] at this
      simpa using this
    have length : (ws.take k).length = k := by
      rw [List.length_take]
      omega
    have unpowered : ∀ w ∈ ws.take k ++ [device], powerOfWord? w = none := by
      rw [← isLeast_power_iff switch (ws.drop (k + 2)), List.length_append, length,
        List.append_assoc]
      have least := h.first
      rw [split] at least
      exact least
    have isWord' : ∀ w ∈ ws.take k, IsWord w.toList := fun w hw =>
      isWord w (List.mem_of_mem_take hw)
    rw [split] at h ⊢
    refine (ofWords_append_eq_ok_iff isWord' named known switch unpowered).2 ?_
    rw [length]
    exact h

/-- A command is read from a text of normal words if they write it. -/
theorem parse_unwords_eq_ok_iff {ws : List String} (normal : ∀ w ∈ ws, IsNormal w)
    (named : given ≠ "") {a : ActionSpec} :
    parse range (unwords ws) given = .ok a ↔ ∃ p, Written range given ws p a := by
  rw [← ofWords_eq_ok_iff (fun w hw => (normal w hw).isWord) named]
  unfold parse
  rw [normalWords_unwords normal]
  generalize ofWords range given ws = result
  cases result with
  | error fault => simp [Except.mapError]
  | ok b => simp [Except.mapError]

end Commands

end HomeAutomation.ActionSpec
