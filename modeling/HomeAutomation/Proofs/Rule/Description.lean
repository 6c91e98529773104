/-
  HomeAutomation.Proofs.Rule.Description

  Descriptions read back.  A condition that was read is described by a text that
  is read as the same condition, but for a threshold of more digits than the text
  shows; and a command that was read is described by a text that is read as the
  same command, if its location is a name and its temperature is one that the
  text shows.  The parameters stand in the description in another order than they
  were given in, and they find their places all the same.
-/

import HomeAutomation.Proofs.Number.Layout
import HomeAutomation.Proofs.Rule.Command
import HomeAutomation.Proofs.Rule.Limits
import HomeAutomation.Proofs.Rule.Parameters
import HomeAutomation.Proofs.Rule.Spelling

namespace HomeAutomation

open Text

-- ============================================================================
-- Words of descriptions
-- ============================================================================

theorem normalWords_of_isNormal {word : String} (h : IsNormal word) :
    normalWords word = [word] := by
  have written : normalWords (unwords [word]) = [word] := normalWords_unwords (by simpa using h)
  rwa [show unwords [word] = word by simp [unwords, joinWords]] at written

/-- The words of texts with a space between two of them. -/
theorem normalWords_intercalate (texts : List String) :
    normalWords (" ".intercalate texts) = texts.flatMap normalWords := by
  induction texts with
  | nil => rfl
  | cons text rest ih =>
    cases rest with
    | nil => simp
    | cons next more =>
      rw [String.intercalate_cons_cons, normalWords_append_space, ih]
      rfl

/-- The characters of written numerals and percentages have one case. -/
theorem isSettled_of_mem_chars : ∀ c ∈ '%' :: Number.Figures.chars,
    isBlank c = false ∧ IsSettled c ∧ c ∉ Condition.signChars :=
  forall_mem_of_all (by decide +kernel)

theorem isNormal_of_chars {word : String} (filled : word ≠ "")
    (h : ∀ c ∈ word.toList, c ∈ '%' :: Number.Figures.chars) : IsNormal word := by
  refine ⟨⟨by simpa using filled, fun c hc => (isSettled_of_mem_chars c (h c hc)).1⟩, fun c hc =>
    (isSettled_of_mem_chars c (h c hc)).2.1⟩

/-- A finite number is described by one word, which denotes a number. -/
theorem denotes_brief {t : Double} (finite : t.isFinite = true) :
    IsNormal t.brief ∧ ∃ t', Denotes t.brief t' := by
  cases t with
  | nan | infinite => cases finite
  | finite negative rank =>
    obtain ⟨f, valid, written, read⟩ := Double.exists_figures_brief negative rank
    rw [written]
    refine ⟨isNormal_of_chars ?_ fun c hc =>
      List.mem_cons_of_mem _ (Number.Figures.mem_chars_of_mem_signed valid hc), _,
      Number.Figures.readDouble?_signed valid negative, read⟩
    have := (Number.Figures.isWord_signed valid negative).filled
    simpa using this

-- ============================================================================
-- Conditions
-- ============================================================================

namespace Condition

theorem ofWords_of_parse {text : String} {c : Condition} (h : parse text = .ok c) :
    ofWords (sourceWords text) = .ok c := by
  unfold parse at h
  dsimp only at h
  cases result : ofWords (sourceWords text) with
  | error fault =>
    rw [result] at h
    cases h
  | ok c' =>
    rw [result] at h
    exact congrArg Except.ok (Except.ok.inj h)

theorem parse_of_written {text : String} {c : Condition} (h : Written (sourceWords text) c) :
    parse text = .ok c := by
  unfold parse
  dsimp only
  rw [h.ofWords]
  rfl

section Location

variable {ws : List String} {text : String} (read : ∀ w ∈ ws, w ∈ sourceWords text)
include read

theorem normalWords_location : normalWords (unwords ws) = ws :=
  normalWords_unwords fun w hw => isNormal_of_mem_sourceWords (read w hw)

/-- A location that was read is read as the same. -/
theorem ruleLocation_location : ruleLocation (unwords ws) = unwords ws := by
  rw [ruleLocation, normalWords_location read, flatMap_signWords_sourceWords read]

/-- Words that stay as they are, and a location after them. -/
theorem sourceWords_append_location {start : String} (before : List String)
    (words : normalWords start = before) (whole : before.flatMap signWords = before) :
    sourceWords (start ++ " " ++ unwords ws) = before ++ ws := by
  rw [sourceWords_eq, normalWords_append_space, words, normalWords_location read,
    List.flatMap_append, whole, flatMap_signWords_sourceWords read]

/-- A condition on motion is described by the words that write it. -/
theorem parse_describe_motion (filled : ws ≠ []) (expected : Bool) :
    parse (motion (unwords ws) expected).describe = .ok (motion (unwords ws) expected) := by
  refine parse_of_written ?_
  cases expected with
  | true =>
    have text : (motion (unwords ws) true).describe = "motion in" ++ " " ++ unwords ws := by
      simp [describe, describe?, motion, isMotion]
    rw [text, sourceWords_append_location read ["motion", "in"] (by decide +kernel)
      (by decide +kernel)]
    exact .motion filled
  | false =>
    have text : (motion (unwords ws) false).describe = "no motion in" ++ " " ++ unwords ws := by
      simp [describe, describe?, motion, isMotion]
    rw [text, sourceWords_append_location read ["no", "motion", "in"]
      (by decide +kernel) (by decide +kernel)]
    exact .noMotion filled

/-- A comparison is described by a spelling of it, but for the digits of its threshold that are not
    shown. -/
theorem parse_describe_compare (filled : ws ≠ []) {word metric : String}
    (known : (word, metric) ∈ metricWords) (comparison : Comparison) {t t' : Double}
    (shown : IsNormal t.brief) (number : Denotes t.brief t') :
    (compare metric comparison t (unwords ws)).describe?
        = some (compare metric comparison t (unwords ws)).describe ∧
      parse (compare metric comparison t (unwords ws)).describe
        = .ok (compare metric comparison t' (unwords ws)) := by
  have named : ∀ entry ∈ metricWords,
      (entry.2, entry.2) ∈ metricWords ∧ entry.2 ≠ motionMetric := by
    decide
  obtain ⟨named, other⟩ := named (word, metric) known
  have text : (compare metric comparison t (unwords ws)).describe?
      = some (metric ++ " " ++ comparison.symbol ++ " " ++ t.brief ++ " in " ++ unwords ws) := by
    have unmoved : (compare metric comparison t (unwords ws)).isMotion = false := by
      simpa [isMotion, compare] using other
    rw [describe?, unmoved]
    rfl
  refine ⟨by rw [describe, text]; rfl, ?_⟩
  let spelling : Spelling metric t' :=
    { word := metric, numeral := t.brief, place := unwords ws, left := " ", right := " "
      known := named, isWord := shown.isWord, number
      filled := by rwa [normalWords_location read]
      blank := by decide
      apart := by decide }
  have spelled :
      spelling.text comparison = (compare metric comparison t (unwords ws)).describe := by
    rw [describe, text]
    simp [spelling, Spelling.text, String.append_assoc]
  have parsed := spelling.parse_eq comparison (congrArg lower spelled.symm)
  rwa [show spelling.place = unwords ws from rfl, ruleLocation_location read] at parsed

end Location

/-- A condition that was read is described by words that are read as the condition, but for the
    digits of its threshold that are not shown. -/
theorem parse_describe {text : String} {c : Condition} (h : parse text = .ok c) :
    c.describe? = some c.describe ∧ ∃ threshold,
      Option.Rel (fun t t' => Number.readDouble? t.brief = some t') c.threshold threshold ∧
      parse c.describe = .ok { c with threshold } := by
  have written := written_of_ofWords (ofWords_of_parse h)
  generalize words : sourceWords text = ws at written
  cases written with
  | @motion location filled =>
    have read : ∀ w ∈ location, w ∈ sourceWords text := fun w hw => by simp [words, hw]
    exact ⟨rfl, none, .none, parse_describe_motion read filled true⟩
  | @noMotion location filled =>
    have read : ∀ w ∈ location, w ∈ sourceWords text := fun w hw => by simp [words, hw]
    exact ⟨rfl, none, .none, parse_describe_motion read filled false⟩
  | @compare word metric numeral threshold location known comparison number filled =>
    have read : ∀ w ∈ location, w ∈ sourceWords text := fun w hw => by simp [words, hw]
    obtain ⟨shown, threshold', number'⟩ := denotes_brief number.2
    obtain ⟨described, parsed⟩ :=
      parse_describe_compare read filled known comparison shown number'
    exact ⟨described, some threshold', .some number'.1, parsed⟩

end Condition

-- ============================================================================
-- Commands
-- ============================================================================

namespace ActionSpec

/-- The parameters in the description of a command. -/
def shownParameters (a : ActionSpec) : List String :=
  (a.brightness.map fun level => toString level ++ "%").toList
    ++ ((a.temperature.map Double.brief).toList ++ (a.mode.toList ++ a.extras))

/-- A percentage is written by its digits. -/
theorem percentage_toString {level : Int} (h : 0 ≤ level ∧ level ≤ 100) :
    IsNormal (toString level ++ "%") ∧ isPercentage (toString level ++ "%") = true ∧
      Percentage (toString level ++ "%") level := by
  obtain ⟨n, rfl⟩ := Int.eq_ofNat_of_zero_le h.1
  have whole := Decimal.truncate?_toDouble (show n < 2 ^ 53 by omega)
  have low : Double.le 0 ((⟨n, 0⟩ : Decimal).toDouble false) = true := by
    rw [show (0 : Double) = (⟨0, 0⟩ : Decimal).toDouble false by decide +kernel]
    exact Decimal.toDouble_le (by simp [Decimal.value])
  have high : ((⟨n, 0⟩ : Decimal).toDouble false).le 100 = true := by
    rw [show (100 : Double) = (⟨100, 0⟩ : Decimal).toDouble false by decide +kernel]
    exact Decimal.toDouble_le (by simpa [Decimal.value] using mod_cast h.2)
  set digits : Number.Figures := ⟨Nat.toDigits 10 n, [], none⟩
  have valid : digits.Valid := Number.valid_toDigits n
  have written : toString (n : Int) = Double.signed false digits.text := Number.toString_eq_signed n
  have decimal : digits.decimal = ⟨n, 0⟩ := by
    simp [digits, Number.Figures.decimal, Number.digitsValue_toDigits]
  have read := Number.Figures.readDouble?_signed valid false
  rw [← written, decimal] at read
  have finite : ((⟨n, 0⟩ : Decimal).toDouble false).isFinite = true := by
    cases value : (⟨n, 0⟩ : Decimal).toDouble false with
    | finite => rfl
    | nan | infinite => simp [value, Double.truncate?] at whole
  refine ⟨isNormal_of_chars (by simp) fun c hc => ?_, by simp [isPercentage],
    _, _, rfl, ⟨read, finite⟩, low, high, whole⟩
  rw [String.toList_append, List.mem_append] at hc
  rcases hc with hc | hc
  · rw [written] at hc
    exact List.mem_cons_of_mem _ (Number.Figures.mem_chars_of_mem_signed valid hc)
  · simp_all

theorem findSome?_finiteNumber?_eq_none {ws : List String}
    (h : ∀ word ∈ ws, isNumeral word = false) : ws.findSome? finiteNumber? = none :=
  List.findSome?_eq_none_iff.2 fun word hw => by simpa [isNumeral] using h word hw

/-- A numeral if there is one, another word if there is one, and what is left over: each is found
    again in its place. -/
theorem places_of_sorted (heat style : Option String) (extras : List String)
    (numeral : ∀ word ∈ heat, isNumeral word = true)
    (plain : ∀ word ∈ style, isNumeral word = false)
    (noHeat : heat = none → ∀ word ∈ extras, isNumeral word = false)
    (noStyle : style = none → ∀ word ∈ extras, isNumeral word = true) :
    (heat.toList ++ (style.toList ++ extras)).findSome? finiteNumber? = heat.bind finiteNumber? ∧
    (heat.toList ++ (style.toList ++ extras)).find? (!isNumeral ·) = style ∧
    ((heat.toList ++ (style.toList ++ extras)).eraseP isNumeral).eraseP (!isNumeral ·)
      = extras := by
  -- without a word of its own a kind has none among those left over
  have afterHeat : (style.toList ++ extras).find? (!isNumeral ·) = style ∧
      (style.toList ++ extras).eraseP (!isNumeral ·) = extras := by
    cases style with
    | none =>
      have all := noStyle rfl
      exact ⟨List.find?_eq_none.2 fun word hw => by simp [all word hw],
        List.eraseP_of_forall_not fun word hw => by simp [all word hw]⟩
    | some word => simp [plain word rfl]
  cases heat with
  | none =>
    have none : ∀ word ∈ style.toList ++ extras, isNumeral word = false := by
      intro word hw
      rcases List.mem_append.1 hw with hw | hw
      · exact plain word (Option.mem_toList.1 hw)
      · exact noHeat rfl word hw
    refine ⟨findSome?_finiteNumber?_eq_none none, afterHeat.1, ?_⟩
    rw [Option.toList_none, List.nil_append,
      List.eraseP_of_forall_not (p := isNumeral) fun word hw => by simp [none word hw]]
    exact afterHeat.2
  | some word =>
    have number := numeral word rfl
    obtain ⟨value, read⟩ := isNumeral_eq_true_iff.1 number
    refine ⟨by simp [read], ?_, ?_⟩
    · simpa [number] using afterHeat.1
    · simpa [number] using afterHeat.2

section Dealt

variable {parameters : List String} {a : ActionSpec} (dealt : a.Dealt parameters)
include dealt

theorem Dealt.mem_plainWords {word : String} (h : word ∈ a.mode.toList ++ a.extras) :
    word ∈ plainWords a.device parameters := by
  rcases List.mem_append.1 h with style | extra
  · exact List.mem_of_find?_eq_some (dealt.mode.symm.trans (Option.mem_toList.1 style))
  · exact List.mem_of_mem_eraseP (List.mem_of_mem_eraseP (dealt.extras ▸ extra))

/-- Without a brightness none of the parameters of a light has a percent sign. -/
theorem Dealt.unlit (light : a.device = .light) (dark : a.brightness = none) {word : String}
    (h : word ∈ a.mode.toList ++ a.extras) : isPercentage word = false := by
  have related := dealt.brightness
  have kept := dealt.mem_plainWords h
  unfold levelWord? at related
  unfold plainWords at kept
  rw [dark, if_pos light] at related
  rw [if_pos light] at kept
  cases found : parameters.find? isPercentage with
  | some level =>
    rw [found] at related
    cases related
  | none => simpa using List.find?_eq_none.1 found word (List.mem_of_mem_eraseP kept)

/-- In its description the brightness of a light is the first word with a percent sign. -/
theorem Dealt.level_shown (numeral : ∀ t, a.temperature = some t → isNumeral t.brief = true) :
    plainWords a.device a.shownParameters
        = (a.temperature.map Double.brief).toList ++ (a.mode.toList ++ a.extras) ∧
      Option.Rel Percentage (levelWord? a.device a.shownParameters) a.brightness := by
  have related := dealt.brightness
  by_cases light : a.device = .light
  · unfold plainWords levelWord?
    rw [if_pos light, if_pos light]
    cases bright : a.brightness with
    | some level =>
      obtain ⟨-, percent, reads⟩ := percentage_toString (dealt.brightness_between bright)
      simp only [shownParameters, bright, Option.map_some, Option.toList_some, List.cons_append,
        List.nil_append, List.eraseP_cons_of_pos percent, List.find?_cons_of_pos percent]
      exact ⟨trivial, .some reads⟩
    | none =>
      have unlit : ∀ word ∈ (a.temperature.map Double.brief).toList ++ (a.mode.toList ++ a.extras),
          isPercentage word = false := by
        intro word hw
        rcases List.mem_append.1 hw with heat | other
        · obtain ⟨t, ht, rfl⟩ := Option.map_eq_some_iff.1 (Option.mem_toList.1 heat)
          rw [Bool.eq_false_iff]
          intro percent
          have := numeral t ht
          rw [isNumeral_of_isPercentage percent] at this
          cases this
        · exact dealt.unlit light bright other
      simp only [shownParameters, bright, Option.map_none, Option.toList_none, List.nil_append]
      rw [List.eraseP_of_forall_not fun word hw => by simp [unlit word hw],
        List.find?_eq_none.2 fun word hw => by simp [unlit word hw]]
      exact ⟨rfl, .none⟩
  · unfold levelWord? at related
    rw [if_neg light] at related
    unfold plainWords levelWord?
    rw [if_neg light, if_neg light]
    refine ⟨?_, related⟩
    generalize bright : a.brightness = brightness at related
    cases related
    rw [shownParameters, bright]
    rfl

/-- The parameters in the description of a command find the places that they had, whatever their
    order was. -/
theorem Dealt.shown (exact : ∀ t, a.temperature = some t → Number.readDouble? t.brief = some t) :
    a.Dealt a.shownParameters := by
  have heat : ∀ t, a.temperature = some t → finiteNumber? t.brief = some t := fun t ht =>
    finiteNumber?_eq_some_iff.2 ⟨exact t ht, dealt.isFinite_temperature ht⟩
  have numeral : ∀ t, a.temperature = some t → isNumeral t.brief = true := fun t ht =>
    isNumeral_eq_true_iff.2 ⟨t, heat t ht⟩
  have extras {word : String} (hw : word ∈ a.extras) : word ∈ plainWords a.device parameters :=
    dealt.mem_plainWords (List.mem_append_right _ hw)
  obtain ⟨first, second, rest⟩ := places_of_sorted (a.temperature.map Double.brief) a.mode
    a.extras (by
      intro word hw
      obtain ⟨t, ht, rfl⟩ := Option.map_eq_some_iff.1 hw
      exact numeral t ht) (by
      intro word hw
      have found := List.find?_some (dealt.mode.symm.trans hw)
      simpa using found) (by
      intro none word hw
      rw [Option.map_eq_none_iff, dealt.temperature, List.findSome?_eq_none_iff] at none
      simp [isNumeral, none word (extras hw)]) (by
      intro none word hw
      rw [dealt.mode, List.find?_eq_none] at none
      simpa using none word (extras hw))
  obtain ⟨plain, level⟩ := dealt.level_shown numeral
  refine ⟨level, ?_, ?_, ?_⟩
  · rw [plain, first]
    cases ht : a.temperature with
    | none => rfl
    | some t => exact (heat t ht).symm
  · rw [plain, second]
  · rw [plain, rest]

end Dealt

section Commands

variable {range : SetPointRange} {given text : String} {a : ActionSpec}

/-- What is read as a command names a location, and its temperature is within the range. -/
theorem checked_of_ofWords {ws : List String} (h : ofWords range given ws = .ok a) :
    a.location ≠ "" ∧ checkRange range a = .ok a := by
  unfold ofWords at h
  split at h
  · cases h
  · split at h
    · cases h
    · split at h
      · cases h
      · dsimp only at h
        generalize (if (unwords _).isEmpty then given else unwords _) = location at h
        split at h
        · cases h
        · rename_i named
          obtain ⟨b, placed, checked⟩ := bind_eq_ok_iff.1 h
          obtain ⟨rfl, within⟩ := checkRange_eq_ok_iff.1 checked
          obtain ⟨-, located, -, -⟩ := foldlM_addParameter_eq_ok_iff.1 placed
          refine ⟨fun empty => named ?_, checked⟩
          rw [← located, empty]
          rfl

/-- A command whose words name a location needs none that is given. -/
theorem ofWords_of_front {front parameters : List String} {device power : String}
    {kind : DeviceKind} {on : Bool} (isWord : ∀ w ∈ front, IsWord w.toList) (named : front ≠ [])
    (known : (device, kind) ∈ deviceWords) (switch : (power, on) ∈ powerWords)
    (unpowered : ∀ w ∈ front ++ [device], powerOfWord? w = none) :
    ofWords range given (front ++ device :: power :: parameters)
      = (parameters.foldlM addParameter
          { device := kind, location := unwords front, power := on }) >>= checkRange range := by
  have split : splitPower? (front ++ device :: power :: parameters)
      = some (front ++ [device], on, parameters) :=
    splitPower?_eq_some_iff.2 ⟨power, switch, by simp, unpowered⟩
  have filled : (unwords front).isEmpty = false := by
    have : unwords front ≠ "" := fun empty => named ((unwords_eq_empty isWord).1 empty)
    simpa using this
  unfold ofWords
  rw [split]
  dsimp only
  rw [List.getLast?_concat]
  dsimp only
  rw [deviceOfWord?_eq_some_iff.2 known]
  simp [filled]

theorem ofWords_of_parse (h : parse range text given = .ok a) :
    ofWords range given (normalWords text) = .ok a := by
  unfold parse at h
  cases result : ofWords range given (normalWords text) with
  | error fault =>
    rw [result] at h
    cases h
  | ok b =>
    rw [result] at h
    exact congrArg Except.ok (Except.ok.inj h)

/-- The parameters in the description of a command are words in normal form. -/
theorem Dealt.isNormal_shown {parameters : List String} (dealt : a.Dealt parameters)
    (normal : ∀ word ∈ parameters, IsNormal word) : ∀ word ∈ a.shownParameters, IsNormal word := by
  intro word hw
  rw [shownParameters, List.mem_append, List.mem_append] at hw
  rcases hw with level | heat | other
  · obtain ⟨level, bright, rfl⟩ := Option.map_eq_some_iff.1 (Option.mem_toList.1 level)
    exact (percentage_toString (dealt.brightness_between bright)).1
  · obtain ⟨t, ht, rfl⟩ := Option.map_eq_some_iff.1 (Option.mem_toList.1 heat)
    exact (denotes_brief (dealt.isFinite_temperature ht)).1
  · have kept := dealt.mem_plainWords other
    unfold plainWords at kept
    split at kept
    · exact normal word (List.mem_of_mem_eraseP kept)
    · exact normal word kept

/-- The words of a description. -/
theorem Dealt.normalWords_describe {parameters : List String} (dealt : a.Dealt parameters)
    (normal : ∀ word ∈ parameters, IsNormal word) :
    normalWords a.describe
      = normalWords a.location ++ a.device.name :: powerWord a.power :: a.shownParameters := by
  have shown := dealt.isNormal_shown normal
  have mode : a.mode.filter (· ≠ "") = a.mode := by
    cases style : a.mode with
    | none => rfl
    | some word =>
      have filled := (shown word (by simp [shownParameters, style])).isWord.filled
      exact Option.filter_some_pos (by simpa using filled)
  have parts : a.parts = a.location :: a.device.name :: powerWord a.power :: a.shownParameters := by
    rw [ActionSpec.parts, mode, shownParameters]
    simp
  have device : normalWords a.device.name = [a.device.name] := by
    cases a.device <;> decide +kernel
  have power : normalWords (powerWord a.power) = [powerWord a.power] := by
    cases a.power <;> decide +kernel
  have others : a.shownParameters.flatMap normalWords = a.shownParameters := by
    rw [List.flatMap_congr fun word hw => normalWords_of_isNormal (shown word hw)]
    exact List.flatMap_singleton' _
  rw [describe, normalWords_intercalate, parts, List.flatMap_cons, List.flatMap_cons,
    List.flatMap_cons, device, power, others]
  rfl

/-- The description of a command that was read is read as the command, if its location is a name
    without a word that switches and its temperature is shown as it is. -/
theorem parse_describe (h : parse range text given = .ok a)
    (normal : Text.normalize a.location = a.location)
    (unpowered : ∀ word ∈ words a.location, word ≠ "on" ∧ word ≠ "off")
    (exact : ∀ t, a.temperature = some t → Number.readDouble? t.brief = some t) (given' : String) :
    parse range a.describe given' = .ok a := by
  have read := ofWords_of_parse h
  obtain ⟨named, checked⟩ := checked_of_ofWords read
  obtain ⟨before, power, parameters, split, -, -, dealt⟩ := exists_dealt_of_ofWords read
  have words := dealt.normalWords_describe fun word hw => by
    have mem : word ∈ normalWords text := by simp [split, hw]
    exact isNormal_of_mem_normalWords mem
  have located : unwords (normalWords a.location) = a.location := normal
  have filled : normalWords a.location ≠ [] := fun none => named (by rw [← located, none]; rfl)
  have isWord : ∀ w ∈ normalWords a.location, IsWord w.toList := fun w hw =>
    (isNormal_of_mem_normalWords hw).isWord
  have known : (a.device.name, a.device) ∈ deviceWords := by
    cases a.device <;> decide
  have switch : (powerWord a.power, a.power) ∈ powerWords := by
    cases a.power <;> decide
  have off : ∀ w ∈ normalWords a.location ++ [a.device.name], powerOfWord? w = none := by
    intro w hw
    rcases List.mem_append.1 hw with hw | hw
    · rw [← words_normalize, normal] at hw
      obtain ⟨on, off⟩ := unpowered w hw
      exact powerOfWord?.eq_3 w on off
    · rw [List.mem_singleton.1 hw]
      cases a.device <;> rfl
  have placed := foldlM_addParameter_eq_ok_iff.2
    ⟨rfl, located.symm, rfl, dealt.shown exact⟩
  unfold parse
  rw [words, ofWords_of_front isWord filled known switch off, placed]
  change (checkRange range a).mapError _ = _
  rw [checked]
  rfl

end Commands

end ActionSpec

/-- Descriptions read back.  A condition that was read has words, and these are read as the
    condition with the threshold that its brief form shows, so that it is the condition itself if
    the form is exact.  A command that was read has words that are read as the command with all its
    fields, if its location is in normal form without a word that switches, and its temperature is
    shown exactly. -/
theorem descriptions_read_back (range : SetPointRange) :
    (∀ text c, Condition.parse text = .ok c →
      c.describe? = some c.describe ∧ ∃ threshold,
        Option.Rel (fun t t' => Number.readDouble? t.brief = some t') c.threshold threshold ∧
        Condition.parse c.describe = .ok { c with threshold } ∧
        ((∀ t, c.threshold = some t → Number.readDouble? t.brief = some t) →
          Condition.parse c.describe = .ok c)) ∧
    ∀ text given a, ActionSpec.parse range text given = .ok a →
      Text.normalize a.location = a.location →
      (∀ word ∈ words a.location, word ≠ "on" ∧ word ≠ "off") →
      (∀ t, a.temperature = some t → Number.readDouble? t.brief = some t) →
      ∀ given', ActionSpec.parse range a.describe given' = .ok a := by
  refine ⟨fun text c h => ?_, fun text given a h => ActionSpec.parse_describe h⟩
  obtain ⟨described, threshold, shown, parsed⟩ := Condition.parse_describe h
  refine ⟨described, threshold, shown, parsed, fun exact => ?_⟩
  have same : threshold = c.threshold := by
    generalize c.threshold = given at shown exact
    cases shown with
    | none => rfl
    | some reads => rw [← reads, exact _ rfl]
  rw [parsed, same]

/-- A condition with a threshold of more than six digits. -/
def warmHall : Condition :=
  .compare "temperature" .atLeast ((⟨301234567, -7⟩ : Decimal).toDouble false) "hall < 2"

/-- The sign is spaced and the digits beyond the sixth are not shown; the parameters of a command
    change their order. -/
theorem descriptions_read_back_hall :
    (∃ threshold, Condition.parse "temperature >= 30.1235 in hall < 2"
      = .ok { warmHall with threshold }) ∧
    ∀ given, ActionSpec.parse ⟨16, 30⟩ "hall light on 50% 21 nan 2_0 50.9% warm" given
      = .ok ActionSpec.brightHall := by
  obtain ⟨conditions, commands⟩ := descriptions_read_back ⟨16, 30⟩
  constructor
  · have read : Condition.parse "temp>=30.1234567 in Hall<2" = .ok warmHall := by decide +kernel
    have words : warmHall.describe = "temperature >= 30.1235 in hall < 2" := by decide +kernel
    obtain ⟨-, threshold, -, parsed, -⟩ := conditions _ _ read
    rw [words] at parsed
    exact ⟨threshold, parsed⟩
  · have read : ActionSpec.parse ⟨16, 30⟩ "Hall lights ON 21 50.9% 2_0 nan 50.9% warm" ""
        = .ok ActionSpec.brightHall := by decide +kernel
    have words : ActionSpec.brightHall.describe = "hall light on 50% 21 nan 2_0 50.9% warm" := by
      decide +kernel
    intro given
    rw [← words]
    refine commands _ _ _ read (by decide +kernel) (by decide +kernel) (fun t heat => ?_) given
    obtain rfl : (21 : Double) = t := Option.some.inj heat
    decide +kernel

end HomeAutomation
