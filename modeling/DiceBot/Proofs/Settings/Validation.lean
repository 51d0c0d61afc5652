import DiceBot.Chat.Message
import DiceBot.Proofs.Settings.Defaults
import DiceBot.Proofs.Text.Words

/-!
# Validating configurations

A configuration has three possible faults, and the first in order is the one that is reported. One
without faults is accepted, and each of its settings is the value given, or the standard one exactly
where none is given; only empty prefixes and a blank name are not taken over. So accepted settings
allow a roll, and looking for a command prefix never stops at an empty one.
-/

namespace DiceBot

namespace Configuration

/-- Whether a configuration has the fault with a place in the order of reporting and a message. -/
inductive HasFault (c : Configuration) : Nat → String → Prop
  | noRolls {roll : RollSection} (hroll : c.roll = some roll) (hzero : roll.maxRollTimes = some 0) :
      HasFault c 0 "invalid config: max_roll_times must be at least 1"
  | noNameSource {roll : RollSection} (hroll : c.roll = some roll)
      (hempty : roll.nameOrder = some []) :
      HasFault c 1 "invalid config: display_name_order must list at least one source"
  | noDefaultDice {config : EvaluatorConfig} (hconfig : c.evaluator = some config)
      (hzero : config.defaults.count = 0 ∨ config.defaults.faces = 0) :
      HasFault c 2 "invalid config: evaluator.d.count and evaluator.d.faces must be at least 1"

/-- Whether a configuration has a fault with this message and none before it. -/
def HasFirstFault (c : Configuration) (message : String) : Prop :=
  ∃ rank, c.HasFault rank message ∧ ∀ rank' message', c.HasFault rank' message' → rank ≤ rank'

/-- Whether settings are those of a configuration, completed by the standard ones. -/
structure Completes (c : Configuration) (s : Settings) : Prop where
  maxRollTimes : Filled 10 (c.roll.bind RollSection.maxRollTimes) s.limits.maxRollTimes
  maxDetailsSize : Filled 500 (c.roll.bind RollSection.maxDetailsSize) s.limits.maxDetailsSize
  nameOrder : Filled [.configured, .nickname, .username] (c.roll.bind RollSection.nameOrder)
    s.nameOrder
  /-- The prefixes are those that are listed but the empty ones, in the same order. -/
  prefixes : ∃ listed, Filled [['.'], ['。']] (c.chat.bind ChatSection.prefixes) listed ∧
    s.prefixes = listed.filter (· ≠ [])
  /-- A blank name is replaced; any other is taken over with the blanks around it. -/
  botName : ∃ name, Filled "dicer".toList (c.chat.bind ChatSection.botName) name ∧
    s.botName = if Text.isBlank name then "dicer".toList else name
  evaluator : Filled ⟨100, ⟨1, 100⟩⟩ c.evaluator s.evaluator

/-- What validation comes to. -/
inductive Verdict (c : Configuration) : Except InvalidConfiguration Settings → Prop
  | refused {fault : InvalidConfiguration} (hfault : c.HasFirstFault fault.message) :
      Verdict c (.error fault)
  | accepted {s : Settings} (hsound : ∀ rank message, ¬c.HasFault rank message)
      (hs : c.Completes s) : Verdict c (.ok s)

variable {c : Configuration}

theorem HasFault.unique {rank : Nat} {message message' : String} (h : c.HasFault rank message)
    (h' : c.HasFault rank message') : message = message' := by
  cases h <;> cases h' <;> rfl

/-- The limits are refused exactly if no rolls are allowed. -/
theorem limits_eq_error_iff {e : LimitsError} :
    c.limits = .error e ↔ ∃ roll, c.roll = some roll ∧ roll.maxRollTimes = some 0 := by
  have hcheck : c.limits = .error e ↔
      (c.roll.bind RollSection.maxRollTimes).getD RollLimits.standard.maxRollTimes = 0 := by
    obtain ⟨⟩ := e
    rw [limits, RollLimits.check]
    split
    · next hpos =>
      simp only [reduceCtorEq, false_iff]
      intro hzero
      rw [hzero] at hpos
      exact absurd hpos (by decide)
    · next hpos =>
      simp only [true_iff]
      exact UInt32.toNat_inj.mp (Nat.eq_zero_of_not_pos hpos)
  rw [hcheck, ← Option.bind_eq_some_iff]
  cases c.roll.bind RollSection.maxRollTimes with
  | none => simp [RollLimits.standard]
  | some times => simp

theorem nameOrder_eq_nil_iff :
    c.nameOrder = [] ↔ ∃ roll, c.roll = some roll ∧ roll.nameOrder = some [] := by
  rw [nameOrder, ← Option.bind_eq_some_iff]
  cases c.roll.bind RollSection.nameOrder with
  | none => simp [NameSource.standardOrder]
  | some order => simp

theorem evaluatorConfig_zero_iff :
    (c.evaluatorConfig.defaults.count = 0 ∨ c.evaluatorConfig.defaults.faces = 0) ↔
      ∃ config, c.evaluator = some config ∧
        (config.defaults.count = 0 ∨ config.defaults.faces = 0) := by
  rw [evaluatorConfig]
  cases c.evaluator with
  | none => simp [EvaluatorConfig.standard, DiceDefaults.standard]
  | some config => simp

/-- Limits that pass are the given ones. -/
theorem limits_eq_ok {limits : RollLimits} (h : c.limits = .ok limits) :
    Filled 10 (c.roll.bind RollSection.maxRollTimes) limits.maxRollTimes ∧
      Filled 500 (c.roll.bind RollSection.maxDetailsSize) limits.maxDetailsSize := by
  rw [Configuration.limits, RollLimits.check] at h
  split at h
  · obtain rfl := Except.ok.inj h
    exact ⟨filled_iff.mpr rfl, filled_iff.mpr rfl⟩
  · cases h

/-- The settings that are made of a configuration whose limits pass are those of the
configuration. -/
theorem completes_of_limits {limits : RollLimits} (h : c.limits = .ok limits) :
    c.Completes ⟨limits, c.nameOrder, c.prefixes, c.botName, c.evaluatorConfig⟩ := by
  obtain ⟨htimes, hsize⟩ := limits_eq_ok h
  refine ⟨htimes, hsize, filled_iff.mpr rfl, ⟨_, filled_iff.mpr rfl, ?_⟩,
    ⟨_, filled_iff.mpr rfl, ?_⟩, filled_iff.mpr rfl⟩
  · apply List.filter_congr
    intro lead _
    cases lead <;> rfl
  · simp only [botName, Settings.standardBotName]
    cases c.chat.bind ChatSection.botName with
    | none => exact (if_neg (by decide)).symm
    | some name => cases hblank : Text.isBlank name <;> simp [Option.filter, hblank]

/-- A configuration determines its settings. -/
theorem Completes.unique {s s' : Settings} (h : c.Completes s) (h' : c.Completes s') : s = s' := by
  obtain ⟨limits, nameOrder, prefixes, botName, evaluator⟩ := s
  obtain ⟨limits', nameOrder', prefixes', botName', evaluator'⟩ := s'
  obtain ⟨maxRollTimes, maxDetailsSize, hpos⟩ := limits
  obtain ⟨maxRollTimes', maxDetailsSize', hpos'⟩ := limits'
  obtain rfl := (filled_iff.mp h.maxRollTimes).trans (filled_iff.mp h'.maxRollTimes).symm
  obtain rfl := (filled_iff.mp h.maxDetailsSize).trans (filled_iff.mp h'.maxDetailsSize).symm
  obtain rfl := (filled_iff.mp h.nameOrder).trans (filled_iff.mp h'.nameOrder).symm
  obtain rfl := (filled_iff.mp h.evaluator).trans (filled_iff.mp h'.evaluator).symm
  obtain ⟨listed, hlisted, rfl⟩ := h.prefixes
  obtain ⟨listed', hlisted', rfl⟩ := h'.prefixes
  obtain rfl := (filled_iff.mp hlisted).trans (filled_iff.mp hlisted').symm
  obtain ⟨name, hname, rfl⟩ := h.botName
  obtain ⟨name', hname', rfl⟩ := h'.botName
  obtain rfl := (filled_iff.mp hname).trans (filled_iff.mp hname').symm
  rfl

/-- Every configuration is refused for its first fault, or accepted with its settings. The case
split follows the order in which the faults are looked for. -/
theorem verdict (c : Configuration) : Verdict c c.settings := by
  rw [settings]
  cases hlimits : c.limits with
  | error e =>
    obtain ⟨roll, hroll, hzero⟩ := limits_eq_error_iff.mp hlimits
    exact .refused ⟨0, .noRolls hroll hzero, fun _ _ _ => Nat.zero_le _⟩
  | ok limits =>
    have hrolls : ¬∃ roll, c.roll = some roll ∧ roll.maxRollTimes = some 0 := by
      rw [← @limits_eq_error_iff c .zeroRollTimes, hlimits]
      exact fun h => by cases h
    by_cases hnames : c.nameOrder = []
    · obtain ⟨roll, hroll, hempty⟩ := nameOrder_eq_nil_iff.mp hnames
      simp only [hnames, List.isEmpty_nil, if_true]
      refine .refused ⟨1, .noNameSource hroll hempty, ?_⟩
      intro rank message hfault
      cases hfault with
      | noRolls hroll hzero => exact absurd ⟨_, hroll, hzero⟩ hrolls
      | noNameSource hroll hempty => exact Nat.le_refl 1
      | noDefaultDice hconfig hzero => exact Nat.le_succ 1
    · simp only [List.isEmpty_iff, hnames, if_false, evaluatorConfig_zero_iff]
      rw [nameOrder_eq_nil_iff] at hnames
      split
      · next hdice =>
        obtain ⟨config, hconfig, hzero⟩ := hdice
        refine .refused ⟨2, .noDefaultDice hconfig hzero, ?_⟩
        intro rank message hfault
        cases hfault with
        | noRolls hroll hzero => exact absurd ⟨_, hroll, hzero⟩ hrolls
        | noNameSource hroll hempty => exact absurd ⟨_, hroll, hempty⟩ hnames
        | noDefaultDice hconfig hzero => exact Nat.le_refl 2
      · next hdice =>
        refine .accepted ?_ (completes_of_limits hlimits)
        intro rank message hfault
        cases hfault with
        | noRolls hroll hzero => exact hrolls ⟨_, hroll, hzero⟩
        | noNameSource hroll hempty => exact hnames ⟨_, hroll, hempty⟩
        | noDefaultDice hconfig hzero => exact hdice ⟨_, hconfig, hzero⟩

/-- The message that is reported is that of the first fault. -/
theorem settings_eq_error_iff {message : String} :
    (∃ fault, c.settings = .error fault ∧ fault.message = message) ↔ c.HasFirstFault message := by
  have h := c.verdict
  generalize c.settings = result at h
  cases h with
  | @refused fault hfault =>
    constructor
    · rintro ⟨fault', hfault', rfl⟩
      obtain rfl := Except.error.inj hfault'
      exact hfault
    · rintro ⟨rank, hhas, hfirst⟩
      obtain ⟨rank', hhas', hfirst'⟩ := hfault
      obtain rfl : rank' = rank := Nat.le_antisymm (hfirst' _ _ hhas) (hfirst _ _ hhas')
      exact ⟨fault, rfl, hhas'.unique hhas⟩
  | accepted hsound hs =>
    constructor
    · rintro ⟨fault, hfault, -⟩
      cases hfault
    · rintro ⟨rank, hhas, -⟩
      exact absurd hhas (hsound rank message)

/-- A configuration is accepted exactly if it has no fault. -/
theorem exists_settings_iff :
    (∃ s, c.settings = .ok s) ↔ ∀ rank message, ¬c.HasFault rank message := by
  have h := c.verdict
  generalize c.settings = result at h
  cases h with
  | @refused fault hfault =>
    obtain ⟨rank, hhas, -⟩ := hfault
    constructor
    · rintro ⟨s, hs⟩
      cases hs
    · exact fun hnone => absurd hhas (hnone rank _)
  | @accepted s hsound hs => exact ⟨fun _ => hsound, fun _ => ⟨s, rfl⟩⟩

/-- Settings are accepted exactly if there is no fault and they are those of the configuration. -/
theorem settings_eq_ok_iff {s : Settings} :
    c.settings = .ok s ↔ (∀ rank message, ¬c.HasFault rank message) ∧ c.Completes s := by
  have h := c.verdict
  generalize c.settings = result at h
  cases h with
  | @refused fault hfault =>
    obtain ⟨rank, hhas, -⟩ := hfault
    simp only [reduceCtorEq, false_iff]
    exact fun h => h.1 rank _ hhas
  | @accepted s' hsound hs =>
    rw [Except.ok.injEq]
    constructor
    · rintro rfl
      exact ⟨hsound, hs⟩
    · exact fun h => hs.unique h.2

end Configuration

/-- Whether settings allow a roll and name a bot, and no prefix of theirs is empty. -/
structure Settings.IsUsable (s : Settings) : Prop where
  maxRollTimes : 1 ≤ s.limits.maxRollTimes.toNat
  nameOrder : s.nameOrder ≠ []
  prefixes : [] ∉ s.prefixes
  botName : Text.isBlank s.botName = false
  count : 1 ≤ s.evaluator.defaults.count.toNat
  faces : 1 ≤ s.evaluator.defaults.faces.toNat

theorem Configuration.isUsable_of_settings {c : Configuration} {s : Settings}
    (h : c.settings = .ok s) : s.IsUsable := by
  obtain ⟨hsound, hs⟩ := settings_eq_ok_iff.mp h
  have hdice : ∀ config, c.evaluator = some config →
      config.defaults.count ≠ 0 ∧ config.defaults.faces ≠ 0 := by
    intro config hconfig
    rw [← not_or]
    exact fun hzero => hsound _ _ (.noDefaultDice hconfig hzero)
  have hpositive : s.evaluator.defaults.count ≠ 0 ∧ s.evaluator.defaults.faces ≠ 0 := by
    rw [filled_iff.mp hs.evaluator]
    cases hconfig : c.evaluator with
    | none => exact ⟨by decide, by decide⟩
    | some config => exact hdice config hconfig
  refine ⟨s.limits.one_le_maxRollTimes, ?_, ?_, ?_, ?_, ?_⟩
  · have horder := hs.nameOrder
    intro hempty
    rw [hempty, filled_iff] at horder
    obtain ⟨roll, hroll, hnames⟩ := nameOrder_eq_nil_iff.mp horder.symm
    exact hsound _ _ (.noNameSource hroll hnames)
  · obtain ⟨listed, -, hprefixes⟩ := hs.prefixes
    rw [hprefixes, List.mem_filter]
    exact fun hmem => absurd hmem.2 (by decide)
  · obtain ⟨name, -, hname⟩ := hs.botName
    rw [hname]
    split
    · decide
    · next hblank => exact Bool.eq_false_iff.mpr hblank
  · exact Nat.pos_of_ne_zero fun hzero => hpositive.1 (UInt32.toNat_inj.mp hzero)
  · exact Nat.pos_of_ne_zero fun hzero => hpositive.2 (UInt32.toNat_inj.mp hzero)

/-- Whether a prefix is the first of some prefixes that a text begins with. -/
def Text.IsFirstPrefix (prefixes : List Text) (t lead : Text) : Prop :=
  ∃ before after rest, prefixes = before ++ lead :: after ∧ t = lead ++ rest ∧
    ∀ other ∈ before, ∀ rest', t ≠ other ++ rest'

namespace Message

variable {prefixes : List Text}

/-- A prefix that is not empty is passed over exactly if the text does not begin with it. -/
theorem isPassedOver_iff {lead : Text} (hne : lead ≠ []) (text : Text) :
    (!lead.isEmpty && (Text.after? lead (Text.trimStart text)).isSome) = false ↔
      ∀ rest, Text.trimStart text ≠ lead ++ rest := by
  rw [List.isEmpty_eq_false_iff.mpr hne, Bool.not_false, Bool.true_and, Option.isSome_eq_false_iff,
    Option.isNone_iff_eq_none, Option.eq_none_iff_forall_ne_some]
  exact forall_congr' fun rest => not_congr Text.after?_eq_some_iff

/-- Among prefixes that are not empty, the first that a text begins with is found. -/
theorem matchPrefix?_eq_some_iff (h : [] ∉ prefixes) {text lead : Text} :
    matchPrefix? prefixes text = some lead ↔
      Text.IsFirstPrefix prefixes (Text.trimStart text) lead := by
  have hne : ∀ other ∈ prefixes, other ≠ [] := fun other hother hempty => h (hempty ▸ hother)
  rw [matchPrefix?, List.find?_eq_some_iff_append]
  constructor
  · rintro ⟨hlead, before, after, rfl, hbefore⟩
    rw [← Bool.not_eq_false, isPassedOver_iff (hne lead (by simp))] at hlead
    obtain ⟨rest, hrest⟩ := Classical.not_forall_not.mp hlead
    refine ⟨before, after, rest, rfl, hrest, ?_⟩
    intro other hother
    rw [← isPassedOver_iff (hne other (List.mem_append_left _ hother)), ← Bool.not_eq_true']
    exact hbefore other hother
  · rintro ⟨before, after, rest, rfl, hrest, hbefore⟩
    refine ⟨?_, before, after, rfl, ?_⟩
    · rw [← Bool.not_eq_false, isPassedOver_iff (hne lead (by simp))]
      exact fun hnone => hnone rest hrest
    · intro other hother
      rw [Bool.not_eq_true', isPassedOver_iff (hne other (List.mem_append_left _ hother))]
      exact hbefore other hother

/-- No prefix is found exactly if the text begins with none. -/
theorem matchPrefix?_eq_none_iff (h : [] ∉ prefixes) {text : Text} :
    matchPrefix? prefixes text = none ↔
      ∀ lead ∈ prefixes, ∀ rest, Text.trimStart text ≠ lead ++ rest := by
  rw [matchPrefix?, List.find?_eq_none]
  apply forall₂_congr
  intro lead hlead
  rw [Bool.not_eq_true]
  exact isPassedOver_iff (fun hempty => h (hempty ▸ hlead)) text

end Message

/-- For every configuration: it is refused with the message of its first fault, and accepted exactly
if it has none; the settings are then the values given, completed by the standard ones. Where it
was read from a document, this holds of the numbers of the evaluator one by one. Accepted settings
allow a roll, name a bot and have no empty prefix, so of a text without its leading blanks the first
prefix listed that it begins with is found, if there is one. -/
theorem Configuration.settings_exact (c : Configuration) :
    (∀ message, (∃ fault, c.settings = .error fault ∧ fault.message = message) ↔
      c.HasFirstFault message) ∧
    ((∃ s, c.settings = .ok s) ↔ ∀ rank message, ¬c.HasFault rank message) ∧
    (∀ entries, ofEntries? entries = some c → c.EvaluatorGivenBy entries) ∧
    ∀ s, c.settings = .ok s → c.Completes s ∧ s.IsUsable ∧
      ∀ text, ∃ t, Text.StartsAt text t ∧
        (∀ lead, Message.matchPrefix? s.prefixes text = some lead ↔
          Text.IsFirstPrefix s.prefixes t lead) ∧
        (Message.matchPrefix? s.prefixes text = none ↔
          ∀ lead ∈ s.prefixes, ∀ rest, t ≠ lead ++ rest) := by
  refine ⟨fun message => settings_eq_error_iff, exists_settings_iff,
    fun _ => evaluatorGivenBy_of_ofEntries?, ?_⟩
  intro s hs
  have husable := isUsable_of_settings hs
  refine ⟨(settings_eq_ok_iff.mp hs).2, husable, ?_⟩
  intro text
  exact ⟨Text.trimStart text, Text.startsAt_trimStart text,
    fun lead => Message.matchPrefix?_eq_some_iff husable.prefixes,
    Message.matchPrefix?_eq_none_iff husable.prefixes⟩

end DiceBot
