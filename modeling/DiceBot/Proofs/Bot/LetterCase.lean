import DiceBot.Proofs.Bot.Preparation
import DiceBot.Proofs.Chat.MarkedForm
import DiceBot.Proofs.Roll.LetterCase

/-!
# The letter case of a notation does not matter

Payloads that are the same up to the case of ASCII letters are rolled alike, and the replies differ
only where they repeat what the user wrote. Of the rules the markers and the explicit command are
written in small letters; repeat counts and bare dice are recognized in either case.
-/

namespace DiceBot

open Text (foldCase SameLetters)

/-- Whether two rendered texts go to the same people and differ at most in the letter case of the
dice and of the reason, which they repeat as the user wrote them. -/
inductive Rendered.EchoesSame (name : Text) : Rendered → Rendered → Prop
  | intro {plan plan' : RollPlan} (h : plan.RollsSame plan') (rest : Text) (mode : DeliveryMode) :
      EchoesSame name ⟨Reply.attribution name plan.reason ++ plan.display ++ rest, mode⟩
        ⟨Reply.attribution name plan'.reason ++ plan'.display ++ rest, mode⟩

/-- Outcomes are shown alike behind the dice of plans that roll the same. -/
theorem Reply.render_echoesSame (limits : RollLimits) (name : Text) {plan plan' : RollPlan}
    (h : plan.RollsSame plan') (outcomes : List Outcome) (mode : DeliveryMode) :
    Rendered.EchoesSame name ⟨render limits name plan outcomes, mode⟩
      ⟨render limits name plan' outcomes, mode⟩ := by
  unfold render
  rw [h.repeatCount]
  exact .intro h _ mode

/-- Requests with the same letters are evaluated alike, and refused alike or rendered with the same
letters. -/
theorem Bot.prepare_agree {σ : Type} (bot : Bot σ) (player : Player) {payload payload' : Text}
    (hplain : '&' ∉ payload) (h : SameLetters payload payload') (hidden : Bool) (s : σ) :
    let run := bot.prepare player ⟨payload, hidden⟩ s
    let run' := bot.prepare player ⟨payload', hidden⟩ s
    run.calls = run'.calls ∧ run.state = run'.state ∧
      Agree (Rendered.EchoesSame (bot.displayName player)) run.result run'.result := by
  have hplans := RollPlan.ofPayload_agree bot.settings.limits hplain h
  generalize hp : RollPlan.ofPayload bot.settings.limits payload = split at hplans
  generalize hp' : RollPlan.ofPayload bot.settings.limits payload' = split' at hplans
  cases hplans with
  | error e =>
    simp only [prepare, hp, hp', true_and]
    exact .error e
  | @ok plan plan' hsame =>
    simp only [prepare, hp, hp', hsame.evaluateAll_eq]
    cases (bot.evaluator.evaluateAll bot.settings.evaluator plan' s).result with
    | error e => exact ⟨rfl, rfl, .error _⟩
    | ok outcomes => exact ⟨rfl, rfl, .ok (Reply.render_echoesSame _ _ hsame outcomes _)⟩

namespace Recognition

variable {b b' : Text} {r : Recognized}

theorem startsWithRepeatCount_foldCase (b : Text) :
    startsWithRepeatCount (foldCase b) = startsWithRepeatCount b := by
  rw [startsWithRepeatCount, startsWithRepeatCount,
    Text.takeWhile_foldCase Text.isDecimalDigit_toLower,
    Text.dropWhile_foldCase Text.isDecimalDigit_toLower]
  cases b.takeWhile Text.isDecimalDigit with
  | nil => rfl
  | cons d digits =>
    cases b.dropWhile Text.isDecimalDigit with
    | nil => rfl
    | cons c rest =>
      by_cases hc : c = '#'
      · rw [hc]
        rfl
      · have hc' : c.toLower ≠ '#' := (Text.toLower_ne_iff (by decide) c).mpr hc
        simp [hc, hc']

theorem bareDie?_foldCase (b : Text) : bareDie? (foldCase b) = bareDie? b := by
  have hfollows : ∀ t, mayFollowDie (foldCase t) = mayFollowDie t := by
    intro t
    cases t with
    | nil => rfl
    | cons c t =>
      exact Text.apply_toLower
        (f := fun c => Text.isDecimalDigit c || dieFollowers.contains c) (by decide) c
  have hfamily : ∀ c : Char, family? c.toLower = family? c := Text.apply_toLower (by decide)
  rw [bareDie?, bareDie?, Text.dropWhile_foldCase Text.isDecimalDigit_toLower]
  cases b.dropWhile Text.isDecimalDigit with
  | nil => rfl
  | cons c rest => simp only [Text.foldCase_cons, hfollows, hfamily]

/-- A rule that takes the whole body looks at its letters only. -/
theorem Fits.recased (h : SameLetters b b') (hr : TakesAll r.rule) (hfits : Fits b r) :
    Fits b' ⟨r.rule, ⟨b', false⟩⟩ := by
  cases hfits with
  | command => simp [TakesAll] at hr
  | hidden => simp [TakesAll] at hr
  | plain => simp [TakesAll] at hr
  | @repeated digits rest hne hdigits =>
    have hrepeat := startsWithRepeatCount_iff.mpr ⟨digits, rest, hne, hdigits, rfl⟩
    rw [h.apply_eq startsWithRepeatCount_foldCase] at hrepeat
    obtain ⟨digits', rest', hne', hdigits', rfl⟩ := startsWithRepeatCount_iff.mp hrepeat
    exact .repeated hne' hdigits'
  | @die digits rest family c hdigits hfamily hrest =>
    have hdie := bareDie?_eq_some_iff.mpr ⟨digits, c, rest, hdigits, hfamily, hrest, rfl⟩
    rw [h.apply_eq bareDie?_foldCase] at hdie
    obtain ⟨digits', c', rest', hdigits', hfamily', hrest', rfl⟩ := bareDie?_eq_some_iff.mp hdie
    exact .die hdigits' hfamily' hrest'

/-- Only a rule that takes the whole body fits a body that does not begin with the marker of a roll,
and no such rule fits one that does. -/
theorem Fits.takesAll_iff (h : Fits b r) : TakesAll r.rule ↔ b.head? ≠ some 'r' := by
  have hdigit : ∀ {d : Char}, Text.isDecimalDigit d = true → d ≠ 'r' := by
    rintro d hd rfl
    exact absurd hd (by decide)
  cases h with
  | command => simp [TakesAll]
  | hidden => simp [TakesAll]
  | plain => simp [TakesAll]
  | @repeated digits rest hne hdigits =>
    refine iff_of_true (Or.inl rfl) ?_
    obtain ⟨d, digits, rfl⟩ := List.exists_cons_of_ne_nil hne
    simpa using hdigit (hdigits d List.mem_cons_self)
  | @die digits rest family c hdigits hfamily hrest =>
    refine iff_of_true (Or.inr ⟨family, rfl⟩) ?_
    cases digits with
    | nil => simpa using hfamily.of_forall (P := (· ≠ 'r')) (by decide)
    | cons d digits => simpa using hdigit (hdigits d List.mem_cons_self)

/-- The first rule that fits stays the first. A rule that would come before it in the other case
either takes the whole body as well, and then it would have come before it here, or needs the marker
of a roll, which the body does not begin with. -/
theorem ofBody?_recased (h : SameLetters b b') (hr : TakesAll r.rule) (hbody : ofBody? b = some r) :
    ofBody? b' = some ⟨r.rule, ⟨b', false⟩⟩ := by
  obtain ⟨hfits, hfirst⟩ := ofBody?_eq_some_iff.mp hbody
  have hfits' := hfits.recased h hr
  refine ofBody?_eq_some_iff.mpr ⟨hfits', ?_⟩
  intro other hother
  have htakes : TakesAll other.rule := hother.takesAll_iff.mpr (hfits'.takesAll_iff.mp hr)
  have hrank := hfirst _ (hother.recased h.symm htakes)
  exact hrank

end Recognition

namespace Bot

open Recognition (ofBody?)

/-- A message that is left to others is left to them in another letter case, too. -/
theorem passesOn_recased {σ : Type} {bot : Bot σ} {m m' : Message} (hm : m.IsDirected)
    (hm' : m'.IsDirected) (h : SameLetters m.body m'.body)
    (hpasses : ∃ r, m.recognize = some r ∧ bot.passesOn r = true) :
    ∃ r', m'.recognize = some r' ∧ bot.passesOn r' = true := by
  obtain ⟨r, hr, hp⟩ := hpasses
  obtain ⟨family, hrule, -⟩ := passesOn_eq_true_iff.mp hp
  rw [Message.recognize_of_isDirected hm] at hr
  rw [Message.recognize_of_isDirected hm']
  exact ⟨_, Recognition.ofBody?_recased h (Or.inr ⟨family, hrule⟩) hr,
    (bot.passesOn_congr rfl).trans hp⟩

/-- The letter case of a notation never changes what is rolled. Payloads without ampersands that are
the same up to the case of ASCII letters are refused for the same reason, or their plans have the
same repeat count and dice, so every evaluator gives the same results after the same calls; when a
bot prepares them, the rendered texts differ at most in the letter case of the dice and the reason
that they repeat. Bodies that are the same up to the case of ASCII letters are both taken for a
repeat count or neither, and both for a bare die of one family, named by its small letter, or
neither; so the bot leaves both to others or neither. -/
theorem letterCase_irrelevant :
    (∀ payload payload', '&' ∉ payload → SameLetters payload payload' →
      (∀ limits, Agree (fun plan plan' => plan.RollsSame plan' ∧
          ∀ {σ : Type} (evaluator : Evaluator σ) (config : EvaluatorConfig) (s : σ),
            evaluator.evaluateAll config plan s = evaluator.evaluateAll config plan' s)
        (RollPlan.ofPayload limits payload) (RollPlan.ofPayload limits payload')) ∧
      ∀ {σ : Type} (bot : Bot σ) (player : Player) (hidden : Bool) (s : σ),
        let run := bot.prepare player ⟨payload, hidden⟩ s
        let run' := bot.prepare player ⟨payload', hidden⟩ s
        run.calls = run'.calls ∧ run.state = run'.state ∧
          Agree (Rendered.EchoesSame (bot.displayName player)) run.result run'.result) ∧
    ∀ body body', SameLetters body body' →
      (∀ rule, rule = .repeated ∨ (∃ family, rule = .die family) →
        ((∃ request, ofBody? body = some ⟨rule, request⟩) ↔
          ∃ request, ofBody? body' = some ⟨rule, request⟩)) ∧
      (∀ family request, ofBody? body = some ⟨.die family, request⟩ →
        family ∈ ['d', 'p', 'a', 'c', 'f']) ∧
      ∀ {σ : Type} (bot : Bot σ) (m m' : Message), m.IsDirected → m'.IsDirected →
        m.body = body → m'.body = body' →
          ((∃ r, m.recognize = some r ∧ bot.passesOn r = true) ↔
            ∃ r', m'.recognize = some r' ∧ bot.passesOn r' = true) := by
  constructor
  · intro payload payload' hplain h
    constructor
    · intro limits
      refine (RollPlan.ofPayload_agree limits hplain h).imp fun plan plan' hsame => ?_
      exact ⟨hsame, hsame.evaluateAll_eq⟩
    · exact fun bot player hidden s => bot.prepare_agree player hplain h hidden s
  · intro body body' h
    refine ⟨fun rule hrule => ⟨?_, ?_⟩, ?_, ?_⟩
    · rintro ⟨request, hbody⟩
      exact ⟨_, Recognition.ofBody?_recased (r := ⟨rule, request⟩) h hrule hbody⟩
    · rintro ⟨request, hbody⟩
      exact ⟨_, Recognition.ofBody?_recased (r := ⟨rule, request⟩) h.symm hrule hbody⟩
    · intro family request hbody
      cases (Recognition.ofBody?_eq_some_iff.mp hbody).1 with
      | die hdigits hfamily hrest =>
        obtain ⟨letters, hmem, rfl, -⟩ := hfamily
        have hall : ∀ letters ∈ Recognition.familyLetters,
            letters.1 ∈ ['d', 'p', 'a', 'c', 'f'] := by decide
        exact hall letters hmem
    · rintro σ bot m m' hm hm' rfl rfl
      exact ⟨passesOn_recased hm hm' h, passesOn_recased hm' hm h.symm⟩

/-- Two rolls with the repeat count written as a power of ten and with a reason, and bare dice of a
family that the evaluator does not know. -/
theorem letterCase_irrelevant_exponent :
    let payload := "2E0#D6K1 Σ-Boss".toList
    let payload' := "2e0#d6k1 Σ-bOSS".toList
    let body := "2P4".toList
    let body' := "2p4".toList
    let bot : Bot Nat := ⟨.standard, .scripted (· == 'd') [.ok ⟨3, ['3']⟩]⟩
    let player : Player := ⟨"7".toList, "alice".toList, none, none⟩
    let run := bot.prepare player ⟨payload, false⟩ 0
    let run' := bot.prepare player ⟨payload', false⟩ 0
    (('&' ∉ payload ∧ SameLetters payload payload') ∧ run.calls = run'.calls ∧
      Agree (Rendered.EchoesSame "alice".toList) run.result run'.result) ∧
    (SameLetters body body' ∧ Message.IsDirected ⟨'.' :: body, some ['.'], false⟩ ∧
      Message.IsDirected ⟨body', none, true⟩ ∧
      ((∃ r, Message.recognize ⟨'.' :: body, some ['.'], false⟩ = some r ∧ bot.passesOn r = true) ↔
        ∃ r', Message.recognize ⟨body', none, true⟩ = some r' ∧ bot.passesOn r' = true)) := by
  intro payload payload' body body' bot player run run'
  have hplain : '&' ∉ payload := by decide
  have hsame : SameLetters payload payload' := by unfold SameLetters; decide
  have hbody : SameLetters body body' := by unfold SameLetters; decide
  have hm : Message.IsDirected ⟨'.' :: body, some ['.'], false⟩ := Or.inl rfl
  have hm' : Message.IsDirected ⟨body', none, true⟩ := Or.inr rfl
  obtain ⟨hpayloads, hbodies⟩ := letterCase_irrelevant
  obtain ⟨hcalls, -, hagree⟩ := (hpayloads payload payload' hplain hsame).2 bot player false 0
  have hgate := (hbodies body body' hbody).2.2 bot _ _ hm hm' rfl rfl
  exact ⟨⟨⟨hplain, hsame⟩, hcalls, hagree⟩, hbody, hm, hm', hgate⟩

end Bot

end DiceBot
