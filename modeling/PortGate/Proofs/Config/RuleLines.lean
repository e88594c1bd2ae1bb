import Mathlib.Data.List.Basic
import Mathlib.Data.List.TakeWhile
import PortGate.Proofs.Config.LineByLine
import PortGate.Proofs.Text.Lines

/-! The rule lines of a configuration, and what one line contributes. A line that is text and holds no
rule contributes nothing. One that holds a rule contributes it when it reads, and when it does not,
the policy decides. -/

namespace PortGate
open Text

/-- The rule that a line holds, if it holds one: what is left of it without a carriage return at the
end and without blanks in front, when that begins with an action. -/
def ruleText? (line : List UInt8) : Option String :=
  match (decode? line).map ConfigLine.prepare with
  | some rule => if ConfigLine.beginsLikeRule rule.toList then some rule else none
  | none => none

def HoldsRule (line : List UInt8) (rule : String) : Prop :=
  ("allow".toList <+: rule.toList ∨ "deny".toList <+: rule.toList) ∧
    ∃ indent : List Char, (∀ c ∈ indent, isBlank c = true) ∧
      ((line = encode (String.ofList (indent ++ rule.toList)) ∧
          rule.toList.getLast? ≠ some '\r') ∨
        line = encode (String.ofList (indent ++ rule.toList ++ ['\r'])))

theorem beginsLikeRule_iff {chars : List Char} :
    ConfigLine.beginsLikeRule chars = true ↔
      "allow".toList <+: chars ∨ "deny".toList <+: chars := by
  rw [ConfigLine.beginsLikeRule, Bool.or_eq_true, List.isPrefixOf_iff_prefix,
    List.isPrefixOf_iff_prefix]

theorem dropWhile_of_begins {rule : List Char}
    (h : "allow".toList <+: rule ∨ "deny".toList <+: rule) : rule.dropWhile isBlank = rule := by
  rcases h with ⟨more, rfl⟩ | ⟨more, rfl⟩ <;> rfl

theorem ne_nil_of_begins {rule : List Char}
    (h : "allow".toList <+: rule ∨ "deny".toList <+: rule) : rule ≠ [] := by
  rcases h with ⟨more, rfl⟩ | ⟨more, rfl⟩ <;> simp

theorem ruleText?_eq_some_iff_prepare {line : List UInt8} {rule : String} :
    ruleText? line = some rule ↔
      ∃ text, encode text = line ∧ ConfigLine.prepare text = rule ∧
        ConfigLine.beginsLikeRule rule.toList = true := by
  unfold ruleText?
  constructor
  · intro h
    cases hdecode : decode? line with
    | none => rw [hdecode] at h; cases h
    | some text =>
      rw [hdecode] at h
      dsimp only [Option.map_some] at h
      split at h
      · rename_i hbegins
        have hrule : ConfigLine.prepare text = rule := Option.some.inj h
        rw [hrule] at hbegins
        exact ⟨text, decode?_eq_some_iff.1 hdecode, hrule, hbegins⟩
      · cases h
  · rintro ⟨text, rfl, rfl, hbegins⟩
    rw [decode?_encode]
    exact if_pos hbegins

theorem ruleText?_eq_some_iff {line : List UInt8} {rule : String} :
    ruleText? line = some rule ↔ HoldsRule line rule := by
  rw [ruleText?_eq_some_iff_prepare]
  constructor
  · rintro ⟨text, rfl, hrule, hbegins⟩
    rw [beginsLikeRule_iff] at hbegins
    have hne := ne_nil_of_begins hbegins
    have hchars := congrArg String.toList hrule
    rw [ConfigLine.prepare, toList_trimStart, String.toList_ofList] at hchars
    have hblank (chars : List Char) : ∀ c ∈ chars.takeWhile isBlank, isBlank c = true :=
      fun c hc => List.mem_takeWhile_imp hc
    split at hchars
    · rename_i hlast
      obtain ⟨start, hstart⟩ := List.getLast?_eq_some_iff.1 hlast
      rw [hstart, List.dropLast_concat] at hchars
      refine ⟨hbegins, start.takeWhile isBlank, hblank start, .inr ?_⟩
      rw [← hchars, List.takeWhile_append_dropWhile, ← hstart, String.ofList_toList]
    · rename_i hlast
      have htext : text.toList.takeWhile isBlank ++ rule.toList = text.toList := by
        rw [← hchars, List.takeWhile_append_dropWhile]
      refine ⟨hbegins, text.toList.takeWhile isBlank, hblank text.toList, .inl ⟨?_, ?_⟩⟩
      · rw [htext, String.ofList_toList]
      · rwa [← htext, List.getLast?_append_of_ne_nil _ hne] at hlast
  · rintro ⟨hbegins, indent, hindent, ⟨rfl, hlast⟩ | rfl⟩
    · have hne := ne_nil_of_begins hbegins
      refine ⟨_, rfl, ?_, beginsLikeRule_iff.2 hbegins⟩
      rw [ConfigLine.prepare, String.toList_ofList, if_neg, trimStart, String.toList_ofList,
        List.dropWhile_append_of_pos hindent, dropWhile_of_begins hbegins, String.ofList_toList]
      rwa [List.getLast?_append_of_ne_nil _ hne]
    · refine ⟨_, rfl, ?_, beginsLikeRule_iff.2 hbegins⟩
      rw [ConfigLine.prepare, String.toList_ofList, if_pos (by simp), List.dropLast_concat, trimStart,
        String.toList_ofList, List.dropWhile_append_of_pos hindent, dropWhile_of_begins hbegins,
        String.ofList_toList]

theorem classify_eq_rule_iff {text rule : String} :
    ConfigLine.classify text = .rule rule ↔
      ConfigLine.beginsLikeRule text.toList = true ∧ text = rule := by
  unfold ConfigLine.classify
  dsimp only
  by_cases hbegins : ConfigLine.beginsLikeRule text.toList = true
  · have hkept : ¬ (text.toList.isEmpty ∨ text.toList.head? = some '#') := by
      rcases beginsLikeRule_iff.1 hbegins with ⟨more, h⟩ | ⟨more, h⟩ <;> simp [← h]
    rw [if_neg (by simpa using hkept), if_pos hbegins]
    simp [hbegins]
  · rw [if_neg hbegins]
    split
    · simp [hbegins]
    · split <;> simp [hbegins]

theorem ofBytes?_eq_rule_iff {line : List UInt8} {rule : String} :
    ConfigLine.ofBytes? line = some (.rule rule) ↔ ruleText? line = some rule := by
  rw [ConfigLine.ofBytes?, ruleText?]
  cases decode? line with
  | none => simp
  | some text =>
    simp only [Option.map_some, Option.some.injEq, classify_eq_rule_iff]
    split
    · rename_i hbegins
      simp [hbegins]
    · rename_i hbegins
      simp [hbegins]

def Loaded.ofRuleTexts (texts : List String) : Loaded :=
  ⟨texts.filterMap fun text => (Rule.read text).toOption,
    texts.countP fun text => (Rule.read text).toOption.isNone⟩

theorem Loaded.ofRuleTexts_append (first second : List String) :
    ofRuleTexts (first ++ second) = (ofRuleTexts first).append (ofRuleTexts second) := by
  simp only [ofRuleTexts, append, List.filterMap_append, List.countP_append]

section
variable {line : List UInt8} {text : String} (policy : Policy) (n : Nat)

theorem lineOutcome_of_read (hrule : ruleText? line = some text) {rule : Rule}
    (hread : Rule.read text = .ok rule) : lineOutcome policy n line = .ok ⟨[rule], 0⟩ := by
  rw [lineOutcome, ofBytes?_eq_rule_iff.2 hrule]
  simp only [hread]

theorem lineOutcome_of_not_read (hrule : ruleText? line = some text) {cause : RuleError}
    (hread : Rule.read text = .error cause) :
    lineOutcome policy n line =
      match policy with
      | .strict => .error (.rule n cause)
      | .lenient => .ok ⟨[], 1⟩ := by
  rw [lineOutcome, ofBytes?_eq_rule_iff.2 hrule]
  simp only [hread]
  cases policy <;> rfl

theorem lineOutcome_of_not_rule (hrule : ruleText? line = none) :
    lineOutcome policy n line =
      if (decode? line).isSome then .ok .empty else .error (.io .invalidText) := by
  have hkind (text : String) : ConfigLine.ofBytes? line ≠ some (.rule text) := by
    intro h
    rw [ofBytes?_eq_rule_iff.1 h] at hrule
    cases hrule
  rw [lineOutcome]
  cases hdecode : decode? line with
  | none =>
    rw [ConfigLine.ofBytes?, hdecode]
    rfl
  | some text =>
    obtain ⟨kind, hbytes⟩ : ∃ kind, ConfigLine.ofBytes? line = some kind := by
      rw [ConfigLine.ofBytes?, hdecode]
      exact ⟨_, rfl⟩
    cases kind with
    | rule text => exact absurd hbytes (hkind text)
    | ignored => rw [hbytes]; rfl
    | option key => rw [hbytes]; rfl
    | unknown text => rw [hbytes]; rfl

theorem isSome_decode?_of_rule (hrule : ruleText? line = some text) :
    (decode? line).isSome = true := by
  obtain ⟨content, hcontent, -⟩ := ruleText?_eq_some_iff_prepare.1 hrule
  rw [decode?_eq_some_iff.2 hcontent]
  rfl

theorem Loaded.ofRuleTexts_of_read {rule : Rule} (hread : Rule.read text = .ok rule) :
    ofRuleTexts [text] = ⟨[rule], 0⟩ := by
  simp [ofRuleTexts, hread]

theorem Loaded.ofRuleTexts_of_not_read {cause : RuleError} (hread : Rule.read text = .error cause) :
    ofRuleTexts [text] = ⟨[], 1⟩ := by
  simp [ofRuleTexts, hread]

theorem lineOutcome_eq_ok_iff {loaded : Loaded} :
    lineOutcome policy n line = .ok loaded ↔
      (decode? line).isSome = true ∧ loaded = .ofRuleTexts (ruleText? line).toList ∧
        (policy = .strict → ∀ text ∈ ruleText? line, Rule.Readable text) := by
  cases hrule : ruleText? line with
  | none =>
    rw [lineOutcome_of_not_rule policy n hrule]
    cases decode? line with
    | none => simp
    | some content => simp [eq_comm, Loaded.ofRuleTexts, Loaded.empty]
  | some text =>
    simp only [isSome_decode?_of_rule hrule, true_and, Option.toList_some, Option.mem_def,
      Option.some.injEq, forall_eq']
    cases hread : Rule.read text with
    | ok rule =>
      rw [lineOutcome_of_read policy n hrule hread, Loaded.ofRuleTexts_of_read hread]
      simp [Rule.Readable, hread, eq_comm]
    | error cause =>
      rw [lineOutcome_of_not_read policy n hrule hread, Loaded.ofRuleTexts_of_not_read hread]
      cases policy with
      | lenient => simp [eq_comm]
      | strict => simp [Rule.Readable, hread]

end

end PortGate
