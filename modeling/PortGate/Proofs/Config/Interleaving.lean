import PortGate.Proofs.Config.Policies

/-! Rules in a file and the same rules in a list. A file that is written around a list of rules, with
other lines between them and either end behind a line, comes to the same as the list. -/

namespace PortGate
open Text

structure RuleEntry where
  text : String
  begins : ConfigLine.beginsLikeRule text.toList = true
  newline_not_mem : '\n' ∉ text.toList
  not_ended_by_return : text.toList.getLast? ≠ some '\r'

/-- A line that holds no rule: blanks only, a comment, or anything else that does not begin like a rule
behind its blanks. -/
structure OtherEntry where
  text : String
  newline_not_mem : '\n' ∉ text.toList
  not_rule : (∀ c ∈ text.toList, isBlank c = true) ∨ text.toList.head? = some '#' ∨
    ConfigLine.beginsLikeRule (text.toList.dropWhile isBlank) = false

inductive Entry where
  | rule (entry : RuleEntry)
  | other (entry : OtherEntry)

inductive LineEnd where
  | feed
  | returnFeed

def LineEnd.bytes : LineEnd → List UInt8
  | feed => [10]
  | returnFeed => [13, 10]

namespace Entry

def text : Entry → String
  | rule entry => entry.text
  | other entry => entry.text

def ruleText? : Entry → Option String
  | rule entry => some entry.text
  | other _ => none

def ruleTexts (entries : List Entry) : List String := entries.filterMap ruleText?

theorem newline_not_mem (entry : Entry) : '\n' ∉ entry.text.toList := by
  cases entry with
  | rule entry => exact entry.newline_not_mem
  | other entry => exact entry.newline_not_mem

end Entry

/-- The bytes of a file: entries with their line ends, and possibly one more without an end. -/
def writeEntries : List (Entry × LineEnd) → Option Entry → List UInt8
  | [], none => []
  | [], some last => encode last.text
  | (entry, ending) :: entries, last =>
    encode entry.text ++ ending.bytes ++ writeEntries entries last

theorem OtherEntry.text_ne (entry : OtherEntry) {indent rule more : List Char}
    (hindent : ∀ c ∈ indent, isBlank c = true)
    (hbegins : "allow".toList <+: rule ∨ "deny".toList <+: rule) :
    entry.text.toList ≠ indent ++ (rule ++ more) := by
  intro htext
  have hmore : "allow".toList <+: rule ++ more ∨ "deny".toList <+: rule ++ more :=
    hbegins.imp (·.trans (List.prefix_append rule more)) (·.trans (List.prefix_append rule more))
  obtain ⟨c, tail, hcons, hblank, hcomment⟩ :
      ∃ c tail, rule ++ more = c :: tail ∧ isBlank c = false ∧ c ≠ '#' := by
    rcases hmore with ⟨rest, h⟩ | ⟨rest, h⟩
    · exact ⟨'a', _, h.symm, by decide, by decide⟩
    · exact ⟨'d', _, h.symm, by decide, by decide⟩
  rcases entry.not_rule with hall | hhead | hother
  · have hc := hall c (by simp [htext, hcons])
    rw [hblank] at hc
    cases hc
  · rw [htext, hcons] at hhead
    cases indent with
    | nil => exact hcomment (Option.some.inj hhead)
    | cons d indent =>
      have hd := hindent d List.mem_cons_self
      rw [Option.some.inj hhead] at hd
      exact absurd hd (by decide)
  · rw [htext, List.dropWhile_append_of_pos hindent, dropWhile_of_begins hmore,
      beginsLikeRule_iff.2 hmore] at hother
    cases hother

theorem OtherEntry.ruleText?_eq_none (entry : OtherEntry) {line : List UInt8} {ending : List Char}
    (htext : encode entry.text = line ++ encode (String.ofList ending)) :
    PortGate.ruleText? line = none := by
  cases hrule : PortGate.ruleText? line with
  | none => rfl
  | some rule =>
    obtain ⟨hbegins, indent, hindent, hline⟩ := ruleText?_eq_some_iff.1 hrule
    obtain ⟨more, hline⟩ : ∃ more,
        line = encode (String.ofList (indent ++ rule.toList ++ more)) := by
      rcases hline with ⟨hline, -⟩ | hline
      · exact ⟨[], by rw [hline, List.append_nil]⟩
      · exact ⟨['\r'], hline⟩
    rw [hline, ← encode_append, ← String.ofList_append] at htext
    have hchars := congrArg String.toList (encode_inj htext)
    rw [String.toList_ofList, List.append_assoc, List.append_assoc] at hchars
    exact absurd hchars (entry.text_ne hindent hbegins)

theorem RuleEntry.ruleText?_eq_some (entry : RuleEntry) :
    PortGate.ruleText? (encode entry.text) = some entry.text :=
  ruleText?_eq_some_iff.2 ⟨beginsLikeRule_iff.1 entry.begins, [], by simp,
    .inl ⟨by rw [List.nil_append, String.ofList_toList], entry.not_ended_by_return⟩⟩

namespace Entry

theorem ruleText?_encode (entry : Entry) :
    PortGate.ruleText? (encode entry.text) = entry.ruleText? := by
  cases entry with
  | rule entry => exact entry.ruleText?_eq_some
  | other entry =>
    have hwhole : encode entry.text = encode entry.text ++ encode (String.ofList []) :=
      (List.append_nil _).symm
    exact entry.ruleText?_eq_none hwhole

theorem ruleTexts_encode (entries : List Entry) :
    PortGate.ruleTexts (entries.map fun entry => encode entry.text) = ruleTexts entries := by
  rw [PortGate.ruleTexts, List.filterMap_map, ruleTexts]
  exact List.filterMap_congr fun entry _ => entry.ruleText?_encode

theorem lineOutcome_dropReturn (policy : Policy) (n : Nat) (entry : Entry) :
    lineOutcome policy n (dropReturn (encode entry.text)) =
      lineOutcome policy n (encode entry.text) := by
  cases entry with
  | rule entry =>
    have hkept : dropReturn (encode (Entry.rule entry).text) = encode entry.text :=
      dropReturn_encode entry.not_ended_by_return
    rw [hkept]
    rfl
  | other entry =>
    have hcut : ∃ ending, encode entry.text =
        dropReturn (encode entry.text) ++ encode (String.ofList ending) := by
      by_cases hlast : entry.text.toList.getLast? = some '\r'
      · obtain ⟨chars, hchars⟩ := List.getLast?_eq_some_iff.1 hlast
        have htext : encode entry.text = encode (String.ofList chars) ++ [13] := by
          rw [← encode_return, ← hchars, String.ofList_toList]
        exact ⟨['\r'], by rw [htext, dropReturn_concat]; rfl⟩
      · exact ⟨[], by rw [dropReturn_encode hlast]; exact (List.append_nil _).symm⟩
    obtain ⟨ending, hending⟩ := hcut
    have hnone := entry.ruleText?_eq_none hending
    have hnone' : PortGate.ruleText? (encode entry.text) = none := ruleText?_encode (.other entry)
    change lineOutcome policy n (dropReturn (encode entry.text)) =
      lineOutcome policy n (encode entry.text)
    rw [lineOutcome_of_not_rule policy n hnone, lineOutcome_of_not_rule policy n hnone',
      isSome_decode?_dropReturn]

theorem lines_writeEntries_cons (entry : Entry) (ending : LineEnd)
    (entries : List (Entry × LineEnd)) (last : Option Entry) :
    ∃ line, lines (writeEntries ((entry, ending) :: entries) last) =
        line :: lines (writeEntries entries last) ∧
      (line = encode entry.text ∨ line = dropReturn (encode entry.text)) := by
  have hline := newline_not_mem_encode entry.newline_not_mem
  cases ending with
  | feed =>
    refine ⟨_, ?_, .inr rfl⟩
    rw [writeEntries, LineEnd.bytes, List.append_assoc]
    exact lines_append_newline hline _
  | returnFeed =>
    have hreturn : 10 ∉ encode entry.text ++ [13] := by simpa using hline
    refine ⟨_, ?_, .inl rfl⟩
    have hlines := lines_append_newline hreturn (writeEntries entries last)
    rw [dropReturn_concat, List.append_assoc] at hlines
    rw [writeEntries, LineEnd.bytes, List.append_assoc]
    exact hlines

theorem linesOutcome_singleton_of_empty (policy : Policy) (n : Nat) {line : List UInt8}
    (hempty : line = []) : linesOutcome policy n [line] = linesOutcome policy n [] := by
  have hrule : PortGate.ruleText? [] = none := by decide +kernel
  have hline : lineOutcome policy n [] = .ok .empty := by
    rw [lineOutcome_of_not_rule policy n hrule, isSome_decode?_nil]
    rfl
  simp only [hempty, linesOutcome, hline]
  rfl

theorem linesOutcome_writeEntries (policy : Policy) (n : Nat) (entries : List (Entry × LineEnd))
    (last : Option Entry) :
    linesOutcome policy n (lines (writeEntries entries last)) =
      linesOutcome policy n
        ((entries.map Prod.fst ++ last.toList).map fun entry => encode entry.text) := by
  induction entries generalizing n with
  | nil =>
    cases last with
    | none => rfl
    | some entry =>
      rw [writeEntries, lines_of_not_mem (newline_not_mem_encode entry.newline_not_mem)]
      by_cases hempty : encode entry.text = []
      · rw [if_pos hempty]
        exact (linesOutcome_singleton_of_empty policy n hempty).symm
      · rw [if_neg hempty]
        rfl
  | cons first entries ih =>
    obtain ⟨entry, ending⟩ := first
    obtain ⟨line, hlines, hline⟩ := lines_writeEntries_cons entry ending entries last
    have houtcome : lineOutcome policy n line = lineOutcome policy n (encode entry.text) := by
      rcases hline with rfl | rfl
      · rfl
      · exact entry.lineOutcome_dropReturn policy n
    rw [hlines, linesOutcome, houtcome, ih]
    rfl

theorem exists_of_ruleTexts {entries : List Entry} {texts later : List String} {text : String}
    (h : ruleTexts entries = texts ++ text :: later) :
    ∃ before entry after, entries = before ++ .rule entry :: after ∧
      ruleTexts before = texts ∧ entry.text = text := by
  obtain ⟨first, second, rfl, hfirst, hsecond⟩ := List.filterMap_eq_append_iff.1 h
  obtain ⟨others, entry, after, rfl, hothers, hentry, -⟩ := List.filterMap_eq_cons_iff.1 hsecond
  cases entry with
  | other entry => cases hentry
  | rule entry =>
    refine ⟨first ++ others, entry, after, by rw [List.append_assoc], ?_, Option.some.inj hentry⟩
    rw [ruleTexts, List.filterMap_append, hfirst, List.filterMap_eq_nil_iff.2 hothers,
      List.append_nil]

theorem isSome_decode?_of_mem {entries : List Entry} {line : List UInt8}
    (h : line ∈ entries.map fun entry => encode entry.text) : (decode? line).isSome = true := by
  obtain ⟨entry, -, rfl⟩ := List.mem_map.1 h
  rw [decode?_encode]
  rfl

end Entry

/-- Reading a file that is written around a list of rules. Strictly it loads when the list reads, with
the same rules; else the line is reported that holds the first of the list that does not read, with
its error. Leniently it gives those of the list that read, and counts the others. -/
theorem load_writeEntries (entries : List (Entry × LineEnd)) (last : Option Entry)
    (mask : LogMask) :
    let all := entries.map Prod.fst ++ last.toList
    let texts := Entry.ruleTexts all
    let outcome policy := ((load policy (writeEntries entries last)).run mask).value
    (match ((Rule.readAll texts).run mask).value with
      | .ok rules => outcome .strict = .ok ⟨rules, 0⟩
      | .error e => ∃ before entry after, all = before ++ .rule entry :: after ∧
          (∀ text ∈ Entry.ruleTexts before, Rule.Readable text) ∧
          Rule.read entry.text = .error e ∧
          outcome .strict = .error (.rule (before.length + 1) e)) ∧
    outcome .lenient = .ok (.ofRuleTexts texts) := by
  intro all texts
  simp only [run_load_value, Entry.linesOutcome_writeEntries]
  constructor
  · cases hread : ((Rule.readAll texts).run mask).value with
    | ok rules =>
      obtain ⟨hreads, rfl⟩ := Rule.run_readAll_eq_ok_iff.1 hread
      have hnone := Loaded.skipped_ofRuleTexts_eq_zero_iff.2 hreads
      refine linesOutcome_eq_ok_iff.2 ⟨fun line hline => Entry.isSome_decode?_of_mem hline, ?_, ?_⟩
      · rw [Entry.ruleTexts_encode]
        exact congrArg (Loaded.mk _) hnone.symm
      · intro _
        rwa [Entry.ruleTexts_encode]
    | error e =>
      obtain ⟨texts, text, _, hsplit, hreads, hbad⟩ := Rule.run_readAll_eq_error_iff.1 hread
      obtain ⟨before, entry, after, hall, rfl, rfl⟩ := Entry.exists_of_ruleTexts hsplit
      refine ⟨before, entry, after, hall, hreads, hbad, linesOutcome_eq_rule_error_iff.2 ⟨rfl, ?_⟩⟩
      refine ⟨before.map fun entry => encode entry.text, encode entry.text,
        after.map fun entry => encode entry.text, entry.text, ?_, ?_, ?_, ?_, ?_, hbad⟩
      · have hlines := congrArg (List.map fun entry => encode entry.text) hall
        exact hlines.trans List.map_append
      · rw [List.length_map]
      · exact fun line hline => Entry.isSome_decode?_of_mem hline
      · rwa [Entry.ruleTexts_encode]
      · exact entry.ruleText?_eq_some
  · refine linesOutcome_eq_ok_iff.2 ⟨fun line hline => Entry.isSome_decode?_of_mem hline, ?_, nofun⟩
    rw [Entry.ruleTexts_encode]

def mixedEntries : List (Entry × LineEnd) :=
  [(.other ⟨"# house", by decide +kernel, .inr (.inl rfl)⟩, .returnFeed),
    (.other ⟨" \t", by decide +kernel, .inl (List.all_eq_true.1 (by decide +kernel))⟩, .feed),
    (.rule ⟨"allow 80 10.0.0.1 80 cam ", rfl, by decide +kernel, by decide +kernel⟩, .returnFeed),
    (.rule ⟨"deny 9-8 0.0.0.0/0 1", rfl, by decide +kernel, by decide +kernel⟩, .feed)]

def unendedEntry : Entry :=
  .other ⟨" port=80\r", by decide +kernel, .inr (.inr (by decide +kernel))⟩

theorem load_writeEntries_mixed :
    let texts := ["allow 80 10.0.0.1 80 cam ", "deny 9-8 0.0.0.0/0 1"]
    let bytes :=
      encode "# house\r\n \t\nallow 80 10.0.0.1 80 cam \r\ndeny 9-8 0.0.0.0/0 1\n port=80\r"
    writeEntries mixedEntries (some unendedEntry) = bytes ∧
      Entry.ruleTexts (mixedEntries.map Prod.fst ++ [unendedEntry]) = texts ∧
      (∃ before entry after,
        mixedEntries.map Prod.fst ++ [unendedEntry] = before ++ .rule entry :: after ∧
        before.length = 3 ∧ (∀ text ∈ Entry.ruleTexts before, Rule.Readable text) ∧
        Rule.read entry.text = .error (.ports (.reversed 9 8)) ∧
        ((load .strict bytes).run .initial).value =
          .error (.rule (before.length + 1) (.ports (.reversed 9 8)))) ∧
      ((load .lenient bytes).run .initial).value = .ok (.ofRuleTexts texts) := by
  intro texts bytes
  have hbytes : writeEntries mixedEntries (some unendedEntry) = bytes := by decide +kernel
  have htexts : Entry.ruleTexts (mixedEntries.map Prod.fst ++ [unendedEntry]) = texts := by
    decide +kernel
  have hreads : ((Rule.readAll texts).run .initial).value = .error (.ports (.reversed 9 8)) := by
    decide +kernel
  have hline : ((load .strict bytes).run .initial).value =
      .error (.rule 4 (.ports (.reversed 9 8))) := by decide +kernel
  have hload := load_writeEntries mixedEntries (some unendedEntry) .initial
  simp only [Option.toList_some, hbytes, htexts, hreads] at hload
  obtain ⟨⟨before, entry, after, hall, hbefore, hbad, hstrict⟩, hlenient⟩ := hload
  have hlength : before.length = 3 := by
    rw [hline, Except.error.injEq, LoadError.rule.injEq] at hstrict
    exact (Nat.succ.inj hstrict.1).symm
  exact ⟨hbytes, htexts, ⟨before, entry, after, hall, hlength, hbefore, hbad, hstrict⟩, hlenient⟩

end PortGate
