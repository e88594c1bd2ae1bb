import PortGate.Proofs.Config.Policies
import PortGate.Proofs.Rule.RoundTrip
import PortGate.Proofs.RuleList.DumpText

/-! What a dump tells about the rules. Each field of a line ends at a mark that it does not hold itself,
and the last number ends where its digits do, so a line is written for one rule only. A pattern is
free to look like the rest of a line or like another line, as long as it does not end its own. -/

namespace PortGate
open Text

attribute [ext] Subnet Rule

/-! ### Fields and what ends them -/

theorem append_mark_inj {mark : Char} {left left' right right' : List Char} (hleft : mark ∉ left)
    (hleft' : mark ∉ left') (h : left ++ mark :: right = left' ++ mark :: right') :
    left = left' ∧ right = right' := by
  have hcut : splitOnce mark (left ++ mark :: right) = some (left, right) :=
    splitOnce_eq_some_iff.2 ⟨hleft, rfl⟩
  have hcut' : splitOnce mark (left' ++ mark :: right') = some (left', right') :=
    splitOnce_eq_some_iff.2 ⟨hleft', rfl⟩
  rw [h, hcut'] at hcut
  exact Prod.mk.inj (Option.some.inj hcut.symm)

theorem decimalRender_inj {m n : Nat} (h : Decimal.render m = Decimal.render n) : m = n := by
  have hm := Decimal.read?_render m
  rw [h, Decimal.read?_render] at hm
  exact (Option.some.inj hm).symm

theorem mark_not_mem_render {mark : Char} (hmark : mark.isDigit = false) (n : Nat) :
    mark ∉ (Decimal.render n).toList :=
  (numeralText_render n).not_mem hmark

theorem append_render_inj {m n : Nat} {right right' : List Char} (hright : EndsToken right)
    (hright' : EndsToken right')
    (h : (Decimal.render m).toList ++ right = (Decimal.render n).toList ++ right') :
    m = n ∧ right = right' := by
  have hstop {rest : List Char} (hrest : EndsToken rest) : ∀ c ∈ rest.head?, c.isDigit = false := by
    intro c hc
    cases hdigit : c.isDigit with
    | false => rfl
    | true => exact absurd (hrest c hc) (by rw [isSeparator_of_isDigit hdigit]; exact nofun)
  obtain ⟨hdigits, hrest⟩ :=
    takeWhile_append_of_head? (numeralText_render m).digits (hstop hright)
  obtain ⟨hdigits', hrest'⟩ :=
    takeWhile_append_of_head? (numeralText_render n).digits (hstop hright')
  rw [h] at hdigits hrest
  exact ⟨decimalRender_inj (String.toList_inj.1 (hdigits.symm.trans hdigits')),
    hrest.symm.trans hrest'⟩

theorem digitChar_inj : ∀ m < 16, ∀ n < 16, Nat.digitChar m = Nat.digitChar n → m = n := by
  decide

theorem renderEight_inj {a b : Address}
    (h : Hexadecimal.renderEight a.toNat = Hexadecimal.renderEight b.toNat) : a = b := by
  have hdigits := String.ofList_inj.1 h
  have hdigit (shift : Nat) (hshift : shift ∈ [28, 24, 20, 16, 12, 8, 4, 0]) :
      (a.toNat >>> shift) % 16 = (b.toNat >>> shift) % 16 := by
    have hchar := List.map_inj_left.1 hdigits shift hshift
    exact digitChar_inj _ (Nat.mod_lt _ (by decide)) _ (Nat.mod_lt _ (by decide)) hchar
  apply BitVec.eq_of_getLsbD_eq
  intro i hi
  have hbit (n : Nat) : n.testBit i = ((n >>> (4 * (i / 4))) % 2 ^ 4).testBit (i % 4) := by
    rw [Nat.testBit_mod_two_pow, Nat.testBit_shiftRight, Nat.div_add_mod,
      decide_eq_true (Nat.mod_lt i (by decide)), Bool.true_and]
  have hshift : 4 * (i / 4) ∈ [28, 24, 20, 16, 12, 8, 4, 0] := by
    simp only [List.mem_cons, List.not_mem_nil, or_false]
    omega
  rw [← BitVec.testBit_toNat, ← BitVec.testBit_toNat, hbit, hbit b.toNat]
  exact congrArg (Nat.testBit · (i % 4)) (hdigit _ hshift)

theorem mark_not_mem_renderEight {mark : Char} (hmark : ∀ d < 16, Nat.digitChar d ≠ mark)
    (n : Nat) : mark ∉ (Hexadecimal.renderEight n).toList := by
  rw [Hexadecimal.renderEight, String.toList_ofList]
  intro hmem
  obtain ⟨shift, -, hchar⟩ := List.mem_map.1 hmem
  exact hmark _ (Nat.mod_lt _ (by decide)) hchar

theorem space_not_mem_render (action : Action) : ' ' ∉ action.render.toList := by
  cases action <;> decide

theorem actionRender_inj {a b : Action} (h : a.render = b.render) : a = b := by
  cases a <;> cases b <;> first | rfl | exact absurd h (by decide)

theorem patternTail_inj {p q : Option Pattern} (h : patternTail p = patternTail q) : p = q := by
  cases p with
  | none =>
    cases q with
    | none => rfl
    | some q => cases h
  | some p =>
    cases q with
    | none => cases h
    | some q =>
      have hsource : p.source = q.source := String.toList_inj.1 (List.cons.inj h).2
      rw [Pattern.ext_source hsource]

namespace Rule

/-- The fields of a line behind its number, each but the last with the mark that ends it. -/
def dumpFields (r : Rule) : List Char :=
  r.action.render.toList ++ ' ' ::
    ((Decimal.render r.eports.lo.toNat).toList ++ '-' ::
      ((Decimal.render r.eports.hi.toNat).toList ++ ' ' ::
        ((Hexadecimal.renderEight r.subnet.address.toNat).toList ++ '/' ::
          ((Hexadecimal.renderEight r.subnet.mask.toNat).toList ++ ' ' ::
            ((Decimal.render r.iports.lo.toNat).toList ++ '-' ::
              ((Decimal.render r.iports.hi.toNat).toList ++ patternTail r.pattern))))))

theorem toList_dumpLine (index : Nat) (r : Rule) :
    (r.dumpLine index).toList =
      (Decimal.renderTwo index).toList ++ ' ' :: (r.dumpFields ++ ['\n']) := by
  have htail : (r.pattern.elim "" fun p => " " ++ p.source).toList = patternTail r.pattern := by
    cases r.pattern <;> simp [patternTail]
  simp [dumpLine, dumpHead, PortRange.renderBounds, dumpFields, htail]

theorem dumpFields_inj {r s : Rule} (h : r.dumpFields = s.dumpFields) : r = s := by
  have hexSpace : ∀ d < 16, Nat.digitChar d ≠ ' ' := by decide
  have hexSlash : ∀ d < 16, Nat.digitChar d ≠ '/' := by decide
  have hspace : (' ' : Char).isDigit = false := by decide
  have hdash : ('-' : Char).isDigit = false := by decide
  rw [dumpFields, dumpFields] at h
  -- each field is taken from the front, up to the mark that ends it
  obtain ⟨haction, h⟩ := append_mark_inj (space_not_mem_render _) (space_not_mem_render _) h
  obtain ⟨helo, h⟩ := append_mark_inj (mark_not_mem_render hdash _) (mark_not_mem_render hdash _) h
  obtain ⟨hehi, h⟩ := append_mark_inj (mark_not_mem_render hspace _) (mark_not_mem_render hspace _) h
  obtain ⟨haddress, h⟩ :=
    append_mark_inj (mark_not_mem_renderEight hexSlash _) (mark_not_mem_renderEight hexSlash _) h
  obtain ⟨hmask, h⟩ :=
    append_mark_inj (mark_not_mem_renderEight hexSpace _) (mark_not_mem_renderEight hexSpace _) h
  obtain ⟨hilo, h⟩ := append_mark_inj (mark_not_mem_render hdash _) (mark_not_mem_render hdash _) h
  obtain ⟨hihi, hpattern⟩ :=
    append_render_inj (endsToken_patternTail r.pattern) (endsToken_patternTail s.pattern) h
  have heports : r.eports = s.eports := PortRange.ext_toNat
    (decimalRender_inj (String.toList_inj.1 helo)) (decimalRender_inj (String.toList_inj.1 hehi))
  have hiports : r.iports = s.iports :=
    PortRange.ext_toNat (decimalRender_inj (String.toList_inj.1 hilo)) hihi
  have hsubnet : r.subnet = s.subnet := Subnet.ext
    (renderEight_inj (String.toList_inj.1 haddress)) (renderEight_inj (String.toList_inj.1 hmask))
  exact Rule.ext (actionRender_inj (String.toList_inj.1 haction)) heports hsubnet hiports
    (patternTail_inj hpattern)

def OneLine (r : Rule) : Prop := ∀ p ∈ r.pattern, '\n' ∉ p.source.toList

theorem newline_not_mem_dumpFields {r : Rule} (h : r.OneLine) : '\n' ∉ r.dumpFields := by
  have haction : '\n' ∉ r.action.render.toList := by cases r.action <;> decide
  have hrender (n : Nat) : '\n' ∉ (Decimal.render n).toList :=
    mark_not_mem_render (by decide) n
  have hhex (n : Nat) : '\n' ∉ (Hexadecimal.renderEight n).toList :=
    mark_not_mem_renderEight (by decide) n
  have htail : '\n' ∉ patternTail r.pattern := by
    cases hp : r.pattern with
    | none => exact List.not_mem_nil
    | some p => simpa [patternTail] using h p hp
  simp [dumpFields, haction, hrender, hhex, htail]

end Rule

theorem dumpLinesFrom_inj {rules others : List Rule} {start : Nat} (hrules : ∀ r ∈ rules, r.OneLine)
    (hothers : ∀ r ∈ others, r.OneLine)
    (h : (dumpLinesFrom start rules).toList = (dumpLinesFrom start others).toList) :
    rules = others := by
  induction rules generalizing others start with
  | nil =>
    cases others with
    | nil => rfl
    | cons s others => simp [dumpLinesFrom, Rule.toList_dumpLine] at h
  | cons r rules ih =>
    cases others with
    | nil => simp [dumpLinesFrom, Rule.toList_dumpLine] at h
    | cons s others =>
      obtain ⟨hr, hrules⟩ := List.forall_mem_cons.1 hrules
      obtain ⟨hs, hothers⟩ := List.forall_mem_cons.1 hothers
      simp only [dumpLinesFrom, String.toList_append, Rule.toList_dumpLine, List.append_assoc,
        List.cons_append, List.nil_append] at h
      -- The number is the same on both sides, and the line feed is the first one in each.
      have hfields := (List.cons.inj (List.append_cancel_left h)).2
      obtain ⟨hfirst, hlater⟩ := append_mark_inj (Rule.newline_not_mem_dumpFields hr)
        (Rule.newline_not_mem_dumpFields hs) hfields
      rw [Rule.dumpFields_inj hfirst, ih hrules hothers hlater]

/-! ### Rules that are loaded -/

theorem newline_not_mem_ruleText {line : List UInt8} {text : String} (h : 10 ∉ line)
    (hrule : ruleText? line = some text) : '\n' ∉ text.toList := by
  intro hmem
  obtain ⟨-, indent, -, ⟨rfl, -⟩ | rfl⟩ := ruleText?_eq_some_iff.1 hrule
  · exact h (newline_mem_encode (by simp [hmem]))
  · exact h (newline_mem_encode (by simp [hmem]))

theorem Rule.oneLine_of_read {text : String} {r : Rule} (hread : Rule.read text = .ok r)
    (h : '\n' ∉ text.toList) : r.OneLine := by
  intro p hp hmem
  obtain ⟨l, hl⟩ := read_eq_ok_iff_denotes.1 hread
  have hpattern := hl.pattern
  rw [Option.mem_def.1 hp] at hpattern
  have hrest : '\n' ∈ l.rest := by
    rw [← hpattern.2] at hmem
    exact List.dropWhile_subset _ hmem
  rw [l.line_eq] at h
  exact h (by simp [hrest])

theorem oneLine_of_load {policy : Policy} {bytes : List UInt8} {mask : LogMask} {loaded : Loaded}
    (h : ((load policy bytes).run mask).value = .ok loaded) : ∀ r ∈ loaded.rules, r.OneLine := by
  rw [run_load_value] at h
  obtain ⟨-, rfl, -⟩ := linesOutcome_eq_ok_iff.1 h
  intro r hr
  obtain ⟨text, htext, hread⟩ := List.mem_filterMap.1 hr
  obtain ⟨line, hline, hrule⟩ := List.mem_filterMap.1 htext
  exact Rule.oneLine_of_read (toOption_eq_some_iff.1 hread)
    (newline_not_mem_ruleText (newline_not_mem_of_mem_lines hline) hrule)

/-- Two lists of rules with one dump are one list, when no pattern ends its line, and no pattern of a
loaded configuration does. The lists are such as a machine holds: a word counts their rules. -/
theorem dump_identifies_rules :
    (∀ rules others : List Rule, rules.length ≤ UInt64.size → others.length ≤ UInt64.size →
      (∀ r ∈ rules, r.OneLine) → (∀ r ∈ others, r.OneLine) →
      (dumpTo none rules).2 = (dumpTo none others).2 → rules = others) ∧
    ∀ (policy : Policy) (bytes : List UInt8) (mask : LogMask) (loaded : Loaded),
      ((load policy bytes).run mask).value = .ok loaded → ∀ r ∈ loaded.rules, r.OneLine := by
  refine ⟨?_, fun policy bytes mask loaded => oneLine_of_load⟩
  intro rules others hlength hlength' hrules hothers h
  rw [dumpTo_none hlength, dumpTo_none hlength'] at h
  have htext := congrArg String.toList (encode_inj h)
  rw [dumpText, dumpText, String.toList_append, String.toList_append] at htext
  exact dumpLinesFrom_inj hrules hothers (List.append_cancel_left htext)

theorem dump_identifies_rules_two_spellings :
    ∃ r s : Rule, Rule.read "allow 80 10.0.0.1/8 1-2 cam" = .ok r ∧
      Rule.read "allow 080-80 10.0.0.1/255.0.0.0 01-2 cam" = .ok s ∧
      (∀ q ∈ [r], q.OneLine) ∧ (∀ q ∈ [s], q.OneLine) ∧
      (dumpTo none [r]).2 = (dumpTo none [s]).2 ∧ [r] = [s] := by
  have hprint : (dumpTo none (Rule.read "allow 80 10.0.0.1/8 1-2 cam").toOption.toList).2 =
      (dumpTo none (Rule.read "allow 080-80 10.0.0.1/255.0.0.0 01-2 cam").toOption.toList).2 := by
    decide +kernel
  obtain ⟨r, hr⟩ : Rule.Readable "allow 80 10.0.0.1/8 1-2 cam" := by decide +kernel
  obtain ⟨s, hs⟩ : Rule.Readable "allow 080-80 10.0.0.1/255.0.0.0 01-2 cam" := by decide +kernel
  rw [hr, hs] at hprint
  have hone : ∀ q ∈ [r], q.OneLine :=
    List.forall_mem_singleton.2 (Rule.oneLine_of_read hr (by decide +kernel))
  have hother : ∀ q ∈ [s], q.OneLine :=
    List.forall_mem_singleton.2 (Rule.oneLine_of_read hs (by decide +kernel))
  have hcount (q : Rule) : [q].length ≤ UInt64.size := by
    rw [List.length_singleton]
    decide
  exact ⟨r, s, hr, hs, hone, hother, hprint,
    dump_identifies_rules.1 [r] [s] (hcount r) (hcount s) hone hother hprint⟩

end PortGate
