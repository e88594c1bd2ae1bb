import PortGate.Proofs.Pattern.CaseItems
import PortGate.Proofs.Pattern.Turns

/-! Reading keeps case ignored: while the case flag is on, everything that a turn adds is matched by
closed sets, provided that folding closes the class it reads, if it reads one. -/

namespace PortGate.Pattern

/-! Groups. -/

section
variable {flags : Flags} {text rest : List Char}

theorem Flag.eq_of_ofChar? {c : Char} (h : Flag.ofChar? c = some .ignoreCase) : c = 'i' := by
  unfold Flag.ofChar? at h
  split at h <;> first | rfl | cases h

theorem Flags.ignoreCase_set_not {flag : Flag} {negated : Bool} (hcase : flags.ignoreCase = true)
    (hflag : negated = true → flag ≠ .ignoreCase) :
    (flags.set flag !negated).ignoreCase = true := by
  by_cases h : flag = .ignoreCase
  · cases negated with
    | false => rw [h, Bool.not_false, Flags.set]
    | true => exact absurd h (hflag rfl)
  · rw [Flags.ignoreCase_set flags _ h, hcase]

namespace Directive
variable {d : Directive} {c : Char}

/-- The letter of the case flag is not among those that are still to be switched off. -/
def SparesCase (d : Directive) (text : List Char) : Prop :=
  'i' ∉ if d.negated then flagLetters text else (flagLetters text).dropWhile (· != '-')

theorem SparesCase.dash (h : d.SparesCase ('-' :: text)) (hnegated : ¬d.negated = true) :
    SparesCase { d with negated := true, dangling := true } text := by
  rw [SparesCase, if_neg hnegated] at h
  rw [SparesCase, if_pos rfl]
  exact fun hi => h (List.mem_cons_of_mem '-' hi)

theorem SparesCase.flag {flag : Flag} (h : d.SparesCase (c :: text)) (hdash : ¬(c == '-') = true)
    (hflag : Flag.ofChar? c = some flag) :
    (d.negated = true → flag ≠ .ignoreCase) ∧
      SparesCase ⟨d.flags.set flag !d.negated, flag :: d.seen, d.negated, false⟩ text := by
  have hletters : flagLetters (c :: text) = c :: flagLetters text := by
    simp [flagLetters, hflag]
  rw [SparesCase, hletters] at h
  cases hnegated : d.negated with
  | false =>
    have hpast : (c != '-') = true := bne_iff_ne.2 (mt beq_iff_eq.2 hdash)
    rw [hnegated, if_neg Bool.false_ne_true, List.dropWhile_cons, hpast, if_pos rfl] at h
    exact ⟨nofun, h⟩
  | true =>
    rw [hnegated, if_pos rfl] at h
    refine ⟨fun _ hcase => h ?_, fun hi => h (List.mem_cons_of_mem c hi)⟩
    rw [← Flag.eq_of_ofChar? (hcase ▸ hflag)]
    exact List.mem_cons_self

theorem ignoreCase_of_read {new : Flags} (h : d.read text = .ok (new, rest))
    (hcase : d.flags.ignoreCase = true) (hspares : d.SparesCase text) : new.ignoreCase = true := by
  induction text generalizing d with
  | nil => cases h
  | cons c text ih =>
    rw [Directive.read] at h
    split at h
    · split at h
      · cases h
      · cases h
        exact hcase
    · split at h
      · next hdash =>
        obtain rfl : c = '-' := beq_iff_eq.1 hdash
        split at h
        · cases h
        · next hnegated => exact ih h hcase (hspares.dash hnegated)
      · next hdash =>
        split at h
        · cases h
        · next flag hflag =>
          obtain ⟨hset, hspares⟩ := hspares.flag hdash hflag
          split at h
          · cases h
          · exact ih h (Flags.ignoreCase_set_not hcase hset) hspares

end Directive

def GroupStart.flags? : GroupStart → Option Flags
  | capture _ => none
  | plain flags => some flags
  | directive flags => some flags

theorem ignoreCase_of_readFlagGroup {start : GroupStart} {new : Flags}
    (h : readFlagGroup flags text = .ok (start, rest)) (hcase : flags.ignoreCase = true)
    (hoff : 'i' ∉ (flagLetters text).dropWhile (· != '-')) (hnew : new ∈ start.flags?) :
    new.ignoreCase = true := by
  unfold readFlagGroup at h
  split at h
  · cases h
  · obtain ⟨⟨set, behind⟩, hset, h⟩ := bind_eq_ok_iff.1 h
    have hkept := Directive.ignoreCase_of_read hset hcase hoff
    split at h
    · next heq =>
      cases heq
      cases h
      cases hnew
      exact hkept
    · next heq =>
      cases heq
      split at h
      · cases h
      · cases h
        cases hnew
        exact hkept

end

/-! Turns. -/

def Turn.KeepsCase (t : Turn) : Prop :=
  t.switchesCaseOff = false ∧ ∀ listing ∈ t.listing?, listing.items.FoldsWhole

def Level.CaseClosed (level : Level) : Prop :=
  (∀ n ∈ level.items, n.CaseClosed) ∧ ∀ n ∈ level.branches, n.CaseClosed

/-- Case is ignored here and behind every group that is open, and has been so far. -/
structure Reader.IgnoresCase (r : Reader) : Prop where
  flags : r.flags.ignoreCase = true
  level : r.level.CaseClosed
  frames : ∀ frame ∈ r.frames, frame.flags.ignoreCase = true ∧ frame.outer.CaseClosed

namespace Level
variable {level : Level} {n : Node}

theorem caseClosed_empty : empty.CaseClosed := ⟨nofun, nofun⟩

theorem CaseClosed.push (h : level.CaseClosed) (hn : n.CaseClosed) : (level.push n).CaseClosed :=
  ⟨List.forall_mem_cons.2 ⟨hn, h.1⟩, h.2⟩

theorem CaseClosed.branch (h : level.CaseClosed) : level.branch.CaseClosed := by
  refine ⟨nofun, List.forall_mem_cons.2 ⟨Node.caseClosed_join fun n hn => ?_, h.2⟩⟩
  exact h.1 n (List.mem_reverse.1 hn)

theorem CaseClosed.close (h : level.CaseClosed) : level.close.CaseClosed :=
  Node.caseClosed_choose fun n hn => h.branch.2 n (List.mem_reverse.1 hn)

end Level

theorem Frame.caseClosed_wrap (frame : Frame) {n : Node} (h : n.CaseClosed) :
    (frame.wrap n).CaseClosed := by
  unfold Frame.wrap
  split <;> exact h

namespace Reader
variable {r next : Reader} {rest behind : List Char}

theorem IgnoresCase.push (h : r.IgnoresCase) {n : Node} (hn : n.CaseClosed) :
    (r.push n).IgnoresCase :=
  ⟨h.flags, h.level.push hn, h.frames⟩

theorem IgnoresCase.enter (h : r.IgnoresCase) {capture : Option (Option String)} {flags : Flags}
    (hflags : flags.ignoreCase = true) (henter : r.enter capture flags = .ok next) :
    next.IgnoresCase := by
  unfold Reader.enter at henter
  split at henter
  · cases henter
  · cases henter
    exact ⟨hflags, Level.caseClosed_empty, List.forall_mem_cons.2 ⟨⟨h.flags, h.level⟩, h.frames⟩⟩

theorem IgnoresCase.closeGroup (h : r.IgnoresCase) (hclose : r.closeGroup = .ok next) :
    next.IgnoresCase := by
  unfold Reader.closeGroup at hclose
  split at hclose
  · cases hclose
  · next frame frames hframes =>
    cases hclose
    have hall := h.frames
    rw [hframes, List.forall_mem_cons] at hall
    obtain ⟨⟨hflags, houter⟩, hrest⟩ := hall
    exact ⟨hflags, houter.push (frame.caseClosed_wrap h.level.close), hrest⟩

theorem IgnoresCase.repeatLast (h : r.IgnoresCase) {least : Nat} {most : Option Nat}
    {missing : Error} (hrepeat : r.repeatLast least most missing = .ok next) :
    next.IgnoresCase := by
  unfold Reader.repeatLast at hrepeat
  split at hrepeat
  · cases hrepeat
  · next last items hitems =>
    cases hrepeat
    have hall := h.level.1
    rw [hitems, List.forall_mem_cons] at hall
    exact ⟨h.flags, ⟨List.forall_mem_cons.2 ⟨hall.1.repeated least most, hall.2⟩, h.level.2⟩,
      h.frames⟩

theorem caseClosed_anyChar (flags : Flags) : (anyChar flags).CaseClosed := by
  unfold anyChar
  split
  · exact CharSet.caseClosed_all
  · exact CharSet.caseClosed_notLineEnd _

theorem ignoreCase_of_readGroupStart {t : Turn} (hfirst : t.first = '(')
    (hkeeps : t.switchesCaseOff = false) (hcase : t.reader.flags.ignoreCase = true)
    {start : GroupStart} (h : readGroupStart t.reader.flags t.reader.names t.rest = .ok (start, rest)) :
    ∀ new ∈ start.flags?, new.ignoreCase = true := by
  intro new hnew
  unfold readGroupStart at h
  split at h
  · cases h
  · cases h
  · cases h
  · cases h
  · obtain ⟨⟨name, behind⟩, -, h⟩ := bind_eq_ok_iff.1 h
    cases h
    cases hnew
  · obtain ⟨⟨name, behind⟩, -, h⟩ := bind_eq_ok_iff.1 h
    cases h
    cases hnew
  · next text _ _ _ _ _ _ htext =>
    have hflags : t.flagText? = some text := by
      rw [Turn.flagText?, hfirst, htext]
      rfl
    refine ignoreCase_of_readFlagGroup h hcase ?_ hnew
    simpa [Turn.switchesCaseOff, hflags] using hkeeps
  · cases h
    cases hnew

theorem IgnoresCase.readGroup {t : Turn} (h : t.reader.IgnoresCase) (hfirst : t.first = '(')
    (hkeeps : t.switchesCaseOff = false)
    (hgroup : t.reader.readGroup t.rest = .ok (next, behind)) : next.IgnoresCase := by
  obtain ⟨⟨start, rest⟩, hstart, hgroup⟩ := bind_eq_ok_iff.1 hgroup
  have hflags := ignoreCase_of_readGroupStart hfirst hkeeps h.flags hstart
  cases start with
  | capture name =>
    obtain ⟨entered, henter, hgroup⟩ := bind_eq_ok_iff.1 hgroup
    cases hgroup
    exact h.enter h.flags henter
  | plain flags =>
    obtain ⟨entered, henter, hgroup⟩ := bind_eq_ok_iff.1 hgroup
    cases hgroup
    exact h.enter (hflags flags rfl) henter
  | directive flags =>
    cases hgroup
    exact ⟨hflags flags rfl, h.level, h.frames⟩

theorem IgnoresCase.step {t : Turn} (h : t.reader.IgnoresCase) (hkeeps : t.KeepsCase)
    (hstep : t.reader.step t.first t.rest = .ok (next, behind)) : next.IgnoresCase := by
  unfold Reader.step at hstep
  split at hstep
  · next hfirst => exact h.readGroup hfirst hkeeps.1 hstep
  · obtain ⟨closed, hclose, hstep⟩ := bind_eq_ok_iff.1 hstep
    cases hstep
    exact h.closeGroup hclose
  · cases hstep
    exact ⟨h.flags, h.level.branch, h.frames⟩
  · next hfirst =>
    obtain ⟨⟨n, rest⟩, hclass, hstep⟩ := bind_eq_ok_iff.1 hstep
    obtain ⟨listing, hlisting, hclass⟩ := bind_eq_ok_iff.1 hclass
    cases hclass
    cases hstep
    have hfolds := hkeeps.2 listing (by simp [Turn.listing?, hfirst, hlisting])
    refine h.push ?_
    rw [h.flags]
    exact listing.caseClosed_set (canonical_of_readClassListing hlisting) hfolds
  · split at hstep
    · cases hstep
    · obtain ⟨⟨⟨least, most⟩, rest⟩, -, hstep⟩ := bind_eq_ok_iff.1 hstep
      obtain ⟨repeated, hrepeat, hstep⟩ := bind_eq_ok_iff.1 hstep
      cases hstep
      exact h.repeatLast hrepeat
  · obtain ⟨⟨n, rest⟩, hescape, hstep⟩ := bind_eq_ok_iff.1 hstep
    cases hstep
    have hescaped := escaped_of_readEscape hescape
    rw [h.flags] at hescaped
    exact h.push hescaped.caseClosed
  · cases hstep
    exact h.push (caseClosed_anyChar _)
  · cases hstep
    exact h.push trivial
  · cases hstep
    exact h.push trivial
  · split at hstep
    · obtain ⟨repeated, hrepeat, hstep⟩ := bind_eq_ok_iff.1 hstep
      cases hstep
      exact h.repeatLast hrepeat
    · cases hstep
      refine h.push ?_
      rw [h.flags]
      exact Node.caseClosed_literal _

theorem ignoresCase_initial : initial.IgnoresCase := ⟨rfl, Level.caseClosed_empty, nofun⟩

theorem IgnoresCase.finish {n : Node} (h : r.IgnoresCase) (hfinish : r.finish = .ok n) :
    n.CaseClosed := by
  unfold Reader.finish at hfinish
  split at hfinish
  · cases hfinish
    exact h.level.close
  · cases hfinish

end Reader

theorem Node.caseClosed_of_read {source : String} {n : Node} (h : Node.read source = .ok n)
    (hflag : KeepsCaseFlag source) (hclasses : FoldsClassesWhole source) : n.CaseClosed := by
  have hkeeps : ∀ t ∈ turnsOf source, t.KeepsCase := fun t ht => ⟨hflag t ht, hclasses t ht⟩
  obtain ⟨last, hlast, hfinish⟩ := Reader.run_invariant
    (fun t ht hr next rest hstep => hr.step ht hstep) h hkeeps Reader.ignoresCase_initial
  exact hlast.finish hfinish

end PortGate.Pattern
