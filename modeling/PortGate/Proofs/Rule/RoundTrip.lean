import Mathlib.Data.List.DropRight
import PortGate.Proofs.Rule.Grammar

/-! The written form of a rule. Its tokens hold no separator, so it is laid out in the evident way and
reads back to the rule, whatever the line looked like that the rule came from. -/

namespace PortGate
open Text

theorem NumeralText.isToken {text : List Char} {n : Nat} (h : NumeralText text n) : IsToken text :=
  ⟨h.ne_nil, fun c hc => isSeparator_of_isDigit (h.digits c hc)⟩

theorem RangeText.isToken {text : List Char} {r : PortRange} (h : RangeText text r) :
    IsToken text := by
  rcases h with ⟨h, -⟩ | ⟨left, right, rfl, hlo, hhi⟩
  · exact NumeralText.isToken h
  · exact (NumeralText.isToken hlo).append_mark (by decide) (NumeralText.isToken hhi)

theorem AddressText.isToken {text : List Char} {address : Address} (h : AddressText text address) :
    IsToken text := by
  obtain ⟨a, b, c, d, k, l, m, n, rfl, ha, hb, hc, hd, -⟩ := h
  have hdot : isSeparator '.' = false := by decide
  exact ha.numeral.isToken.append_mark hdot (hb.numeral.isToken.append_mark hdot
    (hc.numeral.isToken.append_mark hdot hd.numeral.isToken))

theorem MaskText.isToken {text : List Char} {mask : Address} (h : MaskText text mask) :
    IsToken text := by
  rcases h with ⟨bits, -, hbits, -⟩ | h
  · exact hbits.isToken
  · exact h.isToken

theorem SubnetText.isToken {text : List Char} {s : Subnet} (h : SubnetText text s) :
    IsToken text := by
  rcases h with ⟨h, -⟩ | ⟨left, right, rfl, haddress, hmask⟩
  · exact h.isToken
  · exact haddress.isToken.append_mark (by decide) hmask.isToken

theorem ActionText.isToken {text : List Char} {a : Action} (h : ActionText text a) :
    IsToken text := by
  cases a with
  | allow =>
    rw [h]
    decide
  | deny =>
    rw [h]
    decide

theorem actionText_render (a : Action) : ActionText a.render.toList a := by
  cases a <;> rfl

theorem isGap_space : IsGap [' '] := by decide

def patternTail : Option Pattern → List Char
  | none => []
  | some p => ' ' :: p.source.toList

theorem endsToken_patternTail (p : Option Pattern) : EndsToken (patternTail p) := by
  cases p with
  | none => exact fun c hc => absurd hc (by simp [patternTail])
  | some p =>
    intro c hc
    obtain rfl : ' ' = c := by simpa [patternTail] using hc
    decide

theorem PatternText.tail {text : List Char} {p : Option Pattern} (h : PatternText text p) :
    PatternText (patternTail p) p := by
  cases p with
  | none => rfl
  | some p =>
    obtain ⟨hne, htext⟩ := h
    have hsource : p.source.toList.dropWhile isBlank = p.source.toList := by
      rw [← htext, List.dropWhile_idempotent]
    have hspace : isBlank ' ' = true := by decide
    exact ⟨hne, by rw [patternTail, List.dropWhile_cons_of_pos hspace, hsource]⟩

namespace Rule

def writtenLayout (r : Rule) : Layout r.render where
  indent := []
  action := r.action.render.toList
  gap₁ := [' ']
  eports := r.eports.render.toList
  gap₂ := [' ']
  subnet := r.subnet.render.toList
  gap₃ := [' ']
  iports := r.iports.render.toList
  rest := patternTail r.pattern
  line_eq := by
    have htail : (r.pattern.elim "" fun p => " " ++ p.source).toList = patternTail r.pattern := by
      cases r.pattern <;> simp [patternTail]
    simp [render, htail]
  indent_isGap := fun c hc => absurd hc (by simp)
  action_isToken := (actionText_render r.action).isToken
  gap₁_ne_nil := by simp
  gap₁_isGap := isGap_space
  eports_isToken := (rangeText_render r.eports).isToken
  gap₂_ne_nil := by simp
  gap₂_isGap := isGap_space
  subnet_isToken := (subnetText_render r.subnet).isToken
  gap₃_ne_nil := by simp
  gap₃_isGap := isGap_space
  iports_isToken := (rangeText_render r.iports).isToken
  rest_ends := endsToken_patternTail r.pattern

theorem read_render {r : Rule} {text : List Char} (h : PatternText text r.pattern) :
    read r.render = .ok r :=
  read_eq_ok_iff_denotes.2 ⟨r.writtenLayout, actionText_render r.action,
    rangeText_render r.eports, subnetText_render r.subnet, rangeText_render r.iports, h.tail⟩

theorem render_read_round_trip {line : String} {r : Rule} (h : read line = .ok r) :
    ∃ again, read r.render = .ok again ∧ again = r ∧ again.render = r.render := by
  obtain ⟨l, hl⟩ := read_eq_ok_iff_denotes.1 h
  exact ⟨r, read_render hl.pattern, rfl, rfl⟩

theorem render_read_round_trip_dotted_mask :
    ∃ r, read "  deny 007-65535\t10.0.0.1/255.0.255.0 080 \u00a0^cam é " = .ok r ∧
      r.render = "deny 7-65535 10.0.0.1/255.0.255.0 80 ^cam é " ∧
      ∃ again, read r.render = .ok again ∧ again = r ∧ again.render = r.render := by
  have hwritten : (read "  deny 007-65535\t10.0.0.1/255.0.255.0 080 \u00a0^cam é ").toOption.map
      render = some "deny 7-65535 10.0.0.1/255.0.255.0 80 ^cam é " := by
    decide +kernel
  cases hr : read "  deny 007-65535\t10.0.0.1/255.0.255.0 080 \u00a0^cam é " with
  | error e =>
    rw [hr] at hwritten
    cases hwritten
  | ok r =>
    rw [hr] at hwritten
    exact ⟨r, rfl, Option.some.inj hwritten, render_read_round_trip hr⟩

end Rule

end PortGate
