import PortGate.Proofs.Log.Filtering
import PortGate.Proofs.Store.Session

/-! The level of the log. The mask of a level lets just the priorities up to it through, and it is all
that the level changes: whatever the program is asked to do, and in whatever order, a lower level gives
the same results, leaves the same lists in use, and shows the log of the highest level without the
messages above it. -/

namespace PortGate
open Logged

namespace LogMask

theorem shiftAmount_upTo (l : Int32) :
    (((l + 1).toUInt32.toNat % 32 : Nat) : Int) = (l.toInt + 1) % 32 := by
  have hword : (l + 1).toUInt32.toNat = (l.toBitVec.toNat + 1) % 4294967296 := by
    have hbits : (l + 1).toUInt32.toNat = (l.toBitVec + 1).toNat := rfl
    rw [hbits, BitVec.toNat_add]
    rfl
  have hint : l.toInt = l.toBitVec.toInt := rfl
  have hlt : l.toBitVec.toNat < 4294967296 := l.toBitVec.isLt
  rw [hword, hint, BitVec.toInt_eq_toNat_cond]
  split <;> omega

theorem testBit_upTo (l : Int32) (p : Nat) :
    (upTo l).toNat.testBit p = true ↔ (p : Int) < (l.toInt + 1) % 32 := by
  rw [← shiftAmount_upTo, Int.ofNat_lt]
  have hlt : 2 ^ ((l + 1).toUInt32.toNat % 32) < 4294967296 :=
    Nat.pow_lt_pow_right (by decide) (Nat.mod_lt _ (by decide))
  have hshift : ((1 : UInt32) <<< (l + 1).toUInt32).toNat = 2 ^ ((l + 1).toUInt32.toNat % 32) := by
    rw [UInt32.toNat_shiftLeft, UInt32.toNat_one, Nat.shiftLeft_eq, Nat.one_mul]
    exact Nat.mod_eq_of_lt hlt
  have hone : (1 : UInt32) ≤ (1 : UInt32) <<< (l + 1).toUInt32 := by
    rw [UInt32.le_iff_toNat_le, hshift]
    exact Nat.two_pow_pos _
  rw [upTo, UInt32.toNat_sub_of_le _ _ hone, hshift, UInt32.toNat_one, Nat.testBit_two_pow_sub_one,
    decide_eq_true_iff]

theorem testBit_upTo_ofNat {n : Nat} (h : n < 31) (p : Nat) :
    (upTo (Int32.ofNat n)).toNat.testBit p = true ↔ p ≤ n := by
  rw [testBit_upTo, Int32.toInt_ofNat_of_lt (by omega)]
  omega

end LogMask

def Event.isWithin (level : Priority) : Event → Bool
  | line _ => true
  | message priority _ => decide (priority.toNat ≤ level.toNat)

theorem LogMask.passes_upTo (level : Priority) (event : Event) :
    (upTo (Int32.ofNat level.toNat)).passes event = event.isWithin level := by
  cases event with
  | line text => rfl
  | message priority text =>
    have hlevel : level.toNat < 31 := by cases level <;> decide
    rw [passes, Event.isWithin, Bool.eq_iff_iff, decide_eq_true_iff, testBit_upTo_ofNat hlevel]

theorem filtered_evaluate (rules : List Rule) (q : Request) : (evaluate rules q).Filtered :=
  (filtered_message _ _).bind fun _ => filtered_pure _

theorem Store.filtered_reload (s : Store) (policy : Policy) (name : String)
    (content : FileContent) : (s.reload policy name content).Filtered := by
  refine (filtered_loadFile policy name content).bind fun outcome => ?_
  cases outcome with
  | error e => exact (filtered_message _ _).bind fun _ => filtered_pure _
  | ok loaded => exact (filtered_message _ _).bind fun _ => filtered_pure _

/-- What the program can be asked for. A request is decided by a list that the session gives: the one in
use, one that was taken out of the store, or any other. -/
inductive Task where
  | read (texts : List String)
  | load (policy : Policy) (bytes : List UInt8)
  | loadFile (policy : Policy) (name : String) (content : FileContent)
  | store (op : Store.Operation)
  | evaluate (rules : Session → List Rule) (q : Request)

inductive Result where
  | read (outcome : Except RuleError (List Rule))
  | loaded (outcome : Except LoadError Loaded)
  | answered (answer : Store.Answer)
  | decided (verdict : Verdict)

namespace Session

theorem filtered_step (s : Session) (op : Store.Operation) : (s.step op).Filtered := by
  cases op with
  | replace rules => exact filtered_pure _
  | reload policy name content =>
    refine (s.store.filtered_reload policy name content).bind fun outcome => ?_
    obtain ⟨outcome, store⟩ := outcome
    cases outcome with
    | error cause => exact filtered_pure _
    | ok count => exact filtered_pure _
  | snapshot => exact filtered_pure _

def perform (s : Session) : Task → Logged (Result × Session)
  | .read texts => (fun outcome => (.read outcome, s)) <$> Rule.readAll texts
  | .load policy bytes => (fun outcome => (.loaded outcome, s)) <$> load policy bytes
  | .loadFile policy name content =>
    (fun outcome => (.loaded outcome, s)) <$> loadFile policy name content
  | .store op => (fun (answer, next) => (.answered answer, next)) <$> s.step op
  | .evaluate rules q => (fun verdict => (.decided verdict, s)) <$> evaluate (rules s) q

def performAll (s : Session) : List Task → Logged (List Result × Session)
  | [] => return ([], s)
  | task :: tasks => do
    let (result, next) ← s.perform task
    (fun (results, last) => (result :: results, last)) <$> next.performAll tasks

theorem filtered_perform (s : Session) (task : Task) : (s.perform task).Filtered := by
  cases task with
  | read texts => exact (Rule.filtered_readAll texts).map _
  | load policy bytes => exact (filtered_load policy bytes).map _
  | loadFile policy name content => exact (filtered_loadFile policy name content).map _
  | store op => exact (s.filtered_step op).map _
  | evaluate rules q => exact (filtered_evaluate (rules s) q).map _

theorem filtered_performAll (s : Session) (tasks : List Task) : (s.performAll tasks).Filtered := by
  -- the session that a task leaves is the same under each mask, so the next one starts alike
  induction tasks generalizing s with
  | nil => exact filtered_pure _
  | cons task tasks ih =>
    exact (s.filtered_perform task).bind fun (_, next) => (ih next).map _

end Session

/-- The level does nothing but filter. A run at a level gives the results of the run at the highest
level and ends with the same session, and its log is that of the highest level without the messages of
the priorities above the level. The mask of a level has the bits below the number that follows the
level modulo 32, which are those up to the level for the levels from 0 to 30. -/
theorem level_only_filters (s : Session) (tasks : List Task) (level : Priority) :
    (let shown := (s.performAll tasks).run (.upTo (Int32.ofNat level.toNat))
      let full := (s.performAll tasks).run (.upTo 7)
      shown.value = full.value ∧ shown.events = full.events.filter (·.isWithin level)) ∧
    (∀ (l : Int32) (p : Nat),
      (LogMask.upTo l).toNat.testBit p = true ↔ (p : Int) < (l.toInt + 1) % 32) ∧
    ∀ (l : Fin 31) (p : Nat), (LogMask.upTo (Int32.ofNat l)).toNat.testBit p = true ↔ p ≤ l := by
  have hrun := s.filtered_performAll tasks
  have hpasses : (LogMask.upTo (Int32.ofNat level.toNat)).passes = (·.isWithin level) :=
    funext (LogMask.passes_upTo level)
  have hfull : LogMask.upTo 7 = .initial := by decide
  rw [hfull]
  refine ⟨⟨hrun.value_eq _, ?_⟩, LogMask.testBit_upTo, fun l => LogMask.testBit_upTo_ofNat l.isLt⟩
  rw [hrun.events_eq, hpasses]

end PortGate
