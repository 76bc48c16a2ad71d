import Mathlib.Algebra.Order.Archimedean.Basic
import Mathlib.Algebra.Order.Field.Basic
import Mathlib.Tactic.FieldSimp
import Mathlib.Tactic.Linarith
import Mathlib.Tactic.Ring

/-!
# Doubling followed by bisection

An unknown threshold of an ordered field is approached from below by probing
one value at a time: as long as every probe is accepted the probe doubles, and
from the first rejection on the interval between the last accepted and the
last rejected value is bisected.  The file develops this search independently
of who answers the probes.
-/

namespace MScale

variable {K : Type*} [Field K] [LinearOrder K] [IsStrictOrderedRing K]

/-- The interval still under consideration.  `lo` is the largest accepted
value, or zero before any value was accepted; an open bracket has seen no
rejection and spans at least a doubling. -/
structure Bracket (K : Type*) [Field K] [LinearOrder K]
    [IsStrictOrderedRing K] where
  lo : K
  hi : K
  closed : Bool
  lo_nonneg : 0 ≤ lo
  lo_lt_hi : lo < hi
  open_spans : closed = false → 2 * lo ≤ hi

namespace Bracket

/-- The bracket before the first probe. -/
def start (value : K) (positive : 0 < value) : Bracket K where
  lo := 0
  hi := value
  closed := false
  lo_nonneg := le_refl 0
  lo_lt_hi := positive
  open_spans _ := by linarith

/-- The next value to probe. -/
def probe (bracket : Bracket K) : K :=
  if bracket.closed then (bracket.lo + bracket.hi) / 2 else bracket.hi

/-- Distance from the largest accepted value to the next probe. -/
def stride (bracket : Bracket K) : K :=
  bracket.probe - bracket.lo

theorem lo_lt_probe (bracket : Bracket K) : bracket.lo < bracket.probe := by
  have ordered := bracket.lo_lt_hi
  unfold probe
  split <;> linarith

theorem probe_lt_hi (bracket : Bracket K) (closed : bracket.closed = true) :
    bracket.probe < bracket.hi := by
  have ordered := bracket.lo_lt_hi
  simp only [probe, closed, if_true]
  linarith

theorem probe_pos (bracket : Bracket K) : 0 < bracket.probe :=
  lt_of_le_of_lt bracket.lo_nonneg bracket.lo_lt_probe

theorem stride_pos (bracket : Bracket K) : 0 < bracket.stride :=
  sub_pos.mpr bracket.lo_lt_probe

theorem probe_of_open {bracket : Bracket K}
    (isOpen : bracket.closed = false) : bracket.probe = bracket.hi := by
  simp [probe, isOpen]

theorem hi_sub_probe {bracket : Bracket K}
    (closed : bracket.closed = true) :
    bracket.hi - bracket.probe = bracket.stride := by
  simp only [stride, probe, closed, if_true]
  ring

/-- The probe was accepted. -/
def accept (bracket : Bracket K) : Bracket K :=
  if closed : bracket.closed = true then
    { lo := bracket.probe
      hi := bracket.hi
      closed := true
      lo_nonneg := bracket.probe_pos.le
      lo_lt_hi := bracket.probe_lt_hi closed
      open_spans := by simp }
  else
    { lo := bracket.probe
      hi := 2 * bracket.probe
      closed := false
      lo_nonneg := bracket.probe_pos.le
      lo_lt_hi := by have := bracket.probe_pos; linarith
      open_spans := fun _ => le_refl _ }

/-- The probe was rejected. -/
def reject (bracket : Bracket K) : Bracket K where
  lo := bracket.lo
  hi := bracket.probe
  closed := true
  lo_nonneg := bracket.lo_nonneg
  lo_lt_hi := bracket.lo_lt_probe
  open_spans := by simp

@[simp]
theorem accept_lo (bracket : Bracket K) :
    bracket.accept.lo = bracket.probe := by
  unfold accept
  split <;> rfl

@[simp]
theorem accept_closed (bracket : Bracket K) :
    bracket.accept.closed = bracket.closed := by
  unfold accept
  split <;> simp_all

@[simp]
theorem reject_lo (bracket : Bracket K) : bracket.reject.lo = bracket.lo :=
  rfl

@[simp]
theorem reject_closed (bracket : Bracket K) : bracket.reject.closed = true :=
  rfl

@[simp]
theorem reject_hi (bracket : Bracket K) : bracket.reject.hi = bracket.probe :=
  rfl

theorem accept_hi_of_closed {bracket : Bracket K}
    (closed : bracket.closed = true) : bracket.accept.hi = bracket.hi := by
  simp [accept, closed]

theorem accept_probe_of_open {bracket : Bracket K}
    (isOpen : bracket.closed = false) :
    bracket.accept.probe = 2 * bracket.probe := by
  rw [probe_of_open (by simpa using isOpen)]
  simp [accept, isOpen]

theorem accept_probe_of_closed {bracket : Bracket K}
    (closed : bracket.closed = true) :
    bracket.accept.probe = bracket.probe + bracket.stride / 2 := by
  have stillClosed : bracket.accept.closed = true := by simpa using closed
  rw [probe, if_pos stillClosed, accept_lo, accept_hi_of_closed closed,
    ← hi_sub_probe closed]
  ring

theorem reject_probe (bracket : Bracket K) :
    bracket.reject.probe = bracket.probe - bracket.stride / 2 := by
  rw [probe, if_pos (reject_closed bracket), reject_lo, reject_hi, stride]
  ring

theorem accept_stride_of_open {bracket : Bracket K}
    (isOpen : bracket.closed = false) :
    bracket.accept.stride = bracket.probe := by
  rw [stride, accept_probe_of_open isOpen, accept_lo]
  ring

theorem accept_stride_of_closed {bracket : Bracket K}
    (closed : bracket.closed = true) :
    bracket.accept.stride = bracket.stride / 2 := by
  rw [stride, accept_probe_of_closed closed, accept_lo]
  ring

theorem reject_stride (bracket : Bracket K) :
    bracket.reject.stride = bracket.stride / 2 := by
  rw [stride, reject_probe, reject_lo]
  simp only [stride]
  ring

/-- The search follows the answer to the current probe. -/
def answer (bracket : Bracket K) (accepted : Bool) : Bracket K :=
  if accepted then bracket.accept else bracket.reject

@[simp]
theorem answer_true (bracket : Bracket K) :
    bracket.answer true = bracket.accept :=
  rfl

@[simp]
theorem answer_false (bracket : Bracket K) :
    bracket.answer false = bracket.reject :=
  rfl

theorem lo_le_answer_lo (bracket : Bracket K) (accepted : Bool) :
    bracket.lo ≤ (bracket.answer accepted).lo := by
  cases accepted with
  | false => simp
  | true => simpa using bracket.lo_lt_probe.le

theorem answer_closed_of_closed {bracket : Bracket K}
    (closed : bracket.closed = true) (accepted : Bool) :
    (bracket.answer accepted).closed = true := by
  cases accepted <;> simp [closed]

theorem answer_stride_of_closed {bracket : Bracket K}
    (closed : bracket.closed = true) (accepted : Bool) :
    (bracket.answer accepted).stride = bracket.stride / 2 := by
  cases accepted with
  | false => exact bracket.reject_stride
  | true => exact accept_stride_of_closed closed

/-- The stride is below the fraction `tolerance` of the probed value. -/
def Narrow (tolerance : K) (bracket : Bracket K) : Prop :=
  bracket.stride < bracket.probe * tolerance

theorem closed_of_narrow {tolerance : K} (small : tolerance ≤ 1 / 2)
    {bracket : Bracket K} (narrow : bracket.Narrow tolerance) :
    bracket.closed = true := by
  cases closed : bracket.closed with
  | true => rfl
  | false =>
      have spans := bracket.open_spans closed
      rw [← probe_of_open closed] at spans
      have scaled : bracket.probe * tolerance ≤ bracket.probe * (1 / 2) :=
        mul_le_mul_of_nonneg_left small bracket.probe_pos.le
      unfold Narrow stride at narrow
      linarith

theorem lo_pos_of_narrow {tolerance : K} (small : tolerance ≤ 1)
    {bracket : Bracket K} (narrow : bracket.Narrow tolerance) :
    0 < bracket.lo := by
  have scaled : bracket.probe * tolerance ≤ bracket.probe * 1 :=
    mul_le_mul_of_nonneg_left small bracket.probe_pos.le
  unfold Narrow stride at narrow
  linarith

/-- Once a positive value was accepted and another one rejected, a stride below
the fraction `tolerance` of `lo` makes the bracket narrow. -/
theorem narrow_of_stride_lt {tolerance : K} (positive : 0 < tolerance)
    {bracket : Bracket K} (thin : bracket.stride < bracket.lo * tolerance) :
    bracket.Narrow tolerance :=
  lt_trans thin (mul_lt_mul_of_pos_right bracket.lo_lt_probe positive)

/-! ### Answers without a threshold -/

/-- Both kinds of answers were seen, `rounds` answers ago: at least `base` is
accepted, and the stride is `base` halved in every round since. -/
structure Crossed (base : K) (rounds : Nat) (bracket : Bracket K) : Prop where
  closed : bracket.closed = true
  base_pos : 0 < base
  base_le_lo : base ≤ bracket.lo
  stride_eq : bracket.stride = base / 2 ^ (rounds + 1)

theorem Crossed.answer {base : K} {rounds : Nat} {bracket : Bracket K}
    (crossed : bracket.Crossed base rounds) (accepted : Bool) :
    (bracket.answer accepted).Crossed base (rounds + 1) where
  closed := answer_closed_of_closed crossed.closed accepted
  base_pos := crossed.base_pos
  base_le_lo := crossed.base_le_lo.trans (bracket.lo_le_answer_lo accepted)
  stride_eq := by
    rw [answer_stride_of_closed crossed.closed, crossed.stride_eq,
      pow_succ 2 (rounds + 1), div_div]

/-- The bracket is narrow once the halvings outweigh the tolerance. -/
theorem Crossed.narrow {base tolerance : K} {rounds : Nat}
    {bracket : Bracket K} (crossed : bracket.Crossed base rounds)
    (positive : 0 < tolerance) (enough : 1 / tolerance ≤ 2 ^ (rounds + 1)) :
    bracket.Narrow tolerance := by
  have scalePositive : (0 : K) < 2 ^ (rounds + 1) := by positivity
  have strideLe : bracket.stride ≤ base * tolerance := by
    rw [crossed.stride_eq, div_le_iff₀ scalePositive, mul_assoc]
    refine le_mul_of_one_le_right crossed.base_pos.le ?_
    rwa [div_le_iff₀' positive] at enough
  have belowProbe : base * tolerance < bracket.probe * tolerance :=
    mul_lt_mul_of_pos_right
      (lt_of_le_of_lt crossed.base_le_lo bracket.lo_lt_probe) positive
  exact lt_of_le_of_lt strideLe belowProbe

/-- What is known of a bracket from the kinds of answers seen so far, without
any assumption on who gives them. -/
def Seen (accepted rejected : Bool) (bracket : Bracket K) : Prop :=
  match accepted, rejected with
  | false, rejected => bracket.closed = rejected ∧ bracket.lo = 0
  | true, false =>
      bracket.closed = false ∧ 0 < bracket.lo ∧ bracket.stride = bracket.lo
  | true, true => ∃ base rounds, bracket.Crossed base rounds

theorem start_seen {value : K} (positive : 0 < value) :
    (start value positive).Seen false false :=
  ⟨rfl, rfl⟩

theorem Seen.answer {accepted rejected : Bool} {bracket : Bracket K}
    (seen : bracket.Seen accepted rejected) (answered : Bool) :
    (bracket.answer answered).Seen (accepted || answered)
      (rejected || !answered) := by
  have probePositive := bracket.probe_pos
  cases accepted with
  | false =>
      obtain ⟨closed, loEq⟩ := seen
      have strideEq : bracket.stride = bracket.probe := by
        rw [stride, loEq, sub_zero]
      cases answered with
      | false => exact ⟨by simp, by simpa using loEq⟩
      | true =>
          cases rejected with
          | false =>
              exact ⟨by simpa using closed, by simpa using probePositive,
                by simp [accept_stride_of_open closed]⟩
          | true =>
              exact ⟨bracket.probe, 0, by simpa using closed, probePositive,
                by simp, by simp [accept_stride_of_closed closed, strideEq]⟩
  | true =>
      cases rejected with
      | false =>
          obtain ⟨isOpen, loPositive, strideEq⟩ := seen
          cases answered with
          | false =>
              exact ⟨bracket.lo, 0, by simp, loPositive, by simp,
                by simp [reject_stride, strideEq]⟩
          | true =>
              exact ⟨by simpa using isOpen, by simpa using probePositive,
                by simp [accept_stride_of_open isOpen]⟩
      | true =>
          obtain ⟨base, rounds, crossed⟩ := seen
          exact ⟨base, rounds + 1, crossed.answer answered⟩

/-- The threshold lies above the accepted and not above the rejected values. -/
def Encloses (threshold : K) (bracket : Bracket K) : Prop :=
  bracket.lo < threshold ∧ (bracket.closed = true → threshold ≤ bracket.hi)

theorem start_encloses {threshold value : K} (positive : 0 < value)
    (thresholdPositive : 0 < threshold) :
    (start value positive).Encloses threshold :=
  ⟨thresholdPositive, by simp [start]⟩

theorem Encloses.answer {threshold : K} {bracket : Bracket K}
    (encloses : bracket.Encloses threshold) {accepted : Bool}
    (correct : accepted = true ↔ bracket.probe < threshold) :
    (bracket.answer accepted).Encloses threshold := by
  cases accepted with
  | false =>
      have above : threshold ≤ bracket.probe :=
        le_of_not_gt fun below => by simpa using correct.mpr below
      exact ⟨encloses.1, fun _ => above⟩
  | true =>
      refine ⟨by simpa using correct.mp rfl, fun closed => ?_⟩
      have wasClosed : bracket.closed = true := by simpa using closed
      rw [answer_true, accept_hi_of_closed wasClosed]
      exact encloses.2 wasClosed

/-- Where the search may stop, the largest accepted value misses the threshold
by less than the fraction `tolerance` of it. -/
theorem Encloses.accurate {threshold tolerance : K} {bracket : Bracket K}
    (encloses : bracket.Encloses threshold)
    (positive : 0 < tolerance) (small : tolerance ≤ 1 / 2)
    (narrow : bracket.Narrow tolerance) {accepted : Bool}
    (correct : accepted = true ↔ bracket.probe < threshold) :
    (1 - tolerance) * threshold < (bracket.answer accepted).lo := by
  have closed := closed_of_narrow small narrow
  have probePositive := bracket.probe_pos
  unfold Narrow at narrow
  cases accepted with
  | false =>
      have above : threshold ≤ bracket.probe :=
        le_of_not_gt fun below => by simpa using correct.mpr below
      have scaled : (1 - tolerance) * threshold ≤
          (1 - tolerance) * bracket.probe :=
        mul_le_mul_of_nonneg_left above (by linarith)
      simp only [answer_false, reject_lo]
      unfold stride at narrow
      linarith
  | true =>
      have upper := encloses.2 closed
      have gap := hi_sub_probe closed
      have scaled : (1 - tolerance) * threshold ≤
          (1 - tolerance) * (bracket.probe * (1 + tolerance)) :=
        mul_le_mul_of_nonneg_left (by linarith) (by linarith)
      have shrunk : (1 - tolerance) * (bracket.probe * (1 + tolerance)) =
          bracket.probe - bracket.probe * tolerance * tolerance := by ring
      have lost : 0 < bracket.probe * tolerance * tolerance :=
        mul_pos (mul_pos probePositive positive) positive
      simp only [answer_true, accept_lo]
      linarith

/-- Some number of halvings brings any length below any positive one. -/
theorem exists_lt_two_pow_mul [Archimedean K] (length : K) {target : K}
    (positive : 0 < target) : ∃ rounds : Nat, length < 2 ^ rounds * target := by
  obtain ⟨rounds, enough⟩ :=
    pow_unbounded_of_one_lt (length / target) (one_lt_two : (1 : K) < 2)
  exact ⟨rounds, (div_lt_iff₀ positive).mp enough⟩

end Bracket

end MScale
