import Mathlib.Algebra.Group.Nat.Defs
import Mathlib.Data.Nat.Log
import Mathlib.Tactic.Set
import MoodleTenancy.Operator.Handlers
import MoodleTenancy.Proofs.Reports

/-!
# Delays between retries

The delay doubles at each retry and stays at its cap once it gets there. The power of two is made
into a number before the cap is looked at, so there is no delay at all beyond a number of retries.

* `Binary64.IsCount`: the counts of units that are numbers of the format.
* `Binary64.isCount_of_round`, `Settings.backs_of_environment`: rounding, and so the reading of
  settings, gives no others.
* `Settings.Backs`: settings with a base and a cap.
* `Binary64.nearest_of_isCount`, `IsCount.mul_two_pow`: such a count is not rounded, nor is one that
  was doubled.
* `Settings.backoff_eq`: the delay for any number of retries.
* `backoff_spec`: where there is a delay, and how it grows.
-/

namespace MoodleTenancy
set_option autoImplicit false

open Numeric

namespace Numeric.Binary64

/-! ## Numbers of the format -/

/-- A count of units on the grid of its binade. -/
def IsCount (units : Nat) : Prop := gap units ∣ units

instance (units : Nat) : Decidable (IsCount units) :=
  inferInstanceAs (Decidable (gap units ∣ units))

theorem gap_eq (units : Nat) : gap units = 2 ^ (Nat.log 2 units - 52) := by
  rw [gap, Nat.log2_eq_log_two, Nat.pow_eq]

theorem gap_pos (units : Nat) : 0 < gap units := by
  rw [gap_eq]
  exact Nat.two_pow_pos _

theorem gap_dvd_gap {u v : Nat} (h : Nat.log 2 u ≤ Nat.log 2 v) : gap u ∣ gap v := by
  rw [gap_eq, gap_eq]
  exact Nat.pow_dvd_pow 2 (Nat.sub_le_sub_right h 52)

theorem isCount_zero : IsCount 0 := Nat.dvd_zero _

theorem isCount_two_pow (k : Nat) : IsCount (2 ^ k) := by
  -- A power of two is the least number of its binade, and the binades are on the grid.
  rw [IsCount, gap_eq, Nat.log_pow Nat.one_lt_two]
  exact Nat.pow_dvd_pow 2 (Nat.sub_le k 52)

theorem log_mul_two_pow {u : Nat} (hu : u ≠ 0) (r : Nat) :
    Nat.log 2 (u * 2 ^ r) = Nat.log 2 u + r := by
  induction r with
  | zero => simp
  | succ r ih =>
    have hne : u * 2 ^ r ≠ 0 := Nat.mul_ne_zero hu (Nat.two_pow_pos r).ne'
    rw [Nat.pow_succ, ← Nat.mul_assoc, Nat.log_mul_base Nat.one_lt_two hne, ih]
    omega

theorem IsCount.mul_two_pow {u : Nat} (h : IsCount u) (r : Nat) : IsCount (u * 2 ^ r) := by
  rcases Nat.eq_zero_or_pos u with rfl | hpos
  · rw [Nat.zero_mul]
    exact isCount_zero
  -- The gap grows with the number, and less so only where it is one unit.
  have hgap : gap (u * 2 ^ r) ∣ gap u * 2 ^ r := by
    rw [gap_eq, gap_eq, log_mul_two_pow hpos.ne', ← Nat.pow_add]
    exact Nat.pow_dvd_pow 2 (by omega)
  exact Nat.dvd_trans hgap (Nat.mul_dvd_mul_right h _)

/-! ## Rounding -/

theorem roundHalfEven_of_dvd {n d : Nat} (hd : 0 < d) (h : d ∣ n) : roundHalfEven n d = n / d := by
  have hrest : n % d = 0 := Nat.mod_eq_zero_of_dvd h
  rw [roundHalfEven, if_pos (.inl (by omega))]

/-- A quotient that is on the grid is not rounded. -/
theorem nearest_of_isCount {u : Nat} (h : IsCount u) {d : Nat} (hd : 0 < d) :
    nearest (u * d) d = u := by
  have hquotient : u * d / d = u := Nat.mul_div_cancel u hd
  have hdvd : d * gap u ∣ u * d := by
    rw [Nat.mul_comm u d]
    exact Nat.mul_dvd_mul_left d h
  rw [nearest, hquotient, roundHalfEven_of_dvd (Nat.mul_pos hd (gap_pos u)) hdvd,
    Nat.mul_comm u d, Nat.mul_div_mul_left _ _ hd, Nat.div_mul_cancel h]

theorem isCount_nearest (n d : Nat) : IsCount (nearest n d) := by
  set q := n / d with hq
  set g := gap q with hg
  set k := roundHalfEven n (d * g) with hk
  have hvalue : nearest n d = k * g := rfl
  have hfloor : n / (d * g) = q / g := by rw [hq, Nat.div_div_eq_div_mul]
  have hle : k ≤ q / g + 1 := hfloor ▸ roundHalfEven_le n (d * g)
  have hpow : g = 2 ^ (Nat.log 2 q - 52) := gap_eq q
  have hupper : q / g + 1 ≤ 2 ^ (Nat.log 2 q + 1 - (Nat.log 2 q - 52)) := by
    have hlt : q < 2 ^ (Nat.log 2 q + 1) := Nat.lt_pow_succ_log_self Nat.one_lt_two q
    rw [hpow, Nat.succ_le_iff, Nat.div_lt_iff_lt_mul (Nat.two_pow_pos _), ← Nat.pow_add]
    rwa [Nat.sub_add_cancel (by omega)]
  have hbound : k * g ≤ 2 ^ (Nat.log 2 q + 1) := by
    calc k * g ≤ 2 ^ (Nat.log 2 q + 1 - (Nat.log 2 q - 52)) * g :=
          Nat.mul_le_mul_right g (hle.trans hupper)
      _ = 2 ^ (Nat.log 2 q + 1) := by rw [hpow, ← Nat.pow_add, Nat.sub_add_cancel (by omega)]
  rw [hvalue]
  -- Rounding up may end at the next binade, which begins with a power of two.
  rcases hbound.lt_or_eq with hlt | heq
  · rcases Nat.eq_zero_or_pos (k * g) with hzero | hpos
    · rw [hzero]
      exact isCount_zero
    · have hlog : Nat.log 2 (k * g) ≤ Nat.log 2 q :=
        Nat.lt_succ_iff.1 (Nat.log_lt_of_lt_pow hpos.ne' hlt)
      exact Nat.dvd_trans (gap_dvd_gap hlog) (Nat.dvd_mul_left g k)
  · rw [heq]
    exact isCount_two_pow _

theorem isCount_of_round {negative s : Bool} {n d u : Nat} (h : round negative n d = .finite s u) :
    IsCount u ∧ u < limit := by
  rw [round, ofUnits] at h
  split at h
  · rename_i hlt
    obtain ⟨-, rfl⟩ := Binary64.finite.inj h
    exact ⟨isCount_nearest n d, hlt⟩
  · cases h

theorem limit_pos : 0 < limit := by decide +kernel

theorem isCount_of_ofScaled {negative s : Bool} {digits u : Nat} {exponent : Int}
    (h : ofScaled negative digits exponent = .finite s u) : IsCount u ∧ u < limit := by
  rw [ofScaled] at h
  split at h
  · obtain ⟨-, rfl⟩ := Binary64.finite.inj h
    exact ⟨isCount_zero, limit_pos⟩
  split at h
  · cases h
  split at h
  · exact isCount_of_round h
  · exact isCount_of_round h

/-! ## Products and the lesser of two -/

theorem one_pos : 0 < one := by decide +kernel

theorem mul_two_pow {base : Nat} (h : IsCount base) (n : Nat) :
    (finite false base).mul (finite false (2 ^ n * one)) = ofUnits false (base * 2 ^ n) := by
  change round false (base * (2 ^ n * one)) one = _
  rw [round, ← Nat.mul_assoc, nearest_of_isCount (h.mul_two_pow n) one_pos]

theorem min_ofUnits {cap : Nat} (h : cap < limit) (u : Nat) :
    (ofUnits false u).min (finite false cap) = finite false (Min.min u cap) := by
  rw [ofUnits]
  split
  · simp only [Binary64.min, lt, rank, Int.ofNat_lt, decide_eq_true_eq]
    split
    · rename_i hlt
      rw [Nat.min_eq_right hlt.le]
    · rename_i hge
      rw [Nat.min_eq_left (Nat.le_of_not_lt hge)]
  · -- A count beyond the finite numbers is beyond the cap too.
    rename_i hge
    have hle : cap ≤ u := by omega
    simp only [Binary64.min, lt, rank, Int.ofNat_lt, h, decide_true, if_true]
    rw [Nat.min_eq_right hle]

end Numeric.Binary64

open Binary64 (IsCount limit one)

theorem eq_ofScaled_of_magnitude? {negative : Bool} {cs : List Char} {x : Binary64}
    (h : magnitude? negative cs = some x) :
    ∃ (digits : Nat) (exponent : Int), x = Binary64.ofScaled negative digits exponent := by
  simp only [magnitude?, Option.ite_none_left_eq_some, Option.map_eq_some_iff] at h
  obtain ⟨-, e, -, hscaled⟩ := h
  exact ⟨_, _, hscaled.symm⟩

theorem isCount_of_binary64? {text : String} {s : Bool} {u : Nat}
    (h : binary64? text = some (.finite s u)) : IsCount u ∧ u < limit := by
  simp only [binary64?] at h
  split at h
  · cases h
  split at h
  · cases h
  obtain ⟨cs, -, hread⟩ := Option.bind_eq_some_iff.1 h
  obtain ⟨digits, e, hscaled⟩ := eq_ofScaled_of_magnitude? hread
  exact Binary64.isCount_of_ofScaled hscaled.symm

/-! ## Delays -/

/-- The settings of delays are finite numbers of the format, not below zero. -/
structure Settings.Backs (s : Settings) (base cap : Nat) : Prop where
  base_eq : s.retryBackoffBase = .finite false base
  cap_eq : s.retryBackoffMax = .finite false cap
  base_count : IsCount base
  cap_count : IsCount cap
  cap_lt : cap < limit

theorem Environment.isCount_of_number {env : Environment} {name default : String} {s : Bool}
    {u : Nat} (h : env.number name default = .ok (.finite s u)) : IsCount u ∧ u < limit := by
  simp only [Environment.number] at h
  split at h
  · rename_i x hread
    rw [Except.ok.inj h] at hread
    exact isCount_of_binary64? hread
  · cases h

/-- An environment gives such settings, if the numbers in it are finite and not negative. -/
theorem Settings.backs_of_environment {env : Environment} {s : Settings} {base cap : Nat}
    (h : Settings.ofEnvironment env = .ok s)
    (hbase : s.retryBackoffBase = .finite false base)
    (hcap : s.retryBackoffMax = .finite false cap) : s.Backs base cap := by
  obtain ⟨_, -, h⟩ := Except.bind_eq_ok_iff.1 h
  obtain ⟨_, -, h⟩ := Except.bind_eq_ok_iff.1 h
  obtain ⟨_, -, h⟩ := Except.bind_eq_ok_iff.1 h
  obtain ⟨b, hb, h⟩ := Except.bind_eq_ok_iff.1 h
  obtain ⟨c, hc, h⟩ := Except.bind_eq_ok_iff.1 h
  obtain ⟨_, -, h⟩ := Except.bind_eq_ok_iff.1 h
  cases h
  obtain rfl : b = .finite false base := hbase
  obtain rfl : c = .finite false cap := hcap
  exact {
    base_eq := rfl
    cap_eq := rfl
    base_count := (Environment.isCount_of_number hb).1
    cap_count := (Environment.isCount_of_number hc).1
    cap_lt := (Environment.isCount_of_number hc).2 }

theorem natPow_add {k m : Nat} (h : Nat.pow 2 k = m) (n : Nat) : Nat.pow 2 (n + k) = 2 ^ n * m := by
  rw [← h]
  exact Nat.pow_add 2 n k

theorem twoTo_natCast (n : Nat) :
    twoTo n = if 1024 ≤ n then .error .tooGreat else .ok (.finite false (2 ^ n * one)) := by
  have hcast : ((1024 : Int) ≤ n) ↔ 1024 ≤ n := by omega
  rw [twoTo, if_congr hcast rfl rfl]
  split
  · rfl
  have hexp : (1074 + (n : Int)).toNat = n + 1074 := by omega
  have hone : Nat.pow 2 1074 = one := by decide +kernel
  rw [if_pos (by omega), hexp, natPow_add hone]

theorem Settings.backoff_eq {s : Settings} {base cap : Nat} (h : s.Backs base cap) (n : Nat) :
    s.backoff n =
      if 1024 ≤ n then .error .tooGreat else .ok (.finite false (min (base * 2 ^ n) cap)) := by
  rw [Settings.backoff, twoTo_natCast, h.base_eq, h.cap_eq]
  split
  · rfl
  change Except.ok _ = _
  rw [Binary64.mul_two_pow h.base_count, Binary64.min_ofUnits h.cap_lt]

theorem Operator.settle_of_fatal (op : Operator) {r : PassResult} (h : r.outcome = .fatal)
    (retry : Int) :
    op.settle r retry = (op.settings.backoff retry).bind fun delay =>
      .error (.retryLater ("Reconcile failed: " ++ r.faultText) delay) := by
  rw [settle, h]
  rfl

/-- Up to 1023 retries there is a delay, the base doubled as often or the cap if that is less, and
every failed pass is retried after it. Beyond that there is none, and no retry is asked for. -/
theorem backoff_spec (op : Operator) {base cap : Nat} (h : op.settings.Backs base cap)
    (retry : Nat) :
    (retry < 1024 →
      ∃ delay, op.settings.backoff retry = .ok (.finite false delay) ∧ delay ≤ cap ∧
        (cap ≤ base * 2 ^ retry → delay = cap) ∧
        (∀ earlier ≤ retry, ∃ shorter ≤ delay,
          op.settings.backoff earlier = .ok (.finite false shorter)) ∧
        ∀ r : PassResult, r.outcome = .fatal → op.settle r retry =
          .error (.retryLater ("Reconcile failed: " ++ r.faultText) (.finite false delay))) ∧
    (1024 ≤ retry →
      op.settings.backoff retry = .error .tooGreat ∧
        ∀ r : PassResult, r.outcome = .fatal → op.settle r retry = .error .tooGreat) := by
  have hdelay := op.settings.backoff_eq h
  constructor
  · intro hfew
    have hhere := hdelay retry
    rw [if_neg (by omega)] at hhere
    refine ⟨_, hhere, min_le_right _ _, min_eq_right, ?_, ?_⟩
    · intro earlier hle
      have hless : base * 2 ^ earlier ≤ base * 2 ^ retry :=
        Nat.mul_le_mul_left base (Nat.pow_le_pow_right Nat.two_pos hle)
      refine ⟨_, le_min (le_trans (min_le_left _ _) hless) (min_le_right _ _), ?_⟩
      rw [hdelay earlier, if_neg (by omega)]
    · intro r hr
      rw [op.settle_of_fatal hr, hhere]
      rfl
  · intro hmany
    have hhere := hdelay retry
    rw [if_pos hmany] at hhere
    refine ⟨hhere, fun r hr => ?_⟩
    rw [op.settle_of_fatal hr, hhere]
    rfl

theorem Settings.backs_default : ({} : Settings).Backs (5 * one) (300 * one) := by
  constructor <;> decide +kernel

/-- With the defaults the cap is reached at the sixth retry. -/
theorem backoff_default_six :
    ({} : Settings).Backs (5 * one) (300 * one) ∧
      ({} : Settings).backoff 6 = .ok (seconds 300) := by
  refine ⟨Settings.backs_default, ?_⟩
  obtain ⟨delay, hdelay, -, hcap, -⟩ := (backoff_spec {} Settings.backs_default 6).1 (by decide)
  rw [hcap (by decide +kernel)] at hdelay
  exact hdelay

/-- The delay of the 1024th retry is not the cap, and a pass that failed gets no retry from it. -/
theorem backoff_default_overflows :
    ¬ (∀ retry : Nat, ∃ delay, ({} : Settings).backoff retry = .ok delay) ∧
      ({} : Settings).backoff 1024 = .error .tooGreat ∧
      Operator.settle {} { outcome := .fatal, name := .str "a" } 1024 = .error .tooGreat := by
  have hnone : ({} : Settings).backoff 1024 = .error .tooGreat := rfl
  refine ⟨fun hall => ?_, hnone, rfl⟩
  obtain ⟨delay, hdelay⟩ := hall 1024
  cases hnone.symm.trans hdelay

end MoodleTenancy
