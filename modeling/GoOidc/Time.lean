import Mathlib.Data.Int.Defs

/-!
Go's time arithmetic as `areClaimsValid` uses it: `int64` wrapping (`wrap`), durations and
`int(d.Seconds())`, times without a monotonic reading, and the saturating `Time.Add` and
`Time.Sub`. For two whole-second times `Sub` returns the exact difference when it fits a
`Duration`, else the bound on its side (`sub_of_zero_nsec`).
-/

namespace GoOidc

/-! ### `int64` -/

def IsInt64 (x : Int) : Prop := -9223372036854775808 ≤ x ∧ x ≤ 9223372036854775807

instance : DecidablePred IsInt64 := fun _ => inferInstanceAs (Decidable (_ ∧ _))

/-- Go's `int64` arithmetic: the exact result modulo `2^64`, into the signed range. -/
def wrap (x : Int) : Int := (x + 9223372036854775808) % 18446744073709551616 - 9223372036854775808

theorem wrap_isInt64 (x : Int) : IsInt64 (wrap x) := by
  unfold IsInt64 wrap; omega

theorem wrap_of_isInt64 {x : Int} (h : IsInt64 x) : wrap x = x := by
  unfold IsInt64 at h; unfold wrap; omega

def maxInt64 : Int := 9223372036854775807

/-! ### Durations -/

structure Duration where
  ns : Int
  isInt64 : IsInt64 ns

def second : Int := 1000000000

def maxDuration : Duration := ⟨maxInt64, by decide⟩

def minDuration : Duration := ⟨-9223372036854775808, by decide⟩

def Duration.neg (d : Duration) : Duration := ⟨wrap (-d.ns), wrap_isInt64 _⟩

/-- `int(d.Seconds())`: the float sum truncates to the whole seconds for every duration `Sub`
    returns on whole-second times, whose remainders are 0, 854775807 and -854775808. -/
def Duration.intSeconds (d : Duration) : Int := d.ns.tdiv second

theorem tmod_second (d : Int) :
    second * d.tdiv second + d.tmod second = d ∧ (0 ≤ d → 0 ≤ d.tmod second ∧ d.tmod second < second) ∧
      (d < 0 → -second < d.tmod second ∧ d.tmod second ≤ 0) := by
  refine ⟨Int.tdiv_add_tmod d second, fun nonneg => ⟨Int.tmod_nonneg _ nonneg, Int.tmod_lt_of_pos _ (by decide)⟩,
    fun neg => ?_⟩
  have negated := Int.tmod_def (-d) second
  rw [Int.neg_tdiv] at negated
  have := Int.tmod_nonneg second (show 0 ≤ -d by omega)
  have := Int.tmod_lt_of_pos (-d) (show 0 < second by decide)
  have := Int.tmod_def d second
  unfold second at *
  omega

theorem maxDuration_intSeconds : maxDuration.intSeconds = 9223372036 := by decide

theorem minDuration_intSeconds : minDuration.intSeconds = -9223372036 := by decide

/-! ### Times -/

/-- `time.Time` without a monotonic reading: seconds since January 1 of year 1, and nanoseconds. -/
@[ext] structure Time where
  sec : Int
  nsec : Int
  secIsInt64 : IsInt64 sec
  nsecLt : 0 ≤ nsec ∧ nsec < second

def unixToInternal : Int := (1969 * 365 + 1969 / 4 - 1969 / 100 + 1969 / 400) * 86400

theorem unixToInternal_eq : unixToInternal = 62135596800 := by decide

/-- `time.Unix(sec, 0)`: its seconds are `sec + unixToInternal` in `int64` arithmetic. -/
def unix (sec : Int) : Time := ⟨wrap (sec + unixToInternal), 0, wrap_isInt64 _, by decide⟩

def Time.equal (t u : Time) : Bool := t.sec = u.sec && t.nsec = u.nsec

def Time.before (t u : Time) : Bool := t.sec < u.sec || t.sec = u.sec && t.nsec < u.nsec

def Time.after (t u : Time) : Bool := t.sec > u.sec || t.sec = u.sec && t.nsec > u.nsec

/-- `Time.addSec`: the sum, saturated when `(sum > t.ext) == (d > 0)` detects an overflow. -/
def addSec (ext d : Int) : Int :=
  if (wrap (ext + d) > ext ↔ d > 0) then wrap (ext + d) else if d > 0 then maxInt64 else -maxInt64

theorem addSec_isInt64 (ext d : Int) : IsInt64 (addSec ext d) := by
  unfold addSec
  split_ifs
  exacts [wrap_isInt64 _, by decide, by decide]

theorem addSec_eq {ext d : Int} (hext : IsInt64 ext) (hd : IsInt64 d) :
    addSec ext d = if IsInt64 (ext + d) then ext + d else if d > 0 then maxInt64 else -maxInt64 := by
  unfold IsInt64 at *
  unfold addSec wrap maxInt64
  split_ifs <;> omega

/-- `Time.Add`'s whole seconds and nanoseconds, one second carried out of `[0, 1e9)`. -/
def addParts (nsec : Int) (d : Duration) : Int × Int :=
  let dsec := d.ns.tdiv second
  let nsec := nsec + d.ns.tmod second
  if nsec ≥ second then (dsec + 1, nsec - second)
  else if nsec < 0 then (dsec - 1, nsec + second)
  else (dsec, nsec)

theorem addParts_eq {nsec : Int} (h : 0 ≤ nsec ∧ nsec < second) (d : Duration) :
    addParts nsec d = ((nsec + d.ns) / second, (nsec + d.ns) % second) := by
  obtain ⟨split, nonneg, neg⟩ := tmod_second d.ns
  unfold second at *
  unfold addParts second
  dsimp only
  split_ifs <;> ext <;> simp only <;> omega

def Time.add (t : Time) (d : Duration) : Time where
  sec := addSec t.sec (addParts t.nsec d).1
  nsec := (addParts t.nsec d).2
  secIsInt64 := addSec_isInt64 _ _
  nsecLt := by
    rw [addParts_eq t.nsecLt]
    unfold second
    omega

theorem Time.add_zero (t : Time) (zero : IsInt64 0) : t.add ⟨0, zero⟩ = t := by
  have := t.nsecLt
  ext
  · simp only [Time.add, addParts_eq this, Int.add_zero, Int.emod_eq_of_lt this.1 this.2,
      Int.ediv_eq_zero_of_lt this.1 this.2, addSec_eq t.secIsInt64 zero, t.secIsInt64, if_true]
  · simp only [Time.add, addParts_eq this, Int.add_zero, Int.emod_eq_of_lt this.1 this.2]

/-- `Duration(t.sec()-u.sec())*Second + Duration(t.nsec()-u.nsec())`, before `Sub`'s check. -/
def Time.rawSub (t u : Time) : Duration :=
  ⟨wrap (wrap (wrap (t.sec - u.sec) * second) + (t.nsec - u.nsec)), wrap_isInt64 _⟩

/-- `Time.Sub`: the raw difference when adding it back to `u` gives `t`, else a bound. -/
def Time.sub (t u : Time) : Duration :=
  let d := t.rawSub u
  if (u.add d).equal t then d
  else if t.before u then minDuration
  else maxDuration

/-! ### Whole-second times -/

section WholeSeconds
variable {t u : Time}

theorem add_equal_of_zero_nsec (ht : t.nsec = 0) (hu : u.nsec = 0) (d : Duration) :
    (u.add d).equal t = true ↔ d.ns % second = 0 ∧ addSec u.sec (d.ns / second) = t.sec := by
  simp only [Time.equal, Time.add, addParts_eq u.nsecLt]
  simp only [hu, ht, Int.zero_add, Bool.and_eq_true, decide_eq_true_eq]
  exact And.comm

theorem before_of_zero_nsec (hu : u.nsec = 0) : t.before u = decide (t.sec < u.sec) := by
  have : ¬ t.nsec < 0 := by have := t.nsecLt; omega
  unfold Time.before
  simp [hu, this]

theorem sec_le_of_after_eq_false (notAfter : t.after u = false) : t.sec ≤ u.sec := by
  unfold Time.after at notAfter
  simp only [Bool.or_eq_false_iff, decide_eq_false_iff_not] at notAfter
  omega

theorem rawSub_of_fits (ht : t.nsec = 0) (hu : u.nsec = 0) (fits : IsInt64 ((t.sec - u.sec) * second)) :
    (t.rawSub u).ns = (t.sec - u.sec) * second := by
  have diff : IsInt64 (t.sec - u.sec) := by unfold IsInt64 second at *; omega
  simp only [Time.rawSub, ht, hu, Int.sub_self, Int.add_zero, wrap_of_isInt64 diff, wrap_of_isInt64 fits]

theorem add_rawSub_equal_iff (ht : t.nsec = 0) (hu : u.nsec = 0) :
    (u.add (t.rawSub u)).equal t = true ↔ IsInt64 ((t.sec - u.sec) * second) := by
  have ts := t.secIsInt64
  have us := u.secIsInt64
  rw [add_equal_of_zero_nsec ht hu]
  constructor
  · rintro ⟨whole, landed⟩
    have ds := (t.rawSub u).isInt64
    have quotient : IsInt64 ((t.rawSub u).ns / second) := by unfold IsInt64 second at *; omega
    rw [addSec_eq us quotient] at landed
    unfold IsInt64 second maxInt64 at *
    split_ifs at landed <;> omega
  · intro fits
    have diff : IsInt64 (t.sec - u.sec) := by unfold IsInt64 second at *; omega
    rw [rawSub_of_fits ht hu fits, Int.mul_ediv_cancel _ (by decide), addSec_eq us diff,
      if_pos (by unfold IsInt64 at *; omega)]
    unfold second
    omega

theorem sub_of_zero_nsec (ht : t.nsec = 0) (hu : u.nsec = 0) :
    (t.sub u).ns = if IsInt64 ((t.sec - u.sec) * second) then (t.sec - u.sec) * second
      else if t.sec < u.sec then minDuration.ns else maxDuration.ns := by
  unfold Time.sub
  dsimp only
  by_cases fits : IsInt64 ((t.sec - u.sec) * second)
  · rw [if_pos ((add_rawSub_equal_iff ht hu).mpr fits), if_pos fits, rawSub_of_fits ht hu fits]
  · rw [if_neg (mt (add_rawSub_equal_iff ht hu).mp fits), if_neg fits, before_of_zero_nsec hu]
    by_cases earlier : t.sec < u.sec <;> simp [earlier]

theorem intSeconds_sub_of_zero_nsec (ht : t.nsec = 0) (hu : u.nsec = 0) :
    (t.sub u).intSeconds = if IsInt64 ((t.sec - u.sec) * second) then t.sec - u.sec
      else if t.sec < u.sec then -9223372036 else 9223372036 := by
  have ns := sub_of_zero_nsec ht hu
  unfold Duration.intSeconds
  split_ifs at ns ⊢ with fits
  · rw [ns]; exact Int.mul_tdiv_cancel _ (by decide)
  · rw [ns]; exact minDuration_intSeconds
  · rw [ns]; exact maxDuration_intSeconds

end WholeSeconds

/-! ### NumericDates -/

structure NumericDate where
  secs : Int
  isInt64 : IsInt64 secs

def NumericDate.time (n : NumericDate) : Time := unix n.secs

@[simp] theorem NumericDate.time_nsec (n : NumericDate) : n.time.nsec = 0 := rfl

theorem NumericDate.time_sec (n : NumericDate) : n.time.sec = wrap (n.secs + unixToInternal) := rfl

end GoOidc
