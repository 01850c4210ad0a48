import Mathlib
import Ckmux.Data.Words
import Ckmux.Proto.Message

/-!
# What a terminal costs

The counters of a terminal's processes are cumulative. A rate is what two readings of them differ
by, divided by the time between them: in tenths of a percent of one core, so a thousandth of a
second's work each second. Both readings have sixty-four bits, and a thousand times their
difference may not fit.
-/

namespace Ckmux

open Data (Agrees Arithmetic Divided Word bits_uint64 fitting fitting_add fitting_mul fitting_sub
  machine toNat_uint32 toNat_uint64)
open Proto (TermStats TermStatsMemory TermStatsScope TermStatsState)

/-! ### The rate -/

section

variable {M : Type → Type} [Monad M] (arith : Arithmetic M)

/-- One addend more, and one to the quotient where the divisor is reached. -/
def addDivided (wall remainder addend : UInt64) (fraction : UInt32) : M (UInt64 × UInt32) := do
  let room ← arith.sub wall addend
  if remainder ≥ room then
    let rest ← arith.sub remainder room
    let more ← arith.add fraction 1
    return (rest, more)
  else
    let sum ← arith.add remainder addend
    return (sum, fraction)

/-- A thousand times a number, divided, from a bit of the thousand down. -/
def divideBits (wall initial : UInt64) : Nat → UInt64 → UInt32 → M UInt32
  | 0, _, fraction => return fraction
  | bit + 1, remainder, fraction => do
      let twice ← arith.mul fraction 2
      let doubled ← addDivided arith wall remainder remainder twice
      if (1000).testBit bit then
        let added ← addDivided arith wall doubled.1 initial doubled.2
        divideBits wall initial bit added.1 added.2
      else divideBits wall initial bit doubled.1 doubled.2

/-- The greatest rate there is a word for. -/
def maximumRate : UInt32 := 4294967295

/-- The rate in thousandths of one core, as the source's divisions come to it. -/
def cpuRate (cpu wall : UInt64) : M UInt32 := do
  let whole := cpu / wall
  if whole > (maximumRate / 1000).toUInt64 then return maximumRate
  let initial := cpu % wall
  let fraction ← divideBits arith wall initial 10 0 0
  let thousands ← arith.mul whole 1000
  let result ← arith.add thousands fraction.toUInt64
  return if result > maximumRate.toUInt64 then maximumRate else result.toUInt32

end

/-! ### What a sample comes to -/

/-- What became of the look at the processes. -/
inductive ProcessResourceState where
  | unsupported | available | incomplete | gone | failed
deriving DecidableEq

/-- What the time of the processor was counted over. -/
inductive ProcessCpuScope where
  | processLifetime | ownedJobLifetime
deriving DecidableEq

/-- What one look at a terminal's processes found. -/
structure ProcessResources where
  state : ProcessResourceState := .unsupported
  cpuScope : ProcessCpuScope := .processLifetime
  liveProcesses : UInt32 := 0
  unreadableProcesses : UInt32 := 0
  systemError : UInt32 := 0
  cpuTimeNanos : Option UInt64 := none
  rssBytes : Option UInt64 := none
  privateRssBytes : Option UInt64 := none

/-- The reading that the next is measured against. -/
structure CpuBaseline where
  cpuNanos : UInt64 := 0
  atNanos : Int64 := 0
  scope : ProcessCpuScope := .processLifetime
  primed : Bool := false

/-- What the memory costs is known. -/
def flagHasReal : UInt8 := 1
/-- There is a process. -/
def flagAlive : UInt8 := 2
/-- There is a rate. -/
def flagHasCpu : UInt8 := 4
/-- The resident bytes were measured. -/
def flagHasRss : UInt8 := 8

/-- The state a client is told. -/
def ProcessResourceState.toWire : ProcessResourceState → TermStatsState
  | .unsupported => .unsupported
  | .available => .available
  | .incomplete => .incomplete
  | .gone => .gone
  | .failed => .failed

/-- The scope a client is told. -/
def ProcessCpuScope.toWire (scope : ProcessCpuScope) : TermStatsScope :=
  if scope = .ownedJobLifetime then .ownedJobLifetime else .liveProcessTree

namespace ProcessResources

/-- An owned job that was looked into, and is empty. -/
def Empty (sample : ProcessResources) : Prop :=
  sample.state = .available ∧ sample.liveProcesses = 0 ∧ sample.unreadableProcesses = 0

/-- Something was measured. -/
def Measured (sample : ProcessResources) : Prop :=
  (sample.state = .available ∨ sample.state = .incomplete) ∧ ¬sample.Empty

instance (sample : ProcessResources) : Decidable sample.Empty :=
  inferInstanceAs (Decidable (_ ∧ _ ∧ _))

instance (sample : ProcessResources) : Decidable sample.Measured :=
  inferInstanceAs (Decidable (_ ∧ _))

end ProcessResources

/-- Whether a later reading is one that a rate can be formed with. -/
def CpuBaseline.Precedes (baseline : CpuBaseline) (scope : ProcessCpuScope) (now : Int64)
    (cpu : UInt64) : Prop :=
  baseline.primed = true ∧ baseline.scope = scope ∧ baseline.atNanos < now ∧
    baseline.cpuNanos ≤ cpu

instance (baseline : CpuBaseline) (scope : ProcessCpuScope) (now : Int64) (cpu : UInt64) :
    Decidable (baseline.Precedes scope now cpu) :=
  inferInstanceAs (Decidable (_ ∧ _ ∧ _ ∧ _))

/-- The time between two readings of the clock, which may lie on both sides of its zero. -/
def CpuBaseline.wall (baseline : CpuBaseline) (now : Int64) : UInt64 :=
  now.toUInt64 - baseline.atNanos.toUInt64

/-- What a client is told of a sample, and the baseline for the next one. -/
def makeTermStats (sample : ProcessResources) (baseline : CpuBaseline) (now : Int64)
    (terminal : UInt64) (platformCost : Option UInt64) : TermStats × CpuBaseline :=
  let stats : TermStats :=
    { term := terminal
      state := sample.state.toWire
      cpuScope := sample.cpuScope.toWire
      liveProcesses := sample.liveProcesses
      unreadableProcesses := sample.unreadableProcesses
      systemError := sample.systemError }
  let unprimed := { baseline with primed := false }
  if sample.Empty then
    ({ stats with state := .gone }, unprimed)
  else if sample.state ≠ .available ∧ sample.state ≠ .incomplete then
    (stats, unprimed)
  else
    let stats :=
      if sample.liveProcesses ≠ 0 ∨ sample.unreadableProcesses ≠ 0 then
        { stats with flags := stats.flags ||| flagAlive }
      else stats
    let stats :=
      match sample.rssBytes with
      | none => stats
      | some bytes => { stats with rssBytes := bytes, flags := stats.flags ||| flagHasRss }
    let stats :=
      match sample.privateRssBytes.or platformCost with
      | none => stats
      | some bytes =>
          { stats with
            realBytes := bytes
            realKind := if sample.privateRssBytes.isSome then .privateResident else .platformCost
            flags := stats.flags ||| flagHasReal }
    match sample.cpuTimeNanos with
    | none => (stats, unprimed)
    | some cpu =>
        let stats :=
          if baseline.Precedes sample.cpuScope now cpu then
            { stats with
              cpuPermille := (cpuRate machine (cpu - baseline.cpuNanos) (baseline.wall now)).run
              flags := stats.flags ||| flagHasCpu }
          else stats
        (stats, { cpuNanos := cpu, atNanos := now, scope := sample.cpuScope, primed := true })

/-! ### Nothing wraps -/

section

variable {wall remainder addend : UInt64} {fraction : UInt32}

/-- One addition fits where the quotient has room, and divides what it should. -/
theorem addDivided_fits (below : remainder < wall) (small : addend < wall)
    (room : fraction.toNat + 1 < 2 ^ 32) :
    ∃ rest more, addDivided fitting wall remainder addend fraction = some (rest, more) ∧
      rest < wall ∧ more.toNat * wall.toNat + rest.toNat =
        fraction.toNat * wall.toNat + remainder.toNat + addend.toNat := by
  rw [UInt64.lt_iff_toNat_lt] at below small
  obtain ⟨left, left_eq⟩ := fitting_sub wall addend small.le
  simp only [toNat_uint64] at left_eq
  have limit := wall.toNat_lt
  simp only [addDivided, left, Option.bind_eq_bind, Option.bind_some, ge_iff_le,
    UInt64.le_iff_toNat_le, left_eq]
  split
  · rename_i reached
    obtain ⟨rest, rest_eq⟩ := fitting_sub remainder (wall - addend)
      (by simpa [left_eq] using reached)
    obtain ⟨more, more_eq⟩ := fitting_add fraction 1 (by simpa using room)
    simp only [toNat_uint64, toNat_uint32, left_eq] at rest_eq more_eq
    refine ⟨_, _, by rw [rest, Option.bind_some, more]; rfl, ?_, ?_⟩
    · rw [UInt64.lt_iff_toNat_lt]
      omega
    · rw [more_eq, rest_eq]
      have one : (1 : UInt32).toNat = 1 := rfl
      rw [one, Nat.add_mul]
      omega
  · rename_i short
    obtain ⟨sum, sum_eq⟩ := fitting_add remainder addend
      (by simp only [toNat_uint64, bits_uint64]; omega)
    simp only [toNat_uint64] at sum_eq
    refine ⟨_, _, by rw [sum]; rfl, ?_, ?_⟩
    · rw [UInt64.lt_iff_toNat_lt]
      omega
    · omega

/-- The bits of a thousand that are still to come make up for what the fraction lacks. -/
theorem divideBits_fits {initial : UInt64} (small : initial < wall) (bits : Nat)
    (divided : Divided initial.toNat wall.toNat (1000 >>> bits) fraction.toNat remainder.toNat) :
    ∃ quotient, divideBits fitting wall initial bits remainder fraction = some quotient ∧
      quotient.toNat = 1000 * initial.toNat / wall.toNat := by
  induction bits generalizing remainder fraction with
  | zero => exact ⟨fraction, rfl, divided.quotient_eq⟩
  | succ bit ih =>
      have half : 1000 >>> (bit + 1) ≤ 500 := by
        rw [Nat.shiftRight_succ_inside]
        exact Nat.shiftRight_le (1000 / 2) bit
      have fewer := divided.quotient_le (UInt64.lt_iff_toNat_lt.mp small)
      obtain ⟨twice, twice_eq⟩ := fitting_mul fraction 2
        (show fraction.toNat * 2 < 2 ^ 32 by omega)
      have twice_eq : (fraction * 2).toNat = fraction.toNat * 2 := twice_eq
      obtain ⟨double, more, doubled, below, double_eq⟩ := addDivided_fits
        (UInt64.lt_iff_toNat_lt.mpr divided.below) (UInt64.lt_iff_toNat_lt.mpr divided.below)
        (show (fraction * 2).toNat + 1 < 2 ^ 32 by omega)
      have bit_eq := Divided.shiftRight_bit 1000 bit
      have whole := divided.whole
      have double_whole : more.toNat * wall.toNat + double.toNat =
          2 * (1000 >>> (bit + 1)) * initial.toNat := by
        calc more.toNat * wall.toNat + double.toNat
            = 2 * (fraction.toNat * wall.toNat + remainder.toNat) := by
              rw [double_eq, twice_eq]
              ring
          _ = 2 * (1000 >>> (bit + 1)) * initial.toNat := by rw [whole, Nat.mul_assoc]
      rw [divideBits, twice]
      simp only [Option.bind_eq_bind, Option.bind_some, doubled]
      split
      · rename_i set
        rw [set, Bool.toNat_true] at bit_eq
        have doubled_divided : Divided initial.toNat wall.toNat (2 * (1000 >>> (bit + 1)))
          more.toNat double.toNat := ⟨UInt64.lt_iff_toNat_lt.mp below, double_whole⟩
        have room := doubled_divided.quotient_le (UInt64.lt_iff_toNat_lt.mp small)
        obtain ⟨sum, next, added, sum_below, sum_eq⟩ := addDivided_fits below small
          (show more.toNat + 1 < 2 ^ 32 by omega)
        rw [added, Option.bind_some]
        refine ih ⟨UInt64.lt_iff_toNat_lt.mp sum_below, ?_⟩
        rw [sum_eq, double_whole, bit_eq]
        ring
      · rename_i clear
        rw [Bool.not_eq_true _ |>.mp clear, Bool.toNat_false, Nat.add_zero] at bit_eq
        exact ih ⟨UInt64.lt_iff_toNat_lt.mp below, double_whole.trans (by rw [bit_eq])⟩

/-- A rate is the exact one as far as there is a word for it, and nothing wraps on the way. -/
theorem cpuRate_fits (cpu : UInt64) (positive : 0 < wall.toNat) :
    ∃ rate, cpuRate fitting cpu wall = some rate ∧
      rate.toNat = min (2 ^ 32 - 1) (1000 * cpu.toNat / wall.toNat) := by
  have parts : 1000 * cpu.toNat / wall.toNat =
      1000 * (cpu.toNat / wall.toNat) + 1000 * (cpu.toNat % wall.toNat) / wall.toNat := by
    conv_lhs => rw [← Nat.div_add_mod cpu.toNat wall.toNat]
    rw [Nat.mul_add, Nat.mul_left_comm, Nat.mul_add_div positive]
  have maximum : maximumRate.toUInt64.toNat = 4294967295 := rfl
  have thousandth : (maximumRate / 1000).toUInt64.toNat = 4294967 := rfl
  have whole_eq : (cpu / wall).toNat = cpu.toNat / wall.toNat := UInt64.toNat_div ..
  rw [cpuRate]
  simp only [gt_iff_lt, UInt64.lt_iff_toNat_lt, thousandth, whole_eq]
  split
  · rename_i many
    refine ⟨maximumRate, rfl, ?_⟩
    have most : 2 ^ 32 - 1 ≤ 1000 * (cpu.toNat / wall.toNat) := by omega
    rw [parts, Nat.min_eq_left (most.trans (Nat.le_add_right ..))]
    rfl
  · rename_i few
    have small : cpu % wall < wall := by
      rw [UInt64.lt_iff_toNat_lt, UInt64.toNat_mod]
      exact Nat.mod_lt _ positive
    obtain ⟨fraction, divided, fraction_eq⟩ := @divideBits_fits wall 0 0 _ small 10
      ⟨positive, by simp⟩
    rw [UInt64.toNat_mod] at fraction_eq
    have fraction_lt : 1000 * (cpu.toNat % wall.toNat) / wall.toNat < 1000 :=
      Nat.div_lt_of_lt_mul (Nat.mul_comm wall.toNat 1000 ▸
        Nat.mul_lt_mul_of_pos_left (Nat.mod_lt _ positive) (by omega))
    obtain ⟨thousands, thousands_eq⟩ := fitting_mul (cpu / wall) 1000
      (show (cpu / wall).toNat * 1000 < 2 ^ 64 by omega)
    have thousands_eq : (cpu / wall * 1000).toNat = (cpu / wall).toNat * 1000 := thousands_eq
    obtain ⟨result, result_eq⟩ := fitting_add (cpu / wall * 1000)
      fraction.toUInt64 (show (cpu / wall * 1000).toNat + fraction.toNat < 2 ^ 64 by omega)
    have result_eq : (cpu / wall * 1000 + fraction.toUInt64).toNat =
        (cpu / wall * 1000).toNat + fraction.toNat := result_eq
    simp only [Option.pure_def, Option.bind_eq_bind, divided, thousands, result, Option.bind_some]
    refine ⟨_, rfl, ?_⟩
    simp only [maximum]
    rw [result_eq, thousands_eq, fraction_eq, whole_eq]
    split
    · rename_i many
      rw [parts, Nat.min_eq_left (by omega)]
      rfl
    · rename_i few
      rw [parts, Nat.min_eq_right (by omega), UInt64.toNat_toUInt32, result_eq]
      omega

end

/-! ### The machine computes the same -/

/-- The machine's addition is the fitting one wherever that fits. -/
theorem addDivided_agrees (wall remainder addend : UInt64) (fraction : UInt32) :
    Agrees (addDivided fitting wall remainder addend fraction)
      (addDivided machine wall remainder addend fraction) := by
  refine .bind (.sub ..) fun room => .ite ?_ ?_
  · refine .bind (.sub ..) fun rest => .bind (.add ..) fun more => ?_
    exact .pure _
  · exact .bind (.add ..) fun sum => .pure _

/-- So is bit after bit of the division. -/
theorem divideBits_agrees (wall initial : UInt64) (bits : Nat) (remainder : UInt64)
    (fraction : UInt32) :
    Agrees (divideBits fitting wall initial bits remainder fraction)
      (divideBits machine wall initial bits remainder fraction) := by
  induction bits generalizing remainder fraction with
  | zero => exact .pure fraction
  | succ bit ih =>
      refine .bind (.mul ..) fun twice => .bind (addDivided_agrees ..) fun doubled => .ite ?_ ?_
      · exact .bind (addDivided_agrees ..) fun added => ih ..
      · exact ih ..

/-- And so is the rate. -/
theorem cpuRate_agrees (cpu wall : UInt64) :
    Agrees (cpuRate fitting cpu wall) (cpuRate machine cpu wall) := by
  refine .ite (.pure _) (.bind (divideBits_agrees ..) fun fraction => ?_)
  refine .bind (.mul ..) fun thousands => .bind (.add ..) fun result => ?_
  exact .pure _

/-! ### The rate reported -/

/-- The time between two readings is what they differ by, on whichever sides of zero they lie. -/
theorem CpuBaseline.wall_toNat {baseline : CpuBaseline} {now : Int64}
    (later : baseline.atNanos < now) :
    ((baseline.wall now).toNat : Int) = now.toInt - baseline.atNanos.toInt := by
  have later := Int64.lt_iff_toInt_lt.mp later
  have unsigned (clock : Int64) : clock.toUInt64.toNat = clock.toBitVec.toNat := rfl
  have signed (clock : Int64) : clock.toInt = clock.toBitVec.toInt := rfl
  simp only [signed, BitVec.toInt_eq_toNat_cond] at later ⊢
  have now_lt := now.toBitVec.isLt
  have at_lt := baseline.atNanos.toBitVec.isLt
  rw [CpuBaseline.wall, UInt64.toNat_sub, unsigned, unsigned]
  split at later <;> split at later <;> omega

section

variable {sample : ProcessResources} {cpu : UInt64} (measured : sample.Measured)
  (counted : sample.cpuTimeNanos = some cpu) (baseline : CpuBaseline) (now : Int64)
  (terminal : UInt64) (platformCost : Option UInt64)

include measured counted

/-- What is said of a sample in which time was counted: all else, which says nothing of a rate, and
the rate if there is one. -/
theorem makeTermStats_counted :
    ∃ stats : TermStats, stats.cpuPermille = 0 ∧ stats.flags &&& flagHasCpu = 0 ∧
      makeTermStats sample baseline now terminal platformCost =
        (if baseline.Precedes sample.cpuScope now cpu then
            { stats with
              cpuPermille := (cpuRate machine (cpu - baseline.cpuNanos) (baseline.wall now)).run
              flags := stats.flags ||| flagHasCpu }
          else stats,
          { cpuNanos := cpu, atNanos := now, scope := sample.cpuScope, primed := true }) := by
  obtain ⟨looked, filled⟩ := measured
  have seen : ¬(sample.state ≠ .available ∧ sample.state ≠ .incomplete) := by
    rintro ⟨first, second⟩
    exact looked.elim first second
  rw [makeTermStats, if_neg filled, if_neg seen]
  simp only [counted]
  refine ⟨_, ?_, ?_, rfl⟩
  · split <;> split <;> split <;> rfl
  · split <;> split <;> split <;> dsimp only <;> decide

/-- What was counted is what the next sample is measured against. -/
theorem makeTermStats_baseline :
    (makeTermStats sample baseline now terminal platformCost).2 =
      { cpuNanos := cpu, atNanos := now, scope := sample.cpuScope, primed := true } := by
  obtain ⟨stats, _, _, made⟩ :=
    makeTermStats_counted measured counted baseline now terminal platformCost
  rw [made]

/-- A rate is reported exactly where the reading before is one that it can be formed with. -/
theorem makeTermStats_hasCpu_iff :
    (makeTermStats sample baseline now terminal platformCost).1.flags &&& flagHasCpu ≠ 0 ↔
      baseline.Precedes sample.cpuScope now cpu := by
  obtain ⟨stats, _, clear, made⟩ :=
    makeTermStats_counted measured counted baseline now terminal platformCost
  rw [made]
  dsimp only
  split
  · rename_i precedes
    refine iff_of_true ?_ precedes
    have set (flags : UInt8) : (flags ||| flagHasCpu) &&& flagHasCpu = flagHasCpu := by
      apply UInt8.eq_of_toBitVec_eq
      ext bit inside
      simp only [UInt8.toBitVec_and, UInt8.toBitVec_or, BitVec.getElem_and, BitVec.getElem_or]
      cases flags.toBitVec[bit] <;> simp
    rw [set]
    decide
  · rename_i apart
    exact iff_of_false (fun set => set clear) apart

/-- The rate reported is the exact one as far as there is a word for it, and no sum, difference or
product that it is formed with wraps. -/
theorem makeTermStats_rate (precedes : baseline.Precedes sample.cpuScope now cpu) :
    ∃ rate, cpuRate fitting (cpu - baseline.cpuNanos) (baseline.wall now) = some rate ∧
      (makeTermStats sample baseline now terminal platformCost).1.cpuPermille = rate ∧
      rate.toNat = min (2 ^ 32 - 1) (1000 * (cpu.toNat - baseline.cpuNanos.toNat) /
        (now.toInt - baseline.atNanos.toInt).toNat) := by
  obtain ⟨_, _, later, more⟩ := id precedes
  have wall := CpuBaseline.wall_toNat later
  have apart := Int64.lt_iff_toInt_lt.mp later
  obtain ⟨rate, fits, rate_eq⟩ := cpuRate_fits (cpu - baseline.cpuNanos)
    (show 0 < (baseline.wall now).toNat by omega)
  refine ⟨rate, fits, ?_, ?_⟩
  · obtain ⟨stats, _, _, made⟩ :=
      makeTermStats_counted measured counted baseline now terminal platformCost
    rw [made, if_pos precedes]
    exact (cpuRate_agrees _ _).same rate fits
  · rw [rate_eq, UInt64.toNat_sub_of_le _ _ more, ← wall, Int.toNat_natCast]

end

/-- A job that one core has been busy with for as long as the clock can tell. -/
def widestSample : ProcessResources :=
  { state := .available, liveProcesses := 1, cpuTimeNanos := some 18446744073709551615 }

/-- The reading at the very start of the clock. -/
def widestBaseline : CpuBaseline := { atNanos := -9223372036854775808, primed := true }

/-- The rate over all the time the clock can tell. -/
theorem makeTermStats_rate_widest :
    ∃ rate, cpuRate fitting (18446744073709551615 - widestBaseline.cpuNanos)
        (widestBaseline.wall 9223372036854775807) = some rate ∧
      (makeTermStats widestSample widestBaseline 9223372036854775807 1 none).1.cpuPermille = rate ∧
      rate.toNat = min (2 ^ 32 - 1)
        (1000 * ((18446744073709551615 : UInt64).toNat - widestBaseline.cpuNanos.toNat) /
          ((9223372036854775807 : Int64).toInt - widestBaseline.atNanos.toInt).toNat) :=
  makeTermStats_rate (by decide +kernel) rfl widestBaseline
    9223372036854775807 1 none (by decide +kernel)

end Ckmux
