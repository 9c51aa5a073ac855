import Mathlib.Data.List.Basic
import Mathlib.Data.List.Pairwise
import Pentagon5.Runtime.Uuid7

/-!
# The order of generated UUIDs

A call of `uuid7` moves the generator forward in the lexicographic order of millisecond and random
bits, whatever the clock reads. Packing keeps this order as long as the millisecond fits its field.
-/

namespace Pentagon5.Runtime

open Python

/-- A call of `uuid7`: the clock in nanoseconds and the bits that would be drawn. -/
structure Reading where
  timeNs : ℤ
  randbits : Fin (2 ^ 74)

def Reading.millisecond (reading : Reading) : ℤ := reading.timeNs / 1000000

/-- What the calls of a process return, each with the generator that it leaves. -/
def generate (g : Generator) : List Reading → List (Option UUID × Generator)
  | [] => []
  | reading :: readings =>
    uuid7 g reading.timeNs reading.randbits ::
      generate (g.next reading.timeNs reading.randbits) readings

namespace Generator

/-- The order of millisecond and random bits. -/
def Before (g g' : Generator) : Prop :=
  g.lastMillisecond < g'.lastMillisecond ∨
    g.lastMillisecond = g'.lastMillisecond ∧ g.lastRandom < g'.lastRandom

variable {g g' g'' : Generator}

lemma Before.trans (h : g.Before g') (h' : g'.Before g'') : g.Before g'' := by
  unfold Before at *
  omega

lemma Before.le (h : g.Before g') : g.lastMillisecond ≤ g'.lastMillisecond := by
  unfold Before at h
  omega

/-- The counter is not zero unless it wrapped, and then the millisecond is raised. -/
lemma before_next (g : Generator) (timeNs : ℤ) (randbits : Fin (2 ^ 74)) :
    g.Before (g.next timeNs randbits) := by
  have hlt := g.lastRandom_lt
  have hmask : (g.lastRandom + 1) &&& randomMask = (g.lastRandom + 1) % 2 ^ 74 :=
    Nat.and_two_pow_sub_one_eq_mod _ 74
  unfold next Before
  by_cases hclock : g.lastMillisecond < timeNs / 1000000
  · left
    simpa only [if_pos hclock] using hclock
  · simp only [if_neg hclock, hmask]
    by_cases hwrap : (g.lastRandom + 1) % 2 ^ 74 = 0
    · left
      rw [if_pos hwrap]
      omega
    · right
      rw [if_neg hwrap]
      omega

lemma le_next (g : Generator) (timeNs : ℤ) (randbits : Fin (2 ^ 74)) :
    timeNs / 1000000 ≤ (g.next timeNs randbits).lastMillisecond := by
  unfold next
  by_cases hclock : g.lastMillisecond < timeNs / 1000000
  · simp only [if_pos hclock]
    exact le_rfl
  · simp only [if_neg hclock]
    split
    · omega
    · omega

/-- The value of the call that left the generator. -/
def value (g : Generator) : UUID := BitVec.ofNat 128 (pack g.lastMillisecond g.lastRandom)

lemma toNat_value (g : Generator) : g.value.toNat = pack g.lastMillisecond g.lastRandom := by
  rw [value, BitVec.toNat_ofNat, Nat.mod_eq_of_lt (pack_lt _ g.lastRandom_lt)]

lemma uuid7_eq (g : Generator) (timeNs : ℤ) (randbits : Fin (2 ^ 74)) :
    uuid7 g timeNs randbits =
      (some (g.next timeNs randbits).value, g.next timeNs randbits) := by
  have hlt := pack_lt (g.next timeNs randbits).lastMillisecond (g.next timeNs randbits).lastRandom_lt
  rw [uuid7, UUID.ofInt, if_pos (by omega)]
  rfl

/-- Packing keeps the order while the millisecond fits into 48 bits. -/
lemma Before.value_lt (h : g.Before g') (hnonneg : 0 ≤ g.lastMillisecond)
    (hbelow : g'.lastMillisecond < 2 ^ 48) : g.value.toNat < g'.value.toNat := by
  have hlt := g.lastRandom_lt
  have hlt' := g'.lastRandom_lt
  have hle := h.le
  have hmod : g.lastMillisecond % 2 ^ 48 = g.lastMillisecond :=
    Int.emod_eq_of_lt hnonneg (by omega)
  have hmod' : g'.lastMillisecond % 2 ^ 48 = g'.lastMillisecond :=
    Int.emod_eq_of_lt (by omega) hbelow
  rw [toNat_value, toNat_value, pack_eq _ hlt, pack_eq _ hlt', hmod, hmod']
  unfold Before at h
  rcases h with hms | ⟨hms, hrandom⟩
  · omega
  · rw [hms]
    omega

lemma unixMillis_value (hnonneg : 0 ≤ g.lastMillisecond) (hbelow : g.lastMillisecond < 2 ^ 48) :
    (unixMillis g.value.toNat : ℤ) = g.lastMillisecond := by
  obtain ⟨-, hmillis, -⟩ := pack_fields g.lastMillisecond g.lastRandom_lt
  rw [toNat_value, hmillis, Int.emod_eq_of_lt hnonneg hbelow]
  omega

end Generator

lemma generate_values (g : Generator) (readings : List Reading) :
    (generate g readings).map Prod.fst =
      ((generate g readings).map fun out => out.2.value).map some := by
  induction readings generalizing g with
  | nil => rfl
  | cons reading readings ih =>
    rw [generate, List.map_cons, List.map_cons, List.map_cons, ih, Generator.uuid7_eq]

lemma generate_after (g : Generator) (readings : List Reading) :
    ∀ out ∈ generate g readings, g.Before out.2 := by
  induction readings generalizing g with
  | nil => exact fun out hout => absurd hout List.not_mem_nil
  | cons reading readings ih =>
    intro out hout
    have hnext := g.before_next reading.timeNs reading.randbits
    rcases List.mem_cons.mp hout with rfl | hout
    · exact hnext
    · exact hnext.trans (ih _ out hout)

lemma generate_pairwise (g : Generator) (readings : List Reading) :
    (generate g readings).Pairwise fun out out' => out.2.Before out'.2 := by
  induction readings generalizing g with
  | nil => exact List.Pairwise.nil
  | cons reading readings ih =>
    rw [generate]
    exact List.Pairwise.cons (generate_after _ readings) (ih _)

/-- No generator is behind a reading that it has seen. -/
lemma reading_le_generate {g : Generator} {readings : List Reading} {i j : ℕ} (hij : i ≤ j)
    {reading : Reading} (hi : readings[i]? = some reading) {out : Option UUID × Generator}
    (hj : (generate g readings)[j]? = some out) : reading.millisecond ≤ out.2.lastMillisecond := by
  induction readings generalizing g i j with
  | nil => cases hi
  | cons first readings ih =>
    rw [generate] at hj
    cases i with
    | zero =>
      obtain rfl : first = reading := by simpa using hi
      have hnext := g.le_next first.timeNs first.randbits
      cases j with
      | zero =>
        obtain rfl := Option.some.inj hj
        exact hnext
      | succ j =>
        have hout : out ∈ generate (g.next first.timeNs first.randbits) readings :=
          List.mem_of_getElem? hj
        exact hnext.trans (generate_after _ readings out hout).le
    | succ i =>
      cases j with
      | zero => omega
      | succ j => exact ih (by omega) hi hj

/-- What the values of a process keep, given the readings that they were made from. -/
structure Increasing (readings : List Reading) (values : List UUID) : Prop where
  increasing : values.Pairwise fun u v => u.toNat < v.toNat
  current : ∀ (i j : ℕ) (reading : Reading) (u : UUID), i ≤ j → readings[i]? = some reading →
    values[j]? = some u → reading.millisecond ≤ unixMillis u.toNat

/-- While readings are not negative and the millisecond fits its field, the values of a process
increase strictly, and the timestamp of none is behind a reading made so far. -/
theorem generate_increasing (readings : List Reading) (hclock : ∀ r ∈ readings, 0 ≤ r.timeNs)
    (hbelow : ∀ out ∈ generate .init readings, out.2.lastMillisecond < 2 ^ 48) :
    ∃ values : List UUID, (generate .init readings).map Prod.fst = values.map some ∧
      Increasing readings values := by
  have hnonneg : ∀ out ∈ generate .init readings, 0 ≤ out.2.lastMillisecond := by
    intro out hout
    obtain ⟨j, hj⟩ := List.mem_iff_getElem?.mp hout
    cases readings with
    | nil => exact absurd hout List.not_mem_nil
    | cons first readings =>
      have hle : first.millisecond ≤ out.2.lastMillisecond :=
        reading_le_generate (Nat.zero_le j) rfl hj
      have hfirst := hclock first List.mem_cons_self
      exact (Int.ediv_nonneg hfirst (by norm_num)).trans hle
  refine ⟨_, generate_values .init readings, ?_, ?_⟩
  · rw [List.pairwise_map]
    apply List.Pairwise.imp_of_mem _ (generate_pairwise .init readings)
    intro out out' hout hout' hbefore
    exact hbefore.value_lt (hnonneg out hout) (hbelow out' hout')
  · intro i j reading u hij hi hj
    rw [List.getElem?_map, Option.map_eq_some_iff] at hj
    obtain ⟨out, hout, rfl⟩ := hj
    have hmem := List.mem_of_getElem? hout
    rw [Generator.unixMillis_value (hnonneg out hmem) (hbelow out hmem)]
    exact reading_le_generate hij hi hout

namespace Sample

/-- The counter wraps, the clock goes back, and then it reaches the raised millisecond. -/
def readings : List Reading :=
  [⟨5000000, ⟨2 ^ 74 - 1, by norm_num⟩⟩, ⟨5000000, 0⟩, ⟨1000000, 0⟩, ⟨6000000, 0⟩]

theorem generate_increasing_readings :
    ∃ values : List UUID, (generate .init readings).map Prod.fst = values.map some ∧
      Increasing readings values :=
  generate_increasing readings (by decide) (by decide +kernel)

end Sample

end Pentagon5.Runtime
