import Pentagon5.Python.Uuid

/-!
# The UUIDv7 generator of the services

`uuid7` keeps the millisecond and the random bits of its last value; the clock reading and the
random draw of a call are arguments.
-/

namespace Pentagon5.Runtime

open Python

def randomMask : ℕ := 2 ^ 74 - 1

/-- The module's `_LAST_MILLISECOND` and `_LAST_RANDOM`. -/
structure Generator where
  lastMillisecond : ℤ
  lastRandom : ℕ
  lastRandom_lt : lastRandom < 2 ^ 74

def Generator.init : Generator := ⟨-1, 0, by norm_num⟩

lemma and_randomMask_lt (n : ℕ) : n &&& randomMask < 2 ^ 74 :=
  Nat.and_lt_two_pow n (by norm_num [randomMask])

/-- The generator after a call at `timeNs` nanoseconds that would draw `randbits`. -/
def Generator.next (g : Generator) (timeNs : ℤ) (randbits : Fin (2 ^ 74)) : Generator :=
  let millisecond := timeNs / 1000000
  if g.lastMillisecond < millisecond then ⟨millisecond, randbits, randbits.isLt⟩
  else
    let randomBits := (g.lastRandom + 1) &&& randomMask
    ⟨if randomBits = 0 then g.lastMillisecond + 1 else g.lastMillisecond, randomBits,
      and_randomMask_lt _⟩

/-- The integer that a value is made of. -/
def pack (millisecond : ℤ) (randomBits : ℕ) : ℕ :=
  let randomA := randomBits >>> 62
  let randomB := randomBits &&& (2 ^ 62 - 1)
  (millisecond % 2 ^ 48).toNat <<< 80 ||| 7 <<< 76 ||| randomA <<< 64 ||| 2 <<< 62 ||| randomB

/-- The value of a call, and the generator it leaves. -/
def uuid7 (g : Generator) (timeNs : ℤ) (randbits : Fin (2 ^ 74)) : Option UUID × Generator :=
  let g := g.next timeNs randbits
  (UUID.ofInt (pack g.lastMillisecond g.lastRandom), g)

/-- `is_uuid7`. -/
def isUuid7 (decimal : ℕ → Option ℕ) (value : Str) : Bool :=
  match UUID.parse decimal value with
  | none => false
  | some parsed => parsed.str = value && parsed.version = some 7 && parsed.isRfc4122

/-- Version 7 and the variant of RFC 4122, as bits of the integer. -/
structure IsV7 (n : ℕ) : Prop where
  version : n / 2 ^ 76 % 16 = 7
  variant : n / 2 ^ 62 % 4 = 2

def unixMillis (n : ℕ) : ℕ := n / 2 ^ 80

/-- The 74 bits around the version and the variant. -/
def randomBits (n : ℕ) : ℕ := n / 2 ^ 64 % 2 ^ 12 * 2 ^ 62 + n % 2 ^ 62

lemma isV7_iff (u : UUID) :
    (u.version = some 7 ∧ u.isRfc4122 = true) ↔ IsV7 u.toNat := by
  have hbits : u.isRfc4122 = true ↔ u.toNat / 2 ^ 62 % 4 = 2 := by
    simp only [UUID.isRfc4122, BitVec.getLsbD, Bool.and_eq_true, Bool.not_eq_true',
      Nat.testBit_eq_decide_div_mod_eq, decide_eq_true_eq, decide_eq_false_iff_not]
    omega
  have hversion : u.version = some 7 ∧ u.isRfc4122 = true ↔
      u.toNat / 2 ^ 76 % 16 = 7 ∧ u.isRfc4122 = true := by
    rw [UUID.version, Nat.shiftRight_eq_div_pow]
    cases u.isRfc4122 <;> simp
  rw [hversion, hbits]
  exact ⟨fun h => ⟨h.1, h.2⟩, fun h => ⟨h.version, h.variant⟩⟩

lemma isUuid7_iff {decimal : ℕ → Option ℕ} {value : Str} :
    isUuid7 decimal value = true ↔ ∃ u : UUID, value = u.str ∧ IsV7 u.toNat := by
  constructor
  · intro h
    unfold isUuid7 at h
    split at h
    · cases h
    · next u hu =>
      simp only [Bool.and_eq_true, decide_eq_true_eq] at h
      exact ⟨u, h.1.1.symm, (isV7_iff u).mp ⟨h.1.2, h.2⟩⟩
  · rintro ⟨u, rfl, hv⟩
    obtain ⟨hversion, hvariant⟩ := (isV7_iff u).mpr hv
    simp [isUuid7, UUID.parse_str, hversion, hvariant]

/-- The fields do not overlap, so the bits of a value add up. -/
lemma pack_eq (millisecond : ℤ) {r : ℕ} (h : r < 2 ^ 74) :
    pack millisecond r = (millisecond % 2 ^ 48).toNat * 2 ^ 80 + 7 * 2 ^ 76 +
      r / 2 ^ 62 * 2 ^ 64 + 2 * 2 ^ 62 + r % 2 ^ 62 := by
  have hor : ∀ {i b : ℕ} (a : ℕ), b < 2 ^ i → a <<< i ||| b = a * 2 ^ i + b := by
    intro i b a hb
    rw [← Nat.shiftLeft_add_eq_or_of_lt hb, Nat.shiftLeft_eq]
  have ha : r / 2 ^ 62 < 2 ^ 12 := by omega
  have hb : r % 2 ^ 62 < 2 ^ 62 := Nat.mod_lt _ (by norm_num)
  generalize hA : r / 2 ^ 62 = A at ha
  generalize hB : r % 2 ^ 62 = B at hb
  have e1 : 2 <<< 62 ||| B = 2 * 2 ^ 62 + B := hor 2 hb
  have e2 : A <<< 64 ||| (2 * 2 ^ 62 + B) = A * 2 ^ 64 + (2 * 2 ^ 62 + B) := hor A (by omega)
  have e3 : 7 <<< 76 ||| (A * 2 ^ 64 + (2 * 2 ^ 62 + B)) =
      7 * 2 ^ 76 + (A * 2 ^ 64 + (2 * 2 ^ 62 + B)) := hor 7 (by omega)
  simp only [pack, Nat.or_assoc, Nat.shiftRight_eq_div_pow, Nat.and_two_pow_sub_one_eq_mod, hA, hB]
  rw [e1, e2, e3, hor _ (by omega)]
  omega

lemma pack_lt (millisecond : ℤ) {r : ℕ} (h : r < 2 ^ 74) : pack millisecond r < 2 ^ 128 := by
  rw [pack_eq millisecond h]
  have := Int.emod_lt_of_pos millisecond (show (0 : ℤ) < 2 ^ 48 by decide)
  omega

/-- A number of 128 bits by its fields. -/
lemma fields_of_sum {t a b : ℕ} (ha : a < 2 ^ 12) (hb : b < 2 ^ 62) :
    IsV7 (t * 2 ^ 80 + 7 * 2 ^ 76 + a * 2 ^ 64 + 2 * 2 ^ 62 + b) ∧
      unixMillis (t * 2 ^ 80 + 7 * 2 ^ 76 + a * 2 ^ 64 + 2 * 2 ^ 62 + b) = t ∧
      randomBits (t * 2 ^ 80 + 7 * 2 ^ 76 + a * 2 ^ 64 + 2 * 2 ^ 62 + b) = a * 2 ^ 62 + b := by
  have hsum : t * 2 ^ 80 + 7 * 2 ^ 76 + a * 2 ^ 64 + 2 * 2 ^ 62 + b =
      2 ^ 62 * (4 * (t * 65536 + 28672 + a) + 2) + b := by ring
  rw [hsum]
  generalize hn : 2 ^ 62 * (4 * (t * 65536 + 28672 + a) + 2) + b = n
  have h62 : n / 2 ^ 62 = 4 * (t * 65536 + 28672 + a) + 2 := by
    rw [← hn, Nat.mul_add_div (by norm_num), Nat.div_eq_of_lt hb, add_zero]
  have hm : n % 2 ^ 62 = b := by rw [← hn, Nat.mul_add_mod, Nat.mod_eq_of_lt hb]
  have h64 : n / 2 ^ 64 = t * 65536 + 28672 + a := by
    rw [show 2 ^ 64 = 2 ^ 62 * 4 by norm_num, ← Nat.div_div_eq_div_mul, h62]
    omega
  have h76 : n / 2 ^ 76 = t * 16 + 7 := by
    rw [show 2 ^ 76 = 2 ^ 64 * 4096 by norm_num, ← Nat.div_div_eq_div_mul, h64]
    omega
  have h80 : n / 2 ^ 80 = t := by
    rw [show 2 ^ 80 = 2 ^ 76 * 16 by norm_num, ← Nat.div_div_eq_div_mul, h76]
    omega
  refine ⟨⟨by rw [h76]; omega, by rw [h62]; omega⟩, h80, ?_⟩
  rw [randomBits, h64, hm, show (t * 65536 + 28672 + a) % 2 ^ 12 = a by omega]

/-- A packed value is a UUIDv7 with the given fields. -/
lemma pack_fields (millisecond : ℤ) {r : ℕ} (h : r < 2 ^ 74) :
    IsV7 (pack millisecond r) ∧
      unixMillis (pack millisecond r) = (millisecond % 2 ^ 48).toNat ∧
      randomBits (pack millisecond r) = r := by
  have hf := fields_of_sum (t := (millisecond % 2 ^ 48).toNat) (a := r / 2 ^ 62) (b := r % 2 ^ 62)
    (by omega) (Nat.mod_lt _ (by norm_num))
  rw [pack_eq millisecond h]
  rwa [Nat.div_add_mod'] at hf

lemma ofInt_toNat {n : ℕ} (h : n < 2 ^ 128) :
    ∃ u : UUID, UUID.ofInt n = some u ∧ u.toNat = n := by
  refine ⟨BitVec.ofNat 128 n, ?_, ?_⟩
  · rw [UUID.ofInt, if_pos (by omega), Int.toNat_natCast]
  · rw [BitVec.toNat_ofNat, Nat.mod_eq_of_lt h]

end Pentagon5.Runtime
