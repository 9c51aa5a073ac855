import Mathlib.Tactic.IntervalCases
import Mathlib.Tactic.Linarith
import Pentagon5.Client.Uuid7
import Pentagon5.Runtime.Uuid7

/-!
# One notion of UUIDv7

A text is accepted by the pattern of the client and by `is_uuid7` alike, namely when it is the
canonical text of a 128-bit number with version 7 and the RFC variant, and both generators
produce such texts.
-/

namespace Pentagon5.Uuid7

open Python Ecma Client Pentagon5.Runtime

lemma mem_hexClass {c : ℕ} : c ∈ hexClass ↔ (48 ≤ c ∧ c ≤ 57) ∨ (97 ≤ c ∧ c ≤ 102) := by
  have hclass : hexClass = List.range' 48 10 ++ List.range' 97 6 := by decide
  rw [hclass, List.mem_append, List.mem_range'_1, List.mem_range'_1]
  omega

lemma isHex_iff {codes : List ℕ} : IsHex codes ↔ ∀ c ∈ codes, c ∈ hexClass := by
  simp only [IsHex, mem_hexClass]

/-- Hexadecimal text is the text of some digits. -/
lemma exists_nibbles {codes : List ℕ} (h : IsHex codes) :
    ∃ ds : List ℕ, (∀ d ∈ ds, d < 16) ∧ codes = ds.map hexCode := by
  induction codes with
  | nil => exact ⟨[], by simp, rfl⟩
  | cons c codes ih =>
    obtain ⟨ds, hds, rfl⟩ := ih fun x hx => h x (List.mem_cons_of_mem _ hx)
    have hc := h c List.mem_cons_self
    obtain ⟨d, hd, rfl⟩ : ∃ d < 16, c = hexCode d := by
      rcases hc with hc | hc
      · exact ⟨c - 48, by omega, by rw [hexCode, if_pos (by omega)]; omega⟩
      · exact ⟨c - 87, by omega, by rw [hexCode, if_neg (by omega)]; omega⟩
    refine ⟨d :: ds, ?_, rfl⟩
    intro x hx
    rcases List.mem_cons.mp hx with rfl | hx
    · exact hd
    · exact hds x hx

lemma mem_variantClass {d : ℕ} (h : d < 16) : hexCode d ∈ variantClass ↔ 8 ≤ d ∧ d < 12 := by
  have hclass : variantClass = [56, 57, 97, 98] := by decide
  rw [hclass]
  interval_cases d <;> simp [hexCode]

/-- What the pattern says, group by group. -/
lemma matches_uuidV7Pattern {codes : List ℕ} : Matches uuidV7Pattern codes ↔
    ∃ a b c v d e, codes = a ++ 45 :: (b ++ 45 :: ((55 :: c) ++ 45 :: ((v :: d) ++ 45 :: e))) ∧
      (a.length = 8 ∧ IsHex a) ∧ (b.length = 4 ∧ IsHex b) ∧ (c.length = 3 ∧ IsHex c) ∧
      v ∈ variantClass ∧ (d.length = 3 ∧ IsHex d) ∧ (e.length = 12 ∧ IsHex e) := by
  simp only [uuidV7Pattern, matches_mul, matches_oneOf_pow, matches_char, matches_oneOf, ← isHex_iff]
  constructor
  · rintro ⟨a, _, ha, ⟨_, _, rfl, ⟨b, _, hb, ⟨_, _, rfl, ⟨_, _, rfl, ⟨c, _, hc, ⟨_, _, rfl,
      ⟨_, _, ⟨v, hv, rfl⟩, ⟨d, _, hd, ⟨_, e, rfl, he, rfl⟩, rfl⟩, rfl⟩, rfl⟩, rfl⟩, rfl⟩, rfl⟩, rfl⟩,
      rfl⟩, rfl⟩
    exact ⟨a, b, c, v, d, e, by simp, ha, hb, hc, hv, hd, he⟩
  · rintro ⟨a, b, c, v, d, e, rfl, ha, hb, hc, hv, hd, he⟩
    exact ⟨a, _, ha, ⟨[45], _, rfl, ⟨b, _, hb, ⟨[45], _, rfl, ⟨[55], _, rfl, ⟨c, _, hc, ⟨[45], _, rfl,
      ⟨[v], _, ⟨v, hv, rfl⟩, ⟨d, _, hd, ⟨[45], e, rfl, he, rfl⟩, rfl⟩, rfl⟩, rfl⟩, rfl⟩, rfl⟩, rfl⟩,
      rfl⟩, rfl⟩, by simp⟩

lemma nibbles_one (n : ℕ) : nibbles 1 n = [n % 16] := rfl

/-- The third and the fourth group of a UUIDv7. -/
lemma version_group (n : ℕ) : nibbles 4 (n / 16 ^ 16) = n / 2 ^ 76 % 16 :: nibbles 3 (n / 16 ^ 16) := by
  rw [show 4 = 1 + 3 from rfl, nibbles_add, nibbles_one, Nat.div_div_eq_div_mul, ← pow_add,
    show 16 ^ (16 + 3) = 2 ^ 76 by norm_num]
  rfl

lemma variant_group (n : ℕ) : nibbles 4 (n / 16 ^ 12) = n / 2 ^ 60 % 16 :: nibbles 3 (n / 16 ^ 12) := by
  rw [show 4 = 1 + 3 from rfl, nibbles_add, nibbles_one, Nat.div_div_eq_div_mul, ← pow_add,
    show 16 ^ (12 + 3) = 2 ^ 60 by norm_num]
  rfl

lemma variant_iff (n : ℕ) : n / 2 ^ 62 % 4 = 2 ↔ 8 ≤ n / 2 ^ 60 % 16 ∧ n / 2 ^ 60 % 16 < 12 := by
  rw [show 2 ^ 62 = 2 ^ 60 * 4 by norm_num, ← Nat.div_div_eq_div_mul]
  generalize n / 2 ^ 60 = m
  omega

/-- The pattern accepts exactly the texts of UUIDv7 values. -/
lemma matches_iff {codes : List ℕ} :
    Matches uuidV7Pattern codes ↔ ∃ u : UUID, codes = u.str.codes ∧ IsV7 u.toNat := by
  rw [matches_uuidV7Pattern]
  constructor
  · rintro ⟨a, b, c, v, d, e, rfl, ⟨hal, ha⟩, ⟨hbl, hb⟩, ⟨hcl, hc⟩, hv, ⟨hdl, hd⟩, ⟨hel, he⟩⟩
    obtain ⟨A, hA, rfl⟩ := exists_nibbles ha
    obtain ⟨B, hB, rfl⟩ := exists_nibbles hb
    obtain ⟨C, hC, rfl⟩ := exists_nibbles hc
    obtain ⟨D, hD, rfl⟩ := exists_nibbles hd
    obtain ⟨E, hE, rfl⟩ := exists_nibbles he
    obtain ⟨x, hx, rfl⟩ : ∃ x < 16, v = hexCode x := by
      have hvh : IsHex [v] := by
        have hsub : ∀ c ∈ variantClass, c ∈ hexClass := by decide
        rw [isHex_iff]
        simpa using hsub v hv
      obtain ⟨ds, hds, heq⟩ := exists_nibbles hvh
      obtain ⟨x, rfl, hxv⟩ := List.map_eq_singleton_iff.mp heq.symm
      exact ⟨x, hds x (by simp), hxv.symm⟩
    rw [List.length_map] at hal hbl hcl hdl hel
    rw [mem_variantClass hx] at hv
    have hds : ∀ n ∈ A ++ B ++ (7 :: C) ++ (x :: D) ++ E, n < 16 := by
      intro n hn
      simp only [List.mem_append, List.mem_cons] at hn
      rcases hn with (((hn | hn) | rfl | hn) | rfl | hn) | hn
      · exact hA n hn
      · exact hB n hn
      · norm_num
      · exact hC n hn
      · exact hx
      · exact hD n hn
      · exact hE n hn
    have hlen : (A ++ B ++ (7 :: C) ++ (x :: D) ++ E).length = 32 := by
      simp [hal, hbl, hcl, hdl, hel]
    have hlt := ofNibbles_lt hds
    have hnib := nibbles_ofNibbles hds
    rw [hlen] at hlt hnib
    obtain ⟨u, -, hu⟩ := ofInt_toNat (n := ofNibbles (A ++ B ++ (7 :: C) ++ (x :: D) ++ E))
      (hlt.trans_eq (by norm_num))
    refine ⟨u, ?_, ?_⟩
    · rw [UUID.str, hu, hnib]
      simp only [List.map_append]
      rw [UUID.hyphenate_eq (by simpa using hal) (by simpa using hbl) (by simpa using hcl)
        (by simpa using hdl)]
      simp [hexCode]
    · have hgroups := UUID.nibbles_groups u.toNat
      rw [version_group, variant_group, hu, hnib] at hgroups
      have h1 := List.append_inj_left hgroups (by simp [hal, hbl, hcl, hdl])
      have h2 := List.append_inj_right h1 (by simp [hal, hbl, hcl])
      have h3 := List.append_inj_left h1 (by simp [hal, hbl, hcl])
      have h4 := List.append_inj_right h3 (by simp [hal, hbl])
      rw [hu]
      refine ⟨(List.cons.inj h4).1.symm, ?_⟩
      rw [variant_iff, ← (List.cons.inj h2).1]
      exact hv
  · rintro ⟨u, hcodes, hv7⟩
    have hvariant := (variant_iff u.toNat).mp hv7.variant
    rw [UUID.str_eq, version_group, variant_group, hv7.version] at hcodes
    have hpart : ∀ w n, ((nibbles w n).map hexCode).length = w ∧ IsHex ((nibbles w n).map hexCode) :=
      fun w n => ⟨by rw [List.length_map, length_nibbles], UUID.isHex_nibbles w n⟩
    have hv := (mem_variantClass (Nat.mod_lt _ (by norm_num))).mpr hvariant
    generalize u.toNat / 2 ^ 60 % 16 = v at hv hcodes
    refine ⟨_, _, (nibbles 3 (u.toNat / 16 ^ 16)).map hexCode, hexCode v,
      (nibbles 3 (u.toNat / 16 ^ 12)).map hexCode, _, ?_, hpart 8 (u.toNat / 16 ^ 24),
      hpart 4 (u.toNat / 16 ^ 20), hpart 3 _, hv, hpart 3 _, hpart 12 u.toNat⟩
    rw [hcodes, List.map_cons, List.map_cons]
    rfl

/-- The number that bytes spell, first byte first. -/
def ofBytes (bytes : List UInt8) : ℕ := bytes.foldl (fun n byte => 256 * n + byte.toNat) 0

def halves (byte : UInt8) : List ℕ := [byte.toNat / 16, byte.toNat % 16]

lemma ofBytes_append (xs ys : List UInt8) :
    ofBytes (xs ++ ys) = ofBytes xs * 256 ^ ys.length + ofBytes ys := by
  have key : ∀ (ys : List UInt8) (n : ℕ), ys.foldl (fun n byte => 256 * n + byte.toNat) n =
      n * 256 ^ ys.length + ofBytes ys := by
    intro ys
    induction ys with
    | nil => intro n; simp [ofBytes]
    | cons y ys ih =>
      intro n
      have hy : ofBytes (y :: ys) = (256 * 0 + y.toNat) * 256 ^ ys.length + ofBytes ys := ih _
      rw [List.foldl_cons, ih, hy, List.length_cons, pow_succ]
      ring
  rw [ofBytes, List.foldl_append, key]
  rfl

lemma ofBytes_cons (byte : UInt8) (bytes : List UInt8) :
    ofBytes (byte :: bytes) = byte.toNat * 256 ^ bytes.length + ofBytes bytes := by
  have h := ofBytes_append [byte] bytes
  simpa [ofBytes] using h

lemma ofBytes_lt (bytes : List UInt8) : ofBytes bytes < 256 ^ bytes.length := by
  induction bytes with
  | nil => simp [ofBytes]
  | cons byte bytes ih =>
    have hb := byte.toNat_lt
    rw [ofBytes_cons, List.length_cons, pow_succ]
    generalize 256 ^ bytes.length = m at ih
    have hmul := Nat.mul_le_mul_right m (show byte.toNat + 1 ≤ 256 by omega)
    rw [Nat.add_mul, Nat.one_mul] at hmul
    omega

lemma halves_lt {byte : UInt8} {d : ℕ} (h : d ∈ halves byte) : d < 16 := by
  have hb := byte.toNat_lt
  simp only [halves, List.mem_cons, List.not_mem_nil, or_false] at h
  omega

lemma ofNibbles_halves (bytes : List UInt8) : ofNibbles (bytes.flatMap halves) = ofBytes bytes := by
  induction bytes with
  | nil => rfl
  | cons byte bytes ih =>
    have hlen : (bytes.flatMap halves).length = 2 * bytes.length := by
      simp [List.length_flatMap, halves, mul_comm]
    have hbyte : ofNibbles (halves byte) = byte.toNat := by
      simp only [halves, ofNibbles, List.foldl_cons, List.foldl_nil]
      omega
    rw [List.flatMap_cons, ofNibbles_append, ih, hlen, hbyte, ofBytes_cons, pow_mul]
    norm_num

/-- Two padded digits for a byte. -/
lemma byteHex_eq (byte : UInt8) : byteHex byte = (halves byte).map hexCode := by
  have hall : ∀ b : Fin 256, byteHex (UInt8.ofNat b) = (halves (UInt8.ofNat b)).map hexCode := by
    decide +kernel
  have hb := hall ⟨byte.toNat, byte.toNat_lt⟩
  simpa using hb

lemma version_byte (byte : UInt8) : (0x70 ||| (byte &&& 0x0f)).toNat = 112 + byte.toNat % 16 := by
  have hall : ∀ b : Fin 256, (0x70 ||| (UInt8.ofNat b &&& 0x0f)).toNat = 112 + b % 16 := by
    decide +kernel
  have hb := hall ⟨byte.toNat, byte.toNat_lt⟩
  simpa using hb

lemma variant_byte (byte : UInt8) : (0x80 ||| (byte &&& 0x3f)).toNat = 128 + byte.toNat % 64 := by
  have hall : ∀ b : Fin 256, (0x80 ||| (UInt8.ofNat b &&& 0x3f)).toNat = 128 + b % 64 := by
    decide +kernel
  have hb := hall ⟨byte.toNat, byte.toNat_lt⟩
  simpa using hb

@[simp] lemma length_timestampBytes (k : ℕ) (t : ℤ) : (timestampBytes k t).length = k := by
  induction k generalizing t with
  | zero => rfl
  | succ k ih => simp [timestampBytes, ih]

lemma ofBytes_timestampBytes (k : ℕ) (t : ℤ) :
    (ofBytes (timestampBytes k t) : ℤ) = t % 256 ^ k := by
  induction k generalizing t with
  | zero => simp [timestampBytes, ofBytes]
  | succ k ih =>
    have hbyte : ((UInt8.ofNat (t % 256).toNat).toNat : ℤ) = t % 256 := by
      rw [UInt8.toNat_ofNat']
      omega
    have hmod : t % 256 ^ (k + 1) = t % 256 + 256 * (t / 256 % 256 ^ k) := by
      have hpos : (0 : ℤ) < 256 ^ k := by positivity
      have hlow := Int.emod_nonneg (t / 256) hpos.ne'
      have hhigh := Int.emod_lt_of_pos (t / 256) hpos
      have hdiv := Int.emod_add_mul_ediv (t / 256) (256 ^ k)
      rw [pow_succ']
      have hsum : t % 256 + 256 * (t / 256 % 256 ^ k) + 256 * 256 ^ k * (t / 256 / 256 ^ k) = t := by
        linarith [Int.emod_add_mul_ediv t 256]
      have hunique := Int.ediv_emod_unique (a := t) (b := 256 * 256 ^ k)
        (r := t % 256 + 256 * (t / 256 % 256 ^ k)) (q := t / 256 / 256 ^ k) (by positivity)
      apply (hunique.mpr ⟨hsum, ?_, ?_⟩).2
      · omega
      · omega
    rw [timestampBytes, ofBytes_append, hmod]
    push_cast
    rw [ih]
    simp only [ofBytes, List.foldl_cons, List.foldl_nil, List.length_singleton]
    push_cast
    rw [hbyte]
    ring

lemma flatMap_byteHex (bytes : List UInt8) :
    bytes.flatMap byteHex = (bytes.flatMap halves).map hexCode := by
  rw [List.map_flatMap]
  apply List.flatMap_congr
  intro byte _
  exact byteHex_eq byte

/-- The text of 16 bytes is the text of the number they spell. -/
lemma str_ofBytes (bytes : List UInt8) (h : bytes.length = 16) :
    ∃ u : UUID, u.toNat = ofBytes bytes ∧
      UUID.hyphenate (bytes.flatMap byteHex) = u.str.codes := by
  have hlt := ofBytes_lt bytes
  rw [h] at hlt
  obtain ⟨u, -, hu⟩ := ofInt_toNat (n := ofBytes bytes) (hlt.trans_eq (by norm_num))
  have hdigits : ∀ d ∈ bytes.flatMap halves, d < 16 := by
    intro d hd
    obtain ⟨byte, -, hb⟩ := List.mem_flatMap.mp hd
    exact halves_lt hb
  have hlen : (bytes.flatMap halves).length = 32 := by
    simp [List.length_flatMap, halves, h]
  have hnib := nibbles_ofNibbles hdigits
  rw [hlen, ofNibbles_halves] at hnib
  refine ⟨u, hu, ?_⟩
  rw [flatMap_byteHex, UUID.str, hu, hnib]

/-- What `createUuidV7` returns for ten random bytes. -/
lemma createUuidV7_fields (now : ℤ) {random : List UInt8} (h : random.length = 10) :
    ∃ u : UUID, createUuidV7 now random = .ok u.str ∧ IsV7 u.toNat ∧
      unixMillis u.toNat = (now % 2 ^ 48).toNat ∧ randomBits u.toNat = keptBits random := by
  obtain ⟨r0, r1, r2, rest, rfl, hrest⟩ : ∃ r0 r1 r2 rest, random = r0 :: r1 :: r2 :: rest ∧
      rest.length = 7 := by
    rcases random with _ | ⟨r0, _ | ⟨r1, _ | ⟨r2, rest⟩⟩⟩
    · cases h
    · cases h
    · cases h
    · exact ⟨r0, r1, r2, rest, rfl, by simpa using h⟩
  have htime := length_timestampBytes 6 now
  have hstamp := ofBytes_timestampBytes 6 now
  have hmodify : ((timestampBytes 6 now ++ r0 :: r1 :: r2 :: rest).modify 6 fun byte =>
      0x70 ||| (byte &&& 0x0f)).modify 8 (fun byte => 0x80 ||| (byte &&& 0x3f)) =
      timestampBytes 6 now ++
        (0x70 ||| (r0 &&& 0x0f)) :: r1 :: (0x80 ||| (r2 &&& 0x3f)) :: rest := by
    generalize timestampBytes 6 now = stamp at htime
    rcases stamp with _ | ⟨b0, _ | ⟨b1, _ | ⟨b2, _ | ⟨b3, _ | ⟨b4, _ | ⟨b5, _ | ⟨b6, stamp⟩⟩⟩⟩⟩⟩⟩ <;>
      simp at htime
    rfl
  obtain ⟨u, hu, hstr⟩ := str_ofBytes (timestampBytes 6 now ++
    (0x70 ||| (r0 &&& 0x0f)) :: r1 :: (0x80 ||| (r2 &&& 0x3f)) :: rest) (by simp [htime, hrest])
  have hlow := ofBytes_lt rest
  have hr0 := r0.toNat_lt
  have hr1 := r1.toNat_lt
  rw [hrest] at hlow
  have hsum : u.toNat = ofBytes (timestampBytes 6 now) * 2 ^ 80 + 7 * 2 ^ 76 +
      (r0.toNat % 16 * 256 + r1.toNat) * 2 ^ 64 + 2 * 2 ^ 62 +
      (r2.toNat % 64 * 2 ^ 56 + ofBytes rest) := by
    rw [hu, ofBytes_append, ofBytes_cons, ofBytes_cons, ofBytes_cons, version_byte, variant_byte]
    simp only [List.length_cons, hrest]
    ring
  have hkept : keptBits (r0 :: r1 :: r2 :: rest) =
      (r0.toNat % 16 * 256 + r1.toNat) * 2 ^ 62 + (r2.toNat % 64 * 2 ^ 56 + ofBytes rest) := by
    have hmod : ofBytes (r2 :: rest) % 2 ^ 62 = r2.toNat % 64 * 2 ^ 56 + ofBytes rest := by
      rw [ofBytes_cons, hrest]
      omega
    rw [← hmod]
    rfl
  have hfields := fields_of_sum (t := ofBytes (timestampBytes 6 now))
    (a := r0.toNat % 16 * 256 + r1.toNat) (b := r2.toNat % 64 * 2 ^ 56 + ofBytes rest) (by omega)
    (by omega)
  rw [← hsum, ← hkept] at hfields
  refine ⟨u, ?_, hfields.1, ?_, hfields.2.2⟩
  · rw [createUuidV7, if_neg (by simp [hrest])]
    simp only [hmodify, hstr]
  · rw [hfields.2.1]
    omega

/-- The pattern and `is_uuid7` accept the same texts. -/
lemma isUuid7_iff_matches (decimal : ℕ → Option ℕ) (v : Str) :
    isUuid7 decimal v = true ↔ Matches uuidV7Pattern v.codes := by
  rw [isUuid7_iff, matches_iff]
  constructor
  · rintro ⟨u, rfl, hu⟩
    exact ⟨u, rfl, hu⟩
  · rintro ⟨u, hv, hu⟩
    exact ⟨u, congrArg Str.mk hv, hu⟩

/-- A text of which both validators and `UUID` read the same fields back. -/
structure Carries (decimal : ℕ → Option ℕ) (text : Str) (millis random : ℕ) : Prop where
  accepted : isUuid7 decimal text = true
  matched : Matches uuidV7Pattern text.codes
  fields : ∃ u, UUID.parse decimal text = some u ∧ unixMillis u.toNat = millis ∧
    randomBits u.toNat = random

lemma carries_str (decimal : ℕ → Option ℕ) {u : UUID} (h : IsV7 u.toNat) :
    Carries decimal u.str (unixMillis u.toNat) (randomBits u.toNat) where
  accepted := isUuid7_iff.mpr ⟨u, rfl, h⟩
  matched := matches_iff.mpr ⟨u, rfl, h⟩
  fields := ⟨u, UUID.parse_str decimal u, rfl, rfl⟩

/-- The validators agree on every text, and both generators produce accepted texts from which the
timestamp modulo `2 ^ 48` and the random bits are read back, whatever decimal digits Unicode has
beyond ASCII. -/
theorem producers_and_validators_agree (decimal : ℕ → Option ℕ) :
    (∀ v : Str, isUuid7 decimal v = true ↔ Matches uuidV7Pattern v.codes) ∧
      (∀ (g : Generator) (timeNs : ℤ) (randbits : Fin (2 ^ 74)), ∃ u,
        uuid7 g timeNs randbits = (some u, g.next timeNs randbits) ∧
          Carries decimal u.str ((g.next timeNs randbits).lastMillisecond % 2 ^ 48).toNat
            (g.next timeNs randbits).lastRandom) ∧
      ∀ (now : ℤ) (random : Vector UInt8 10), ∃ text,
        createUuidV7 now random.toList = .ok text ∧
          Carries decimal text (now % 2 ^ 48).toNat (keptBits random.toList) := by
  refine ⟨isUuid7_iff_matches decimal, ?_, ?_⟩
  · intro g timeNs randbits
    have hlt := (g.next timeNs randbits).lastRandom_lt
    obtain ⟨u, hu, hn⟩ := ofInt_toNat (pack_lt (g.next timeNs randbits).lastMillisecond hlt)
    obtain ⟨hv7, hmillis, hrandom⟩ := pack_fields (g.next timeNs randbits).lastMillisecond hlt
    refine ⟨u, ?_, ?_⟩
    · rw [uuid7, hu]
    · rw [← hn] at hv7 hmillis hrandom
      have hcarries := carries_str decimal hv7
      rwa [hmillis, hrandom] at hcarries
  · intro now random
    obtain ⟨u, hu, hv7, hmillis, hrandom⟩ := createUuidV7_fields now random.length_toList
    refine ⟨u.str, hu, ?_⟩
    rw [← hmillis, ← hrandom]
    exact carries_str decimal hv7

end Pentagon5.Uuid7
