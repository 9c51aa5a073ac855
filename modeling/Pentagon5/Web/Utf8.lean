import Mathlib.Data.List.Basic
import Mathlib.Data.Nat.Notation

/-!
# Decoding UTF-8 with replacement

The decoder of the encoding standard: a byte that cannot continue a sequence ends it with U+FFFD
and is read again as the first byte of the next one.
-/

namespace Pentagon5.Web.Utf8

def replacement : Char := Char.ofNat 0xFFFD

/-- What a sequence still needs: so many bytes, the next of them between two bounds. -/
structure Pending where
  needed : ℕ
  code : ℕ
  lower : ℕ
  upper : ℕ
deriving DecidableEq

/-- Between two sequences. -/
def start : Pending := ⟨0, 0, 0x80, 0xBF⟩

/-- The first byte of a sequence: what it decodes to by itself, and what must follow. -/
def lead (b : ℕ) : List Char × Pending :=
  if b ≤ 0x7F then ([Char.ofNat b], start)
  else if 0xC2 ≤ b ∧ b ≤ 0xDF then ([], ⟨1, b % 0x20, 0x80, 0xBF⟩)
  else if 0xE0 ≤ b ∧ b ≤ 0xEF then
    ([], ⟨2, b % 0x10, if b = 0xE0 then 0xA0 else 0x80, if b = 0xED then 0x9F else 0xBF⟩)
  else if 0xF0 ≤ b ∧ b ≤ 0xF4 then
    ([], ⟨3, b % 0x8, if b = 0xF0 then 0x90 else 0x80, if b = 0xF4 then 0x8F else 0xBF⟩)
  else ([replacement], start)

def step (pending : Pending) (b : ℕ) : List Char × Pending :=
  if pending.needed = 0 then lead b
  else if pending.lower ≤ b ∧ b ≤ pending.upper then
    let code := pending.code * 64 + b % 64
    if pending.needed = 1 then ([Char.ofNat code], start)
    else ([], ⟨pending.needed - 1, code, 0x80, 0xBF⟩)
  else (replacement :: (lead b).1, (lead b).2)

def decodeFrom (pending : Pending) : List UInt8 → List Char
  | [] => if pending.needed = 0 then [] else [replacement]
  | b :: rest => (step pending b.toNat).1 ++ decodeFrom (step pending b.toNat).2 rest

def decode (data : List UInt8) : List Char := decodeFrom start data

/-- The bytes of code points, with U+FFFD in the place of a surrogate. -/
def encodeCodes (codes : List ℕ) : List UInt8 :=
  codes.flatMap fun n => String.utf8EncodeChar (if n.isValidChar then Char.ofNat n else replacement)

section

variable {pending : Pending} {b : ℕ} {rest : List UInt8}

lemma decodeFrom_cons (h : b < 256) :
    decodeFrom pending (UInt8.ofNat b :: rest) =
      (step pending b).1 ++ decodeFrom (step pending b).2 rest := by
  rw [decodeFrom, UInt8.toNat_ofNat', Nat.mod_eq_of_lt h]

lemma step_start : step start b = lead b := if_pos rfl

/-- A byte within the bounds that completes the sequence. -/
lemma step_last (hneeded : pending.needed = 1) (hlower : pending.lower ≤ b) (hupper : b ≤ pending.upper) :
    step pending b = ([Char.ofNat (pending.code * 64 + b % 64)], start) := by
  rw [step, if_neg (by omega), if_pos ⟨hlower, hupper⟩]
  exact if_pos hneeded

/-- A byte within the bounds that does not. -/
lemma step_next (hneeded : 1 < pending.needed) (hlower : pending.lower ≤ b) (hupper : b ≤ pending.upper) :
    step pending b = ([], ⟨pending.needed - 1, pending.code * 64 + b % 64, 0x80, 0xBF⟩) := by
  rw [step, if_neg (by omega), if_pos ⟨hlower, hupper⟩]
  exact if_neg (by omega)

lemma lead_one (h : b ≤ 0x7F) : lead b = ([Char.ofNat b], start) := if_pos h

lemma lead_two (h : 0xC2 ≤ b ∧ b ≤ 0xDF) : lead b = ([], ⟨1, b % 0x20, 0x80, 0xBF⟩) := by
  rw [lead, if_neg (by omega), if_pos h]

lemma lead_three (h : 0xE0 ≤ b ∧ b ≤ 0xEF) :
    lead b = ([], ⟨2, b % 0x10, if b = 0xE0 then 0xA0 else 0x80, if b = 0xED then 0x9F else 0xBF⟩) := by
  rw [lead, if_neg (by omega), if_neg (by omega), if_pos h]

lemma lead_four (h : 0xF0 ≤ b ∧ b ≤ 0xF4) :
    lead b = ([], ⟨3, b % 0x8, if b = 0xF0 then 0x90 else 0x80, if b = 0xF4 then 0x8F else 0xBF⟩) := by
  rw [lead, if_neg (by omega), if_neg (by omega), if_neg (by omega), if_pos h]

end

section

variable {c : Char} (rest : List UInt8)

lemma code_cases (c : Char) : c.toNat < 0xD800 ∨ (0xDFFF < c.toNat ∧ c.toNat < 0x110000) := c.valid

lemma decode_one (h : c.toNat ≤ 0x7F) :
    decodeFrom start (UInt8.ofNat c.toNat :: rest) = c :: decodeFrom start rest := by
  rw [decodeFrom_cons (by omega), step_start, lead_one h, Char.ofNat_toNat]
  rfl

lemma decode_two (hlow : 0x7F < c.toNat) (hhigh : c.toNat ≤ 0x7FF) :
    decodeFrom start (UInt8.ofNat (c.toNat / 64 % 0x20 + 0xC0) ::
      UInt8.ofNat (c.toNat % 0x40 + 0x80) :: rest) = c :: decodeFrom start rest := by
  have hcode : (c.toNat / 64 % 0x20 + 0xC0) % 0x20 * 64 + (c.toNat % 0x40 + 0x80) % 64 = c.toNat := by
    omega
  rw [decodeFrom_cons (by omega), step_start, lead_two (by omega), decodeFrom_cons (by omega),
    step_last rfl (by simp) (by simp only; omega)]
  simp only [hcode, Char.ofNat_toNat]
  rfl

lemma decode_three (hlow : 0x7FF < c.toNat) (hhigh : c.toNat ≤ 0xFFFF) :
    decodeFrom start (UInt8.ofNat (c.toNat / 4096 % 0x10 + 0xE0) ::
      UInt8.ofNat (c.toNat / 64 % 0x40 + 0x80) :: UInt8.ofNat (c.toNat % 0x40 + 0x80) :: rest) =
        c :: decodeFrom start rest := by
  have hvalid := code_cases c
  have hcode : ((c.toNat / 4096 % 0x10 + 0xE0) % 0x10 * 64 + (c.toNat / 64 % 0x40 + 0x80) % 64) * 64 +
      (c.toNat % 0x40 + 0x80) % 64 = c.toNat := by
    omega
  rw [decodeFrom_cons (by omega), step_start, lead_three (by omega), decodeFrom_cons (by omega),
    step_next (by simp) (by simp only; split <;> omega) (by simp only; split <;> omega),
    decodeFrom_cons (by omega), step_last rfl (by simp) (by simp only; omega)]
  simp only [hcode, Char.ofNat_toNat]
  rfl

lemma decode_four (hlow : 0xFFFF < c.toNat) :
    decodeFrom start (UInt8.ofNat (c.toNat / 262144 % 0x08 + 0xF0) ::
      UInt8.ofNat (c.toNat / 4096 % 0x40 + 0x80) :: UInt8.ofNat (c.toNat / 64 % 0x40 + 0x80) ::
        UInt8.ofNat (c.toNat % 0x40 + 0x80) :: rest) = c :: decodeFrom start rest := by
  have hvalid := code_cases c
  have hcode : (((c.toNat / 262144 % 0x08 + 0xF0) % 0x8 * 64 + (c.toNat / 4096 % 0x40 + 0x80) % 64) * 64 +
      (c.toNat / 64 % 0x40 + 0x80) % 64) * 64 + (c.toNat % 0x40 + 0x80) % 64 = c.toNat := by
    omega
  rw [decodeFrom_cons (by omega), step_start, lead_four (by omega), decodeFrom_cons (by omega),
    step_next (by simp) (by simp only; split <;> omega) (by simp only; split <;> omega),
    decodeFrom_cons (by omega), step_next (by simp) (by simp) (by simp only; omega),
    decodeFrom_cons (by omega), step_last rfl (by simp) (by simp only; omega)]
  simp only [hcode, Char.ofNat_toNat]
  rfl

lemma decode_encodeChar (c : Char) :
    decodeFrom start (String.utf8EncodeChar c ++ rest) = c :: decodeFrom start rest := by
  unfold String.utf8EncodeChar
  rw [Char.toNat_val]
  dsimp only
  split
  · exact decode_one rest ‹_›
  split
  · exact decode_two rest (by omega) ‹_›
  split
  · exact decode_three rest (by omega) ‹_›
  · exact decode_four rest (by omega)

/-- Encoded text is decoded to the text. -/
theorem decode_encode (cs : List Char) : decode (cs.flatMap String.utf8EncodeChar) = cs := by
  rw [decode]
  induction cs with
  | nil => rfl
  | cons c cs ih => rw [List.flatMap_cons, decode_encodeChar, ih]

end

/-- An ASCII byte ends the sequence before it, complete or not. -/
lemma step_ascii {b : ℕ} (h : b ≤ 0x7F) {pending : Pending} (hlower : 0x80 ≤ pending.lower) :
    step pending b = (decodeFrom pending [] ++ [Char.ofNat b], start) := by
  by_cases hneeded : pending.needed = 0
  · rw [step, if_pos hneeded, lead_one h, decodeFrom, if_pos hneeded]
    rfl
  · rw [step, if_neg hneeded, if_neg (by omega), lead_one h, decodeFrom, if_neg hneeded]
    rfl

lemma lower_lead (b : ℕ) : 0x80 ≤ (lead b).2.lower := by
  unfold lead
  split
  · exact Nat.le_refl _
  split
  · exact Nat.le_refl _
  split
  · simp only
    split <;> omega
  split
  · simp only
    split <;> omega
  · exact Nat.le_refl _

lemma lower_step (pending : Pending) (b : ℕ) : 0x80 ≤ (step pending b).2.lower := by
  unfold step
  split
  · exact lower_lead b
  split
  · dsimp only
    split <;> exact Nat.le_refl _
  · exact lower_lead b

/-- Text with an ASCII byte in it is decoded in front of the byte and behind it. -/
lemma decodeFrom_append_ascii {b : UInt8} (h : b.toNat ≤ 0x7F) (data rest : List UInt8) {pending : Pending}
    (hlower : 0x80 ≤ pending.lower) :
    decodeFrom pending (data ++ b :: rest) =
      decodeFrom pending data ++ Char.ofNat b.toNat :: decodeFrom start rest := by
  induction data generalizing pending with
  | nil =>
    have hstep : decodeFrom pending (b :: rest) =
        (step pending b.toNat).1 ++ decodeFrom (step pending b.toNat).2 rest := rfl
    rw [List.nil_append, hstep, step_ascii h hlower, List.append_assoc]
    rfl
  | cons x data ih =>
    rw [List.cons_append, decodeFrom, ih (lower_step pending x.toNat), decodeFrom, List.append_assoc]

theorem decode_append_ascii {b : UInt8} (h : b.toNat ≤ 0x7F) (data rest : List UInt8) :
    decode (data ++ b :: rest) = decode data ++ Char.ofNat b.toNat :: decode rest :=
  decodeFrom_append_ascii h data rest (Nat.le_refl _)

/-- An ASCII byte is decoded wherever it stands. -/
lemma mem_decode {b : UInt8} (h : b.toNat ≤ 0x7F) {data : List UInt8} (hmem : b ∈ data) :
    Char.ofNat b.toNat ∈ decode data := by
  obtain ⟨before, rest, rfl⟩ := List.append_of_mem hmem
  rw [decode_append_ascii h]
  exact List.mem_append_right _ List.mem_cons_self

lemma encodeCodes_append (codes rest : List ℕ) :
    encodeCodes (codes ++ rest) = encodeCodes codes ++ encodeCodes rest := List.flatMap_append

lemma encodeCodes_map (cs : List Char) :
    encodeCodes (cs.map Char.toNat) = cs.flatMap String.utf8EncodeChar := by
  have hchar : ∀ c : Char, (if c.toNat.isValidChar then Char.ofNat c.toNat else replacement) = c := by
    intro c
    have hvalid : c.toNat.isValidChar := c.valid
    rw [if_pos hvalid, Char.ofNat_toNat]
  rw [encodeCodes, List.flatMap_map]
  simp only [hchar]

end Pentagon5.Web.Utf8
