import Mathlib.Tactic.Ring
import Pentagon5.Calendar.Moment
import Pentagon5.Python.Text

/-!
# Python's `datetime`

`isoformat` of aware UTC values and `fromisoformat`. The parser works on the UTF-8 bytes of a text
and reads a zero byte behind its end, as the C implementation does.
-/

namespace Pentagon5.Python

open Calendar

/-- An aware `datetime` in UTC. -/
structure Datetime extends Moment where
  microsecond : ℕ
  microsecond_lt : microsecond < 1000000

namespace Datetime

/-- `value.isoformat()`; a zero microsecond is left out. -/
def isoformat (value : Datetime) : Str :=
  ⟨value.text ++ (if value.microsecond = 0 then [] else 46 :: padded 6 value.microsecond) ++
    (Str.ofString "+00:00").codes⟩

def isDigit (c : ℕ) : Bool := 48 ≤ c ∧ c ≤ 57

def isSurrogate (c : ℕ) : Bool := 0xD800 ≤ c ∧ c ≤ 0xDFFF

/-- `count` ASCII digits after the number `value`. -/
def parseDigitsFrom : ℕ → ℕ → List ℕ → Option (ℕ × List ℕ)
  | 0, value, p => some (value, p)
  | _ + 1, _, [] => none
  | count + 1, value, c :: p =>
    if isDigit c then parseDigitsFrom count (10 * value + (c - 48)) p else none

def parseDigits (count : ℕ) (p : List ℕ) : Option (ℕ × List ℕ) := parseDigitsFrom count 0 p

/-- A surrogate where a separator can stand is read as `T`. -/
def sanitize (codes : List ℕ) : List ℕ :=
  match [7, 8, 10].find? fun i => isSurrogate (codes.getD i 0) with
  | some i => codes.set i 84
  | none => codes

/-- Where the date ends. -/
def findSeparator (s : List ℕ) : Option ℕ :=
  if s.length = 7 then some 7
  else if s.getD 4 0 = 45 then
    if s.getD 5 0 = 87 then
      if s.getD 8 0 = 45 then
        if s.length = 9 then none
        else if 10 < s.length ∧ isDigit (s.getD 10 0) then some 8
        else some 10
      else some 8
    else some 10
  else if s.getD 4 0 = 87 then
    let stop := 7 + ((s.drop 7).takeWhile isDigit).length
    if stop < 9 then some stop else if stop % 2 = 0 then some 7 else some 8
  else some 8

/-- A week of the ISO calendar within the years 1 to 9999. -/
def IsWeekDate (year week day : ℕ) : Prop :=
  (1 ≤ year ∧ year ≤ 9999) ∧ (1 ≤ day ∧ day ≤ 7) ∧ ¬(year = 9999 ∧ week = 52 ∧ 5 < day) ∧
    ((1 ≤ week ∧ week ≤ 52) ∨ week = 53 ∧ (daysBeforeYear year % 7 = 3 ∨
      daysBeforeYear year % 7 = 2 ∧ isLeap year = true))

instance (year week day : ℕ) : Decidable (IsWeekDate year week day) :=
  inferInstanceAs (Decidable (_ ∧ _ ∧ _ ∧ _))

/-- A dash where the date is written with dashes. -/
def skipDash (dashed : Bool) (p : List ℕ) : Option (List ℕ) :=
  if dashed then if p.headD 0 = 45 then some p.tail else none else some p

/-- Whether the first `stop` bytes are a date. -/
def parseDate (stop : ℕ) (s : List ℕ) : Option Unit := do
  let (year, p) ← parseDigits 4 s
  let dashed : Bool := p.headD 0 = 45
  let p := if dashed then p.tail else p
  if p.headD 0 = 87 then
    let (week, p) ← parseDigits 2 p.tail
    if s.length - p.length < stop then
      let p ← skipDash dashed p
      let (day, _) ← parseDigits 1 p
      if IsWeekDate year week day then some () else none
    else if IsWeekDate year week 1 then some () else none
  else
    let (month, p) ← parseDigits 2 p
    let p ← skipDash dashed p
    let (day, _) ← parseDigits 2 p
    if IsDate year month day then some () else none

/-- What the loop over hours, minutes and seconds leaves. -/
structure Fields where
  values : List ℕ
  /-- Where a fraction starts. -/
  fraction : Option (List ℕ)
  trailing : Bool

def Fields.cons (value : ℕ) (f : Fields) : Fields := { f with values := value :: f.values }

/-- The loop of `parse_hh_mm_ss_ff` with `left` rounds to go; `after` bytes follow its end. -/
def parseFields (after : ℕ) : ℕ → Bool → List ℕ → Option Fields
  | 0, _, p => some ⟨[], some p, false⟩
  | left + 1, hasSeparator, p => do
    let (value, q) ← parseDigits 2 p
    let c := q.headD 0
    let hasSeparator : Bool := if left = 2 then c = 58 else hasSeparator
    if q.tail.length ≤ after then some ⟨[value], none, c ≠ 0⟩
    else if hasSeparator ∧ c = 58 then (parseFields after left hasSeparator q.tail).map (.cons value)
    else if c = 46 ∨ c = 44 then some ⟨[value], some q.tail, false⟩
    else if hasSeparator = false then (parseFields after left hasSeparator q).map (.cons value)
    else none

/-- Hours, minutes, seconds and microseconds, and whether something else follows. -/
def parseTimeOfDay (after : ℕ) (p : List ℕ) : Option ((ℕ × ℕ × ℕ × ℕ) × Bool) := do
  let f ← parseFields after 3 true p
  let hour := f.values.getD 0 0
  let minute := f.values.getD 1 0
  let second := f.values.getD 2 0
  match f.fraction with
  | none => some ((hour, minute, second, 0), f.trailing)
  | some p =>
    let count := min 6 (p.length - after)
    let (value, p) ← parseDigits count p
    some ((hour, minute, second, value * 10 ^ (6 - count)), (p.dropWhile isDigit).headD 0 ≠ 0)

def isZone (c : ℕ) : Bool := c = 43 ∨ c = 45 ∨ c = 90

/-- The time after the separator: the offset in microseconds, or nothing for a naive time. -/
def parseTime (s : List ℕ) : Option (Option ℤ) := do
  let zone := s.dropWhile fun c => !isZone c
  let ((hour, minute, second, _), trailing) ← parseTimeOfDay zone.length s
  let offset ← match zone with
    | [] => if trailing then none else some none
    | sign :: zone =>
      if sign = 90 then if zone.headD 0 ≠ 0 then none else some (some 0)
      else do
        let ((hours, minutes, seconds, microseconds), trailing) ← parseTimeOfDay 0 zone
        let total := hours * 3600 + minutes * 60 + seconds
        let size : ℤ := if total = 0 then 0 else total * 1000000 + microseconds
        if trailing ∨ 86400 * 1000000 ≤ size then none
        else some (some (if sign = 45 then -size else size))
  if IsTime hour minute second then some offset else none

/-- How many bytes the character with this first byte has. -/
def characterLength (c : ℕ) : ℕ :=
  if c < 0x80 then 1 else if c / 16 = 14 then 3 else if c / 16 = 15 then 4 else 2

/-- `datetime.fromisoformat(text).utcoffset()` in microseconds; `none` where it raises. -/
def utcoffset (text : Str) : Option (Option ℤ) :=
  if text.codes.length < 7 then none
  else do
    let clean ← Str.encode? ⟨sanitize text.codes⟩
    let s := (encode clean).map UInt8.toNat
    let stop ← findSeparator s
    let _ ← parseDate stop s
    if stop < s.length then parseTime (s.drop (stop + characterLength (s.getD stop 0)))
    else some none

lemma parseDigitsFrom_padded {width : ℕ} (n value : ℕ) (rest : List ℕ) :
    parseDigitsFrom width value (padded width n ++ rest) =
      some (value * 10 ^ width + n % 10 ^ width, rest) := by
  have key : ∀ (width value n : ℕ) (more : List ℕ) (k : ℕ),
      parseDigitsFrom (width + k) value (padded width n ++ more) =
        parseDigitsFrom k (value * 10 ^ width + n % 10 ^ width) more := by
    intro width
    induction width with
    | zero =>
      intro value n more k
      simp [padded, Nat.mod_one]
    | succ width ih =>
      intro value n more k
      have hdigit : isDigit (48 + n % 10) = true := by
        simp only [isDigit, decide_eq_true_eq]
        omega
      rw [padded, List.append_assoc, List.singleton_append, Nat.add_assoc, ih, Nat.add_comm 1 k,
        parseDigitsFrom, if_pos hdigit, Nat.add_sub_cancel_left, pow_succ']
      congr 1
      rw [Nat.mod_mul]
      ring
  simpa [parseDigitsFrom] using key width value n rest 0

lemma parseDigits_padded {width n : ℕ} (h : n < 10 ^ width) (rest : List ℕ) :
    parseDigits width (padded width n ++ rest) = some (n, rest) := by
  rw [parseDigits, parseDigitsFrom_padded, Nat.mod_eq_of_lt h, zero_mul, zero_add]

lemma parseDigits_of_digits {ds : List ℕ} (hds : ∀ d ∈ ds, isDigit d = true) (rest : List ℕ)
    {count : ℕ} (h : count ≤ ds.length) :
    ∃ value, parseDigits count (ds ++ rest) = some (value, ds.drop count ++ rest) := by
  have key : ∀ (ds : List ℕ), (∀ d ∈ ds, isDigit d = true) → ∀ count ≤ ds.length, ∀ value,
      ∃ v, parseDigitsFrom count value (ds ++ rest) = some (v, ds.drop count ++ rest) := by
    intro ds
    induction ds with
    | nil =>
      intro _ count hcount value
      obtain rfl := Nat.le_zero.mp hcount
      exact ⟨value, rfl⟩
    | cons d ds ih =>
      intro hds count hcount value
      cases count with
      | zero => exact ⟨value, rfl⟩
      | succ count =>
        rw [List.cons_append, parseDigitsFrom, if_pos (hds d List.mem_cons_self)]
        exact ih (fun x hx => hds x (List.mem_cons_of_mem _ hx)) count
          (Nat.le_of_succ_le_succ hcount) _
  exact key ds hds count h 0

/-- A fraction of a second, or none. -/
def IsFraction (codes : List ℕ) : Prop :=
  codes = [] ∨ ∃ ds, codes = 46 :: ds ∧ ds ≠ [] ∧ ∀ d ∈ ds, isDigit d = true

lemma isFraction_padded (width n : ℕ) : IsFraction (46 :: padded (width + 1) n) := by
  refine .inr ⟨_, rfl, by simp [padded], ?_⟩
  intro d hd
  simp only [isDigit, decide_eq_true_eq]
  exact mem_padded hd

def zeroZone : List ℕ := (Str.ofString "+00:00").codes

lemma zeroZone_eq : zeroZone = [43, 48, 48, 58, 48, 48] := by decide

lemma parseTimeOfDay_stamp (t : Stamp) {fraction : List ℕ} (h : IsFraction fraction) :
    ∃ us, parseTimeOfDay 6 (padded 2 t.hour ++ 58 :: (padded 2 t.minute ++ 58 ::
      (padded 2 t.second ++ (fraction ++ zeroZone)))) =
        some ((t.hour, t.minute, t.second, us), true) := by
  have hfields : parseFields 6 3 true (padded 2 t.hour ++ 58 :: (padded 2 t.minute ++ 58 ::
      (padded 2 t.second ++ (fraction ++ zeroZone)))) =
        some ⟨[t.hour, t.minute, t.second],
          if fraction = [] then none else some (fraction.tail ++ zeroZone), fraction = []⟩ := by
    rcases h with rfl | ⟨ds, rfl, hne, -⟩
    · simp [parseFields, parseDigits_padded t.hour_lt, Fields.cons, parseDigits_padded t.minute_lt,
        zeroZone_eq, parseDigits_padded t.second_lt]
    · have hlength : 0 < ds.length := List.length_pos_iff.mpr hne
      simp [parseFields, parseDigits_padded t.hour_lt, Fields.cons, parseDigits_padded t.minute_lt,
        zeroZone_eq, parseDigits_padded t.second_lt]
      rw [if_neg (by omega), if_neg (by omega)]
      split_ifs with hshort
      · grind
      · rfl
  rcases h with rfl | ⟨ds, rfl, hne, hds⟩
  · rw [List.nil_append] at hfields ⊢
    refine ⟨0, ?_⟩
    simp [parseTimeOfDay, hfields]
  · have hcount : (ds ++ zeroZone).length - 6 = ds.length := by simp [zeroZone_eq]
    obtain ⟨value, hvalue⟩ := parseDigits_of_digits hds zeroZone (Nat.min_le_right 6 ds.length)
    have hrest : ((ds.drop (min 6 ds.length) ++ zeroZone).dropWhile isDigit).headD 0 ≠ 0 := by
      rw [List.dropWhile_append_of_pos fun d hd => hds d (List.mem_of_mem_drop hd), zeroZone_eq]
      decide
    refine ⟨value * 10 ^ (6 - min 6 ds.length), ?_⟩
    simp only [parseTimeOfDay, hfields, Option.bind_eq_bind, Option.bind_some, List.getD_cons_zero,
      List.getD_cons_succ, if_neg (List.cons_ne_nil 46 ds), List.tail_cons, hcount, hvalue]
    simpa using hrest

lemma parseTime_stamp (t : Stamp) {fraction : List ℕ} (h : IsFraction fraction) :
    parseTime (padded 2 t.hour ++ 58 :: (padded 2 t.minute ++ 58 ::
      (padded 2 t.second ++ (fraction ++ zeroZone)))) =
        if IsTime t.hour t.minute t.second then some (some 0) else none := by
  obtain ⟨us, hus⟩ := parseTimeOfDay_stamp t h
  generalize hs : padded 2 t.hour ++ 58 :: (padded 2 t.minute ++ 58 ::
    (padded 2 t.second ++ (fraction ++ zeroZone))) = s at hus
  have hbefore : ∀ c ∈ padded 2 t.hour ++ 58 :: (padded 2 t.minute ++ 58 ::
      (padded 2 t.second ++ fraction)), (!isZone c) = true := by
    have hdigit : ∀ {w n c}, c ∈ padded w n → (!isZone c) = true := by
      intro w n c hc
      have := mem_padded hc
      simp only [isZone, Bool.not_eq_true', decide_eq_false_iff_not]
      omega
    have hfraction : ∀ c ∈ fraction, (!isZone c) = true := by
      intro c hc
      rcases h with rfl | ⟨ds, rfl, -, hds⟩
      · cases hc
      · rcases List.mem_cons.mp hc with rfl | hc
        · decide
        · have := hds c hc
          simp only [isDigit, decide_eq_true_eq] at this
          simp only [isZone, Bool.not_eq_true', decide_eq_false_iff_not]
          omega
    intro c hc
    simp only [List.mem_append, List.mem_cons] at hc
    rcases hc with hc | rfl | hc | rfl | hc | hc
    · exact hdigit hc
    · decide
    · exact hdigit hc
    · decide
    · exact hdigit hc
    · exact hfraction c hc
  have hzone : s.dropWhile (fun c => !isZone c) = zeroZone := by
    have hsplit : s = (padded 2 t.hour ++ 58 :: (padded 2 t.minute ++ 58 ::
        (padded 2 t.second ++ fraction))) ++ zeroZone := by simp [← hs]
    rw [hsplit, List.dropWhile_append_of_pos hbefore, zeroZone_eq]
    decide
  have hoffset : parseTimeOfDay 0 [48, 48, 58, 48, 48] = some ((0, 0, 0, 0), false) := by decide
  rw [zeroZone_eq] at hzone
  simp [parseTime, hzone, hus, hoffset]

lemma parseDate_stamp (t : Stamp) (rest : List ℕ) :
    parseDate 10 (padded 4 t.year ++ 45 :: (padded 2 t.month ++ 45 :: (padded 2 t.day ++ rest))) =
      if IsDate t.year t.month t.day then some () else none := by
  have hweek : (padded 2 t.month ++ 45 :: (padded 2 t.day ++ rest)).headD 0 ≠ 87 := by
    simp only [padded, List.nil_append, List.cons_append, List.headD_cons]
    omega
  simp only [parseDate, parseDigits_padded t.year_lt, Option.bind_eq_bind,
    Option.bind_some, List.headD_cons, decide_true, if_true, List.tail_cons, if_neg hweek,
    parseDigits_padded t.month_lt, skipDash, parseDigits_padded t.day_lt]

lemma sanitize_of_ascii {codes : List ℕ} (h : ∀ c ∈ codes, c < 128) : sanitize codes = codes := by
  have hnone : [7, 8, 10].find? (fun i => isSurrogate (codes.getD i 0)) = none := by
    rw [List.find?_eq_none]
    intro i _
    have hlt : codes.getD i 0 < 128 := by
      rw [List.getD_eq_getElem?_getD]
      rcases hi : codes[i]? with _ | c
      · norm_num
      · exact h c (List.mem_of_getElem? hi)
    simp only [isSurrogate, decide_eq_true_eq]
    omega
  rw [sanitize, hnone]

/-- A stamp in UTC has offset zero, or it is refused for its numbers. -/
lemma utcoffset_stamp (t : Stamp) (hseparator : t.separator < 128) {fraction : List ℕ}
    (h : IsFraction fraction) :
    utcoffset ⟨t.text ++ fraction ++ zeroZone⟩ = if t.Valid then some (some 0) else none := by
  have hfraction : ∀ c ∈ fraction, c < 128 := by
    intro c hc
    rcases h with rfl | ⟨ds, rfl, -, hds⟩
    · cases hc
    · rcases List.mem_cons.mp hc with rfl | hc
      · decide
      · have := hds c hc
        simp only [isDigit, decide_eq_true_eq] at this
        omega
  have hascii : ∀ c ∈ t.text ++ fraction ++ zeroZone, c < 128 := by
    intro c hc
    rw [List.mem_append, List.mem_append] at hc
    rcases hc with (hc | hc) | hc
    · have := Stamp.mem_text hc
      omega
    · exact hfraction c hc
    · have hall : ∀ c ∈ zeroZone, c < 128 := by decide
      exact hall c hc
  obtain ⟨text, htext, hbytes⟩ := Str.encode?_of_ascii hascii
  have hsplit : t.text ++ fraction ++ zeroZone = padded 4 t.year ++ 45 :: (padded 2 t.month ++
      45 :: (padded 2 t.day ++ t.separator :: (padded 2 t.hour ++ 58 :: (padded 2 t.minute ++ 58 ::
        (padded 2 t.second ++ (fraction ++ zeroZone)))))) := by simp [Stamp.text]
  have hlength : 19 ≤ (t.text ++ fraction ++ zeroZone).length := by
    rw [List.append_assoc, List.length_append, Stamp.length_text]
    exact Nat.le_add_right 19 _
  have hdrop : (t.text ++ fraction ++ zeroZone).drop 11 = padded 2 t.hour ++ 58 ::
      (padded 2 t.minute ++ 58 :: (padded 2 t.second ++ (fraction ++ zeroZone))) := by
    rw [hsplit]
    rfl
  have hten : (t.text ++ fraction ++ zeroZone).getD 10 0 = t.separator := by
    rw [hsplit]
    rfl
  have hmonth : (t.text ++ fraction ++ zeroZone).getD 5 0 ≠ 87 := by
    rw [hsplit]
    simp only [padded, List.nil_append, List.cons_append, List.getD_cons_succ, List.getD_cons_zero]
    omega
  have hdash : (t.text ++ fraction ++ zeroZone).getD 4 0 = 45 := by
    rw [hsplit]
    rfl
  have hdate := parseDate_stamp t (t.separator :: (padded 2 t.hour ++ 58 :: (padded 2 t.minute ++
    58 :: (padded 2 t.second ++ (fraction ++ zeroZone)))))
  rw [← hsplit] at hdate
  generalize t.text ++ fraction ++ zeroZone = codes at *
  have hstop : findSeparator codes = some 10 := by
    rw [findSeparator, if_neg (by omega), if_pos hdash, if_neg hmonth]
  rw [utcoffset, if_neg (show ¬codes.length < 7 by omega)]
  simp only [sanitize_of_ascii hascii, htext, hbytes, hstop, hdate, Option.bind_eq_bind,
    Option.bind_some, hten, characterLength]
  rw [if_pos (show 10 < codes.length by omega), if_pos (show t.separator < 0x80 from hseparator),
    hdrop, parseTime_stamp t h]
  unfold Stamp.Valid
  by_cases hd : IsDate t.year t.month t.day
  · simp [hd]
  · simp [hd]

/-- The offset of a text in UTC is zero. -/
lemma utcoffset_text (m : Moment) {fraction : List ℕ} (h : IsFraction fraction) :
    utcoffset ⟨m.text ++ fraction ++ zeroZone⟩ = some (some 0) := by
  have hstamp := utcoffset_stamp m.toStamp (show 84 < 128 by decide) h
  rwa [if_pos (show m.toStamp.Valid from ⟨m.isDate, m.isTime⟩)] at hstamp

end Datetime

end Pentagon5.Python
