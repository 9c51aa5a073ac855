import Pentagon5.Web.Url

/-!
# Rust's parser of IP addresses

`IpAddr::from_str` of `core::net`, which reads dotted decimal without leading zeros or groups of
hexadecimal digits, and nothing in brackets.
-/

namespace Pentagon5.Rust

open Web

inductive IpAddr where
  | v4 (address : Ipv4)
  | v6 (address : Ipv6)
deriving DecidableEq

namespace IpAddr

/-- `is_loopback` -/
def isLoopback : IpAddr → Bool
  | v4 address => address.a = 127
  | v6 address => address.pieces = [0, 0, 0, 0, 0, 0, 0, 1]

/-- `char::to_digit` -/
def toDigit (radix : ℕ) (c : Char) : Option ℕ :=
  let digit :=
    if c.isDigit then some (c.toNat - 48)
    else if 'a' ≤ c ∧ c ≤ 'z' then some (c.toNat - 87)
    else if 'A' ≤ c ∧ c ≤ 'Z' then some (c.toNat - 55)
    else none
  digit.filter (· < radix)

/-- The digits in front, and what follows them. -/
def readDigits (radix : ℕ) : List Char → List ℕ × List Char
  | [] => ([], [])
  | c :: rest =>
    match toDigit radix c with
    | some digit => (digit :: (readDigits radix rest).1, (readDigits radix rest).2)
    | none => ([], c :: rest)

/-- `read_number`, of a number below a bound. -/
def readNumber (radix maxDigits : ℕ) (allowZeroPrefix : Bool) (bound : ℕ) (text : List Char) :
    Option (ℕ × List Char) :=
  let (digits, rest) := readDigits radix text
  let number := digits.foldl (fun number digit => number * radix + digit) 0
  if maxDigits < digits.length then none
  else if digits.length = 0 then none
  else if ¬allowZeroPrefix ∧ text.head? = some '0' ∧ 1 < digits.length then none
  else if number < bound then some (number, rest)
  else none

/-- `read_given_char` -/
def readGivenChar (c : Char) : List Char → Option (List Char)
  | [] => none
  | d :: rest => if d = c then some rest else none

/-- `read_separator` -/
def readSeparator {α : Type} (separator : Char) (index : ℕ) (inner : List Char → Option (α × List Char))
    (text : List Char) : Option (α × List Char) :=
  if 0 < index then (readGivenChar separator text).bind inner else inner text

def readOctet (index : ℕ) (text : List Char) : Option (ℕ × List Char) :=
  readSeparator '.' index (readNumber 10 3 false 256) text

/-- `read_ipv4_addr` -/
def readIpv4Addr (text : List Char) : Option (Ipv4 × List Char) := do
  let (a, text) ← readOctet 0 text
  let (b, text) ← readOctet 1 text
  let (c, text) ← readOctet 2 text
  let (d, text) ← readOctet 3 text
  return (⟨.ofNat a, .ofNat b, .ofNat c, .ofNat d⟩, text)

/-- What `read_groups` reads. -/
structure Groups where
  groups : List UInt16
  endsInIpv4 : Bool
  rest : List Char

/-- The two groups of an IPv4 address. -/
def ipv4Groups (address : Ipv4) : List UInt16 :=
  [.ofNat (address.a.toNat * 256 + address.b.toNat), .ofNat (address.c.toNat * 256 + address.d.toNat)]

/-- `read_groups`, from the group `index` on, with so many groups left. -/
def readGroups (index : ℕ) : ℕ → List Char → Groups
  | 0, text => ⟨[], false, text⟩
  | left + 1, text =>
    match if 0 < left then readSeparator ':' index readIpv4Addr text else none with
    | some (address, rest) => ⟨ipv4Groups address, true, rest⟩
    | none =>
      match readSeparator ':' index (readNumber 16 4 true 65536) text with
      | none => ⟨[], false, text⟩
      | some (group, rest) =>
        let behind := readGroups (index + 1) left rest
        ⟨.ofNat group :: behind.groups, behind.endsInIpv4, behind.rest⟩

lemma length_readGroups (index left : ℕ) (text : List Char) :
    (readGroups index left text).groups.length ≤ left := by
  induction left generalizing index text with
  | zero => exact Nat.le_refl 0
  | succ left ih =>
    rw [readGroups]
    split
    · next h =>
      have hleft : 0 < left := by
        by_contra hzero
        rw [if_neg hzero] at h
        cases h
      exact Nat.succ_le_succ hleft
    · split
      · exact Nat.zero_le _
      · exact Nat.succ_le_succ (ih _ _)

/-- `read_ipv6_addr`: eight groups, or fewer around a `::`. -/
def readIpv6Addr (text : List Char) : Option (Ipv6 × List Char) :=
  let head := readGroups 0 8 text
  if h : head.groups.length = 8 then some (⟨head.groups, h⟩, head.rest)
  else if head.endsInIpv4 then none
  else do
    let text ← readGivenChar ':' head.rest
    let text ← readGivenChar ':' text
    let tail := readGroups 0 (7 - head.groups.length) text
    let zeros := List.replicate (8 - head.groups.length - tail.groups.length) 0
    have hlength : (head.groups ++ (zeros ++ tail.groups)).length = 8 := by
      have hhead : head.groups.length ≤ 8 := length_readGroups 0 8 _
      have htail : tail.groups.length ≤ 7 - head.groups.length := length_readGroups 0 _ _
      rw [List.length_append, List.length_append, List.length_replicate]
      omega
    return (⟨head.groups ++ (zeros ++ tail.groups), hlength⟩, tail.rest)

/-- `read_ip_addr` -/
def readIpAddr (text : List Char) : Option (IpAddr × List Char) :=
  match readIpv4Addr text with
  | some (address, rest) => some (v4 address, rest)
  | none => (readIpv6Addr text).map fun (address, rest) => (v6 address, rest)

/-- `IpAddr::from_str`; `none` where it is an error. -/
def fromStr (text : List Char) : Option IpAddr :=
  match readIpAddr text with
  | some (address, []) => some address
  | _ => none

example : fromStr "127.0.0.1".toList = some (v4 ⟨127, 0, 0, 1⟩) := by decide +kernel

example : (fromStr "::1".toList).map isLoopback = some true := by decide +kernel

example : fromStr "[::1]".toList = none := by decide +kernel

section

variable {radix maxDigits bound n : ℕ} {allowZeroPrefix : Bool} {text rest : List Char}

lemma readDigits_append {digits : List Char} (hdigits : ∀ c ∈ digits, (toDigit radix c).isSome = true)
    (hrest : ∀ c ∈ rest.head?, toDigit radix c = none) :
    readDigits radix (digits ++ rest) = (digits.filterMap (toDigit radix), rest) := by
  induction digits with
  | nil =>
    cases rest with
    | nil => rfl
    | cons c rest =>
      rw [List.nil_append, readDigits, hrest c rfl]
      rfl
  | cons c digits ih =>
    obtain ⟨digit, hdigit⟩ := Option.isSome_iff_exists.mp (hdigits c List.mem_cons_self)
    rw [List.cons_append, readDigits, ih fun d hd => hdigits d (List.mem_cons_of_mem _ hd)]
    simp only [hdigit, List.filterMap_cons_some hdigit]

lemma exists_readDigits (radix : ℕ) (text : List Char) :
    ∃ digits, text = digits ++ (readDigits radix text).2 ∧
      digits.length = (readDigits radix text).1.length ∧ ∀ c ∈ digits, (toDigit radix c).isSome = true := by
  induction text with
  | nil => exact ⟨[], rfl, rfl, nofun⟩
  | cons c text ih =>
    obtain ⟨digits, htext, hlength, hdigits⟩ := ih
    rw [readDigits]
    cases hc : toDigit radix c with
    | none => exact ⟨[], rfl, rfl, nofun⟩
    | some digit =>
      refine ⟨c :: digits, congrArg (c :: ·) htext, congrArg Nat.succ hlength, ?_⟩
      intro d hd
      rcases List.mem_cons.mp hd with rfl | hd
      · rw [hc]
        rfl
      · exact hdigits d hd

/-- What `read_number` consumes. -/
lemma exists_readNumber (h : readNumber radix maxDigits allowZeroPrefix bound text = some (n, rest)) :
    ∃ digits, text = digits ++ rest ∧ digits ≠ [] ∧ ∀ c ∈ digits, (toDigit radix c).isSome = true := by
  obtain ⟨digits, htext, hlength, hdigits⟩ := exists_readDigits radix text
  unfold readNumber at h
  dsimp only at h
  split at h
  · cases h
  split at h
  · cases h
  split at h
  · cases h
  split at h
  · next hne _ _ =>
    cases h
    refine ⟨digits, htext, ?_, hdigits⟩
    rintro rfl
    exact hne hlength.symm
  · cases h

lemma isDigit_of_toDigit {c : Char} (h : (toDigit 10 c).isSome = true) : c.isDigit = true := by
  obtain ⟨digit, hdigit⟩ := Option.isSome_iff_exists.mp h
  obtain ⟨hvalue, hlt⟩ := Option.filter_eq_some_iff.mp hdigit
  have hlt : digit < 10 := of_decide_eq_true hlt
  split at hvalue
  · assumption
  split at hvalue
  · next hlower =>
    have hle : 97 ≤ c.toNat := UInt32.le_iff_toNat_le.mp (Char.le_def.mp hlower.1)
    have hdigit : c.toNat - 87 = digit := Option.some.inj hvalue
    omega
  split at hvalue
  · next hupper =>
    have hle : 65 ≤ c.toNat := UInt32.le_iff_toNat_le.mp (Char.le_def.mp hupper.1)
    have hdigit : c.toNat - 55 = digit := Option.some.inj hvalue
    omega
  · cases hvalue

lemma eq_cons_of_readGivenChar {c : Char} (h : readGivenChar c text = some rest) : text = c :: rest := by
  cases text with
  | nil => cases h
  | cons d text =>
    by_cases hd : d = c
    · rw [readGivenChar, if_pos hd] at h
      rw [hd, Option.some.inj h]
    · rw [readGivenChar, if_neg hd] at h
      cases h

lemma exists_readOctet {index : ℕ} (h : readOctet index text = some (n, rest)) :
    ∃ digits, text = (if 0 < index then ['.'] else []) ++ (digits ++ rest) ∧ digits ≠ [] ∧
      ∀ c ∈ digits, c.isDigit = true := by
  unfold readOctet readSeparator at h
  by_cases hindex : 0 < index
  · rw [if_pos hindex] at h ⊢
    obtain ⟨behind, hchar, h⟩ := Option.bind_eq_some_iff.mp h
    obtain ⟨digits, rfl, hne, hdigits⟩ := exists_readNumber h
    rw [eq_cons_of_readGivenChar hchar]
    exact ⟨digits, rfl, hne, fun c hc => isDigit_of_toDigit (hdigits c hc)⟩
  · rw [if_neg hindex] at h ⊢
    obtain ⟨digits, rfl, hne, hdigits⟩ := exists_readNumber h
    exact ⟨digits, rfl, hne, fun c hc => isDigit_of_toDigit (hdigits c hc)⟩

lemma endsInNumber_of_digits {labels : List (List Char)} {label : List Char}
    (hlabels : ∀ l ∈ labels ++ [label], '.' ∉ l) (hne : label ≠ [])
    (hdigits : ∀ c ∈ label, c.isDigit = true) :
    endsInNumber (['.'].intercalate (labels ++ [label])) = true := by
  unfold endsInNumber
  rw [List.splitOn_intercalate '.' hlabels (by simp)]
  have hlast : (labels ++ [label]).getLast? = some label := List.getLast?_concat
  have hkeep : ¬(1 < (labels ++ [label]).length ∧ some label = some []) :=
    fun h => hne (Option.some.inj h.2)
  simp only [hlast, if_neg hkeep]
  split
  · next heq =>
    cases heq
    exact absurd (hdigits 'x' (by simp)) (by decide)
  · next heq =>
    cases heq
    rw [decide_eq_true_eq]
    exact ⟨hne, List.all_eq_true.mpr hdigits⟩
  · next heq => cases heq

/-- A text that is an IPv4 address ends in a number. -/
lemma endsInNumber_of_readIpv4Addr {address : Ipv4} (h : readIpv4Addr text = some (address, [])) :
    endsInNumber text = true := by
  simp only [readIpv4Addr, Option.bind_eq_bind, Option.bind_eq_some_iff, Prod.exists] at h
  obtain ⟨a, ta, ha, b, tb, hb, c, tc, hc, d, td, hd, hend⟩ := h
  obtain rfl : td = [] := (Prod.mk.inj (Option.some.inj hend)).2
  obtain ⟨w, rfl, hw, hwd⟩ := exists_readOctet ha
  obtain ⟨x, rfl, hx, hxd⟩ := exists_readOctet hb
  obtain ⟨y, rfl, hy, hyd⟩ := exists_readOctet hc
  obtain ⟨z, rfl, hz, hzd⟩ := exists_readOctet hd
  have hdot {l : List Char} (h : ∀ c ∈ l, c.isDigit = true) : '.' ∉ l :=
    fun hmem => absurd (h '.' hmem) (by decide)
  have hall : ∀ l ∈ [w, x, y] ++ [z], '.' ∉ l := by
    simp only [List.cons_append, List.nil_append, List.forall_mem_cons]
    exact ⟨hdot hwd, hdot hxd, hdot hyd, hdot hzd, nofun⟩
  have hends := endsInNumber_of_digits hall hz hzd
  simpa using hends

lemma readGivenChar_of_notMem {c : Char} (h : c ∉ text) : readGivenChar c text = none := by
  cases text with
  | nil => rfl
  | cons d text =>
    have hd : d ≠ c := fun hd => h (hd ▸ List.mem_cons_self)
    exact if_neg hd

lemma readSeparator_of_notMem {α : Type} {inner : List Char → Option (α × List Char)} {index : ℕ}
    (h : ':' ∉ text) (hindex : 0 < index) : readSeparator ':' index inner text = none := by
  rw [readSeparator, if_pos hindex, readGivenChar_of_notMem h]
  rfl

/-- Without colons there is one group at most. -/
lemma readGroups_of_notMem {index : ℕ} (h : ':' ∉ text) (hindex : 0 < index) (left : ℕ) :
    readGroups index left text = ⟨[], false, text⟩ := by
  cases left with
  | zero => rfl
  | succ left =>
    rw [readGroups, readSeparator_of_notMem h hindex, readSeparator_of_notMem h hindex, ite_self]

lemma readIpv6Addr_of_notMem (h : ':' ∉ text) (hv4 : readIpv4Addr text = none) :
    readIpv6Addr text = none := by
  have hgroups : (readGroups 0 8 text).groups.length < 8 ∧ ':' ∉ (readGroups 0 8 text).rest := by
    rw [readGroups, if_pos (by decide), readSeparator, if_neg (by decide), hv4, readSeparator,
      if_neg (by decide)]
    dsimp only
    split
    · exact ⟨Nat.zero_lt_succ _, h⟩
    · next hnumber =>
      obtain ⟨digits, rfl, -, -⟩ := exists_readNumber hnumber
      have hrest := fun hmem => h (List.mem_append_right digits hmem)
      rw [readGroups_of_notMem hrest (by decide)]
      exact ⟨Nat.one_lt_succ_succ _, hrest⟩
  unfold readIpv6Addr
  dsimp only
  rw [dif_neg (by omega)]
  split
  · rfl
  · rw [readGivenChar_of_notMem hgroups.2]
    rfl

/-- A domain is not an address. -/
lemma fromStr_domain (domain : Domain) : fromStr domain.text = none := by
  have hcolon : ':' ∉ domain.text := fun hmem => absurd (domain.chars ':' hmem) (by decide)
  unfold fromStr readIpAddr
  cases hv4 : readIpv4Addr domain.text with
  | none =>
    rw [readIpv6Addr_of_notMem hcolon hv4]
    rfl
  | some read =>
    obtain ⟨address, rest⟩ := read
    cases rest with
    | nil =>
      have hnumber := endsInNumber_of_readIpv4Addr hv4
      rw [domain.notNumeric] at hnumber
      cases hnumber
    | cons c rest => rfl

lemma fromStr_bracket (text : List Char) : fromStr ('[' :: text) = none := rfl

lemma readNumber_octet {octet : ℕ} (h : octet < 256) (hrest : ∀ c ∈ rest.head?, toDigit 10 c = none) :
    readNumber 10 3 false 256 (Nat.toDigits 10 octet ++ rest) = some (octet, rest) := by
  have hall : ∀ octet < 256, (Nat.toDigits 10 octet).all (fun c => (toDigit 10 c).isSome) = true ∧
      readNumber 10 3 false 256 (Nat.toDigits 10 octet) = some (octet, []) := by decide +kernel
  obtain ⟨hdigits, hnumber⟩ := hall octet h
  rw [List.all_eq_true] at hdigits
  have hself : readDigits 10 (Nat.toDigits 10 octet ++ []) = _ := readDigits_append hdigits nofun
  have hhead : (Nat.toDigits 10 octet ++ rest).head? = (Nat.toDigits 10 octet).head? :=
    List.head?_append_of_ne_nil _ Nat.toDigits_ne_nil
  rw [List.append_nil] at hself
  unfold readNumber at hnumber ⊢
  rw [hself] at hnumber
  rw [readDigits_append hdigits hrest, hhead]
  dsimp only at hnumber ⊢
  split at hnumber
  · cases hnumber
  split at hnumber
  · cases hnumber
  split at hnumber
  · cases hnumber
  split at hnumber
  · next hcount hsome hzero hbound =>
    rw [if_neg hcount, if_neg hsome, if_neg hzero, if_pos hbound, (Prod.mk.inj (Option.some.inj hnumber)).1]
  · cases hnumber

/-- Dotted decimal is read back. -/
lemma fromStr_ipv4 (address : Ipv4) : fromStr address.text = some (v4 address) := by
  have hdot : ∀ {l : List Char}, ∀ c ∈ ('.' :: l).head?, toDigit 10 c = none := by
    intro l c hc
    cases hc
    decide
  have hsep {index octet : ℕ} (hindex : 0 < index) (h : octet < 256) {rest : List Char}
      (hrest : ∀ c ∈ rest.head?, toDigit 10 c = none) :
      readOctet index ('.' :: (Nat.toDigits 10 octet ++ rest)) = some (octet, rest) := by
    rw [readOctet, readSeparator, if_pos hindex]
    exact readNumber_octet h hrest
  have hlast : readOctet 3 ('.' :: (Nat.toDigits 10 address.d.toNat ++ [])) = some (address.d.toNat, []) :=
    hsep (by decide) address.d.toNat_lt nofun
  rw [List.append_nil] at hlast
  have hread : readIpv4Addr address.text = some (address, []) := by
    unfold readIpv4Addr Ipv4.text
    rw [show readOctet 0 _ = _ from readNumber_octet address.a.toNat_lt hdot]
    simp only [Option.bind_eq_bind, Option.bind_some]
    rw [hsep (by decide) address.b.toNat_lt hdot, Option.bind_some]
    dsimp only
    rw [hsep (by decide) address.c.toNat_lt hdot, Option.bind_some]
    dsimp only
    rw [hlast, Option.bind_some]
    simp only [UInt8.ofNat_toNat]
    rfl
  rw [fromStr, readIpAddr, hread]

end

end IpAddr

end Pentagon5.Rust
