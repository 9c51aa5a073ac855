import Mathlib.Data.Nat.Notation
import Mathlib.Data.List.Basic

/-!
# URL records

The record that a parser of the URL standard returns, the texts of hosts, and origins. The host of an
`http` or `https` URL is a domain or an address; the host of another URL is any text.
-/

namespace Pentagon5.Web

structure Ipv4 where
  a : UInt8
  b : UInt8
  c : UInt8
  d : UInt8
deriving DecidableEq

/-- An address in dotted decimal. -/
def Ipv4.text (address : Ipv4) : List Char :=
  Nat.toDigits 10 address.a.toNat ++ '.' :: (Nat.toDigits 10 address.b.toNat ++
    '.' :: (Nat.toDigits 10 address.c.toNat ++ '.' :: Nat.toDigits 10 address.d.toNat))

structure Ipv6 where
  pieces : List UInt16
  length_pieces : pieces.length = 8
deriving DecidableEq

namespace Ipv6

/-- The length of the run of zeros at the front. -/
def zeros (pieces : List UInt16) : ℕ := (pieces.takeWhile (· = 0)).length

/-- The start and the length of the first longest run of zeros. -/
def longestRun (pieces : List UInt16) : ℕ × ℕ :=
  ((List.range pieces.length).map fun i => (i, zeros (pieces.drop i))).foldl
    (fun best run => if best.2 < run.2 then run else best) (0, 0)

/-- Hexadecimal pieces with colons between them. -/
def joinPieces (pieces : List UInt16) : List Char :=
  [':'].intercalate (pieces.map fun piece => Nat.toDigits 16 piece.toNat)

/-- An address whose first longest run of at least two zeros is written as `::`. -/
def text (address : Ipv6) : List Char :=
  let (start, count) := longestRun address.pieces
  if 2 ≤ count then
    joinPieces (address.pieces.take start) ++ ':' :: ':' ::
      joinPieces (address.pieces.drop (start + count))
  else joinPieces address.pieces

end Ipv6

def isHexDigit (c : Char) : Bool := c.isDigit ∨ ('a' ≤ c ∧ c ≤ 'f') ∨ ('A' ≤ c ∧ c ≤ 'F')

/-- Whether the last label of a domain, less a final dot, is a number; such a host is an address. -/
def endsInNumber (domain : List Char) : Bool :=
  let labels := domain.splitOn '.'
  let labels := if 1 < labels.length ∧ labels.getLast? = some [] then labels.dropLast else labels
  match labels.getLast? with
  | some ('0' :: 'x' :: digits) => digits.all isHexDigit
  | some label => label ≠ [] ∧ label.all Char.isDigit
  | none => false

/-- The code points of an ASCII domain. -/
def isDomainChar (c : Char) : Bool :=
  '!' ≤ c ∧ c ≤ '~' ∧ ¬c.isUpper ∧ c ∉ ['#', '/', ':', '<', '>', '?', '@', '[', '\\', ']', '^', '|', '%']

/-- A domain as the host parser returns it. -/
structure Domain where
  text : List Char
  nonempty : text ≠ []
  chars : ∀ c ∈ text, isDomainChar c = true
  notNumeric : endsInNumber text = false
deriving DecidableEq

inductive Host where
  | domain (domain : Domain)
  | ipv4 (address : Ipv4)
  | ipv6 (address : Ipv6)
  /-- The host of a URL whose scheme is not special. -/
  | other (text : List Char)
deriving DecidableEq

namespace Host

/-- Whether the host can be that of a special URL. -/
def isSpecial : Host → Bool
  | other _ => false
  | _ => true

/-- The host as it stands in a URL. -/
def text : Host → List Char
  | domain d => d.text
  | ipv4 address => address.text
  | ipv6 address => '[' :: (address.text ++ [']'])
  | other text => text

end Host

/-- A URL; the empty username, and no password, stand for no credentials. -/
structure Url where
  scheme : String
  username : String
  password : Option String
  host : Option Host
  port : Option UInt16
  path : String
  query : Option String
  fragment : Option String
  special : scheme = "http" ∨ scheme = "https" → ∃ h, host = some h ∧ h.isSpecial = true
deriving DecidableEq

/-- The origin of a web page: its port is left out if it is the default port of the scheme. -/
structure Origin where
  secure : Bool
  host : Host
  port : Option UInt16
  special : host.isSpecial = true
  notDefault : port ≠ some (if secure then 443 else 80)

namespace Origin

/-- The host, and the port unless it is left out. -/
def authority (origin : Origin) : List Char :=
  origin.host.text ++
    match origin.port with
    | some port => ':' :: Nat.toDigits 10 port.toNat
    | none => []

/-- The serialization of an origin. -/
def text (origin : Origin) : List Char :=
  (if origin.secure then "https" else "http").toList ++ ':' :: '/' :: '/' :: origin.authority

end Origin

/-- The code points of the authority of an origin. -/
def isAuthorityChar (c : Char) : Bool := '!' ≤ c ∧ c ≤ '~' ∧ c ∉ ['/', '?', '#', '@']

lemma exists_digit {b n : ℕ} (hb : 1 < b) {c : Char} (h : c ∈ Nat.toDigits b n) :
    ∃ k < b, c = Nat.digitChar k := by
  induction n using Nat.strongRecOn with
  | _ n ih =>
    by_cases hn : n < b
    · rw [Nat.toDigits_of_lt_base hn, List.mem_singleton] at h
      exact ⟨n, hn, h⟩
    · rw [Nat.toDigits_of_base_le hb (Nat.not_lt.mp hn), List.mem_append, List.mem_singleton] at h
      rcases h with h | h
      · exact ih (n / b) (Nat.div_lt_self (by omega) hb) h
      · exact ⟨n % b, Nat.mod_lt _ (by omega), h⟩

lemma isAuthorityChar_of_digit {b n : ℕ} (hb : 1 < b) (hle : b ≤ 16) {c : Char}
    (h : c ∈ Nat.toDigits b n) : isAuthorityChar c = true := by
  obtain ⟨k, hk, rfl⟩ := exists_digit hb h
  have hall : ∀ k < 16, isAuthorityChar (Nat.digitChar k) = true := by decide
  exact hall k (by omega)

lemma isAuthorityChar_of_domain {c : Char} (h : isDomainChar c = true) : isAuthorityChar c = true := by
  rw [isDomainChar, decide_eq_true_eq] at h
  obtain ⟨hlow, hhigh, -, hnot⟩ := h
  refine decide_eq_true ⟨hlow, hhigh, fun hmem => hnot ?_⟩
  simp only [List.mem_cons, List.not_mem_nil, or_false] at hmem ⊢
  rcases hmem with rfl | rfl | rfl | rfl <;> simp

namespace Host

lemma text_ne_nil {host : Host} (h : host.isSpecial = true) : host.text ≠ [] := by
  cases host with
  | domain d => exact d.nonempty
  | ipv4 address => exact List.append_ne_nil_of_left_ne_nil Nat.toDigits_ne_nil _
  | ipv6 address => exact List.cons_ne_nil _ _
  | other text => cases h

lemma isAuthorityChar_joinPieces (pieces : List UInt16) :
    ∀ c ∈ Ipv6.joinPieces pieces, isAuthorityChar c = true := by
  rw [Ipv6.joinPieces]
  induction pieces with
  | nil => exact nofun
  | cons piece pieces ih =>
    intro c hc
    cases pieces with
    | nil =>
      rw [List.map_cons, List.map_nil, List.intercalate_singleton] at hc
      exact isAuthorityChar_of_digit (by decide) (by decide) hc
    | cons next pieces =>
      rw [List.map_cons, List.map_cons, List.intercalate_cons_cons] at hc
      rcases List.mem_append.mp hc with hc | hc
      · rcases List.mem_append.mp hc with hc | hc
        · exact isAuthorityChar_of_digit (by decide) (by decide) hc
        · rw [List.mem_singleton.mp hc]
          decide
      · exact ih c hc

lemma isAuthorityChar_ipv6 (address : Ipv6) : ∀ c ∈ address.text, isAuthorityChar c = true := by
  intro c hc
  unfold Ipv6.text at hc
  simp only at hc
  split at hc
  · rcases List.mem_append.mp hc with hc | hc
    · exact isAuthorityChar_joinPieces _ c hc
    · simp only [List.mem_cons] at hc
      rcases hc with rfl | rfl | hc
      · decide
      · decide
      · exact isAuthorityChar_joinPieces _ c hc
  · exact isAuthorityChar_joinPieces _ c hc

lemma isAuthorityChar_ipv4 (address : Ipv4) : ∀ c ∈ address.text, isAuthorityChar c = true := by
  have hdigit : ∀ (n : ℕ) (c : Char), c ∈ Nat.toDigits 10 n → isAuthorityChar c = true :=
    fun n c hc => isAuthorityChar_of_digit (by decide) (by decide) hc
  intro c hc
  simp only [Ipv4.text, List.mem_append, List.mem_cons] at hc
  rcases hc with hc | rfl | hc | rfl | hc | rfl | hc
  · exact hdigit _ c hc
  · decide
  · exact hdigit _ c hc
  · decide
  · exact hdigit _ c hc
  · decide
  · exact hdigit _ c hc

lemma isAuthorityChar_text {host : Host} (h : host.isSpecial = true) :
    ∀ c ∈ host.text, isAuthorityChar c = true := by
  cases host with
  | domain d => exact fun c hc => isAuthorityChar_of_domain (d.chars c hc)
  | ipv4 address => exact isAuthorityChar_ipv4 address
  | ipv6 address =>
    intro c hc
    rcases List.mem_cons.mp hc with rfl | hc
    · decide
    · rcases List.mem_append.mp hc with hc | hc
      · exact isAuthorityChar_ipv6 address c hc
      · rw [List.mem_singleton.mp hc]
        decide
  | other text => cases h

end Host

namespace Origin

lemma authority_ne_nil (origin : Origin) : origin.authority ≠ [] :=
  List.append_ne_nil_of_left_ne_nil (Host.text_ne_nil origin.special) _

lemma isAuthorityChar_authority (origin : Origin) : ∀ c ∈ origin.authority, isAuthorityChar c = true := by
  intro c hc
  rcases List.mem_append.mp hc with hc | hc
  · exact Host.isAuthorityChar_text origin.special c hc
  · split at hc
    · rcases List.mem_cons.mp hc with rfl | hc
      · decide
      · exact isAuthorityChar_of_digit (by decide) (by decide) hc
    · cases hc

end Origin

end Pentagon5.Web
