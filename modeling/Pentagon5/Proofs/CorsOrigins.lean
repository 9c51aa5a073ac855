import Pentagon5.Python.Interpreter
import Pentagon5.Python.Raising
import Pentagon5.Runtime.Config
import Pentagon5.Web.Url

/-!
# Configured origins

Which texts of `P5_CORS_ORIGINS` are refused when one of their entries is not the serialization of an
origin. `urlparse` does not tell an empty query, fragment or parameter from none, keeps credentials
and ports in the authority and drops tabs and line ends, so some entries pass the checks although no
browser sends them.
-/

namespace Pentagon5.Runtime.Config

open Python Python.Urlparse

/-- The entry is what a browser sends as the origin of some page. -/
def IsOrigin (entry : Str) : Prop :=
  ∃ origin : Web.Origin, entry = Str.ofString (String.ofList origin.text)

/-- The entries of the text are refused unless they are origins. -/
structure ExactOrigins (rawOrigins : Str) (result : Except ConfigError RuntimeSettings) : Prop where
  accepted : ∀ settings, result = .ok settings → ∀ entry ∈ settings.corsOrigins, IsOrigin entry
  refused : (∃ entry ∈ originEntries rawOrigins, ¬IsOrigin entry) →
    ∃ message, result = .error (.configurationError message)

/-- The endings of a URL text that `urlparse` reads as a root path at most. -/
def looseEnds : List String :=
  ["", "/", "/;", "?", "/?", "/;?", "#", "/#", "/;#", "?#", "/?#", "/;?#"]

/-- A web scheme in any case, an authority that is not empty, and one of these endings. -/
def Tolerated (entry : Str) : Prop :=
  ∃ scheme netloc, ∃ ending ∈ looseEnds,
    clean entry.codes = scheme ++ ':'.toNat :: '/'.toNat :: '/'.toNat :: (netloc ++ (Str.ofString ending).codes) ∧
      (⟨lower scheme⟩ : Str) ∈ ["http", "https"].map Str.ofString ∧ netloc ≠ [] ∧
      ∀ n ∈ netloc, inNetloc n = true

section

variable {refused : Str → Bool} {entry : Str} {parsed : ParseResult}

def webSchemes : List Str := ["http", "https"].map Str.ofString

/-- The components behind the authority are empty but for a root path. -/
def IsLoose (tail : Str × Str × Str × Str) : Prop :=
  tail.1 ∈ ["", "/"].map Str.ofString ∧ tail.2.1 = ⟨[]⟩ ∧ tail.2.2.1 = ⟨[]⟩ ∧ tail.2.2.2 = ⟨[]⟩

lemma isLoose_of_mem : ∀ scheme ∈ webSchemes, ∀ ending ∈ looseEnds,
    IsLoose (splitTail scheme (Str.ofString ending).codes) := by
  unfold IsLoose
  decide +kernel

lemma inNetloc_of_head : ∀ ending ∈ looseEnds, ∀ n ∈ (Str.ofString ending).codes.head?,
    inNetloc n = false := by decide +kernel

lemma mem_roots {path : List ℕ} :
    (⟨path⟩ : Str) ∈ ["", "/"].map Str.ofString ↔ path = [] ∨ path = ['/'.toNat] := by
  simp only [List.map_cons, List.map_nil, List.mem_cons, List.not_mem_nil, or_false]
  exact or_congr ⟨congrArg Str.codes, congrArg Str.mk⟩ ⟨congrArg Str.codes, congrArg Str.mk⟩

lemma rdropWhile_append_rtakeWhile (p : ℕ → Bool) (text : List ℕ) :
    text.rdropWhile p ++ text.rtakeWhile p = text := by
  rw [List.rdropWhile, List.rtakeWhile, ← List.reverse_append, List.takeWhile_append_dropWhile,
    List.reverse_reverse]

/-- A path without parameters but for an empty one. -/
lemma path_of_splitParams {path : List ℕ} (h : ';'.toNat ∈ path) (hslash : path.head? = some '/'.toNat)
    (hpath : (⟨(splitParams path).1⟩ : Str) ∈ ["", "/"].map Str.ofString)
    (hparams : (splitParams path).2 = []) : path = ['/'.toNat, ';'.toNat] := by
  have hjoin := rdropWhile_append_rtakeWhile (· ≠ '/'.toNat) path
  rw [mem_roots] at hpath
  unfold splitParams at hpath hparams
  simp only at hpath hparams
  by_cases hlast : ';'.toNat ∈ path.rtakeWhile (· ≠ '/'.toNat)
  · rw [if_pos hlast] at hpath hparams
    obtain ⟨hnot, hself | hends⟩ := eq_of_partition_nil hparams
    · rw [← hself] at hnot
      exact absurd hlast hnot
    · rw [hends, ← List.append_assoc] at hjoin
      rcases hpath with hnil | hroot
      · rw [show _ ++ _ = [] from hnil] at hjoin
        rw [← hjoin] at hslash
        exact absurd hslash (by decide)
      · rw [show _ ++ _ = ['/'.toNat] from hroot] at hjoin
        exact hjoin.symm
  · rw [if_neg hlast] at hpath
    rcases hpath with rfl | rfl
    · cases h
    · exact absurd h (by decide)

/-- What stands behind an authority. -/
def Behind (rest : List ℕ) : Prop := ∀ n ∈ rest.head?, inNetloc n = false

lemma eq_of_behind {rest : List ℕ} {n : ℕ} (h : Behind (n :: rest)) :
    n = '/'.toNat ∨ n = '?'.toNat ∨ n = '#'.toNat := by
  have hn := h n rfl
  rw [inNetloc, decide_eq_false_iff_not] at hn
  omega

lemma mem_looseEnds {path query fragment : String} (hpath : path ∈ ["", "/", "/;"])
    (hquery : query ∈ ["", "?"]) (hfragment : fragment ∈ ["", "#"]) :
    path ++ query ++ fragment ∈ looseEnds := by
  have hall : ∀ path ∈ ["", "/", "/;"], ∀ query ∈ ["", "?"], ∀ fragment ∈ ["", "#"],
      path ++ query ++ fragment ∈ looseEnds := by decide
  exact hall path hpath query hquery fragment hfragment

/-- The path of a loose ending. -/
lemma exists_path {scheme : Str} {path : List ℕ}
    (hpath : (⟨(if scheme ∈ usesParams.map Str.ofString ∧ ';'.toNat ∈ path then splitParams path
      else (path, [])).1⟩ : Str) ∈ ["", "/"].map Str.ofString)
    (hparams : (if scheme ∈ usesParams.map Str.ofString ∧ ';'.toNat ∈ path then splitParams path
      else (path, [])).2 = [])
    (hslash : path = [] ∨ path.head? = some '/'.toNat) :
    ∃ text ∈ ["", "/", "/;"], path = (Str.ofString text).codes := by
  by_cases h : scheme ∈ usesParams.map Str.ofString ∧ ';'.toNat ∈ path
  · rw [if_pos h] at hpath hparams
    rcases hslash with rfl | hslash
    · exact ⟨"", by decide, rfl⟩
    · exact ⟨"/;", by decide, path_of_splitParams h.2 hslash hpath hparams⟩
  · rw [if_neg h] at hpath
    rcases mem_roots.mp hpath with rfl | rfl
    · exact ⟨"", by decide, rfl⟩
    · exact ⟨"/", by decide, rfl⟩

/-- The loose endings are the texts with no more than a root path. -/
lemma exists_looseEnd {scheme : Str} {rest : List ℕ} (hrest : Behind rest)
    (h : IsLoose (splitTail scheme rest)) : ∃ ending ∈ looseEnds, rest = (Str.ofString ending).codes := by
  obtain ⟨before, fragment, hfirst⟩ : ∃ before fragment, partition '#' rest = (before, fragment) :=
    ⟨_, _, rfl⟩
  obtain ⟨path, query, hsecond⟩ : ∃ path query, partition '?' before = (path, query) := ⟨_, _, rfl⟩
  simp only [IsLoose, splitTail, hfirst, hsecond] at h
  obtain ⟨hpath, hparams, hquery, hfragment⟩ := h
  have hfirst' := eq_of_partition_nil (show (partition '#' rest).2 = [] by
    rw [hfirst]; exact congrArg Str.codes hfragment)
  have hsecond' := eq_of_partition_nil (show (partition '?' before).2 = [] by
    rw [hsecond]; exact congrArg Str.codes hquery)
  rw [hfirst] at hfirst'
  rw [hsecond] at hsecond'
  obtain ⟨hnotFragment, hends⟩ := hfirst'
  obtain ⟨hnotQuery, hbefore⟩ := hsecond'
  have hslash : path = [] ∨ path.head? = some '/'.toNat := by
    cases path with
    | nil => exact Or.inl rfl
    | cons n path =>
      obtain ⟨more, hmore⟩ : ∃ more, before = n :: more := by
        rcases hbefore with h₂ | h₂ <;> exact ⟨_, h₂⟩
      obtain ⟨more', hmore'⟩ : ∃ more', rest = n :: more' := by
        rw [hmore] at hends
        rcases hends with h₁ | h₁ <;> exact ⟨_, h₁⟩
      rw [hmore'] at hrest
      rcases eq_of_behind hrest with rfl | rfl | rfl
      · exact Or.inr rfl
      · exact absurd List.mem_cons_self hnotQuery
      · rw [hmore] at hnotFragment
        exact absurd List.mem_cons_self hnotFragment
  obtain ⟨text, htext, rfl⟩ := exists_path hpath (congrArg Str.codes hparams) hslash
  obtain ⟨query, hquery, rfl⟩ : ∃ query ∈ ["", "?"],
      before = (Str.ofString text).codes ++ (Str.ofString query).codes := by
    rcases hbefore with h₂ | h₂
    · exact ⟨"", by decide, by rw [h₂]; exact (List.append_nil _).symm⟩
    · exact ⟨"?", by decide, h₂⟩
  obtain ⟨fragment, hfragment, rfl⟩ : ∃ fragment ∈ ["", "#"],
      rest = (Str.ofString text).codes ++ (Str.ofString query).codes ++ (Str.ofString fragment).codes := by
    rcases hends with h₁ | h₁
    · exact ⟨"", by decide, by rw [h₁]; exact (List.append_nil _).symm⟩
    · exact ⟨"#", by decide, h₁⟩
  exact ⟨_, mem_looseEnds htext hquery hfragment, by rw [Str.ofString_append, Str.ofString_append]; rfl⟩

lemma webSchemes_cases {scheme : List ℕ} (h : (⟨scheme⟩ : Str) ∈ webSchemes) :
    scheme = [104, 116, 116, 112] ∨ scheme = [104, 116, 116, 112, 115] := by
  simp only [webSchemes, List.map_cons, List.map_nil, List.mem_cons, List.not_mem_nil, or_false] at h
  exact h.imp (congrArg Str.codes) (congrArg Str.codes)

/-- The letters of a web scheme. -/
lemma isAlpha_of_lower {scheme : List ℕ} (h : (⟨lower scheme⟩ : Str) ∈ webSchemes) {n : ℕ}
    (hn : n ∈ scheme) : isAlpha n = true := by
  have hlower : (if isUpper n then n + 32 else n) ∈ lower scheme := List.mem_map_of_mem hn
  have hmem : (if isUpper n then n + 32 else n) ∈ [104, 116, 116, 112, 115] := by
    rcases webSchemes_cases h with h | h
    · rw [h] at hlower
      exact List.mem_of_mem_take (i := 4) hlower
    · rw [h] at hlower
      exact hlower
  by_cases hupper : isUpper n = true
  · rw [isAlpha, hupper]
    rfl
  · rw [if_neg hupper] at hmem
    simp only [List.mem_cons, List.not_mem_nil, or_false] at hmem
    rcases hmem with rfl | rfl | rfl | rfl | rfl <;> rfl

lemma splitScheme_web {scheme : List ℕ} (h : (⟨lower scheme⟩ : Str) ∈ webSchemes) (rest : List ℕ) :
    Urlparse.splitScheme (scheme ++ ':'.toNat :: rest) = (lower scheme, rest) := by
  have halpha : ∀ n ∈ scheme, isAlpha n = true := fun n hn => isAlpha_of_lower h hn
  have hcolon : ∀ n ∈ scheme, decide (n ≠ ':'.toNat) = true := by
    intro n hn
    refine decide_eq_true ?_
    rintro rfl
    exact absurd (halpha _ hn) (by decide)
  have hbefore : (scheme ++ ':'.toNat :: rest).takeWhile (· ≠ ':'.toNat) = scheme := by
    rw [List.takeWhile_append_of_pos hcolon, List.takeWhile_cons_of_neg (by simp), List.append_nil]
  have hhead : scheme.head?.any isAlpha = true := by
    cases scheme with
    | nil => rcases webSchemes_cases h with h | h <;> cases h
    | cons n scheme => exact halpha n List.mem_cons_self
  have hcodes : scheme.all isSchemeCode = true := by
    rw [List.all_eq_true]
    intro n hn
    rw [isSchemeCode, halpha n hn]
    rfl
  have hdrop : (scheme ++ ':'.toNat :: rest).drop (scheme.length + 1) = rest := by
    rw [← List.drop_drop, List.drop_left]
    rfl
  rw [Urlparse.splitScheme]
  simp only [hbefore, hdrop]
  rw [if_pos ⟨List.mem_append_right _ List.mem_cons_self, hhead, hcodes⟩]

lemma splitScheme_inv {url lowered rest : List ℕ} (hsplit : Urlparse.splitScheme url = (lowered, rest))
    (h : (⟨lowered⟩ : Str) ∈ webSchemes) :
    ∃ scheme, url = scheme ++ ':'.toNat :: rest ∧ lower scheme = lowered := by
  unfold Urlparse.splitScheme at hsplit
  simp only at hsplit
  split at hsplit
  · next hif =>
    obtain ⟨rfl, rfl⟩ := Prod.mk.inj hsplit
    refine ⟨_, ?_, rfl⟩
    obtain ⟨before, rest, hurl, hnot⟩ := List.eq_append_cons_of_mem hif.1
    have hcolon : ∀ n ∈ before, decide (n ≠ ':'.toNat) = true :=
      fun n hn => decide_eq_true fun he => hnot (he ▸ hn)
    have hbefore : url.takeWhile (· ≠ ':'.toNat) = before := by
      rw [hurl, List.takeWhile_append_of_pos hcolon, List.takeWhile_cons_of_neg (by simp),
        List.append_nil]
    rw [hbefore]
    conv_lhs => rw [hurl]
    rw [hurl, ← List.drop_drop, List.drop_left]
    rfl
  · obtain ⟨rfl, -⟩ := Prod.mk.inj hsplit
    rcases webSchemes_cases h with h | h <;> cases h

lemma splitNetloc_web {netloc rest : List ℕ} (h : ∀ n ∈ netloc, inNetloc n = true) (hrest : Behind rest) :
    Urlparse.splitNetloc ('/'.toNat :: '/'.toNat :: (netloc ++ rest)) = (netloc, rest) := by
  change ((netloc ++ rest).takeWhile inNetloc, (netloc ++ rest).dropWhile inNetloc) = _
  rw [List.takeWhile_append_of_pos h, List.dropWhile_append_of_pos h]
  cases rest with
  | nil => rw [List.takeWhile_nil, List.dropWhile_nil, List.append_nil]
  | cons n rest =>
    have hn : ¬inNetloc n = true := by
      rw [hrest n rfl]
      decide
    rw [List.takeWhile_cons_of_neg hn, List.dropWhile_cons_of_neg hn, List.append_nil]

lemma splitNetloc_inv {url netloc tail : List ℕ} (hsplit : Urlparse.splitNetloc url = (netloc, tail))
    (h : netloc ≠ []) : url = '/'.toNat :: '/'.toNat :: (netloc ++ tail) ∧
      (∀ n ∈ netloc, inNetloc n = true) ∧ Behind tail := by
  unfold Urlparse.splitNetloc at hsplit
  split at hsplit
  · next rest =>
    obtain ⟨rfl, rfl⟩ := Prod.mk.inj hsplit
    refine ⟨by rw [List.takeWhile_append_dropWhile]; rfl, fun n hn => List.mem_takeWhile_imp hn, ?_⟩
    intro n hn
    have hhead := List.head?_dropWhile_not inNetloc rest
    rw [hn] at hhead
    exact hhead
  · obtain ⟨rfl, -⟩ := Prod.mk.inj hsplit
    exact absurd rfl h

lemma isInexact_eq_false {entry : Str} {parsed : ParseResult} : isInexact entry parsed = false ↔
    entry ≠ Str.ofString "*" ∧ parsed.scheme ∈ webSchemes ∧ parsed.netloc ≠ ⟨[]⟩ ∧
      IsLoose (parsed.path, parsed.params, parsed.query, parsed.fragment) := by
  simp only [isInexact, decide_eq_false_iff_not, not_or, not_not, IsLoose, webSchemes, ne_eq]

/-- The checks accept exactly the tolerated entries. -/
lemma isInexact_components (entry : Str) :
    isInexact entry (components (clean entry.codes)) = false ↔ Tolerated entry := by
  rw [isInexact_eq_false]
  constructor
  · obtain ⟨lowered, rest, hsplit⟩ : ∃ lowered rest, Urlparse.splitScheme (clean entry.codes) = (lowered, rest) :=
      ⟨_, _, rfl⟩
    obtain ⟨netloc, tail, hnet⟩ : ∃ netloc tail, Urlparse.splitNetloc rest = (netloc, tail) := ⟨_, _, rfl⟩
    simp only [components, hsplit, hnet]
    rintro ⟨-, hscheme, hnetloc, hloose⟩
    have hne : netloc ≠ [] := fun he => hnetloc (congrArg Str.mk he)
    obtain ⟨scheme, hurl, hlower⟩ := splitScheme_inv hsplit hscheme
    obtain ⟨hrest, hall, hbehind⟩ := splitNetloc_inv hnet hne
    obtain ⟨ending, hmem, htail⟩ := exists_looseEnd hbehind hloose
    refine ⟨scheme, netloc, ending, hmem, ?_, by rw [hlower]; exact hscheme, hne, hall⟩
    rw [hurl, hrest, htail]
  · rintro ⟨scheme, netloc, ending, hmem, hurl, hscheme, hnetloc, hall⟩
    have hscheme' := splitScheme_web hscheme
      ('/'.toNat :: '/'.toNat :: (netloc ++ (Str.ofString ending).codes))
    rw [hurl]
    simp only [components, hscheme', splitNetloc_web hall (inNetloc_of_head ending hmem)]
    refine ⟨?_, hscheme, fun he => hnetloc (congrArg Str.codes he), isLoose_of_mem _ hscheme _ hmem⟩
    rintro rfl
    have hstar : (Urlparse.splitScheme (clean (Str.ofString "*").codes)).1 = [] := by decide
    rw [hurl, hscheme'] at hstar
    rcases webSchemes_cases hscheme with h | h <;> (rw [h] at hstar; cases hstar)

end

section

variable {P : ConfigPlatform} {rawOrigins : Str}

lemma urlparse_eq_some {refused : Str → Bool} {entry : Str} (h : (urlparse refused entry).isSome = true) :
    urlparse refused entry = some (components (clean entry.codes)) := by
  unfold urlparse at h ⊢
  simp only at h ⊢
  split
  · next hrefused =>
    rw [if_pos hrefused] at h
    cases h
  · rfl

lemma mapM_urlparse {refused : Str → Bool} {entries : List Str}
    (h : ∀ entry ∈ entries, (urlparse refused entry).isSome = true) :
    entries.mapM (urlparse refused) = some (entries.map fun entry => components (clean entry.codes)) := by
  induction entries with
  | nil => rfl
  | cons entry entries ih =>
    rw [List.mapM_cons, urlparse_eq_some (h entry List.mem_cons_self),
      ih fun e he => h e (List.mem_cons_of_mem _ he)]
    rfl

lemma mapM_urlparse_none {refused : Str → Bool} {entries : List Str} {entry : Str} (hmem : entry ∈ entries)
    (h : (urlparse refused entry).isSome = false) : entries.mapM (urlparse refused) = none := by
  induction entries with
  | nil => cases hmem
  | cons e entries ih =>
    rw [List.mapM_cons]
    rcases List.mem_cons.mp hmem with rfl | hmem
    · rw [Option.isSome_eq_false_iff, Option.isNone_iff_eq_none] at h
      rw [h]
      rfl
    · rw [ih hmem]
      cases urlparse refused e <;> rfl

lemma any_zip_map (entries : List Str) :
    ((entries.zip (entries.map fun entry => components (clean entry.codes))).any
      fun (origin, parsed) => isInexact origin parsed) = true ↔ ∃ entry ∈ entries, ¬Tolerated entry := by
  induction entries with
  | nil => simp
  | cons entry entries ih =>
    rw [List.map_cons, List.zip_cons_cons, List.any_cons, Bool.or_eq_true, ih, List.exists_mem_cons_iff,
      ← isInexact_components, Bool.not_eq_false]

/-- What becomes of the entries: an authority that is refused raises `ValueError`, an entry that is
not tolerated a `ConfigurationError`. -/
lemma corsOrigins_eq_configurationError_iff : (∃ message, corsOrigins P rawOrigins =
      .error (.configurationError message)) ↔
    (∀ entry ∈ originEntries rawOrigins, (urlparse P.refused entry).isSome = true) ∧
      ∃ entry ∈ originEntries rawOrigins, ¬Tolerated entry := by
  by_cases hall : ∀ entry ∈ originEntries rawOrigins, (urlparse P.refused entry).isSome = true
  · rw [corsOrigins, mapM_urlparse hall, and_iff_right hall, ← any_zip_map]
    simp only
    split
    · next h => exact iff_of_true ⟨_, rfl⟩ h
    · next h => exact iff_of_false nofun h
  · refine iff_of_false ?_ fun h => hall h.1
    push Not at hall
    obtain ⟨entry, hmem, hnone⟩ := hall
    rw [corsOrigins, mapM_urlparse_none hmem (Bool.eq_false_iff.mpr hnone)]
    exact nofun

lemma corsOrigins_eq_ok {origins : List Str} (h : corsOrigins P rawOrigins = .ok origins) :
    origins = originEntries rawOrigins := by
  unfold corsOrigins at h
  simp only at h
  split at h
  · cases h
  · split at h
    · cases h
    · exact (Except.ok.inj h).symm

end

section

variable {P : ConfigPlatform} {environ : Environ} {allowedExtra : List String} {raw rawOrigins : Str}

def withOrigins (rawOrigins : Str) (environ : Environ) : Environ :=
  (Str.ofString "P5_CORS_ORIGINS", rawOrigins) :: environ

lemma get_withOrigins {name : String} (h : name ≠ "P5_CORS_ORIGINS") :
    (withOrigins rawOrigins environ).get name = environ.get name := by
  have hne : (Str.ofString name == Str.ofString "P5_CORS_ORIGINS") = false := by
    rw [beq_eq_false_iff_ne, ne_eq, Str.ofString_inj]
    exact h
  rw [Environ.get, withOrigins, List.lookup_cons, hne]
  rfl

lemma secretValue_withOrigins {name : String} (h : name ≠ "P5_CORS_ORIGINS")
    (hfile : name ++ "_FILE" ≠ "P5_CORS_ORIGINS") :
    secretValue P (withOrigins rawOrigins environ) name = secretValue P environ name :=
  secretValue_congr (get_withOrigins h) (get_withOrigins hfile)

lemma boundedNumber_withOrigins {name default range : String} {minimum maximum : ℚ}
    (h : name ≠ "P5_CORS_ORIGINS") :
    boundedNumber P (withOrigins rawOrigins environ) name default minimum maximum range =
      boundedNumber P environ name default minimum maximum range :=
  boundedNumber_congr (get_withOrigins h)

/-- Other settings that are valid stay what they are. -/
lemma loadRuntimeSettings_withOrigins {base : RuntimeSettings}
    (hbase : loadRuntimeSettings P (withOrigins raw environ) allowedExtra = .ok base) :
    loadRuntimeSettings P (withOrigins rawOrigins environ) allowedExtra =
      (corsOrigins P rawOrigins).map fun origins => { base with corsOrigins := origins } := by
  have hunknown : unknownKeys (withOrigins rawOrigins environ) allowedExtra =
      unknownKeys (withOrigins raw environ) allowedExtra := rfl
  have horigins : ∀ raw, (withOrigins raw environ).get "P5_CORS_ORIGINS" = some raw := by
    intro raw
    rw [Environ.get, withOrigins, List.lookup_cons, beq_self_eq_true]
  rw [loadRuntimeSettings] at hbase ⊢
  simp only [hunknown, get_withOrigins (show "P5_ENVIRONMENT" ≠ "P5_CORS_ORIGINS" by decide),
    get_withOrigins (show "P5_LOG_LEVEL" ≠ "P5_CORS_ORIGINS" by decide),
    get_withOrigins (show "P5_SERVICE_NAME" ≠ "P5_CORS_ORIGINS" by decide),
    get_withOrigins (show "P5_OTLP_ENDPOINT" ≠ "P5_CORS_ORIGINS" by decide), horigins,
    secretValue_withOrigins (show "P5_DATABASE_URL" ≠ "P5_CORS_ORIGINS" by decide)
      (show "P5_DATABASE_URL" ++ "_FILE" ≠ "P5_CORS_ORIGINS" by decide),
    boundedNumber_withOrigins (show "P5_MAX_BODY_BYTES" ≠ "P5_CORS_ORIGINS" by decide),
    boundedNumber_withOrigins (show "P5_REQUEST_TIMEOUT_SECONDS" ≠ "P5_CORS_ORIGINS" by decide),
    Option.getD_some] at hbase ⊢
  split at hbase
  · cases hbase
  next hunknown =>
  rw [if_neg hunknown]
  split at hbase
  · cases hbase
  next henvironment =>
  obtain ⟨databaseUrl, hurl, hbase⟩ := bind_eq_ok.mp hbase
  rw [if_neg henvironment, hurl, except_ok_bind]
  split at hbase
  · cases hbase
  next parsed hparsed =>
  split at hbase
  · cases hbase
  next hscheme =>
  split at hbase
  · cases hbase
  next hlevel =>
  split at hbase
  · cases hbase
  next hname =>
  obtain ⟨origins, horigins, hbase⟩ := bind_eq_ok.mp hbase
  obtain ⟨maxBodyBytes, hbytes, hbase⟩ := bind_eq_ok.mp hbase
  obtain ⟨requestTimeout, htimeout, hbase⟩ := bind_eq_ok.mp hbase
  cases hbase
  simp only [if_neg hscheme, if_neg hlevel, if_neg hname, hbytes, htimeout, except_ok_bind]
  cases corsOrigins P rawOrigins with
  | error e => rfl
  | ok origins => rfl

end

/-- No origin holds credentials. -/
lemma not_isOrigin_of_at {entry : Str} (h : '@'.toNat ∈ entry.codes) : ¬IsOrigin entry := by
  rintro ⟨origin, rfl⟩
  rw [Str.ofString_codes, String.toList_ofList] at h
  obtain ⟨c, hc, he⟩ := List.mem_map.mp h
  obtain rfl := Str.toNat_injective he
  have hscheme : ∀ secure : Bool, '@' ∉ (if secure then "https" else "http").toList := by decide
  rw [Web.Origin.text] at hc
  rcases List.mem_append.mp hc with hc | hc
  · exact hscheme _ hc
  · simp only [List.mem_cons] at hc
    rcases hc with hc | hc | hc | hc
    · exact absurd hc (by decide)
    · exact absurd hc (by decide)
    · exact absurd hc (by decide)
    · have hchar := origin.isAuthorityChar_authority _ hc
      exact absurd hchar (by decide)

lemma isAuthorityChar_bounds {c : Char} (h : Web.isAuthorityChar c = true) :
    32 < c.toNat ∧ inNetloc c.toNat = true := by
  rw [Web.isAuthorityChar, decide_eq_true_eq] at h
  obtain ⟨hlow, -, hnot⟩ := h
  have hne : ∀ d ∈ ['/', '?', '#', '@'], c.toNat ≠ d.toNat :=
    fun d hd he => hnot (Str.toNat_injective he ▸ hd)
  exact ⟨hlow, decide_eq_true ⟨hne '/' (by decide), hne '?' (by decide), hne '#' (by decide)⟩⟩

/-- The codes of an origin. -/
lemma codes_origin (origin : Web.Origin) : (Str.ofString (String.ofList origin.text)).codes =
    (Str.ofString (if origin.secure then "https" else "http")).codes ++
      ':'.toNat :: '/'.toNat :: '/'.toNat :: (origin.authority.map Char.toNat) := by
  simp [Web.Origin.text]

/-- What browsers send passes the checks. -/
theorem tolerated_of_isOrigin {entry : Str} (h : IsOrigin entry) : Tolerated entry := by
  obtain ⟨origin, rfl⟩ := h
  have hauthority : ∀ n ∈ origin.authority.map Char.toNat, 32 < n ∧ inNetloc n = true := by
    intro n hn
    obtain ⟨c, hc, rfl⟩ := List.mem_map.mp hn
    exact isAuthorityChar_bounds (origin.isAuthorityChar_authority c hc)
  have hscheme : ∀ secure : Bool, ∀ n ∈ (Str.ofString (if secure then "https" else "http")).codes, 32 < n := by
    decide
  have hclean : clean (Str.ofString (String.ofList origin.text)).codes =
      (Str.ofString (String.ofList origin.text)).codes := by
    have hall : ∀ n ∈ (Str.ofString (String.ofList origin.text)).codes, 32 < n := by
      rw [codes_origin]
      intro n hn
      simp only [List.mem_append, List.mem_cons] at hn
      rcases hn with hn | rfl | rfl | rfl | hn
      · exact hscheme _ n hn
      · decide
      · decide
      · decide
      · exact (hauthority n hn).1
    rw [clean]
    have hdrop : ∀ codes : List ℕ, (∀ n ∈ codes, 32 < n) → codes.dropWhile (· ≤ 32) = codes := by
      intro codes hcodes
      cases codes with
      | nil => rfl
      | cons n codes =>
        have hn := hcodes n List.mem_cons_self
        exact List.dropWhile_cons_of_neg (by simpa using hn)
    rw [hdrop _ hall, List.filter_eq_self]
    intro n hn
    have hlt := hall n hn
    exact decide_eq_true ⟨by omega, by omega, by omega⟩
  refine ⟨(Str.ofString (if origin.secure then "https" else "http")).codes,
    origin.authority.map Char.toNat, "", by decide, ?_, ?_, ?_, fun n hn => (hauthority n hn).2⟩
  · rw [hclean, codes_origin]
    simp
  · cases origin.secure <;> decide
  · simpa using origin.authority_ne_nil

namespace Sample

/-- `float` of decimal digits. -/
def floatOfDigits (text : Str) : Option PyFloat :=
  if text.codes ≠ [] ∧ text.codes.all (fun n => 48 ≤ n ∧ n ≤ 57) then
    some (.finite (text.codes.foldl (fun value n => 10 * value + (n - 48 : ℕ)) (0 : ℚ)))
  else none

/-- A platform without files, for values in upper case and plain authorities. -/
def platform : ConfigPlatform := ⟨floatOfDigits, id, fun _ => false, fun _ => .irregular⟩

def environ : Environ :=
  [("P5_SERVICE_NAME", "api"), ("P5_DATABASE_URL", "postgresql://db/api")]

lemma loads_environ : (loadRuntimeSettings platform (withOrigins (Str.ofString "") environ) []).isOk = true := by
  decide +kernel

lemma exists_base : ∃ base,
    loadRuntimeSettings platform (withOrigins (Str.ofString "") environ) [] = .ok base := by
  have h := loads_environ
  rcases hload : loadRuntimeSettings platform (withOrigins (Str.ofString "") environ) [] with e | base
  · rw [hload] at h
    cases h
  · exact ⟨base, rfl⟩

end Sample

end Pentagon5.Runtime.Config
