import Mathlib.Data.List.TakeWhile
import TelemetryManager.Library.Text

/-! URLs as `[scheme:][//[userinfo@]host]path[?query][#fragment]`, or with an opaque part behind the
scheme. -/
namespace Url

structure Parts where
  scheme : List Char := []
  opaquePart : List Char := []
  user : Option (List Char) := none
  host : List Char := []
  omitHost : Bool := false
  path : List Char := []
  query : List Char := []
  fragment : List Char := []

def isSchemeChar (c : Char) : Bool := c.isAlpha || c.isDigit || c ∈ ['+', '-', '.']

/-- A letter, and behind it letters, digits, plus, minus and dot. -/
def isScheme (s : List Char) : Bool := s.all isSchemeChar && s.head?.any Char.isAlpha

/-- Nothing, or a text behind a separator. -/
def isSeparated (rest : List Char) : Bool := rest.head?.all (· ∈ ['/', '?', '#'])

/-- The scheme and what follows its colon. The scheme is empty if there is none, and the result is
`none` if nothing stands in front of the colon. -/
def getScheme (raw : List Char) : Option (List Char × List Char) :=
  match raw.dropWhile isSchemeChar with
  | ':' :: rest =>
    if raw.takeWhile isSchemeChar = [] then none
    else if isScheme (raw.takeWhile isSchemeChar) then some (raw.takeWhile isSchemeChar, rest)
    else some ([], raw)
  | _ => some ([], raw)

def cut (sep : Char) (raw : List Char) : List Char × List Char :=
  (raw.takeWhile (· ≠ sep), (raw.dropWhile (· ≠ sep)).drop 1)

/-- The user information in front of the last at sign, and the host. -/
def splitAuthority (authority : List Char) : Option (List Char) × List Char :=
  if '@' ∈ authority then
    (some ((authority.reverse.dropWhile (· ≠ '@')).drop 1).reverse,
      (authority.reverse.takeWhile (· ≠ '@')).reverse)
  else (none, authority)

/-- What follows the scheme starts with an authority. -/
def hasAuthority (hasScheme : Bool) (rest : List Char) : Bool :=
  (hasScheme || !List.isPrefixOf ['/', '/', '/'] rest) && List.isPrefixOf ['/', '/'] rest

def splitPath (hasScheme : Bool) (rest : List Char) : List Char × List Char :=
  if hasAuthority hasScheme rest then
    ((rest.drop 2).takeWhile (· ≠ '/'), (rest.drop 2).dropWhile (· ≠ '/'))
  else ([], rest)

section Parse

variable (validHost validPath : List Char → Bool)

/-- Parse what follows the scheme, up to the query. -/
def parseRest (scheme rest : List Char) (base : Parts) : Option Parts :=
  if rest.head? ≠ some '/' ∧ scheme ≠ [] then some { base with opaquePart := rest }
  -- a relative path cannot have a colon in its first segment
  else if rest.head? ≠ some '/' ∧ ':' ∈ rest.takeWhile (· ≠ '/') then none
  else
    let authority := splitAuthority (splitPath (scheme ≠ []) rest).1
    let path := (splitPath (scheme ≠ []) rest).2
    if validHost authority.2 && validPath path then
      some { base with
        user := authority.1
        host := authority.2
        omitHost := scheme ≠ [] && !hasAuthority true rest
        path := path }
    else none

/-- Parse a text. Percent escapes stay as they are. -/
def parse (raw : List Char) : Option Parts :=
  if (cut '#' raw).1.any (fun c => c.val < 32 || c.val = 127) then none
  else (getScheme (cut '#' raw).1).bind fun (scheme, rest) =>
    parseRest validHost validPath scheme (cut '?' rest).1
      { scheme := scheme.map Text.toLowerChar
        query := (cut '?' rest).2
        fragment := (cut '#' raw).2 }

end Parse

namespace Parts

variable (u : Parts)

def start : List Char := if u.scheme ≠ [] then u.scheme ++ [':'] else []

def authority : List Char :=
  if u.host ≠ [] ∨ u.user.isSome ∨ (u.scheme ≠ [] ∧ u.path ≠ [] ∧ u.omitHost = false) then
    ['/', '/'] ++ (u.user.map (· ++ ['@'])).getD [] ++ u.host
  else []

def pathText : List Char :=
  if u.path ≠ [] ∧ u.path.head? ≠ some '/' ∧ u.host ≠ [] then '/' :: u.path
  -- a colon in the first segment would be read as the end of a scheme
  else if u.start ++ u.authority = [] ∧ ':' ∈ u.path.takeWhile (· ≠ '/') then ['.', '/'] ++ u.path
  else u.path

def tail : List Char :=
  (if u.query ≠ [] then '?' :: u.query else []) ++
    (if u.fragment ≠ [] then '#' :: u.fragment else [])

def string : List Char :=
  u.start ++ ((if u.opaquePart ≠ [] then u.opaquePart else u.authority ++ u.pathText) ++ u.tail)

end Parts

section Scheme

variable {validHost validPath : List Char → Bool} {raw s rest : List Char} {u : Parts}

theorem notMem_of_isScheme {c : Char} (h : isScheme s) (hc : isSchemeChar c = false) :
    c ∉ s := by
  intro hmem
  have hall := (Bool.and_eq_true_iff.mp h).1
  exact Bool.false_ne_true (hc.symm.trans (List.all_eq_true.mp hall c hmem))

theorem getScheme_append (h : isScheme s) :
    getScheme (s ++ ':' :: rest) = some (s, rest) := by
  obtain ⟨hall, hhead⟩ := Bool.and_eq_true_iff.mp h
  have hne : s ≠ [] := by
    rintro rfl
    cases hhead
  have hcolon : isSchemeChar ':' = false := by decide
  have htake : (s ++ ':' :: rest).takeWhile isSchemeChar = s := by
    rw [List.takeWhile_append_of_pos (List.all_eq_true.mp hall), List.takeWhile_cons, hcolon]
    simp
  have hdrop : (s ++ ':' :: rest).dropWhile isSchemeChar = ':' :: rest := by
    rw [List.dropWhile_append_of_pos (List.all_eq_true.mp hall), List.dropWhile_cons, hcolon]
    simp
  rw [getScheme, hdrop, htake]
  simp [hne, h]

theorem getScheme_cases {scheme : List Char} (h : getScheme raw = some (scheme, rest)) :
    (scheme = [] ∧ rest = raw) ∨ (isScheme scheme ∧ raw = scheme ++ ':' :: rest) := by
  unfold getScheme at h
  split at h
  · rename_i rest' hdrop
    split at h
    · cases h
    · split at h
      · rename_i hscheme
        cases h
        refine .inr ⟨hscheme, ?_⟩
        rw [← hdrop, List.takeWhile_append_dropWhile]
      · cases h
        exact .inl ⟨rfl, rfl⟩
  · cases h
    exact .inl ⟨rfl, rfl⟩

theorem parseRest_cases {scheme : List Char} {base : Parts} (hbase : base.opaquePart = [])
    (h : parseRest validHost validPath scheme rest base = some u) : u.scheme = base.scheme ∧
      ((scheme ≠ [] ∧ rest.head? ≠ some '/' ∧ u.opaquePart = rest) ∨
        ((scheme = [] ∨ rest.head? = some '/') ∧ u.opaquePart = [] ∧
          u.host = (splitAuthority (splitPath (scheme ≠ []) rest).1).2)) := by
  unfold parseRest at h
  dsimp only at h
  split at h
  · rename_i hopaquePart
    cases h
    exact ⟨rfl, .inl ⟨hopaquePart.2, hopaquePart.1, rfl⟩⟩
  · rename_i hhier
    rw [not_and_or, not_not, not_not] at hhier
    split at h
    · cases h
    · split at h
      · cases h
        exact ⟨rfl, .inr ⟨hhier.symm, hbase, rfl⟩⟩
      · cases h

theorem parse_cases (h : parse validHost validPath raw = some u) :
    ∃ scheme rest, getScheme (cut '#' raw).1 = some (scheme, rest) ∧
      u.scheme = scheme.map Text.toLowerChar ∧
      ((scheme ≠ [] ∧ (cut '?' rest).1.head? ≠ some '/' ∧ u.opaquePart = (cut '?' rest).1) ∨
        ((scheme = [] ∨ (cut '?' rest).1.head? = some '/') ∧ u.opaquePart = [] ∧
          u.host = (splitAuthority (splitPath (scheme ≠ []) (cut '?' rest).1).1).2)) := by
  unfold parse at h
  split at h
  · cases h
  · obtain ⟨⟨scheme, rest⟩, hscheme, hrest⟩ := Option.bind_eq_some_iff.mp h
    exact ⟨scheme, rest, hscheme, parseRest_cases rfl hrest⟩

theorem isSeparated_dropWhile (raw : List Char) :
    isSeparated (raw.dropWhile (· ≠ '#')) = true := by
  induction raw with
  | nil => rfl
  | cons c raw ih =>
    by_cases hc : c = '#'
    · simp [hc, isSeparated]
    · simpa [hc] using ih

/-- The scheme is the text in front of the first colon, in lower case. Without an opaque part, a
separator follows, or nothing. -/
theorem parse_scheme (h : parse validHost validPath raw = some u) (hne : u.scheme ≠ []) :
    ∃ s rest, raw = s ++ ':' :: rest ∧ isScheme s ∧ u.scheme = s.map Text.toLowerChar ∧
      (u.opaquePart = [] → isSeparated rest) := by
  obtain ⟨scheme, rest, hscheme, hlower, hparts⟩ := parse_cases h
  rcases getScheme_cases hscheme with ⟨hempty, -⟩ | ⟨hvalid, hfront⟩
  · rw [hempty] at hlower
    exact absurd hlower hne
  · have hraw : raw = scheme ++ ':' :: (rest ++ raw.dropWhile (· ≠ '#')) := by
      have hcut : (cut '#' raw).1 ++ raw.dropWhile (· ≠ '#') = raw :=
        List.takeWhile_append_dropWhile
      rw [hfront] at hcut
      rw [← List.cons_append, ← List.append_assoc]
      exact hcut.symm
    refine ⟨scheme, rest ++ raw.dropWhile (· ≠ '#'), hraw, hvalid, hlower, fun hopaquePart => ?_⟩
    have hhead : (cut '?' rest).1 = [] ∨ (cut '?' rest).1.head? = some '/' := by
      rcases hparts with ⟨-, -, heq⟩ | ⟨hempty | hslash, -⟩
      · exact .inl (heq.symm.trans hopaquePart)
      · rw [hempty] at hvalid
        cases hvalid
      · exact .inr hslash
    cases rest with
    | nil => exact isSeparated_dropWhile raw
    | cons c rest =>
      by_cases hc : c = '?'
      · simp [isSeparated, hc]
      · have hslash : c = '/' := by simpa [cut, hc] using hhead
        simp [isSeparated, hslash]

theorem cut_append {sep : Char} {front : List Char} (h : sep ∉ front) (back : List Char) :
    (cut sep (front ++ back)).1 = front ++ (cut sep back).1 := by
  refine List.takeWhile_append_of_pos fun c hc => ?_
  rw [decide_eq_true_iff]
  rintro rfl
  exact h hc

theorem parse_append (hs : isScheme s) (h : parse validHost validPath (s ++ ':' :: rest) = some u) :
    u.scheme = s.map Text.toLowerChar ∧
      (((cut '?' (cut '#' rest).1).1.head? ≠ some '/') ∨
        u.opaquePart = [] ∧
          u.host = (splitAuthority (splitPath true (cut '?' (cut '#' rest).1).1).1).2) := by
  have hne : s ≠ [] := by
    rintro rfl
    cases hs
  have hcut : (cut '#' (s ++ ':' :: rest)).1 = s ++ ':' :: (cut '#' rest).1 := by
    rw [cut_append (notMem_of_isScheme hs (by decide))]
    rfl
  obtain ⟨scheme, rest', hscheme, hlower, hparts⟩ := parse_cases h
  rw [hcut, getScheme_append hs] at hscheme
  cases hscheme
  refine ⟨hlower, ?_⟩
  rcases hparts with ⟨-, hhead, -⟩ | ⟨-, hopaquePart, hhost⟩
  · exact .inl hhead
  · refine .inr ⟨hopaquePart, ?_⟩
    rw [hhost, decide_eq_true hne]

theorem parse_hierarchical (hs : isScheme s)
    (h : parse validHost validPath (s ++ ':' :: '/' :: rest) = some u) :
    u.scheme = s.map Text.toLowerChar ∧ u.opaquePart = [] := by
  obtain ⟨hlower, hparts⟩ := parse_append hs h
  refine ⟨hlower, ?_⟩
  rcases hparts with hhead | ⟨hopaquePart, -⟩
  · exact absurd rfl hhead
  · exact hopaquePart

theorem cut_isSeparated (h : isSeparated rest) :
    (cut '/' (cut '?' (cut '#' rest).1).1).1 = [] := by
  cases rest with
  | nil => rfl
  | cons c rest =>
    have hc : c = '/' ∨ c = '?' ∨ c = '#' := by simpa [isSeparated] using h
    rcases hc with rfl | rfl | rfl <;> simp [cut]

theorem parse_host {authority : List Char} (hs : isScheme s)
    (hauthority : ∀ c ∈ authority, c ∉ ['/', '?', '#', '@']) (hrest : isSeparated rest)
    (h : parse validHost validPath (s ++ ':' :: '/' :: '/' :: (authority ++ rest)) = some u) :
    u.host = authority := by
  have hnot : ∀ c ∈ ['/', '?', '#', '@'], c ∉ authority := fun c hc hmem => hauthority c hmem hc
  simp only [List.forall_mem_cons] at hnot
  obtain ⟨hslash, hquestion, hhash, hat, -⟩ := hnot
  have hcut : (cut '?' (cut '#' ('/' :: '/' :: (authority ++ rest))).1).1 =
      '/' :: '/' :: (authority ++ (cut '?' (cut '#' rest).1).1) := by
    have hfragment : '#' ∉ '/' :: '/' :: authority := by simp [hhash]
    have hquery : '?' ∉ '/' :: '/' :: authority := by simp [hquestion]
    rw [← List.cons_append, ← List.cons_append, cut_append hfragment, cut_append hquery]
    rfl
  obtain ⟨-, hparts⟩ := parse_append hs h
  rcases hparts with hhead | ⟨-, hhost⟩
  · rw [hcut] at hhead
    exact absurd rfl hhead
  · have hpath : (splitPath true (cut '?' (cut '#' ('/' :: '/' :: (authority ++ rest))).1).1).1 =
        (cut '/' (authority ++ (cut '?' (cut '#' rest).1).1)).1 := by
      rw [hcut]
      rfl
    rw [hhost, hpath, cut_append hslash, cut_isSeparated hrest, List.append_nil, splitAuthority,
      if_neg hat]

end Scheme

section Rendering

variable {validHost validPath : List Char → Bool} {raw s : List Char} {u : Parts}

theorem parse_scheme_notMem_colon (h : parse validHost validPath raw = some u) :
    ':' ∉ u.scheme := by
  by_cases hne : u.scheme = []
  · simp [hne]
  · obtain ⟨s, rest, -, hs, hlower, -⟩ := parse_scheme h hne
    rw [hlower, List.mem_map]
    rintro ⟨c, hc, hcolon⟩
    refine Text.toLowerChar_ne (by decide) ?_ hcolon
    rintro rfl
    exact notMem_of_isScheme hs (by decide) hc

/-- The opaque part of a parsed text does not start with a slash, and there is none without a
scheme. -/
theorem parse_opaquePart (h : parse validHost validPath raw = some u) :
    u.opaquePart.head? ≠ some '/' ∧ (u.scheme = [] → u.opaquePart = []) := by
  obtain ⟨scheme, rest, -, hlower, hparts⟩ := parse_cases h
  rcases hparts with ⟨hne, hhead, hopaquePart⟩ | ⟨-, hopaquePart, -⟩
  · rw [hopaquePart, hlower, List.map_eq_nil_iff]
    exact ⟨hhead, fun hempty => absurd hempty hne⟩
  · simp [hopaquePart]

theorem Parts.head_tail (u : Parts) : ∀ c ∈ u.tail.head?, c = '?' ∨ c = '#' := by
  unfold Parts.tail
  by_cases hquery : u.query = []
  · by_cases hfragment : u.fragment = [] <;> simp [hquery, hfragment]
  · simp [hquery]

/-- A path that starts like a URL with a scheme has a colon in its first segment. -/
theorem colon_mem_of_isPrefix {path tail : List Char} (hs : isScheme s)
    (htail : ∀ c ∈ tail.head?, c = '?' ∨ c = '#') (h : s ++ [':', '/', '/'] <+: path ++ tail) :
    ':' ∈ path.takeWhile (· ≠ '/') := by
  have hslash : '/' ∉ s ++ [':'] := by simp [notMem_of_isScheme hs (c := '/') (by decide)]
  -- the path reaches behind the colon, because the tail starts with another character
  have hpath : s ++ [':'] <+: path := by
    have hcolon : s ++ [':'] <+: path ++ tail := by
      refine List.IsPrefix.trans ?_ h
      exact (List.prefix_append_right_inj s).mpr (List.prefix_append [':'] ['/', '/'])
    rcases List.prefix_or_prefix_of_prefix hcolon (List.prefix_append path tail) with hpre | hpre
    · exact hpre
    · obtain ⟨rest, hrest⟩ := hpre
      obtain ⟨more, hmore⟩ := hcolon
      cases rest with
      | nil =>
        rw [List.append_nil] at hrest
        rw [hrest]
      | cons c rest =>
        rw [← hrest, List.append_assoc] at hmore
        have htail' := List.append_cancel_left hmore
        have hc : c ∈ s ++ [':'] := by simp [← hrest]
        rw [← htail'] at htail
        rcases htail c (by simp) with rfl | rfl
        · simp [notMem_of_isScheme hs (c := '?') (by decide)] at hc
        · simp [notMem_of_isScheme hs (c := '#') (by decide)] at hc
  obtain ⟨rest, rfl⟩ := hpath
  have hcut := cut_append hslash rest
  have hmem : ':' ∈ s ++ [':'] ++ (cut '/' rest).1 := by simp
  rw [← hcut] at hmem
  exact hmem

/-- A text that starts with a scheme and an authority has this scheme, and no opaque part. -/
theorem scheme_of_isPrefix (hs : isScheme s) (hcolon : ':' ∉ u.scheme)
    (hslash : u.opaquePart.head? ≠ some '/') (hnone : u.scheme = [] → u.opaquePart = [])
    (h : s ++ [':', '/', '/'] <+: u.string) : u.scheme = s ∧ u.opaquePart = [] := by
  obtain ⟨more, hmore⟩ := h
  by_cases hscheme : u.scheme = []
  · exfalso
    -- the first character is a letter
    have hhead : ∀ c, u.string.head? = some c → c.isAlpha := by
      intro c hc
      have halpha := (Bool.and_eq_true_iff.mp hs).2
      cases s with
      | nil => cases halpha
      | cons d s =>
        rw [← hmore] at hc
        cases hc
        exact halpha
    have hstart : u.start = [] := by simp [Parts.start, hscheme]
    have hstring : u.string = u.authority ++ (u.pathText ++ u.tail) := by
      simp [Parts.string, hstart, hnone hscheme]
    by_cases hhost : u.host ≠ [] ∨ u.user.isSome
    · have hauthority : u.authority =
          ['/', '/'] ++ (u.user.map (· ++ ['@'])).getD [] ++ u.host := by
        rw [Parts.authority, if_pos (or_assoc.mp (.inl hhost))]
      exact absurd (hhead '/' (by simp [hstring, hauthority])) (by decide)
    · rw [not_or, not_not] at hhost
      have hauthority : u.authority = [] := by simp [Parts.authority, hscheme, hhost]
      by_cases hsegment : ':' ∈ u.path.takeWhile (· ≠ '/')
      · have hpath : u.pathText = ['.', '/'] ++ u.path := by
          rw [Parts.pathText, if_neg (by simp [hhost.1]), if_pos ⟨by simp [hstart, hauthority],
            hsegment⟩]
        exact absurd (hhead '.' (by simp [hstring, hauthority, hpath])) (by decide)
      · have hpath : u.pathText = u.path := by
          rw [Parts.pathText, if_neg (by simp [hhost.1]), if_neg (fun h => hsegment h.2)]
        refine hsegment (colon_mem_of_isPrefix hs u.head_tail ⟨more, ?_⟩)
        rw [hmore, hstring, hauthority, hpath]
        rfl
  · have hstring : u.string = u.scheme ++ ':' ::
        ((if u.opaquePart ≠ [] then u.opaquePart else u.authority ++ u.pathText) ++ u.tail) := by
      simp [Parts.string, Parts.start, hscheme]
    have hsame : s = u.scheme := by
      have hcut := congrArg (fun text => (cut ':' text).1) (hmore.trans hstring)
      rw [List.append_assoc, cut_append (notMem_of_isScheme hs (by decide)), cut_append hcolon]
        at hcut
      simpa [cut] using hcut
    refine ⟨hsame.symm, ?_⟩
    by_contra hopaquePart
    rw [hstring, ← hsame, if_pos hopaquePart, List.append_assoc] at hmore
    have hrest := (List.cons.inj (List.append_cancel_left hmore)).2
    obtain ⟨c, rest, hc⟩ := List.exists_cons_of_ne_nil hopaquePart
    rw [hc] at hrest hslash
    exact hslash (congrArg some (List.cons.inj hrest).1.symm)

theorem parse_string (h : parse validHost validPath raw = some u) (hs : isScheme s)
    {path query : List Char}
    (hpre : s ++ [':', '/', '/'] <+: Parts.string { u with path := path, query := query }) :
    u.scheme = s ∧ u.opaquePart = [] := by
  obtain ⟨hslash, hnone⟩ := parse_opaquePart h
  have hcolon := parse_scheme_notMem_colon h
  exact scheme_of_isPrefix (u := { u with path := path, query := query }) hs hcolon hslash hnone
    hpre

end Rendering

end Url
