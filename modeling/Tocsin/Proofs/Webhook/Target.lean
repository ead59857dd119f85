import Mathlib
import Tocsin.Proofs.Outcome
import Tocsin.Webhook.Exchange

/-!
# URLs that requests are made for

A request is made for an absolute URL, or for a path and a query alone (`Url.IsTarget`).  The two
differ where cookies are looked up: this takes a scheme, and of URLs for requests exactly the
absolute ones have one (`checkTyped_eq_ok_iff`).  So whether a client with cookies accepts the text
of a URL is a matter of whether one without cookies does, and of whether the URL is absolute
(`requestUrl_eq_ok_iff`).
-/

set_option autoImplicit false

namespace Tocsin.Text

/-- No letter is written in lower case as a character that stands before all letters, unless it is
that character. -/
theorem toLower_eq_iff {c d : Char} (h : d.toNat < 0x41) : c.toLower = d ↔ c = d := by
  unfold Char.toLower
  split
  · next hc =>
      obtain ⟨hlow, hhigh⟩ := hc
      have hlow' : 0x41 ≤ c.toNat := UInt32.le_iff_toNat_le.mp hlow
      have hhigh' : c.toNat ≤ 0x5a := UInt32.le_iff_toNat_le.mp hhigh
      constructor
      · rintro rfl
        have hval : (c.val + ('a'.val - 'A'.val)).toNat = c.toNat + 0x20 := by
          rw [UInt32.toNat_add]
          show (c.toNat + 0x20) % 2 ^ 32 = _
          omega
        have hsum : (c.val + ('a'.val - 'A'.val)).toNat < 0x41 := h
        omega
      · rintro rfl
        omega
  · rfl

/-- Where a text is cut at its last `c`, a front without `c` stays whole. -/
theorem getD_beforeLast?_append {c : Char} {front : List Char} (h : c ∉ front) (back : List Char) :
    (beforeLast? c (front ++ back)).getD (front ++ back) =
      front ++ (beforeLast? c back).getD back := by
  have hfront : front.reverse.dropWhile (· ≠ c) = [] := by
    rw [← List.append_nil front.reverse, List.dropWhile_append_of_pos, List.dropWhile_nil]
    intro d hd
    have hne : d ≠ c := by
      rintro rfl
      exact h (List.mem_reverse.mp hd)
    exact decide_eq_true hne
  unfold beforeLast?
  rw [List.reverse_append, List.dropWhile_append]
  cases hback : back.reverse.dropWhile (· ≠ c) with
  | nil =>
      rw [hfront]
      rfl
  | cons d rest => simp

end Tocsin.Text

namespace Tocsin.Webhook

open Tocsin.Outcome Tocsin.Text

/-! ## Schemes -/

/-- A character that is none of the marks between the parts of a URL that are in question where
cookies are looked up. -/
def IsUnmarked (c : Char) : Prop := c ≠ '/' ∧ c ≠ ':' ∧ c ≠ '#'

/-- A scheme that is cut off has no mark in it. -/
theorem Url.isUnmarked_of_mem_cutScheme {cs : List Char} {c : Char} (h : c ∈ (cutScheme cs).1) :
    IsUnmarked c := by
  unfold cutScheme at h
  split at h
  · cases h
  · next first scheme rest _ =>
      split at h
      · next hvalid =>
          obtain ⟨hfirst, hscheme⟩ := Bool.and_eq_true_iff.mp hvalid
          have hc : (isAsciiLetter c || isAsciiDigit c || ['+', '.', '-'].contains c) = true := by
            rcases List.mem_cons.mp h with rfl | h
            · simp [hfirst]
            · exact List.all_eq_true.mp hscheme c h
          refine ⟨?_, ?_, ?_⟩ <;> rintro rfl <;> revert hc <;> decide
      · cases h
  · cases h

/-- The scheme of a URL that was read is what was cut off, in lower case. -/
theorem Url.scheme_of_parseChars {cs : List Char} {u : Url} (h : parseChars cs = .ok u) :
    u.scheme = lowerAscii (cutScheme cs).1 := by
  unfold parseChars at h
  by_cases hlength : maxLength < cs.length
  · rw [if_pos hlength] at h
    cases h
  · rw [if_neg hlength] at h
    dsimp only at h
    split at h
    · cases h
    · obtain ⟨host, -, h⟩ := bind_eq_ok.mp h
      obtain ⟨portNumber, -, h⟩ := bind_eq_ok.mp h
      obtain ⟨_, -, h⟩ := bind_eq_ok.mp h
      cases h
      rfl

/-- The scheme of a URL that was read has no mark in it. -/
theorem Url.isUnmarked_of_mem_scheme {cs : List Char} {u : Url} (h : parseChars cs = .ok u)
    {c : Char} (hc : c ∈ u.scheme) : IsUnmarked c := by
  rw [scheme_of_parseChars h] at hc
  obtain ⟨d, hd, rfl⟩ := List.mem_map.mp hc
  obtain ⟨hslash, hcolon, hsign⟩ := isUnmarked_of_mem_cutScheme hd
  refine ⟨?_, ?_, ?_⟩
  · rwa [Ne, toLower_eq_iff (by decide)]
  · rwa [Ne, toLower_eq_iff (by decide)]
  · rwa [Ne, toLower_eq_iff (by decide)]

/-- Cookies can be looked up for a text that starts with a scheme. -/
theorem checkTyped_scheme {scheme : List Char} (hne : scheme ≠ [])
    (h : ∀ c ∈ scheme, IsUnmarked c) (rest : List Char) :
    checkTyped (scheme ++ ':' :: rest) = .ok () := by
  obtain ⟨c, scheme, rfl⟩ := List.exists_cons_of_ne_nil hne
  have hfront : '#' ∉ (c :: scheme) ++ [':'] := by
    intro hmem
    rcases List.mem_append.mp hmem with hmem | hmem
    · exact (h _ hmem).2.2 rfl
    · cases List.mem_singleton.mp hmem
  have hpass : ∀ d ∈ c :: scheme, decide (d ≠ '/' ∧ d ≠ ':') = true := by
    intro d hd
    exact decide_eq_true ⟨(h d hd).1, (h d hd).2.1⟩
  have hsplit : (c :: scheme) ++ ':' :: rest = ((c :: scheme) ++ [':']) ++ rest := by simp
  unfold checkTyped
  rw [hsplit, getD_beforeLast?_append hfront]
  simp only [List.append_assoc, List.singleton_append]
  rw [List.takeWhile_append_of_pos hpass, List.dropWhile_append_of_pos hpass]
  rfl

/-- Cookies cannot be looked up for a text that starts with a slash. -/
theorem checkTyped_slash (rest : List Char) :
    ∃ target, checkTyped ('/' :: rest) = .error (.untyped target) := by
  have hfront := @getD_beforeLast?_append '#' ['/'] (by decide) rest
  simp only [List.singleton_append] at hfront
  unfold checkTyped
  rw [hfront]
  exact ⟨_, rfl⟩

/-! ## Targets -/

/-- A URL that a request can be made for: an absolute one, whose scheme is one, or a path behind a
slash with a query behind it. -/
def Url.IsTarget (u : Url) : Prop :=
  (u.isAbsolute = true ∧ ∀ c ∈ u.scheme, IsUnmarked c) ∨
    u.isAbsolute = false ∧ ∃ rest, u.chars = '/' :: rest

/-- Of the URLs that requests are made for, cookies can be looked up for the absolute ones. -/
theorem checkTyped_eq_ok_iff {u : Url} (h : u.IsTarget) :
    checkTyped u.chars = .ok () ↔ u.isAbsolute = true := by
  rcases h with ⟨habsolute, hscheme⟩ | ⟨hrelative, rest, hchars⟩
  · have hne : u.scheme ≠ [] := by
      intro hnil
      simp [Url.isAbsolute, hnil] at habsolute
    have hempty : u.scheme.isEmpty = false := by simpa using hne
    have hchars : ∃ rest, u.chars = u.scheme ++ ':' :: rest := by
      unfold Url.chars
      simp [hempty]
    obtain ⟨rest, hchars⟩ := hchars
    rw [hchars, checkTyped_scheme hne hscheme]
    exact ⟨fun _ => habsolute, fun _ => rfl⟩
  · obtain ⟨target, herror⟩ := checkTyped_slash rest
    rw [hchars, herror, hrelative]
    simp

/-- What a URL that was read stands for in a request is a URL that a request can be made for. -/
theorem Url.isTarget_of_target {cs : List Char} {v u : Url} (hv : parseChars cs = .ok v)
    (h : v.target = .ok u) : u.IsTarget := by
  unfold target at h
  split at h
  · next habsolute =>
      cases h
      exact Or.inl ⟨habsolute, fun c hc => isUnmarked_of_mem_scheme hv hc⟩
  · obtain ⟨_, -, h⟩ := bind_eq_ok.mp h
    cases h
    exact Or.inr ⟨rfl, _, rfl⟩

/-- A request is made for what the text of a URL stands for. -/
theorem target_of_requestUrl {jar : Jar} {webhook : String} {u : Url}
    (h : requestUrl jar webhook = .ok u) : (Url.parse webhook >>= Url.target) = .ok u := by
  unfold requestUrl at h
  obtain ⟨v, hv, h⟩ := bind_eq_ok.mp h
  rw [mapError_eq_ok.mp hv]
  cases jar with
  | nil =>
      obtain ⟨_, -, h⟩ := bind_eq_ok.mp h
      split at h
      · cases h
      · cases h
        rfl
  | cons cookie jar =>
      obtain ⟨_, -, h⟩ := bind_eq_ok.mp h
      obtain ⟨_, -, h⟩ := bind_eq_ok.mp h
      split at h
      · cases h
      · cases h
        rfl

/-- A URL that a request is made for is one that a request can be made for. -/
theorem isTarget_of_requestUrl {jar : Jar} {webhook : String} {u : Url}
    (h : requestUrl jar webhook = .ok u) : u.IsTarget := by
  obtain ⟨v, hv, hu⟩ := bind_eq_ok.mp (target_of_requestUrl h)
  exact Url.isTarget_of_target hv hu

/-- Where cookies can be looked up, a client with cookies does as one without. -/
theorem requestUrl_eq_of_typed {webhook : String} {u : Url}
    (h : (Url.parse webhook >>= Url.target) = .ok u) (htyped : checkTyped u.chars = .ok ())
    (jar : Jar) : requestUrl jar webhook = requestUrl [] webhook := by
  unfold requestUrl
  rw [h]
  cases jar with
  | nil => rfl
  | cons cookie jar =>
      show (checkTyped u.chars >>= fun _ => _) = _
      rw [htyped]
      rfl

/-- A client with cookies makes no request where they cannot be looked up. -/
theorem requestUrl_cons_of_untyped {webhook : String} {u : Url}
    (h : (Url.parse webhook >>= Url.target) = .ok u) {fault : Fault}
    (huntyped : checkTyped u.chars = .error fault) (cookie : Cookie) (jar : Jar) :
    requestUrl (cookie :: jar) webhook = .error fault := by
  unfold requestUrl
  rw [h]
  show (checkTyped u.chars >>= fun _ => _) = _
  rw [huntyped]
  rfl

/-- A client with cookies makes a request for the text of a URL if one without cookies does, and for
the same URL, but only if the URL is absolute. -/
theorem requestUrl_eq_ok_iff {jar : Jar} {webhook : String} {u : Url} :
    requestUrl jar webhook = .ok u ↔
      requestUrl [] webhook = .ok u ∧ (jar = [] ∨ u.isAbsolute = true) := by
  constructor
  · intro h
    have htarget := target_of_requestUrl h
    cases jar with
    | nil => exact ⟨h, Or.inl rfl⟩
    | cons cookie jar =>
        cases htyped : checkTyped u.chars with
        | error fault =>
            rw [requestUrl_cons_of_untyped htarget htyped] at h
            cases h
        | ok _ =>
            rw [requestUrl_eq_of_typed htarget htyped] at h
            exact ⟨h, Or.inr ((checkTyped_eq_ok_iff (isTarget_of_requestUrl h)).mp htyped)⟩
  · rintro ⟨h, rfl | habsolute⟩
    · exact h
    · have htyped := (checkTyped_eq_ok_iff (isTarget_of_requestUrl h)).mpr habsolute
      rw [requestUrl_eq_of_typed (target_of_requestUrl h) htyped]
      exact h

end Tocsin.Webhook
