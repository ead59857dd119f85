import Mathlib
import Tocsin.Webhook.Host

/-!
# What the logged host tells of a URL

The host that is logged is a part of the authority of a URL, in lower case.  So no character that
ends an authority is in it, and no at sign, behind whose last one it stands.  Lower case brings in
none of these either: small letters stand behind all of them.

A URL that is put together from a scheme, an authority and a tail has just this authority, as far as
it was not cleaned of tabs and line ends (`authority_append`).  The path, the query and the fragment
are in the tail, which is not looked at; and a user name and a password stand before an at sign, so
that they may spoil an authority, but never add to the host.  The main statement is
`loggedHost_discreet`.
-/

set_option autoImplicit false

/-! ## Cuts and lower case -/

namespace Tocsin.Text

/-- What stands on either side of a cut was in the text. -/
theorem mem_of_mem_cutFirst {c x : Char} {cs : List Char} :
    (x ∈ (cutFirst c cs).1 → x ∈ cs) ∧ ∀ back ∈ (cutFirst c cs).2, x ∈ back → x ∈ cs := by
  induction cs with
  | nil => simp [cutFirst]
  | cons d cs ih =>
      unfold cutFirst
      split_ifs with hd
      · refine ⟨fun h => absurd h List.not_mem_nil, ?_⟩
        rintro back ⟨⟩ hx
        exact List.mem_cons_of_mem d hx
      · refine ⟨fun h => ?_, fun back hback hx => List.mem_cons_of_mem d (ih.2 back hback hx)⟩
        rcases List.mem_cons.mp h with rfl | h
        · exact List.mem_cons_self
        · exact List.mem_cons_of_mem d (ih.1 h)

/-- A text is cut at the mark behind a front without one. -/
theorem cutFirst_append {c : Char} {front : List Char} (h : c ∉ front) (back : List Char) :
    cutFirst c (front ++ c :: back) = (front, some back) := by
  induction front with
  | nil => simp [cutFirst]
  | cons d front ih =>
      have hd : d ≠ c := fun heq => h (heq ▸ List.mem_cons_self)
      have hfront := ih fun hc => h (List.mem_cons_of_mem d hc)
      rw [List.cons_append, cutFirst, if_neg hd, hfront]

/-- What stands behind the last `c` is in the text, and is no `c`. -/
theorem mem_of_mem_afterLast {c x : Char} {cs : List Char} (h : x ∈ afterLast c cs) :
    x ∈ cs ∧ x ≠ c := by
  have htaken := List.mem_reverse.mp h
  have hpass := List.mem_takeWhile_imp htaken
  exact ⟨List.mem_reverse.mp (List.takeWhile_subset _ htaken), by simpa using hpass⟩

/-- Nothing before a `c` stands behind the last one. -/
theorem afterLast_append (c : Char) (front back : List Char) :
    afterLast c (front ++ c :: back) = afterLast c back := by
  have hreverse : (front ++ c :: back).reverse = back.reverse ++ c :: front.reverse := by simp
  unfold afterLast
  rw [hreverse, List.takeWhile_append]
  split_ifs with hall
  · -- With no further mark behind it, all that follows the first one is taken.
    have hself := (List.takeWhile_sublist (p := (· ≠ c)) (l := back.reverse)).eq_of_length hall
    rw [hself, List.takeWhile_cons_of_neg (by simp), List.append_nil]
  · rfl

/-- Small letters stand behind `0x60`. -/
theorem le_of_shift?_lowerShifts {n m : Nat} (h : shift? lowerShifts n = some m) : 0x61 ≤ m := by
  have htable : ∀ s ∈ lowerShifts, 0x61 ≤ (s.first : Int) + s.distance := by decide +kernel
  obtain ⟨s, hs, rfl⟩ := Option.map_eq_some_iff.mp h
  have hfirst := htable s (List.mem_of_find?_eq_some hs)
  have hcovers := List.find?_some hs
  simp only [Shift.covers, Bool.and_eq_true, decide_eq_true_eq] at hcovers
  omega

/-- A character before the small letters is in lower case only what it is. -/
theorem eq_of_mem_lowerChar {c d : Char} (h : c ∈ lowerChar d) (hpos : 0 < c.toNat)
    (hlow : c.toNat < 0x61) : c = d := by
  unfold lowerChar at h
  split_ifs at h with hdotted
  · rcases List.mem_cons.mp h with rfl | h
    · exact absurd hlow (by decide)
    · rw [List.mem_singleton.mp h] at hlow
      exact absurd hlow (by decide)
  · rw [List.mem_singleton] at h
    cases hshift : shift? lowerShifts d.toNat with
    | none =>
        rw [hshift] at h
        exact h
    | some m =>
        rw [hshift] at h
        have hm := le_of_shift?_lowerShifts hshift
        have hcode : c.toNat = if m.isValidChar then m else 0 := by
          rw [h]
          exact Char.toNat_ofNat m
        split_ifs at hcode <;> omega

/-- A character below the letters in lower case is in the text itself. -/
theorem mem_of_mem_lowerFrom {c : Char} {before cs : List Char} (h : c ∈ lowerFrom before cs)
    (hpos : 0 < c.toNat) (hlow : c.toNat < 0x61) : c ∈ cs := by
  induction cs generalizing before with
  | nil => cases h
  | cons d cs ih =>
      unfold lowerFrom at h
      rcases List.mem_append.mp h with h | h
      · split_ifs at h
        · rw [List.mem_singleton.mp h] at hlow
          exact absurd hlow (by decide)
        · rw [eq_of_mem_lowerChar h hpos hlow]
          exact List.mem_cons_self
      · exact List.mem_cons_of_mem d (ih h)

end Tocsin.Text

namespace Tocsin.Webhook

open Tocsin.Text

/-! ## Hosts -/

/-- The host in an authority is a part of what stands behind the last at sign. -/
theorem mem_afterLast_of_mem_hostOf {c : Char} {auth : List Char} (h : c ∈ hostOf auth) :
    c ∈ afterLast '@' auth := by
  unfold hostOf at h
  dsimp only at h
  cases hcut : cutFirst '[' (afterLast '@' auth) with
  | mk front back =>
      -- The host is cut out of one of the two sides of a bracket, or of all if there is none.
      have hsides := @mem_of_mem_cutFirst '[' c (afterLast '@' auth)
      rw [hcut] at h hsides
      cases back with
      | none => exact hsides.1 (List.takeWhile_subset _ h)
      | some bracketed => exact hsides.2 bracketed rfl (List.takeWhile_subset _ h)

/-- A host does not depend on the user in front of it. -/
theorem hostOf_append (user auth : List Char) : hostOf (user ++ '@' :: auth) = hostOf auth := by
  unfold hostOf
  rw [afterLast_append]

/-- A character below the letters in lower case is in the host itself. -/
theorem mem_of_mem_lowerHost {c : Char} {host : List Char} (h : c ∈ lowerHost host)
    (hpos : 0 < c.toNat) (hlow : c.toNat < 0x61) : c ∈ host := by
  rcases List.mem_append.mp h with h | h
  · exact List.takeWhile_subset _ (mem_of_mem_lowerFrom h hpos hlow)
  · exact List.dropWhile_subset _ h

/-- No character of an authority ends one. -/
theorem endsAuthority_of_mem_authority {c : Char} {cs : List Char} (h : c ∈ authority cs) :
    endsAuthority c = false := by
  unfold authority at h
  split at h
  · simpa using List.mem_takeWhile_imp h
  · cases h

/-- No mark of the grammar of URLs that stands before or behind a host is in the logged one. -/
theorem not_mem_loggedHost (url : String) {c : Char} (hc : c ∈ ['/', '?', '#', '@']) :
    c ∉ (loggedHost url).toList := by
  simp only [List.mem_cons, List.not_mem_nil, or_false] at hc
  have hcode : 0 < c.toNat ∧ c.toNat < 0x61 := by
    rcases hc with rfl | rfl | rfl | rfl <;> decide
  intro hmem
  unfold loggedHost at hmem
  dsimp only at hmem
  split_ifs at hmem
  · rw [String.toList_ofList] at hmem
    have hhost := mem_of_mem_lowerHost hmem hcode.1 hcode.2
    obtain ⟨hauth, hat⟩ := mem_of_mem_afterLast (mem_afterLast_of_mem_hostOf hhost)
    have hends := endsAuthority_of_mem_authority hauth
    rcases hc with rfl | rfl | rfl | rfl
    · exact absurd hends (by decide)
    · exact absurd hends (by decide)
    · exact absurd hends (by decide)
    · exact hat rfl
  · exact List.not_mem_nil hmem

/-! ## Authorities -/

/-- A scheme: a letter, and behind it letters, digits and the three marks of schemes. -/
def IsScheme (cs : List Char) : Prop :=
  ∃ c rest, cs = c :: rest ∧ isAsciiLetter c = true ∧ rest.all isSchemeChar = true

/-- A text without characters that end an authority. -/
def IsAuthority (cs : List Char) : Prop := ∀ c ∈ cs, endsAuthority c = false

/-- What may stand behind an authority: nothing, or a text that starts with a character that ends
it. -/
def IsTail (cs : List Char) : Prop := ∀ c ∈ cs.head?, endsAuthority c = true

/-- Whether a character stays where a URL is cleaned. -/
def isKept (c : Char) : Bool := c ≠ '\t' ∧ c ≠ '\n' ∧ c ≠ '\r'

/-- A class of characters stays if it has none that are cleaned away. -/
theorem isKept_of_class {p : Char → Bool} {c : Char} (h : p c = true) (htab : p '\t' = false)
    (hfeed : p '\n' = false) (hreturn : p '\r' = false) : isKept c = true := by
  have hne {d : Char} (hd : p d = false) : c ≠ d := by
    rintro rfl
    rw [hd] at h
    cases h
  unfold isKept
  rw [decide_eq_true_eq]
  exact ⟨hne htab, hne hfeed, hne hreturn⟩

/-- The characters of a scheme stay, are no colons and no blanks. -/
theorem isKept_of_isSchemeChar {c : Char} (h : isSchemeChar c = true) :
    isKept c = true ∧ c ≠ ':' ∧ ¬ c.toNat ≤ 0x20 := by
  refine ⟨isKept_of_class h rfl rfl rfl, ?_, ?_⟩
  · rintro rfl
    exact absurd h (by decide)
  · intro hblank
    have hcode : ∀ n ≤ 0x20, isSchemeChar (Char.ofNat n) = false := by decide
    rw [← Char.ofNat_toNat c, hcode _ hblank] at h
    cases h

/-- The characters of a scheme. -/
theorem IsScheme.isSchemeChar {scheme : List Char} (h : IsScheme scheme) :
    ∀ c ∈ scheme, isSchemeChar c = true := by
  obtain ⟨c, rest, rfl, hletter, hrest⟩ := h
  intro d hd
  rcases List.mem_cons.mp hd with rfl | hd
  · simp [Webhook.isSchemeChar, hletter]
  · exact List.all_eq_true.mp hrest d hd

/-- Of a URL with a scheme, only what stands behind the scheme is cleaned. -/
theorem cleaned_append {scheme : List Char} (h : IsScheme scheme) (rest : List Char) :
    cleaned (scheme ++ ':' :: rest) = scheme ++ ':' :: rest.filter isKept := by
  have hchars := h.isSchemeChar
  have hkept : scheme.filter isKept = scheme :=
    List.filter_eq_self.mpr fun c hc => (isKept_of_isSchemeChar (hchars c hc)).1
  -- A scheme is not empty, and its first letter keeps the blanks in front from being looked for.
  have hfront : (scheme ++ ':' :: rest).dropWhile (fun c => c.toNat ≤ 0x20) =
      scheme ++ ':' :: rest := by
    obtain ⟨c, letters, rfl, -, -⟩ := h
    have hblank := (isKept_of_isSchemeChar (hchars c List.mem_cons_self)).2.2
    rw [List.cons_append, List.dropWhile_cons_of_neg (by simpa using hblank)]
  unfold cleaned
  rw [hfront]
  show List.filter isKept _ = _
  rw [List.filter_append, hkept, List.filter_cons_of_pos rfl]

/-- A scheme is cut off with its colon. -/
theorem afterScheme_append {scheme : List Char} (h : IsScheme scheme) (rest : List Char) :
    afterScheme (scheme ++ ':' :: rest) = rest := by
  have hcolon : ':' ∉ scheme := fun hmem =>
    (isKept_of_isSchemeChar (h.isSchemeChar _ hmem)).2.1 rfl
  obtain ⟨c, letters, rfl, hletter, hletters⟩ := h
  have hvalid : (isAsciiLetter c && letters.all Webhook.isSchemeChar) = true := by
    rw [hletter, hletters]
    rfl
  unfold afterScheme
  rw [cutFirst_append hcolon]
  simp only [hvalid, if_true]

/-- An authority is read up to the tail that follows it. -/
theorem takeWhile_authority {auth tail : List Char} (hauth : IsAuthority auth)
    (htail : IsTail tail) :
    ((auth ++ tail).filter isKept).takeWhile (!endsAuthority ·) = auth.filter isKept := by
  have hwhole : ∀ c ∈ auth.filter isKept, (!endsAuthority c) = true := by
    intro c hc
    rw [hauth c (List.mem_of_mem_filter hc)]
    rfl
  have hstop : (tail.filter isKept).takeWhile (!endsAuthority ·) = [] := by
    cases tail with
    | nil => rfl
    | cons c tail =>
        have hends : endsAuthority c = true := htail c rfl
        rw [List.filter_cons_of_pos (isKept_of_class hends rfl rfl rfl),
          List.takeWhile_cons_of_neg (by simpa using hends)]
  rw [List.filter_append, List.takeWhile_append_of_pos hwhole, hstop, List.append_nil]

/-- The authority of a URL that is put together from a scheme, an authority and a tail. -/
theorem authority_append {scheme auth tail : String} (hscheme : IsScheme scheme.toList)
    (hauth : IsAuthority auth.toList) (htail : IsTail tail.toList) :
    authority (scheme ++ "://" ++ auth ++ tail).toList = auth.toList.filter isKept := by
  have hparts : (scheme ++ "://" ++ auth ++ tail).toList =
      scheme.toList ++ ':' :: '/' :: '/' :: (auth.toList ++ tail.toList) := by simp
  unfold authority
  rw [hparts, cleaned_append hscheme, afterScheme_append hscheme, List.filter_cons_of_pos rfl,
    List.filter_cons_of_pos rfl]
  exact takeWhile_authority hauth htail

/-- A user name and a password may stand before an authority, and are cleaned like it. -/
theorem isAuthority_append {user auth : String} (huser : IsAuthority user.toList)
    (hauth : IsAuthority auth.toList) :
    IsAuthority (user ++ "@" ++ auth).toList ∧
      (user ++ "@" ++ auth).toList.filter isKept =
        user.toList.filter isKept ++ '@' :: auth.toList.filter isKept := by
  have hparts : (user ++ "@" ++ auth).toList = user.toList ++ '@' :: auth.toList := by simp
  rw [hparts]
  refine ⟨fun c hc => ?_, by rw [List.filter_append, List.filter_cons_of_pos rfl]⟩
  rcases List.mem_append.mp hc with hc | hc
  · exact huser c hc
  · rcases List.mem_cons.mp hc with rfl | hc
    · rfl
    · exact hauth c hc

/-- URLs with the same authority have the same host. -/
theorem loggedHost_congr {url url' : String} (h : authority url.toList = authority url'.toList) :
    loggedHost url = loggedHost url' := by
  unfold loggedHost
  rw [h]

/-- Text before an at sign spoils a sound authority, or does not matter to the host. -/
theorem loggedHost_of_user {url url' : String} {user auth : List Char}
    (hauth : authority url.toList = auth) (hsound : isSound auth = true)
    (huser : authority url'.toList = user ++ '@' :: auth) :
    loggedHost url' = loggedHost url ∨ loggedHost url' = "" := by
  unfold loggedHost
  rw [hauth, huser]
  dsimp only
  rw [if_pos hsound, hostOf_append]
  split_ifs
  · exact Or.inl rfl
  · exact Or.inr rfl

/-- The logged host keeps the secret parts of a URL to itself.  It has none of the marks that
divide a URL, and a malformed URL has no host.  Of a URL that is put together from a scheme, an
authority and a tail, the tail does not matter; and a user name and a password before a well-formed
authority leave its host as it is, or leave none. -/
theorem loggedHost_discreet :
    (∀ url : String, (∀ c ∈ ['/', '?', '#', '@'], c ∉ (loggedHost url).toList) ∧
        (isSound (authority url.toList) = false → loggedHost url = "")) ∧
      ∀ scheme auth : String, IsScheme scheme.toList → IsAuthority auth.toList →
        (∀ tail tail' : String, IsTail tail.toList → IsTail tail'.toList →
          loggedHost (scheme ++ "://" ++ auth ++ tail) =
            loggedHost (scheme ++ "://" ++ auth ++ tail')) ∧
        (isSound (authority (scheme ++ "://" ++ auth).toList) = true →
          ∀ user tail : String, IsAuthority user.toList → IsTail tail.toList →
            loggedHost (scheme ++ "://" ++ user ++ "@" ++ auth ++ tail) =
                loggedHost (scheme ++ "://" ++ auth) ∨
              loggedHost (scheme ++ "://" ++ user ++ "@" ++ auth ++ tail) = "") := by
  refine ⟨fun url => ⟨fun c hc => not_mem_loggedHost url hc, fun hbad => ?_⟩, ?_⟩
  · unfold loggedHost
    dsimp only
    rw [hbad]
    rfl
  intro scheme auth hscheme hauth
  refine ⟨fun tail tail' htail htail' => ?_, fun hsound user tail huser htail => ?_⟩
  · have hauthority := authority_append hscheme hauth htail
    exact loggedHost_congr (hauthority.trans (authority_append hscheme hauth htail').symm)
  · have hbare : authority (scheme ++ "://" ++ auth).toList = auth.toList.filter isKept := by
      have hempty := @authority_append scheme auth "" hscheme hauth fun _ hc => by cases hc
      rwa [String.append_empty] at hempty
    obtain ⟨hwith, hcleaned⟩ := isAuthority_append huser hauth
    have hlong := authority_append hscheme hwith htail
    rw [hcleaned] at hlong
    rw [hbare] at hsound
    have hparts : scheme ++ "://" ++ (user ++ "@" ++ auth) ++ tail =
        scheme ++ "://" ++ user ++ "@" ++ auth ++ tail := by simp only [String.append_assoc]
    rw [← hparts]
    exact loggedHost_of_user hbare hsound hlong

/-- An address with a scope and a port, behind a user name with an at sign and a bracket of its own:
the address is told without the name, and whatever stands in the path or the fragment.  Where that
bracket stands alone, there is no host. -/
theorem bracketedHost_discreet :
    loggedHost ("https" ++ "://" ++ "[2001:DB8::1%Eth0]:8443") = "2001:db8::1%Eth0" ∧
      '@' ∉ (loggedHost ("https" ++ "://" ++ "[2001:DB8::1%Eth0]:8443")).toList ∧
      loggedHost "https://me@corp:pa[ss/send?key=secret" = "" ∧
      loggedHost ("https" ++ "://" ++ "[2001:DB8::1%Eth0]:8443" ++ "/send?key=secret") =
        loggedHost ("https" ++ "://" ++ "[2001:DB8::1%Eth0]:8443" ++ "#@secret/[") ∧
      (loggedHost ("https" ++ "://" ++ "me@corp:pa[ss" ++ "@" ++ "[2001:DB8::1%Eth0]:8443" ++
            "/send?key=secret") =
          loggedHost ("https" ++ "://" ++ "[2001:DB8::1%Eth0]:8443") ∨
        loggedHost ("https" ++ "://" ++ "me@corp:pa[ss" ++ "@" ++ "[2001:DB8::1%Eth0]:8443" ++
            "/send?key=secret") = "") := by
  have hscheme : IsScheme "https".toList :=
    ⟨'h', ['t', 't', 'p', 's'], by simp, by decide, by decide⟩
  have hauth : IsAuthority "[2001:DB8::1%Eth0]:8443".toList := by simp [IsAuthority, endsAuthority]
  have huser : IsAuthority "me@corp:pa[ss".toList := by simp [IsAuthority, endsAuthority]
  have hpath : IsTail "/send?key=secret".toList := by simp [IsTail, endsAuthority]
  have hfragment : IsTail "#@secret/[".toList := by simp [IsTail, endsAuthority]
  obtain ⟨hmarks, hparts⟩ := loggedHost_discreet
  obtain ⟨htails, husers⟩ := hparts "https" "[2001:DB8::1%Eth0]:8443" hscheme hauth
  exact ⟨by decide +kernel, (hmarks _).1 '@' (by decide), (hmarks _).2 (by decide +kernel),
    htails _ _ hpath hfragment, husers (by decide +kernel) "me@corp:pa[ss" _ huser hpath⟩

end Tocsin.Webhook
