import Mathlib
import Tocsin.Proofs.Outcome
import Tocsin.Proofs.Text.Digits
import Tocsin.Proofs.Webhook.Host
import Tocsin.Proofs.Webhook.Target
import Tocsin.Webhook.Url

/-!
# Addresses of webhooks

A webhook has an address of the usual form: a scheme, a host, perhaps with a user before it and a
port behind it, and a tail with a path, a query and a fragment (`Address`).  The marks that divide
such an address stand in none of its parts where they would be taken for a division.  So its host is
found for the log, whatever stands around it: the logged host is the host of the address in lower
case (`Address.loggedHost_text`).
-/

set_option autoImplicit false

/-! ## Cuts and lower case -/

namespace Tocsin.Text

/-- A text without the mark stays whole where it is cut at the last one. -/
theorem afterLast_eq_self {c : Char} {cs : List Char} (h : c ∉ cs) : afterLast c cs = cs := by
  have hall : cs.reverse.takeWhile (· ≠ c) = cs.reverse := by
    rw [List.takeWhile_eq_self_iff]
    intro d hd
    have hne : d ≠ c := fun heq => h (heq ▸ List.mem_reverse.mp hd)
    exact decide_eq_true hne
  rw [afterLast, hall, List.reverse_reverse]

/-- A text without the mark stays whole where it is cut at the first one. -/
theorem cutFirst_eq_none {c : Char} {cs : List Char} (h : c ∉ cs) : cutFirst c cs = (cs, none) := by
  induction cs with
  | nil => rfl
  | cons d cs ih =>
      have hd : d ≠ c := fun heq => h (heq ▸ List.mem_cons_self)
      have hrest := ih fun hc => h (List.mem_cons_of_mem d hc)
      rw [cutFirst, if_neg hd, hrest]

/-- A character stands in one of the pieces of a text, or it is where the text was cut. -/
theorem mem_splitAt {c d : Char} {cs : List Char} (h : d ∈ cs) :
    d = c ∨ ∃ piece ∈ splitAt c cs, d ∈ piece := by
  induction cs with
  | nil => cases h
  | cons e cs ih =>
      unfold splitAt
      split_ifs with hcut
      · rcases List.mem_cons.mp h with rfl | h
        · exact .inl hcut
        · refine (ih h).imp_right ?_
          rintro ⟨piece, hpiece, hd⟩
          exact ⟨piece, List.mem_cons_of_mem _ hpiece, hd⟩
      · -- The first character joins the first piece of the rest.
        cases hpieces : splitAt c cs with
        | nil =>
            rcases List.mem_cons.mp h with rfl | h
            · exact .inr ⟨[d], List.mem_singleton_self _, List.mem_singleton_self d⟩
            · rcases ih h with heq | ⟨piece, hpiece, -⟩
              · exact .inl heq
              · rw [hpieces] at hpiece
                cases hpiece
        | cons first others =>
            rcases List.mem_cons.mp h with rfl | h
            · exact .inr ⟨_, List.mem_cons_self, List.mem_cons_self⟩
            · refine (ih h).imp_right ?_
              rintro ⟨piece, hpiece, hd⟩
              rw [hpieces] at hpiece
              rcases List.mem_cons.mp hpiece with rfl | hpiece
              · exact ⟨_, List.mem_cons_self, List.mem_cons_of_mem e hd⟩
              · exact ⟨piece, List.mem_cons_of_mem _ hpiece, hd⟩

/-- What holds of the 128 codes of ASCII holds of all its characters. -/
theorem of_ascii {P : Char → Prop} (h : ∀ n < 0x80, P (Char.ofNat n)) {c : Char}
    (hc : c.toNat < 0x80) : P c := by
  rw [← Char.ofNat_toNat c]
  exact h _ hc

/-- What is in lower case stays. -/
theorem lowerAscii_lowerAscii (cs : List Char) : lowerAscii (lowerAscii cs) = lowerAscii cs := by
  simp [lowerAscii]

/-- An ASCII character has one character in lower case. -/
theorem lowerChar_ascii {c : Char} (h : c.toNat < 0x80) : lowerChar c = [c.toLower] :=
  of_ascii (P := fun c => lowerChar c = [c.toLower]) (by decide +kernel) h

/-- A text in ASCII is written in lower case letter by letter. -/
theorem lowerChars_ascii {cs : List Char} (h : ∀ c ∈ cs, c.toNat < 0x80) :
    lowerChars cs = lowerAscii cs := by
  have hfrom : ∀ before, lowerFrom before cs = lowerAscii cs := by
    induction cs with
    | nil => intro _; rfl
    | cons c cs ih =>
        intro before
        have hc : c.toNat < 0x80 := h c List.mem_cons_self
        have hsigma : ¬ (c.toNat = 0x3a3 ∧ startsCased before ∧ !startsCased cs) := by omega
        rw [lowerFrom, if_neg hsigma, lowerChar_ascii hc,
          ih fun d hd => h d (List.mem_cons_of_mem c hd)]
        rfl
  exact hfrom []

end Tocsin.Text

namespace Tocsin.Webhook

open Tocsin.Decimal Tocsin.Outcome Tocsin.Text

/-! ## Addresses -/

/-- Whether a character is a letter, a digit or a mark of ASCII, or its space. -/
def isPrintableAscii (c : Char) : Bool := 0x20 ≤ c.toNat && c.toNat < 0x7f

/-- Whether a character can stand in the name of a host, or in an address of version 4. -/
def isHostChar (c : Char) : Bool :=
  isAsciiLetter c || isAsciiDigit c || c == '.' || c == '-'

/-- The characters that no user name contains, as they have a meaning in an authority or end it. -/
def userMarks : List Char := ['/', '?', '#', '@', '[', ']']

/-- An address of the usual form. -/
structure Address where
  scheme : List Char
  user : Option (List Char)
  host : List Char
  portNumber : Option (List Char)
  tail : List Char
  scheme_http : lowerAscii scheme = "http".toList ∨ lowerAscii scheme = "https".toList
  user_plain : ∀ u ∈ user, ∀ c ∈ u, isPrintableAscii c = true ∧ c ∉ userMarks
  host_ne_nil : host ≠ []
  host_plain : ∀ c ∈ host, isHostChar c = true
  port_digits : ∀ digits ∈ portNumber, digits ≠ [] ∧ ∀ c ∈ digits, isAsciiDigit c = true
  tail_starts : IsTail tail
  tail_plain : ∀ c ∈ tail, isPrintableAscii c = true

namespace Address

/-- The host and the port of an address. -/
def hostPort (a : Address) : List Char := a.host ++ (a.portNumber.map (':' :: ·)).getD []

/-- The authority of an address: the user, the host and the port. -/
def authority (a : Address) : List Char := (a.user.map (· ++ ['@'])).getD [] ++ a.hostPort

/-- The characters of an address. -/
def chars (a : Address) : List Char := a.scheme ++ ':' :: '/' :: '/' :: (a.authority ++ a.tail)

/-- The text of an address. -/
def text (a : Address) : String := String.ofList a.chars

end Address

/-! ## Characters of addresses -/

/-- Characters are ordered by their code points. -/
theorem toNat_le_of_le {c d : Char} (h : c ≤ d) : c.toNat ≤ d.toNat := UInt32.le_iff_toNat_le.mp h

/-- Printable ASCII characters are in ASCII. -/
theorem isAscii_of_isPrintableAscii {c : Char} (h : isPrintableAscii c = true) : c.toNat < 0x80 := by
  simp only [isPrintableAscii, Bool.and_eq_true, decide_eq_true_eq] at h
  omega

/-- ASCII letters are in ASCII. -/
theorem isAscii_of_isAsciiLetter {c : Char} (h : isAsciiLetter c = true) : c.toNat < 0x80 := by
  simp only [isAsciiLetter, Bool.or_eq_true, Bool.and_eq_true, decide_eq_true_eq] at h
  rcases h with ⟨-, h⟩ | ⟨-, h⟩
  · exact lt_of_le_of_lt (toNat_le_of_le h) (by decide)
  · exact lt_of_le_of_lt (toNat_le_of_le h) (by decide)

/-- ASCII digits are in ASCII. -/
theorem isAscii_of_isAsciiDigit {c : Char} (h : isAsciiDigit c = true) : c.toNat < 0x80 := by
  simp only [isAsciiDigit, Bool.and_eq_true, decide_eq_true_eq] at h
  exact lt_of_le_of_lt (toNat_le_of_le h.2) (by decide)

/-- The characters of a host are in ASCII. -/
theorem isAscii_of_isHostChar {c : Char} (h : isHostChar c = true) : c.toNat < 0x80 := by
  simp only [isHostChar, Bool.or_eq_true, beq_iff_eq] at h
  rcases h with ((h | h) | rfl) | rfl
  · exact isAscii_of_isAsciiLetter h
  · exact isAscii_of_isAsciiDigit h
  · decide
  · decide

/-- A character of a host can be printed and is no mark of an authority.  In lower case it is one
again, and stands in hosts of requests as it is. -/
theorem isHostChar_spec {c : Char} (h : isHostChar c = true) :
    isPrintableAscii c = true ∧ c ∉ ':' :: '%' :: userMarks ∧ isHostChar c.toLower = true ∧
      Url.inHost c.toLower = true :=
  of_ascii (P := fun c => isHostChar c = true → isPrintableAscii c = true ∧
    c ∉ ':' :: '%' :: userMarks ∧ isHostChar c.toLower = true ∧ Url.inHost c.toLower = true)
    (by decide) (isAscii_of_isHostChar h) h

/-- A digit can be printed and is no mark of an authority. -/
theorem isAsciiDigit_spec {c : Char} (h : isAsciiDigit c = true) :
    isPrintableAscii c = true ∧ c ∉ '-' :: ':' :: userMarks ∧ c.toLower = c :=
  of_ascii (P := fun c => isAsciiDigit c = true → isPrintableAscii c = true ∧
    c ∉ '-' :: ':' :: userMarks ∧ c.toLower = c) (by decide) (isAscii_of_isAsciiDigit h) h

/-- Only letters are small letters in lower case. -/
theorem isAsciiLetter_of_toLower {c : Char} (h : isAsciiLetter c.toLower = true) :
    isAsciiLetter c = true := by
  unfold Char.toLower at h
  split at h
  · next hupper =>
      simp only [isAsciiLetter, Bool.or_eq_true, Bool.and_eq_true, decide_eq_true_eq]
      exact .inr hupper
  · exact h

/-- A character that can be printed stays where a URL is cleaned. -/
theorem isKept_of_isPrintableAscii {c : Char} (h : isPrintableAscii c = true) : isKept c = true :=
  isKept_of_class h rfl rfl rfl

/-- No character of ASCII looks like a mark that it is not. -/
theorem not_isLookalike_of_ascii {c : Char} (h : c.toNat < 0x80) : isLookalike c = false := by
  have hfirst : ∀ r ∈ lookalikeRanges, 0x80 ≤ r.1 := by decide
  rw [isLookalike, ← Bool.not_eq_true, inRanges_iff]
  rintro ⟨r, hr, hlow, -⟩
  exact absurd h (not_lt.mpr ((hfirst r hr).trans hlow))

namespace Address

variable (a : Address)

/-- The scheme of an address is made of letters. -/
theorem isAsciiLetter_of_mem_scheme {c : Char} (hc : c ∈ a.scheme) : isAsciiLetter c = true := by
  apply isAsciiLetter_of_toLower
  have hlower : c.toLower ∈ lowerAscii a.scheme := List.mem_map_of_mem hc
  have hhttp : ∀ d ∈ "http".toList ++ "https".toList, isAsciiLetter d = true := by
    simp [isAsciiLetter]
  apply hhttp
  rw [List.mem_append]
  rcases a.scheme_http with h | h
  · exact .inl (h ▸ hlower)
  · exact .inr (h ▸ hlower)

/-- No address is without a scheme. -/
theorem scheme_ne_nil : a.scheme ≠ [] := by
  intro hnil
  have hhttp := a.scheme_http
  rw [hnil] at hhttp
  exact absurd hhttp (by decide)

/-- The scheme of an address is one. -/
theorem isScheme : IsScheme a.scheme := by
  have hletters := fun c => a.isAsciiLetter_of_mem_scheme (c := c)
  cases hscheme : a.scheme with
  | nil => exact (a.scheme_ne_nil hscheme).elim
  | cons c rest =>
      rw [hscheme] at hletters
      refine ⟨c, rest, rfl, hletters c List.mem_cons_self, List.all_eq_true.mpr fun d hd => ?_⟩
      rw [isSchemeChar, hletters d (List.mem_cons_of_mem c hd)]
      rfl

/-- The characters of a host and a port can be printed, and none of them has a meaning in an
authority but a colon. -/
theorem hostPort_plain {c : Char} (hc : c ∈ a.hostPort) :
    isPrintableAscii c = true ∧ c ∉ userMarks := by
  have hmarks {d : Char} {others : List Char} (h : d ∉ others ++ userMarks) : d ∉ userMarks :=
    fun hd => h (List.mem_append_right _ hd)
  rcases List.mem_append.mp hc with hc | hc
  · obtain ⟨hprint, hplain, -⟩ := isHostChar_spec (a.host_plain c hc)
    exact ⟨hprint, @hmarks c [':', '%'] hplain⟩
  · cases hport : a.portNumber with
    | none =>
        rw [hport] at hc
        cases hc
    | some digits =>
        rw [hport] at hc
        rcases List.mem_cons.mp hc with rfl | hc
        · decide
        · obtain ⟨hprint, hplain, -⟩ := isAsciiDigit_spec ((a.port_digits _ hport).2 c hc)
          exact ⟨hprint, @hmarks c ['-', ':'] hplain⟩

/-- The characters of an authority can be printed, and none of them ends it or is a bracket. -/
theorem authority_plain {c : Char} (hc : c ∈ a.authority) :
    isPrintableAscii c = true ∧ endsAuthority c = false ∧ c ≠ '[' ∧ c ≠ ']' := by
  have hends : ∀ {d : Char}, d ∉ userMarks → endsAuthority d = false ∧ d ≠ '[' ∧ d ≠ ']' := by
    intro d hd
    simp only [userMarks, List.mem_cons, List.not_mem_nil, not_or, or_false] at hd
    obtain ⟨hslash, hquestion, hsign, -, hopen, hclose⟩ := hd
    exact ⟨by simp [endsAuthority, hslash, hquestion, hsign], hopen, hclose⟩
  rcases List.mem_append.mp hc with hc | hc
  · cases huser : a.user with
    | none =>
        rw [huser] at hc
        cases hc
    | some user =>
        rw [huser] at hc
        rcases List.mem_append.mp hc with hc | hc
        · obtain ⟨hprint, hplain⟩ := a.user_plain user huser c hc
          exact ⟨hprint, hends hplain⟩
        · cases List.mem_singleton.mp hc
          decide
  · obtain ⟨hprint, hplain⟩ := a.hostPort_plain hc
    exact ⟨hprint, hends hplain⟩

/-- Neither a host nor a port number has an at sign in it. -/
theorem at_not_mem_hostPort : '@' ∉ a.hostPort := fun h =>
  (a.hostPort_plain h).2 (by decide)

/-- A host has no colon in it. -/
theorem colon_not_mem_host : ':' ∉ a.host := fun h =>
  (isHostChar_spec (a.host_plain _ h)).2.1 (by decide)

/-- The host and the port stand behind the last at sign. -/
theorem afterLast_authority : afterLast '@' a.authority = a.hostPort := by
  unfold authority
  cases a.user with
  | none => exact afterLast_eq_self a.at_not_mem_hostPort
  | some user =>
      have hparts : user ++ ['@'] ++ a.hostPort = user ++ '@' :: a.hostPort := by simp
      show afterLast '@' (user ++ ['@'] ++ a.hostPort) = _
      rw [hparts, afterLast_append, afterLast_eq_self a.at_not_mem_hostPort]

/-- The host stands before the first colon of it and the port. -/
theorem cut_hostPort :
    a.hostPort.takeWhile (· ≠ ':') = a.host ∧
      a.hostPort.dropWhile (· ≠ ':') = (a.portNumber.map (':' :: ·)).getD [] := by
  have hpass : ∀ c ∈ a.host, decide (c ≠ ':') = true := fun c hc =>
    decide_eq_true fun heq => a.colon_not_mem_host (heq ▸ hc)
  unfold hostPort
  rw [List.takeWhile_append_of_pos hpass, List.dropWhile_append_of_pos hpass]
  cases a.portNumber with
  | none => exact ⟨List.append_nil _, rfl⟩
  | some digits => exact ⟨List.append_nil _, rfl⟩

/-! ## The host in the log -/

/-- The authority of an address is found in it as it is. -/
theorem authority_chars : Webhook.authority a.chars = a.authority := by
  have hkept : a.authority.filter isKept = a.authority := List.filter_eq_self.mpr fun c hc =>
    isKept_of_isPrintableAscii (a.authority_plain hc).1
  have hauth : IsAuthority a.authority := fun c hc => (a.authority_plain hc).2.1
  unfold Webhook.authority chars
  rw [cleaned_append a.isScheme, afterScheme_append a.isScheme, List.filter_cons_of_pos rfl,
    List.filter_cons_of_pos rfl]
  exact (takeWhile_authority hauth a.tail_starts).trans hkept

/-- The authority of an address is well-formed. -/
theorem isSound_authority : isSound a.authority = true := by
  have hopen : '[' ∉ a.authority := fun h => (a.authority_plain h).2.2.1 rfl
  have hclose : ']' ∉ a.authority := fun h => (a.authority_plain h).2.2.2 rfl
  have hbrackets : hasSoundBrackets a.authority = true := by
    simp [hasSoundBrackets, checkBrackets, hopen, hclose, Except.isOk, Except.toBool]
  have hlookalikes : a.authority.any isLookalike = false := List.any_eq_false.mpr fun c hc => by
    rw [not_isLookalike_of_ascii (isAscii_of_isPrintableAscii (a.authority_plain hc).1)]
    exact Bool.false_ne_true
  rw [isSound, hbrackets, hlookalikes]
  rfl

/-- The host in the authority of an address is that of the address. -/
theorem hostOf_authority : hostOf a.authority = a.host := by
  have hopen : '[' ∉ a.hostPort := fun h => (a.hostPort_plain h).2 (by decide)
  unfold hostOf
  rw [a.afterLast_authority]
  dsimp only
  rw [cutFirst_eq_none hopen]
  exact a.cut_hostPort.1

/-- The host of an address has no scope, and is all written in lower case. -/
theorem lowerHost_host : lowerHost a.host = lowerAscii a.host := by
  have hpercent : '%' ∉ a.host := fun h => (isHostChar_spec (a.host_plain _ h)).2.1 (by decide)
  have hpass : ∀ c ∈ a.host, decide (c ≠ '%') = true := fun c hc =>
    decide_eq_true fun heq => hpercent (heq ▸ hc)
  have hascii : ∀ c ∈ a.host, c.toNat < 0x80 := fun c hc => isAscii_of_isHostChar (a.host_plain c hc)
  unfold lowerHost
  rw [List.takeWhile_eq_self_iff.mpr hpass, List.dropWhile_eq_nil_iff.mpr hpass, List.append_nil,
    lowerChars_ascii hascii]

/-- The host of an address that is logged is its own one in lower case. -/
theorem loggedHost_text : loggedHost a.text = String.ofList (lowerAscii a.host) := by
  unfold loggedHost
  rw [text, String.toList_ofList, a.authority_chars]
  dsimp only
  rw [if_pos a.isSound_authority, a.hostOf_authority, a.lowerHost_host]

end Address

end Tocsin.Webhook
