import Mathlib
import Tocsin.Proofs.Text.Digits
import Tocsin.Proofs.Webhook.Address

/-!
# Addresses in normal form

Requests are made for URLs in normal form.  The normal form of an address has the host of the
address in lower case (`Address.normalForm_of_parse`): neither the user, the port nor the tail have
a say in it.  All that is written around the host is escaped, so that no character in it can be
taken for a mark of an authority, and the path stays behind a slash when its dot segments are taken
out.  So the text of the normal form is again the text of an address, with that host
(`Address.NormalForm.text_address`).
-/

set_option autoImplicit false

namespace Tocsin.Webhook

open Tocsin.Decimal Tocsin.Outcome Tocsin.Text

namespace Url

/-! ## Escapes -/

/-- The characters that escapes are written with. -/
def escapeMarks : List Char :=
  ['%', '0', '1', '2', '3', '4', '5', '6', '7', '8', '9', 'A', 'B', 'C', 'D', 'E', 'F']

/-- An escape is made of a percent sign and digits. -/
theorem mem_escapeByte {b : UInt8} {c : Char} (h : c ∈ escapeByte b) : c ∈ escapeMarks := by
  have hdigit : ∀ n < 16, (digitChar n).toUpper ∈ escapeMarks := by decide
  rcases List.mem_cons.mp h with rfl | h
  · decide
  · obtain ⟨d, hd, rfl⟩ := List.mem_map.mp h
    obtain ⟨n, hn, rfl⟩ := exists_of_mem_hexDigits hd
    exact hdigit n hn

/-- What is escaped consists of allowed characters and of escapes. -/
theorem mem_escape {allowed : Char → Bool} {cs : List Char} {c : Char}
    (h : c ∈ escape allowed cs) : allowed c = true ∨ c ∈ escapeMarks := by
  obtain ⟨d, -, hc⟩ := List.mem_flatMap.mp h
  split_ifs at hc with hallowed
  · exact .inl (List.mem_singleton.mp hc ▸ hallowed)
  · obtain ⟨b, -, hc⟩ := List.mem_flatMap.mp hc
    exact .inr (mem_escapeByte hc)

/-- A text without characters to be escaped stays as it is. -/
theorem escape_eq_self {allowed : Char → Bool} {cs : List Char}
    (h : ∀ c ∈ cs, allowed c = true) : escape allowed cs = cs := by
  induction cs with
  | nil => rfl
  | cons c cs ih =>
      have hrest := ih fun d hd => h d (List.mem_cons_of_mem c hd)
      unfold escape at hrest ⊢
      rw [List.flatMap_cons, hrest, if_pos (h c List.mem_cons_self)]
      rfl

/-- What is escaped can be printed, and has none of the characters that were to be escaped. -/
theorem plain_of_mem_escape {others cs : List Char} {c : Char}
    (h : c ∈ escape (isPlainExcept others) cs) (hmarks : ∀ d ∈ escapeMarks, d ∉ others) :
    isPrintableAscii c = true ∧ c ∉ others := by
  have hprint : ∀ d ∈ escapeMarks, isPrintableAscii d = true := List.all_eq_true.mp (by decide)
  rcases mem_escape h with h | h
  · simp only [isPlainExcept, Bool.and_eq_true, decide_eq_true_eq, Bool.not_eq_true',
      List.contains_eq_mem, decide_eq_false_iff_not] at h
    obtain ⟨⟨hlow, hhigh⟩, hothers⟩ := h
    refine ⟨?_, hothers⟩
    simp only [isPrintableAscii, Bool.and_eq_true, decide_eq_true_eq]
    exact ⟨hlow.le, hhigh⟩
  · exact ⟨hprint c h, hmarks c h⟩

/-- What is escaped for a user name has no character with a meaning in an authority. -/
theorem plain_of_mem_escape_inUserinfo {cs : List Char} {c : Char}
    (h : c ∈ escape inUserinfo cs) : isPrintableAscii c = true ∧ c ∉ userMarks := by
  obtain ⟨hprint, hothers⟩ := plain_of_mem_escape h (by simp [escapeMarks])
  refine ⟨hprint, fun hmark => hothers ?_⟩
  simp only [userMarks, List.mem_cons, List.not_mem_nil, or_false] at hmark
  rcases hmark with rfl | rfl | rfl | rfl | rfl | rfl <;> decide

/-- Every part of an escaped text that may be left out can be printed. -/
theorem plain_of_mem_map_escape {others : List Char} {part : Option (List Char)}
    (hmarks : ∀ d ∈ escapeMarks, d ∉ others) :
    ∀ cs ∈ part.map (escape (isPlainExcept others)), ∀ c ∈ cs, isPrintableAscii c = true := by
  intro cs hcs c hc
  obtain ⟨original, -, rfl⟩ := Option.mem_map.mp hcs
  exact (plain_of_mem_escape hc hmarks).1

/-! ## Hosts and ports -/

/-- What looks like an address of version 4 has no letters. -/
theorem lowerAscii_of_looksLikeIpv4 {host : List Char} (h : looksLikeIpv4 host = true) :
    lowerAscii host = host := by
  have hruns : ∀ run ∈ splitAt '.' host, ∀ c ∈ run, isAsciiDigit c = true := by
    simp only [looksLikeIpv4, Bool.and_eq_true, List.all_eq_true] at h
    exact fun run hrun => (h.2 run hrun).2
  have hlower : ∀ c ∈ host, c.toLower = id c := by
    intro c hc
    rcases mem_splitAt (c := '.') hc with rfl | ⟨run, hrun, hc⟩
    · rfl
    · exact (isAsciiDigit_spec (hruns run hrun c hc)).2.2
  rw [lowerAscii, List.map_congr_left hlower, List.map_id]

/-- The normal form of the host of an address is the host in lower case. -/
theorem eq_lowerAscii_of_normalHost {host normal : List Char} (hne : host ≠ [])
    (hplain : ∀ c ∈ host, isHostChar c = true) (h : normalHost host = .ok normal) :
    normal = lowerAscii host := by
  have hempty : ¬ host.isEmpty = true := by simpa using hne
  have hbracket : ¬ (host.head? = some '[' ∧ 1 < host.length ∧ host.getLast? = some ']') :=
    fun hopen => absurd (hplain _ (List.mem_of_mem_head? hopen.1)) (by decide)
  have hascii : ∀ c ∈ host, c.toNat < 0x80 := fun c hc => isAscii_of_isHostChar (hplain c hc)
  unfold normalHost at h
  rw [if_neg hempty] at h
  split_ifs at h with hv4 hvalid hall
  · cases h
    exact (lowerAscii_of_looksLikeIpv4 hv4).symm
  · have hallowed : ∀ c ∈ lowerAscii host, inHost c = true := by
      intro c hc
      obtain ⟨d, hd, rfl⟩ := List.mem_map.mp hc
      exact (isHostChar_spec (hplain d hd)).2.2.2
    cases h
    rw [lowerChars_ascii hascii, escape_eq_self hallowed]
  · have hasciis : (host.all fun c => decide (c.toNat < 0x80)) = true :=
      List.all_eq_true.mpr fun c hc => decide_eq_true (hascii c hc)
    exact (hall hasciis).elim

/-- A numeral without a minus denotes no negative number. -/
theorem nonneg_of_readAnyInteger? {cs : List Char} {n : Int} (hminus : '-' ∉ cs)
    (h : readAnyInteger? cs = some n) : 0 ≤ n := by
  have htrim : '-' ∉ trim isBlank cs := by
    intro hmem
    unfold trim trimRight at hmem
    have hdropped := List.dropWhile_subset _ (List.mem_reverse.mp hmem)
    exact hminus (List.dropWhile_subset _ (List.mem_reverse.mp hdropped))
  have hsign : (splitSign (trim isBlank cs)).1 = false := by
    unfold splitSign
    split
    · rfl
    · next rest hcs => exact (htrim (hcs ▸ List.mem_cons_self)).elim
    · rfl
  unfold readAnyInteger? at h
  simp only [hsign, Bool.false_eq_true, if_false] at h
  split at h
  · cases h
  · obtain ⟨value, hvalue, rfl⟩ := Option.map_eq_some_iff.mp h
    obtain ⟨m, -, hm⟩ := Option.bind_eq_some_iff.mp hvalue
    cases hm
    exact Int.natCast_nonneg m

/-- A port number without a minus is not negative. -/
theorem nonneg_of_normalPort {scheme digits : List Char} {n : Int} (hminus : '-' ∉ digits)
    (h : normalPort scheme digits = .ok (some n)) : 0 ≤ n := by
  unfold normalPort at h
  split at h
  · cases h
  · split at h
    · cases h
    · next m hm =>
        split at h
        · cases h
        · cases h
          exact nonneg_of_readAnyInteger? hminus hm

/-! ## Paths -/

/-- A path that is empty or starts with a slash. -/
def IsRooted (path : List Char) : Prop := ∀ c ∈ path.head?, c = '/'

/-- The empty path is rooted. -/
theorem isRooted_nil : IsRooted [] := by
  rintro c ⟨⟩

/-- The empty segment before the first slash stays when dot segments are taken out. -/
theorem head?_resolveDots {kept segments : List (List Char)} (h : kept.getLast? = some []) :
    (resolveDots kept segments).head? = some [] := by
  fun_induction resolveDots kept segments with
  | case1 kept => rw [List.head?_reverse, h]
  | case2 kept rest ih => exact ih h
  | case3 kept rest ih =>
      apply ih
      split_ifs with hroot
      · exact h
      · -- More than the root is kept, so something is kept in front of the last segment.
        match kept with
        | [] => cases h
        | [segment] =>
            cases h
            exact (hroot rfl).elim
        | _ :: segment :: kept => exact h
  | case4 kept segment rest _ _ ih =>
      apply ih
      cases kept with
      | nil => cases h
      | cons first kept => exact h

/-- A rooted path stays rooted without its dot segments. -/
theorem isRooted_withoutDots {path : List Char} (h : IsRooted path) :
    IsRooted (withoutDots path) := by
  unfold withoutDots
  dsimp only
  split_ifs
  · cases path with
    | nil => exact isRooted_nil
    | cons c path =>
        cases h c rfl
        have hsegments : splitAt '/' ('/' :: path) = [] :: splitAt '/' path := by
          rw [splitAt, if_pos rfl]
        have hfirst : (resolveDots [] ([] :: splitAt '/' path)).head? = some [] :=
          @head?_resolveDots [[]] (splitAt '/' path) rfl
        rw [hsegments]
        cases hresolved : resolveDots [] ([] :: splitAt '/' path) with
        | nil => exact isRooted_nil
        | cons first others =>
            rw [hresolved] at hfirst
            cases hfirst
            cases others with
            | nil => exact isRooted_nil
            | cons segment others =>
                rintro d ⟨⟩
                rfl
  · exact h

/-- A rooted path stays rooted with escapes. -/
theorem isRooted_escape {path : List Char} (h : IsRooted path) : IsRooted (escape inPath path) := by
  cases path with
  | nil => exact h
  | cons c path =>
      cases h c rfl
      rintro d ⟨⟩
      rfl

/-- A path that can stand behind an authority is empty or starts with a slash. -/
theorem isRooted_of_checkPath {hasScheme : Bool} {path : List Char}
    (h : checkPath hasScheme true path = .ok ()) : IsRooted path := by
  unfold checkPath at h
  rw [if_pos rfl] at h
  split_ifs at h with hpath
  intro c hc
  simp only [Bool.or_eq_true, List.isEmpty_iff, decide_eq_true_eq] at hpath
  rcases hpath with rfl | hpath
  · cases hc
  · rw [hpath] at hc
    cases hc
    rfl

end Url

namespace Address

variable (a : Address)

/-! ## Taking an address apart -/

/-- The scheme is cut off an address. -/
theorem cutScheme_chars :
    Url.cutScheme a.chars = (a.scheme, '/' :: '/' :: (a.authority ++ a.tail)) := by
  have hletters := fun c => a.isAsciiLetter_of_mem_scheme (c := c)
  have hcolon : ':' ∉ a.scheme := fun h => absurd (hletters _ h) (by decide)
  unfold Url.cutScheme chars
  rw [cutFirst_append hcolon]
  cases hscheme : a.scheme with
  | nil => exact (a.scheme_ne_nil hscheme).elim
  | cons c rest =>
      rw [hscheme] at hletters
      have hrest : (rest.all fun c => isAsciiLetter c || isAsciiDigit c ||
          ['+', '.', '-'].contains c) = true := List.all_eq_true.mpr fun d hd => by
        rw [hletters d (List.mem_cons_of_mem c hd)]
        rfl
      dsimp only
      rw [hletters c List.mem_cons_self, hrest]
      rfl

/-- The authority is cut off what stands behind the scheme. -/
theorem cutAuthority_behind :
    Url.cutAuthority ('/' :: '/' :: (a.authority ++ a.tail)) = (a.authority, a.tail) := by
  have hpass : ∀ c ∈ a.authority, (!endsAuthority c) = true := fun c hc => by
    rw [(a.authority_plain hc).2.1]
    rfl
  have htail : a.tail.takeWhile (!endsAuthority ·) = [] ∧
      a.tail.dropWhile (!endsAuthority ·) = a.tail := by
    have hstarts := a.tail_starts
    cases htail : a.tail with
    | nil => exact ⟨rfl, rfl⟩
    | cons c tail =>
        have hends : ¬ (!endsAuthority c) = true := by
          rw [hstarts c (htail ▸ rfl)]
          exact Bool.false_ne_true
        exact ⟨List.takeWhile_cons_of_neg hends, List.dropWhile_cons_of_neg hends⟩
  show ((a.authority ++ a.tail).takeWhile (!endsAuthority ·),
    (a.authority ++ a.tail).dropWhile (!endsAuthority ·)) = _
  rw [List.takeWhile_append_of_pos hpass, List.dropWhile_append_of_pos hpass, htail.1, htail.2,
    List.append_nil]

/-- The host is cut off the port number. -/
theorem cutHost_hostPort :
    Url.cutHost a.hostPort = (a.host, (a.portNumber.map (':' :: ·)).getD []) := by
  have hopen : '[' ∉ a.hostPort := fun h => (a.hostPort_plain h).2 (by decide)
  unfold Url.cutHost
  split
  · next _ _ rest _ hstart _ => exact (hopen (hstart ▸ List.mem_cons_self)).elim
  · rw [a.cut_hostPort.1, a.cut_hostPort.2]

/-- The authority of an address is split into its parts. -/
theorem splitAuthority_authority :
    Url.splitAuthority a.authority =
      ((beforeLast? '@' a.authority).getD [], a.host, a.portNumber.getD []) := by
  unfold Url.splitAuthority
  dsimp only
  rw [a.afterLast_authority, a.cutHost_hostPort]
  cases a.portNumber with
  | none => rfl
  | some digits => rfl

/-! ## The normal form -/

/-- A URL is the normal form of an address: it has the host of the address in lower case, its port
is no negative number, its path is rooted, and nothing in it but the marks between its parts has a
meaning. -/
structure NormalForm (u : Url) : Prop where
  scheme : u.scheme = lowerAscii a.scheme
  host : u.host = lowerAscii a.host
  userinfo_plain : ∀ c ∈ u.userinfo, isPrintableAscii c = true ∧ c ∉ userMarks
  port_nonneg : ∀ n ∈ u.portNumber, 0 ≤ n
  path_rooted : Url.IsRooted u.path
  path_plain : ∀ c ∈ u.path, isPrintableAscii c = true
  query_plain : ∀ query ∈ u.query, ∀ c ∈ query, isPrintableAscii c = true
  fragment_plain : ∀ fragment ∈ u.fragment, ∀ c ∈ fragment, isPrintableAscii c = true

/-- What an address is read as is its normal form. -/
theorem normalForm_of_parse {u : Url} (h : Url.parseChars a.chars = .ok u) : a.NormalForm u := by
  have hlower : (lowerAscii a.host).isEmpty = false := by
    simpa [lowerAscii] using a.host_ne_nil
  have hminus : '-' ∉ a.portNumber.getD [] := by
    intro hmem
    cases hport : a.portNumber with
    | none => simp [hport] at hmem
    | some digits =>
        rw [hport] at hmem
        exact (isAsciiDigit_spec ((a.port_digits _ hport).2 _ hmem)).2.1 (by decide)
  unfold Url.parseChars at h
  by_cases hlength : Url.maxLength < a.chars.length
  · rw [if_pos hlength] at h
    cases h
  · rw [if_neg hlength] at h
    simp only [a.cutScheme_chars, a.cutAuthority_behind, a.splitAuthority_authority] at h
    split at h
    · cases h
    · obtain ⟨host, hhost, h⟩ := bind_eq_ok.mp h
      obtain ⟨portNumber, hport, h⟩ := bind_eq_ok.mp h
      obtain ⟨_, hpath, h⟩ := bind_eq_ok.mp h
      cases Url.eq_lowerAscii_of_normalHost a.host_ne_nil a.host_plain hhost
      -- As there is a host, the path is checked and written as one that stands behind an authority.
      rw [hlower] at hpath
      simp only [Bool.not_false, Bool.or_true, Bool.true_or] at hpath
      have hrooted := Url.isRooted_of_checkPath hpath
      cases h
      constructor
      case scheme => rfl
      case host => rfl
      case userinfo_plain => exact fun c hc => Url.plain_of_mem_escape_inUserinfo hc
      case port_nonneg =>
        rintro n ⟨⟩
        exact Url.nonneg_of_normalPort hminus hport
      case path_rooted =>
        dsimp only
        rw [hlower]
        simp only [Bool.not_false, Bool.or_true, Bool.true_or, if_true]
        exact Url.isRooted_escape (Url.isRooted_withoutDots hrooted)
      case path_plain =>
        exact fun c hc => (Url.plain_of_mem_escape hc (by simp [Url.escapeMarks])).1
      case query_plain => exact Url.plain_of_mem_map_escape (by simp [Url.escapeMarks])
      case fragment_plain => exact Url.plain_of_mem_map_escape (by simp [Url.escapeMarks])

/-! ## The text of the normal form -/

/-- The digits of a port number. -/
theorem digits_of_nonneg {n : Int} (h : 0 ≤ n) :
    decimalText n ≠ [] ∧ ∀ c ∈ decimalText n, isAsciiDigit c = true := by
  obtain ⟨m, rfl⟩ := Int.eq_ofNat_of_zero_le h
  exact ⟨Nat.toDigits_ne_nil, fun c hc => Nat.isDigit_of_mem_toDigits (by decide) (by decide) hc⟩

/-- A part behind its mark, or none, may stand before what may stand behind an authority. -/
theorem isTail_marked_append {mark : Char} (hmark : endsAuthority mark = true)
    (part : Option (List Char)) {rest : List Char} (hrest : IsTail rest) :
    IsTail (Url.marked mark part ++ rest) := by
  cases part with
  | none => exact hrest
  | some part =>
      rintro c ⟨⟩
      exact hmark

/-- A part is printable behind its mark, if it is without. -/
theorem plain_of_mem_marked {mark c : Char} {part : Option (List Char)}
    (hmark : isPrintableAscii mark = true)
    (hpart : ∀ cs ∈ part, ∀ c ∈ cs, isPrintableAscii c = true) (hc : c ∈ Url.marked mark part) :
    isPrintableAscii c = true := by
  cases part with
  | none => cases hc
  | some part =>
      rcases List.mem_cons.mp hc with rfl | hc
      · exact hmark
      · exact hpart part rfl c hc

namespace NormalForm

variable {a : Address} {u : Url} (h : a.NormalForm u)

include h in
/-- The scheme of a normal form is one of the web. -/
theorem scheme_http : lowerAscii u.scheme = "http".toList ∨ lowerAscii u.scheme = "https".toList := by
  rw [h.scheme]
  rcases a.scheme_http with hhttp | hhttp
  · rw [hhttp]
    exact .inl rfl
  · rw [hhttp]
    exact .inr rfl

include h in
/-- The host of a normal form has the characters of a host. -/
theorem host_plain : ∀ c ∈ u.host, isHostChar c = true := by
  intro c hc
  rw [h.host] at hc
  obtain ⟨d, hd, rfl⟩ := List.mem_map.mp hc
  exact (isHostChar_spec (a.host_plain d hd)).2.2.1

include h in
/-- No normal form is without a host. -/
theorem host_ne_nil : u.host ≠ [] := by
  simpa [h.host, lowerAscii] using a.host_ne_nil

include h in
/-- What stands behind the authority of a normal form starts as a tail does. -/
theorem tail_starts : IsTail (u.path ++ (Url.marked '?' u.query ++ Url.marked '#' u.fragment)) := by
  have hfragment : IsTail (Url.marked '#' u.fragment ++ []) :=
    isTail_marked_append rfl u.fragment fun c hc => by cases hc
  rw [List.append_nil] at hfragment
  have hquery : IsTail (Url.marked '?' u.query ++ Url.marked '#' u.fragment) :=
    isTail_marked_append rfl u.query hfragment
  cases hpath : u.path with
  | nil => exact hquery
  | cons c path =>
      cases h.path_rooted c (hpath ▸ rfl)
      rintro d ⟨⟩
      rfl

include h in
/-- What stands behind the authority of a normal form is printable. -/
theorem tail_plain : ∀ c ∈ u.path ++ (Url.marked '?' u.query ++ Url.marked '#' u.fragment),
    isPrintableAscii c = true := by
  intro c hc
  simp only [List.mem_append] at hc
  rcases hc with hc | hc | hc
  · exact h.path_plain c hc
  · exact plain_of_mem_marked (by decide) h.query_plain hc
  · exact plain_of_mem_marked (by decide) h.fragment_plain hc

/-- The normal form of an address as an address. -/
def address : Address where
  scheme := u.scheme
  user := if u.userinfo.isEmpty then none else some u.userinfo
  host := u.host
  portNumber := u.portNumber.map decimalText
  tail := u.path ++ (Url.marked '?' u.query ++ Url.marked '#' u.fragment)
  scheme_http := h.scheme_http
  user_plain := by
    intro user huser
    split_ifs at huser
    · cases huser
    · cases huser
      exact h.userinfo_plain
  host_ne_nil := h.host_ne_nil
  host_plain := h.host_plain
  port_digits := by
    intro digits hdigits
    obtain ⟨n, hn, rfl⟩ := Option.mem_map.mp hdigits
    exact digits_of_nonneg (h.port_nonneg n hn)
  tail_starts := h.tail_starts
  tail_plain := h.tail_plain

/-- The text of the normal form is that of an address. -/
theorem text_address : h.address.text = u.text := by
  have hscheme : u.scheme.isEmpty = false := by
    simpa [h.scheme, lowerAscii] using a.scheme_ne_nil
  have hcolon : u.host.contains ':' = false := by
    rw [List.contains_eq_mem, decide_eq_false_iff_not]
    exact fun hmem => absurd (h.host_plain _ hmem) (by decide)
  have hauthority : u.authorityText true = h.address.authority := by
    unfold Url.authorityText Address.authority Address.hostPort address
    rw [hcolon]
    dsimp only
    cases u.userinfo with
    | nil => cases u.portNumber <;> simp
    | cons c user => cases u.portNumber <;> simp
  have hempty : h.address.authority.isEmpty = false := by
    simp [Address.authority, Address.hostPort, address, h.host_ne_nil]
  unfold Address.text Url.text Address.chars Url.chars
  rw [hauthority]
  dsimp only
  rw [hscheme, hempty]
  simp [address]

end NormalForm

end Address

end Tocsin.Webhook
